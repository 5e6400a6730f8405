import Observability.Toml.Value

/-!
# TOML documents

A document is read in two steps.  `readStatements` gives its lines: entries and headers.
`Document.ofStatements` gathers the entries under their headers, and `Document.root?` grows the tree
from that, which fails where a key is set twice or a table is opened twice.  `parse?` is both.
-/

namespace Observability.Toml

/-- A header: its place, whether it has double brackets, and its keys. -/
structure Header where
  span : Span
  item : Bool
  path : List Key
  key : Key
  deriving Repr

/-- A line that stands for something. -/
inductive Statement where
  | header (header : Header)
  | entry (entry : Entry)
  deriving Repr

/-- A header and the entries up to the next one. -/
structure Section where
  header : Header
  entries : List Entry
  deriving Repr

/-- The entries in front of the first header, and the sections. -/
structure Document where
  preamble : List Entry
  sections : List Section
  deriving Repr

/-! ## Lines -/

/-- Reads a header in single or double brackets. -/
def readHeader (cs : List Char) : Option (Header × List Char) :=
  match cs with
  | '[' :: '[' :: rest => do
    let ((path, key), rest) ← readPath rest
    match rest with
    | ']' :: ']' :: rest => return (⟨.between cs rest, true, path, key⟩, rest)
    | _ => none
  | '[' :: rest => do
    let ((path, key), rest) ← readPath rest
    match rest with
    | ']' :: rest => return (⟨.between cs rest, false, path, key⟩, rest)
    | _ => none
  | _ => none

/-- Reads all lines. -/
def readStatements : Nat → List Char → Option (List Statement)
  | 0, _ => none
  | fuel + 1, cs =>
    match skipWs cs with
    | [] => some []
    | '#' :: rest => lineEnd? ('#' :: rest) >>= readStatements fuel
    | '\n' :: rest => readStatements fuel rest
    | '\r' :: rest => newline? ('\r' :: rest) >>= readStatements fuel
    | '[' :: rest => do
      let (header, rest) ← readHeader ('[' :: rest)
      let rest ← lineEnd? rest
      let statements ← readStatements fuel rest
      return .header header :: statements
    | start => do
      let (entry, rest) ← readEntry (readValue maxNesting) start
      let rest ← lineEnd? rest
      let statements ← readStatements fuel rest
      return .entry entry :: statements

/-! ## Sections -/

/-- The entries gathered under their headers. -/
def Document.ofStatements : List Statement → Document
  | [] => ⟨[], []⟩
  | .entry entry :: rest =>
    let document := ofStatements rest
    ⟨entry :: document.preamble, document.sections⟩
  | .header header :: rest =>
    let document := ofStatements rest
    ⟨[], ⟨header, document.preamble⟩ :: document.sections⟩

/-- The place of a section: from its header to its last value. -/
def Section.span (part : Section) : Span :=
  match (part.entries.getLast?).bind fun entry => entry.value.span? with
  | some last => part.header.span.through last
  | none => part.header.span

/-- Adds a section to the table its header names, the last key left out.  A header in single brackets
opens a table that is new or only implied so far, and moves it to the end; one in double brackets adds a
table to an array that only such headers made. -/
def Section.addTo (part : Section) (parent : Entries) : Option Entries :=
  let key := part.header.key
  let table (inner : Entries) : Option Node :=
    (addEntries .header inner part.entries).map (.table (some part.span) .header)
  if part.header.item then
    match Entries.find? key.name parent with
    | none => do
      let node ← table []
      return parent ++ [(key, .tables part.span [node])]
    | some (.tables span items) => do
      let node ← table []
      return Entries.replace key.name (.tables (span.through part.span) (items ++ [node])) parent
    | some _ => none
  else
    match Entries.find? key.name parent with
    | none => do
      let node ← table []
      return parent ++ [(key, node)]
    | some (.table _ .implied inner) => do
      let node ← table inner
      return Entries.erase key.name parent ++ [(key, node)]
    | some _ => none

/-- Adds a section to the root of the tree. -/
def addSection (root : Entries) (part : Section) : Option Entries :=
  descend false (fun _ parent => part.addTo parent) part.header.path .header root

/-- The tree a document stands for. -/
def Document.root? (document : Document) : Option Entries := do
  let root ← addEntries .header [] document.preamble
  document.sections.foldlM addSection root

/-- The tree a text stands for, if it is a TOML document.  A byte order mark may stand in front. -/
def parse? (text : List Char) : Option Entries := do
  let cs := match text with
    | '\uFEFF' :: rest => rest
    | cs => cs
  let statements ← readStatements (cs.length + 1) cs
  (Document.ofStatements statements).root?

end Observability.Toml
