import Observability.Config.Basic
import Observability.Config.Fault

/-!
# A configuration from a TOML tree

A section is a table of its fields, or an array of them in their order.  Keys that name no field are
ignored, and fields that are missing keep their defaults.  The first value that does not fit, in the
order of the document, decides the fault.

`Field` ties the name of a field to the reader that sets it; everything else works on lists of fields.
-/

namespace Observability.Config

open Toml (Node Scalar Key Entries)

/-! ## Scalars -/

/-- How a message names the value. -/
def shapeOf : Node → Shape
  | .scalar _ (.string s) => .string s
  | .scalar _ (.integer n) => .integer n
  | .scalar _ (.float x) => .double x
  | .scalar _ (.boolean b) => .boolean b
  | .scalar _ .datetime => .map
  | .array .. => .sequence
  | .tables .. => .sequence
  | .table .. => .map

/-- The value does not have the type that is wanted. -/
def mismatch {α : Type} (node : Node) (wanted : Wanted) : Except Fault α :=
  .error ⟨node.span?, .invalidType (shapeOf node) wanted⟩

def decodeText : Node → Except Fault String
  | .scalar _ (.string s) => .ok s
  | node => mismatch node .text

def decodeBoolean : Node → Except Fault Bool
  | .scalar _ (.boolean b) => .ok b
  | node => mismatch node .boolean

def decodeU32 : Node → Except Fault UInt32
  | .scalar span (.integer n) =>
    if 0 ≤ n ∧ n < 0x100000000 then .ok (UInt32.ofNat n.toNat)
    else .error ⟨some span, .outOfRange n .u32⟩
  | node => mismatch node .u32

def decodeU64 : Node → Except Fault UInt64
  | .scalar span (.integer n) =>
    if 0 ≤ n then .ok (UInt64.ofNat n.toNat) else .error ⟨some span, .outOfRange n .u64⟩
  | node => mismatch node .u64

/-! ## Choices -/

/-- The chosen value of the given name. -/
def choose {α : Type} (known : List α) (nameOf : α → String) (span : Option Toml.Span)
    (name : String) : Except Fault α :=
  match known.find? fun x => nameOf x = name with
  | some x => .ok x
  | none => .error ⟨span, .unknownName name (known.map nameOf)⟩

/-- What stands behind a chosen name has to be empty. -/
def checkChosen : Node → Except Fault Unit
  | .array _ [] => .ok ()
  | .tables _ [] => .ok ()
  | .table _ _ [] => .ok ()
  | .tables span _ => .error ⟨some span, .choiceTables⟩
  | .array span _ => .error ⟨some span, .choiceTable⟩
  | .table span _ _ => .error ⟨span, .choiceTable⟩
  | .scalar span value => .error ⟨some span, .choiceScalar value.typeName⟩

/-- A choice is a string, or a table whose only key is the name. -/
def decodeChoice {α : Type} (known : List α) (nameOf : α → String) (node : Node) :
    Except Fault α :=
  let choice : Except Fault α :=
    match node with
    | .scalar _ (.string name) => choose known nameOf node.span? name
    | .table _ _ [] => .error ⟨node.span?, .emptyChoice⟩
    | .table _ _ [(key, value)] => do
      let x ← choose known nameOf (some key.span) key.name
      checkChosen value
      return x
    | .table .. => .error ⟨node.span?, .severalChoices⟩
    | _ => .error ⟨node.span?, .noChoice⟩
  choice.mapError (Fault.placed node.span?)

def decodeSinks : Node → Except Fault (List SinkKind)
  | .array _ items | .tables _ items =>
    items.mapM (decodeChoice [.tracing, .jsonStdout, .jsonStderr] SinkKind.name)
  | node => mismatch node .sequence

/-! ## Sections -/

/-- A field of a section: its name and the reader that sets it. -/
structure Field (σ : Type) where
  name : String
  set : Node → σ → Except Fault σ

/-- The field that `decode` reads and `put` sets. -/
def Field.of {σ α : Type} (name : String) (decode : Node → Except Fault α) (put : α → σ → σ) :
    Field σ :=
  ⟨name, fun node value => (decode node).map fun x => put x value⟩

/-- Sets the field an entry names, if it names one.  A fault in a value without a place of its own is
placed at the key. -/
def decodeEntry {σ : Type} (fields : List (Field σ)) (value : σ) (entry : Key × Node) :
    Except Fault σ :=
  match fields.find? fun field => field.name = entry.1.name with
  | none => .ok value
  | some field =>
    (field.set entry.2 value).mapError
      fun fault => (fault.placed entry.2.span?).placed (some entry.1.span)

/-- Sets the fields that the entries name, in the order of the entries. -/
def decodeEntries {σ : Type} (fields : List (Field σ)) (value : σ) (entries : Entries) :
    Except Fault σ :=
  entries.foldlM (decodeEntry fields) value

/-- Sets the fields in their order, as far as there are items. -/
def decodeItems {σ : Type} (fields : List (Field σ)) (value : σ) (items : List Node) :
    Except Fault σ :=
  (fields.zip items).foldlM (fun value pair =>
    (pair.1.set pair.2 value).mapError (Fault.placed pair.2.span?)) value

/-- A section, on top of its defaults.  A date or time stands for an empty table. -/
def decodeSection {σ : Type} (fields : List (Field σ)) (name : String) (defaults : σ) :
    Node → Except Fault σ
  | .table _ _ entries => decodeEntries fields defaults entries
  | .array _ items => decodeItems fields defaults items
  | .tables _ items => decodeItems fields defaults items
  | .scalar _ .datetime => .ok defaults
  | node => mismatch node (.fields name)

/-! ## The configuration -/

def loggingFields : List (Field Logging) :=
  [ .of "filter" decodeText fun x s => { s with filter := x },
    .of "format" (decodeChoice [.pretty, .json] LogFormat.name) fun x s => { s with format := x },
    .of "verbosity" decodeU32 fun x s => { s with verbosity := x },
    .of "sinks" decodeSinks fun x s => { s with sinks := x } ]

def tracingFields : List (Field Tracing) :=
  [ .of "enabled" decodeBoolean fun x s => { s with enabled := x },
    .of "service_name" decodeText fun x s => { s with serviceName := x },
    .of "tracer_name" decodeText fun x s => { s with tracerName := x },
    .of "sampler" (decodeChoice [.alwaysOn, .alwaysOff] Sampler.name)
      fun x s => { s with sampler := x },
    .of "shutdown_timeout_secs" decodeU64 fun x s => { s with shutdownTimeoutSecs := x } ]

def metricsFields : List (Field Metrics) :=
  [ .of "enabled" decodeBoolean fun x s => { s with enabled := x },
    .of "address" decodeText fun x s => { s with address := x } ]

def sections : List (Field Config) :=
  [ .of "logging" (decodeSection loggingFields "LoggingConfig" {})
      fun x s => { s with logging := x },
    .of "tracing" (decodeSection tracingFields "TracingConfig" {})
      fun x s => { s with tracing := x },
    .of "metrics" (decodeSection metricsFields "MetricsConfig" {})
      fun x s => { s with metrics := x } ]

/-- The configuration a tree describes. -/
def decode (root : Entries) : Except Fault Config := decodeEntries sections {} root

end Observability.Config
