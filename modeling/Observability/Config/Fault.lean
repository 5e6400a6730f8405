import Observability.Shape
import Observability.Toml.Basic

/-!
# Faults of shape

A TOML document may be well formed and yet not fit the configuration.  A `Fault` says what does not fit
and where; `Fault.report` shows the line with the place marked under it.
-/

namespace Observability.Config

/-- What a field wants. -/
inductive Wanted where
  | text
  | boolean
  | u32
  | u64
  | sequence
  /-- the fields of a section, by its name in messages -/
  | fields (name : String)
  deriving DecidableEq, Repr

def Wanted.name : Wanted → String
  | .text => "a string"
  | .boolean => "a boolean"
  | .u32 => "u32"
  | .u64 => "u64"
  | .sequence => "a sequence"
  | .fields name => s!"struct {name}"

/-- Why a value does not fit. -/
inductive Misfit where
  | invalidType (found : Shape) (wanted : Wanted)
  | outOfRange (found : Int) (wanted : Wanted)
  | unknownName (name : String) (known : List String)
  /-- a choice that is neither a string nor a table -/
  | noChoice
  /-- a choice written as an empty table -/
  | emptyChoice
  /-- a choice written as a table of several keys -/
  | severalChoices
  /-- a chosen name with a table or an array that is not empty -/
  | choiceTable
  /-- a chosen name with an array of tables that is not empty -/
  | choiceTables
  /-- a chosen name with a scalar, by the name of its type -/
  | choiceScalar (type : String)
  deriving DecidableEq, Repr

/-- Names as a message offers them. -/
def knownNames (known : List String) : String :=
  let ticked := known.map fun name => s!"`{name}`"
  match ticked with
  | [a, b] => s!"{a} or {b}"
  | _ => "one of " ++ ", ".intercalate ticked

def Misfit.message : Misfit → String
  | .invalidType found wanted =>
    s!"invalid type: {found.text .display}, expected {wanted.name}"
  | .outOfRange found wanted => s!"invalid value: integer `{found}`, expected {wanted.name}"
  | .unknownName name known => s!"unknown variant `{name}`, expected {knownNames known}"
  | .noChoice => "wanted string or table"
  | .emptyChoice => "wanted exactly 1 element, found 0 elements"
  | .severalChoices => "wanted exactly 1 element, more than 1 element"
  | .choiceTable => "expected empty table"
  | .choiceTables => "expected empty array"
  | .choiceScalar type => s!"expected table, found {type}"

/-- A misfit and its place, if that is known yet. -/
structure Fault where
  span : Option Toml.Span
  misfit : Misfit
  deriving DecidableEq, Repr

/-- The fault with the given place, unless it has one. -/
def Fault.placed (span : Option Toml.Span) (fault : Fault) : Fault :=
  { fault with span := fault.span <|> span }

/-! ## The marked line -/

/-- A place in a text: its line and column, counted from one, and the line itself. -/
structure Place where
  line : Nat
  column : Nat
  content : List Char
  deriving Repr

/-- The place behind the first `bytes` bytes of `cs`, reached with `line` lines and the characters
`before` (in reverse) of the current one behind. -/
def Place.after (bytes : Nat) (line : Nat) (before : List Char) : List Char → Place
  | [] => ⟨line, before.length + 1, before.reverse⟩
  | c :: rest =>
    if bytes = 0 then
      ⟨line, before.length + 1, before.reverse ++ (c :: rest).takeWhile (· ≠ '\n')⟩
    else if c = '\n' then Place.after (bytes - 1) (line + 1) [] rest
    else Place.after (bytes - c.utf8Size) line (c :: before) rest

/-- How many marks stand under a stretch of so many bytes: at least one, and none beyond the line. -/
def Place.marks (place : Place) (length : Nat) : Nat :=
  max 1 (min length (Toml.byteLength place.content - (place.column - 1)))

/-- The message of a fault in a text: line and column, the line itself, marks under it, the reason. -/
def Fault.report (text : List Char) (fault : Fault) : String :=
  match fault.span with
  | none => fault.misfit.message ++ "\n"
  | some span =>
    let place := Place.after (Toml.byteLength text - span.before) 1 [] text
    let number := toString place.line
    let gutter := String.ofList (List.replicate (number.length + 1) ' ')
    let indent := String.ofList (List.replicate place.column ' ')
    let marks := String.ofList (List.replicate (place.marks (span.before - span.behind)) '^')
    s!"TOML parse error at line {number}, column {place.column}\n" ++
    s!"{gutter}|\n" ++
    s!"{number} | {String.ofList place.content}\n" ++
    s!"{gutter}|{indent}{marks}\n" ++
    s!"{fault.misfit.message}\n"

end Observability.Config
