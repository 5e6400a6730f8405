import Observability.Decimal.Binary64

/-!
# TOML trees

What a TOML document stands for: tables of keys and nodes, in the order in which the keys were first
inserted, with the place of every key and value in the text.

Places are counted in bytes from the *end* of the document, because a reader holds what is left of the
text and so knows that number without counting along.
-/

namespace Observability.Toml

/-- The length of a text in bytes. -/
def byteLength (cs : List Char) : Nat := cs.foldl (fun n c => n + c.utf8Size) 0

/-- A stretch of the text: how many bytes are left at its start and at its end. -/
structure Span where
  before : Nat
  behind : Nat
  deriving DecidableEq, Repr

/-- The stretch between two states of a reader. -/
def Span.between (start stop : List Char) : Span := ⟨byteLength start, byteLength stop⟩

/-- The stretch from the start of one to the end of the other. -/
def Span.through (first last : Span) : Span := ⟨first.before, last.behind⟩

/-- A key and where it stands. -/
structure Key where
  name : String
  span : Span
  deriving DecidableEq, Repr

/-- A value without parts.  Of a date or time only its form counts. -/
inductive Scalar where
  | string (value : String)
  | integer (value : Int)
  | float (value : Binary64)
  | boolean (value : Bool)
  | datetime
  deriving DecidableEq, Repr

/-- The name of the type of a scalar. -/
def Scalar.typeName : Scalar → String
  | .string _ => "string"
  | .integer _ => "integer"
  | .float _ => "float"
  | .boolean _ => "boolean"
  | .datetime => "datetime"

/-- How a table came about, which decides how it may be extended. -/
inductive Origin where
  /-- by a header of its own -/
  | header
  /-- by a longer header that passes through it -/
  | implied
  /-- by a dotted key -/
  | dotted
  /-- by braces -/
  | inline
  deriving DecidableEq, Repr

/-- A value of a document.  A table that no text of its own stands for has no place. -/
inductive Node where
  | scalar (span : Span) (value : Scalar)
  | array (span : Span) (items : List Node)
  /-- the tables of headers in double brackets -/
  | tables (span : Span) (items : List Node)
  | table (span : Option Span) (origin : Origin) (entries : List (Key × Node))
  deriving Repr

abbrev Entries := List (Key × Node)

/-- Where the node stands. -/
def Node.span? : Node → Option Span
  | .scalar span _ => some span
  | .array span _ => some span
  | .tables span _ => some span
  | .table span _ _ => span

end Observability.Toml
