import Observability.Json.Basic
import Observability.Shape

/-!
# Span kinds

The role of a span in a trace, its name, and how a kind is read from JSON: as its name, or as an object
whose only member has that name and the value `null`.
-/

namespace Observability

/-- The role of a span in a trace. -/
inductive SpanKind where
  | internal
  | server
  | client
  | producer
  | consumer
  deriving DecidableEq, Repr, Inhabited

namespace SpanKind

def all : List SpanKind := [.internal, .server, .client, .producer, .consumer]

def name : SpanKind → String
  | .internal => "internal"
  | .server => "server"
  | .client => "client"
  | .producer => "producer"
  | .consumer => "consumer"

def ofName? (name : String) : Option SpanKind := all.find? fun kind => kind.name = name

/-- Why a JSON value is no span kind. -/
inductive DecodeError where
  | unknownName (name : String)
  /-- neither a string nor an object -/
  | notNamed (found : Shape)
  /-- an object with no member or with several -/
  | notSingle
  /-- the only member has a value -/
  | notEmpty (found : Shape)
  deriving DecidableEq, Repr

def DecodeError.message : DecodeError → String
  | .unknownName name =>
    let names := ", ".intercalate (all.map fun kind => s!"`{kind.name}`")
    s!"unknown variant `{name}`, expected one of {names}"
  | .notNamed found => s!"invalid type: {found.text .json}, expected string or map"
  | .notSingle => "invalid value: map, expected map with a single key"
  | .notEmpty found => s!"invalid type: {found.text .json}, expected unit"

end SpanKind

/-- How a message names a JSON value. -/
def Json.shape : Json → Shape
  | .null => .null
  | .bool b => .boolean b
  | .int n => .integer n.val
  | .double x => .double x
  | .string s => .string s
  | .array _ => .sequence
  | .object _ => .map

namespace SpanKind

/-- The kind called `name`. -/
def decodeName (name : String) : Except DecodeError SpanKind :=
  match ofName? name with
  | some kind => .ok kind
  | none => .error (.unknownName name)

/-- Reads a kind from a JSON value. -/
def decode : Json → Except DecodeError SpanKind
  | .string name => decodeName name
  | .object [(name, value)] => do
    let kind ← decodeName name
    match value with
    | .null => return kind
    | other => .error (.notEmpty other.shape)
  | .object _ => .error .notSingle
  | other => .error (.notNamed other.shape)

theorem ofName?_name (kind : SpanKind) : ofName? kind.name = some kind := by
  cases kind <;> decide

end SpanKind

end Observability
