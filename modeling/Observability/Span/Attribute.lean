import Observability.Json.Basic

/-!
# Span attributes

An attribute is a key with a value of one of four types.  A list of attributes keeps each key once:
`Attribute.put` replaces a value in place and appends a new key.
-/

namespace Observability

/-- The value of an attribute. -/
inductive AttributeValue where
  | string (value : String)
  | int (value : Int64)
  | double (value : Binary64)
  | bool (value : Bool)
  deriving DecidableEq, Repr, Inhabited

/-- A key and value recorded on a span. -/
structure Attribute where
  key : String
  value : AttributeValue
  deriving DecidableEq, Repr, Inhabited

/-- The attribute under which a span carries its correlation id, and the request header of that name. -/
def correlationKey : String := "x-correlation-id"

/-- The attribute under which a span carries the status it ended with. -/
def statusCodeKey : String := "http.status_code"

/-- An attribute's value is written as the JSON value of its type. -/
def AttributeValue.toJson : AttributeValue → Json
  | .string s => .string s
  | .int n => .int (.ofInt64 n)
  | .double x => .double x
  | .bool b => .bool b

namespace Attribute

/-- The list with the new key and value: in place if the key is there, else at the end. -/
def put (new : Attribute) : List Attribute → List Attribute
  | [] => [new]
  | first :: rest =>
    if first.key = new.key then { first with value := new.value } :: rest
    else first :: put new rest

/-- The attributes of `news` put into the list one after the other. -/
def putAll (news list : List Attribute) : List Attribute :=
  news.foldl (fun list new => put new list) list

/-- The value stored under `key`. -/
def find? (key : String) (list : List Attribute) : Option AttributeValue :=
  (list.find? fun a => a.key = key).map (·.value)

@[simp] theorem find?_put_self (new : Attribute) (list : List Attribute) :
    find? new.key (put new list) = some new.value := by
  induction list with
  | nil => simp [put, find?]
  | cons first rest ih =>
    simp only [put]
    split
    · next same => simp [find?, same]
    · next differ => simpa [find?, differ] using ih

theorem find?_put_of_ne {new : Attribute} {key : String} (h : key ≠ new.key)
    (list : List Attribute) : find? key (put new list) = find? key list := by
  induction list with
  | nil => simp [put, find?, h.symm]
  | cons first rest ih =>
    simp only [put]
    split
    · next same => simp [find?, same, h.symm]
    · simp only [find?, List.find?_cons]
      split
      · rfl
      · exact ih

/-- An attribute is written as an object of its key and its value, in that order. -/
def toJson (a : Attribute) : Json :=
  .object [("key", .string a.key), ("value", a.value.toJson)]

/-- A list of attributes is written as an array. -/
def listJson (list : List Attribute) : Json := .array (list.map toJson)

end Attribute

end Observability
