import Observability.Context
import Observability.Http.Uri
import Observability.Span.Status

/-!
# Requests and responses

Header values are bytes: any from the blank on except 127, and the tab.  A text is a header value if its
UTF-8 bytes are; a value is readable as text if it holds visible ASCII, blanks and tabs only.
-/

namespace Observability

/-- Whether a header value may hold the byte. -/
def isHeaderByte (b : UInt8) : Bool := b = 9 || (32 ≤ b && b ≠ 127)

/-- The value of a header. -/
structure HeaderValue where
  bytes : List UInt8
  valid : bytes.all isHeaderByte = true
  deriving DecidableEq, Repr

namespace HeaderValue

def ofBytes? (bytes : List UInt8) : Option HeaderValue :=
  if h : bytes.all isHeaderByte = true then some ⟨bytes, h⟩ else none

/-- The value with the bytes of the text, if all of them may stand in one. -/
def ofText? (text : String) : Option HeaderValue := ofBytes? text.toUTF8.toList

/-- Whether the byte is read as text. -/
def isTextByte (b : UInt8) : Bool := b = 9 || (32 ≤ b && b ≤ 126)

/-- The text of the value, if it is readable as one. -/
def toText? (value : HeaderValue) : Option String :=
  if value.bytes.all isTextByte then
    some (String.ofList (value.bytes.map fun b => Char.ofNat b.toNat))
  else none

end HeaderValue

/-- Headers in the order they were appended, names in lower case.  A name may have several values. -/
abbrev Headers := List (String × HeaderValue)

namespace Headers

/-- The first value of the name. -/
def first? (name : String) (headers : Headers) : Option HeaderValue :=
  (headers.find? fun header => header.1 = name).map (·.2)

/-- All values of the name, in order. -/
def all (name : String) (headers : Headers) : List HeaderValue :=
  (headers.filter fun header => header.1 = name).map (·.2)

/-- The headers with one more, behind all others.  Names are kept in lower case. -/
def append (name : String) (value : HeaderValue) (headers : Headers) : Headers :=
  headers ++ [(name.toLower, value)]

/-- The headers with `value` in place of all values of the name. -/
def set (name : String) (value : HeaderValue) (headers : Headers) : Headers :=
  (headers.filter fun header => header.1 ≠ name) ++ [(name, value)]

/-- The name has the value that was set, and no other. -/
@[simp] theorem all_set_self (name : String) (value : HeaderValue) (headers : Headers) :
    (headers.set name value).all name = [value] := by
  simp [all, set, List.filter_append, List.filter_filter]

/-- The first value of a name is the first of all its values. -/
theorem first?_eq_head?_all (name : String) (headers : Headers) :
    headers.first? name = (headers.all name).head? := by
  rw [first?, all, List.head?_map, List.head?_filter]

/-- The headers of other names stay as they were, in their order. -/
theorem filter_ne_set (name : String) (value : HeaderValue) (headers : Headers) :
    (headers.set name value).filter (fun header => header.1 ≠ name) =
      headers.filter fun header => header.1 ≠ name := by
  simp [set, List.filter_append, List.filter_filter]

/-- A value set in place of one that was set before. -/
theorem set_set (name : String) (old new : HeaderValue) (headers : Headers) :
    (headers.set name old).set name new = headers.set name new := by
  rw [set, filter_ne_set, set]

end Headers

/-- A request to another service, with the context of the operation it belongs to. -/
structure Request where
  method : String
  uri : Uri
  headers : Headers
  context : Option Context

/-- The answer to a request. -/
structure Response where
  status : HttpStatus
  headers : Headers
  deriving DecidableEq, Repr

end Observability
