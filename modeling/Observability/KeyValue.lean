import Observability.Json.Basic

/-!
# Key/value pairs

The structured part of a log line: pairs in the order they were attached, duplicates allowed.  Written,
they become one object in which the last pair of a key counts.
-/

namespace Observability

/-- One structured pair attached to a log line. -/
structure KeyValue where
  key : String
  value : Json
  deriving Repr, Inhabited

namespace KeyValue

/-- The members of the object that lists of pairs stand for, one list after the other. -/
def merge (lists : List (List KeyValue)) : List (String × Json) :=
  Json.membersOf (lists.flatten.map fun kv => (kv.key, kv.value))

def text (key value : String) : KeyValue := ⟨key, .string value⟩

def nat (key : String) (value : UInt64) : KeyValue := ⟨key, .int (.ofUInt64 value)⟩

end KeyValue

end Observability
