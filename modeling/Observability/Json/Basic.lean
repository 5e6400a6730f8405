import Observability.Decimal.Binary64

/-!
# JSON values

A number is either an integer in the range `-2^63 … 2^64 - 1`, which is kept exactly, or a double.  The
members of an object are in ascending order of their keys (by code point) and no key occurs twice:
`Json.insert` keeps that, and `Json.Canonical` says it of a whole value.
-/

namespace Observability

/-- The integers that JSON text keeps exactly: those of sixty-four bits, signed or unsigned. -/
structure Json.Integer where
  val : Int
  lower : -0x8000000000000000 ≤ val := by omega
  upper : val < 0x10000000000000000 := by omega
  deriving DecidableEq, Repr

namespace Json.Integer

/-- The integer `n`, if it is in range. -/
def ofInt? (n : Int) : Option Json.Integer :=
  if h : -0x8000000000000000 ≤ n ∧ n < 0x10000000000000000 then some ⟨n, h.1, h.2⟩ else none

def ofUInt64 (n : UInt64) : Json.Integer :=
  ⟨n.toNat, by omega, by have := n.toNat_lt; omega⟩

def ofUInt32 (n : UInt32) : Json.Integer := ofUInt64 n.toUInt64

def ofInt64 (n : Int64) : Json.Integer :=
  ⟨n.toInt, n.le_toInt, by have := n.toInt_lt; omega⟩

end Json.Integer

/-- A JSON value. -/
inductive Json where
  | null
  | bool (value : Bool)
  | int (value : Json.Integer)
  | double (value : Binary64)
  | string (value : String)
  | array (items : List Json)
  | object (members : List (String × Json))
  deriving Repr, Inhabited

namespace Json

/-- The members with `key` set to `value`, kept in the order of the keys. -/
def insert (key : String) (value : Json) : List (String × Json) → List (String × Json)
  | [] => [(key, value)]
  | (k, v) :: rest =>
    if key < k then (key, value) :: (k, v) :: rest
    else if key = k then (key, value) :: rest
    else (k, v) :: insert key value rest

/-- The value stored under `key`. -/
def lookup (key : String) : List (String × Json) → Option Json
  | [] => none
  | (k, v) :: rest => if key = k then some v else lookup key rest

/-- The members with `key` set to `value`, unless they have that key already. -/
def insertNew (key : String) (value : Json) (members : List (String × Json)) :
    List (String × Json) :=
  match lookup key members with
  | some _ => members
  | none => insert key value members

/-- The members that pairs in any order stand for: a later pair overwrites an earlier one. -/
def membersOf (pairs : List (String × Json)) : List (String × Json) :=
  pairs.foldl (fun members pair => insert pair.1 pair.2 members) []

/-- The object of the given pairs; a later pair overwrites an earlier one. -/
def ofPairs (pairs : List (String × Json)) : Json := .object (membersOf pairs)

/-- The member of an object under `key`. -/
def field? (key : String) : Json → Option Json
  | .object members => lookup key members
  | _ => none

/-- A natural number: exact if it is in range, else the nearest double. -/
def ofNat (n : Nat) : Json :=
  match Integer.ofInt? n with
  | some i => .int i
  | none => .double (Binary64.ofInt n)

instance : Coe String Json := ⟨.string⟩
instance : Coe Bool Json := ⟨.bool⟩
instance : Coe Nat Json := ⟨.ofNat⟩

/-- Keys strictly ascending, so that each occurs once. -/
def Ascending (members : List (String × Json)) : Prop :=
  (members.map (·.1)).Pairwise (· < ·)

/-- Every object inside the value has its keys in order and each once. -/
inductive Canonical : Json → Prop where
  | null : Canonical .null
  | bool (b : Bool) : Canonical (.bool b)
  | int (n : Json.Integer) : Canonical (.int n)
  | double (x : Binary64) : Canonical (.double x)
  | string (s : String) : Canonical (.string s)
  | array {items : List Json} : (∀ v ∈ items, Canonical v) → Canonical (.array items)
  | object {members : List (String × Json)} :
      Ascending members → (∀ m ∈ members, Canonical m.2) → Canonical (.object members)

/-! ## Laws of members -/

@[simp] theorem lookup_insert_self (key : String) (value : Json) (members : List (String × Json)) :
    lookup key (insert key value members) = some value := by
  induction members with
  | nil => simp [insert, lookup]
  | cons first rest ih =>
    simp only [insert]
    split
    · simp [lookup]
    · split
      · simp [lookup]
      · simp_all [lookup]

theorem lookup_insert_of_ne {key other : String} (h : other ≠ key) (value : Json)
    (members : List (String × Json)) :
    lookup other (insert key value members) = lookup other members := by
  induction members with
  | nil => simp [insert, lookup, h]
  | cons first rest ih =>
    simp only [insert]
    split
    · simp [lookup, h]
    · split
      · simp_all [lookup]
      · simp_all [lookup]

theorem mem_insert {key : String} {value : Json} {members : List (String × Json)}
    {m : String × Json} (h : m ∈ insert key value members) : m = (key, value) ∨ m ∈ members := by
  induction members with
  | nil => simpa [insert] using h
  | cons first rest ih =>
    simp only [insert] at h
    split at h
    · simpa using h
    · split at h
      · rcases List.mem_cons.1 h with h | h
        · exact .inl h
        · exact .inr (List.mem_cons_of_mem _ h)
      · rcases List.mem_cons.1 h with h | h
        · exact .inr (h ▸ List.mem_cons_self)
        · exact (ih h).imp id (List.mem_cons_of_mem _)

/-- Members stay in order. -/
theorem ascending_insert {members : List (String × Json)} (h : Ascending members) (key : String)
    (value : Json) : Ascending (insert key value members) := by
  simp only [Ascending, List.pairwise_map] at h ⊢
  induction members with
  | nil => simp [insert]
  | cons first rest ih =>
    obtain ⟨above, inner⟩ := List.pairwise_cons.1 h
    simp only [insert]
    split
    · next before =>
      refine List.pairwise_cons.2 ⟨fun m hm => ?_, h⟩
      rcases List.mem_cons.1 hm with rfl | hm
      · exact before
      · exact String.lt_trans before (above m hm)
    · split
      · next same => exact List.pairwise_cons.2 ⟨fun m hm => same ▸ above m hm, inner⟩
      · next before differ =>
        refine List.pairwise_cons.2 ⟨fun m hm => ?_, ih inner⟩
        rcases mem_insert hm with rfl | hm
        · exact Std.lt_of_le_of_ne (String.not_lt.1 before) (Ne.symm differ)
        · exact above m hm

end Json

end Observability
