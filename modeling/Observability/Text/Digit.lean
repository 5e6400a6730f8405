/-!
# Digits

The digits of numbers in a base up to sixteen: their values, the number that a row of them stands for,
and the hexadecimal digits of a number.  `ofDigits?_hexDigits` says that written digits are read back.
-/

namespace Observability.Text

/-- Whether the character is a decimal digit. -/
def isDigit (c : Char) : Bool := '0' ≤ c && c ≤ '9'

/-- The value of a digit of either case in the given base, which is at most sixteen. -/
def digit? (base : Nat) (c : Char) : Option Nat :=
  let value? : Option Nat :=
    if '0' ≤ c ∧ c ≤ '9' then some (c.toNat - '0'.toNat)
    else if 'a' ≤ c ∧ c ≤ 'f' then some (c.toNat - 'a'.toNat + 10)
    else if 'A' ≤ c ∧ c ≤ 'F' then some (c.toNat - 'A'.toNat + 10)
    else none
  value?.filter (· < base)

/-- The number that digits stand for, none if one of them is no digit. -/
def ofDigits? (base : Nat) (cs : List Char) : Option Nat :=
  cs.foldlM (fun n c => (digit? base c).map fun d => n * base + d) 0

/-- The lower-case hexadecimal digit of a number below sixteen. -/
def hexDigit (n : Nat) : Char :=
  if n < 10 then Char.ofNat ('0'.toNat + n) else Char.ofNat ('a'.toNat + (n - 10))

/-- The last so many hexadecimal digits of a number. -/
def hexDigits : Nat → Nat → List Char
  | 0, _ => []
  | count + 1, n => hexDigits count (n / 16) ++ [hexDigit (n % 16)]

theorem digit?_hexDigit {n : Nat} (h : n < 16) : digit? 16 (hexDigit n) = some n := by
  have all : ∀ n : Fin 16, digit? 16 (hexDigit n) = some n.val := by decide
  exact all ⟨n, h⟩

theorem ofDigits?_append_singleton (base : Nat) (cs : List Char) (c : Char) :
    ofDigits? base (cs ++ [c]) =
      (ofDigits? base cs).bind fun n => (digit? base c).map fun d => n * base + d := by
  simp [ofDigits?, List.foldlM_append]

/-- Read back, the digits of a number give the number as far as they hold it. -/
theorem ofDigits?_hexDigits (count n : Nat) :
    ofDigits? 16 (hexDigits count n) = some (n % Nat.pow 16 count) := by
  induction count generalizing n with
  | zero => simp [hexDigits, ofDigits?, Nat.mod_one]
  | succ count ih =>
    rw [hexDigits, ofDigits?_append_singleton, ih, digit?_hexDigit (Nat.mod_lt n (by decide))]
    simp [Nat.pow_succ, Nat.mul_comm _ 16, Nat.mod_mul, Nat.add_comm]

/-- Two numbers with the same digits are equal if the digits hold them. -/
theorem hexDigits_injective {count m n : Nat} (hm : m < Nat.pow 16 count) (hn : n < Nat.pow 16 count)
    (h : hexDigits count m = hexDigits count n) : m = n := by
  have read := ofDigits?_hexDigits count m
  rw [h, ofDigits?_hexDigits, Nat.mod_eq_of_lt hm, Nat.mod_eq_of_lt hn] at read
  exact (Option.some.inj read).symm

end Observability.Text
