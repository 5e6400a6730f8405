import Observability.Text.Digit

/-!
# Decimal digits

A natural number is written with the digits of `Nat.toDigits 10`.  They are decimal digits, the first of
them is zero only for zero, and read together they are the number again.
-/

namespace Observability.Text

theorem isDigit_eq (c : Char) : isDigit c = c.isDigit := by
  simp only [isDigit, Char.isDigit, Char.le_def]

theorem isDigit_of_mem_toDigits {n : Nat} {c : Char} (h : c ∈ Nat.toDigits 10 n) :
    isDigit c = true := by
  rw [isDigit_eq]
  exact Nat.isDigit_of_mem_toDigits (by decide) (by decide) h

/-- No number above zero is written with a leading zero. -/
theorem head?_toDigits_ne {n : Nat} (hn : 0 < n) : (Nat.toDigits 10 n).head? ≠ some '0' := by
  induction n using Nat.strongRecOn with
  | ind n ih =>
    rcases Nat.lt_or_ge n 10 with hsmall | hlarge
    · have hdigit : ∀ d : Fin 10, d.val ≠ 0 → d.val.digitChar ≠ '0' := by decide
      rw [Nat.toDigits_of_lt_base hsmall]
      exact fun hzero => hdigit ⟨n, hsmall⟩ (by simp only; omega) (Option.some.inj hzero)
    · have hfirst := ih (n / 10) (by omega) (by omega)
      rw [Nat.toDigits_of_base_le (by decide) hlarge, List.head?_append]
      cases hhead : (Nat.toDigits 10 (n / 10)).head? with
      | none => exact absurd (List.head?_eq_none_iff.mp hhead) Nat.toDigits_ne_nil
      | some c =>
        rw [hhead] at hfirst
        exact hfirst

theorem digit?_digitChar {n : Nat} (h : n < 10) : digit? 10 n.digitChar = some n := by
  have hall : ∀ d : Fin 10, digit? 10 d.val.digitChar = some d.val := by decide
  exact hall ⟨n, h⟩

/-- Read back, the digits of a number are the number. -/
theorem ofDigits?_toDigits (n : Nat) : ofDigits? 10 (Nat.toDigits 10 n) = some n := by
  induction n using Nat.strongRecOn with
  | ind n ih =>
    rcases Nat.lt_or_ge n 10 with hsmall | hlarge
    · rw [Nat.toDigits_of_lt_base hsmall]
      simp [ofDigits?, digit?_digitChar hsmall]
    · have hlast : n % 10 < 10 := Nat.mod_lt _ (by decide)
      rw [Nat.toDigits_of_base_le (by decide) hlarge, ofDigits?_append_singleton, ih (n / 10) (by omega),
        digit?_digitChar hlast, Option.bind_some, Option.map_some, Option.some.injEq]
      omega

end Observability.Text
