import Observability.Proofs.Json.NumberText

/-!
# Doubles in JSON text

A finite double is written with its shortest digits, with a point among them or behind the first and an
exponent.  Either way it is a number that the reader takes, and that lies in the range of doubles.

`Binary64.reread` is what the text of a double is read as (`Binary64.readValue_chars`); the text of a double
that is not finite is null.
-/

namespace Observability.Json

open Decimal (Format Scaled)
open Decimal.Shortest (Bounded)

namespace NumberText

theorem fractionChars_of_ne_nil {digits : List Char} (h : digits ≠ []) :
    fractionChars digits = '.' :: digits := by
  obtain ⟨d, ds, rfl⟩ := List.exists_cons_of_ne_nil h
  rfl

/-- Digits of which a part stands before the point, in their order, stand for the same number. -/
theorem digitsValue_toDigits (n : Nat) : digitsValue (Nat.toDigits 10 n) = n := by
  rw [digitsValue_eq, Nat.ofDigitChars_ten_toDigits]

theorem isDigit_of_mem_zeros {count : Nat} {c : Char} (h : c ∈ List.replicate count '0') :
    Text.isDigit c = true := by
  rw [List.eq_of_mem_replicate h]
  rfl

variable {n : Nat}

/-- Behind `0.` and zeros. -/
def belowOne (n zeros : Nat) : NumberText where
  whole := ['0']
  fraction := List.replicate zeros '0' ++ Nat.toDigits 10 n
  whole_digits := List.forall_mem_singleton.mpr rfl
  whole_ne_nil := by decide
  whole_leads := by decide
  fraction_digits c hc := by
    rcases List.mem_append.mp hc with hzero | hdigit
    · exact isDigit_of_mem_zeros hzero
    · exact Text.isDigit_of_mem_toDigits hdigit

/-- With a point behind the first `front` digits, zeros filled in. -/
def aboveOne (n front zeros : Nat) (hn : 0 < n) (hfront : 0 < front) : NumberText where
  whole := (Nat.toDigits 10 n).take front ++ List.replicate zeros '0'
  fraction := if ((Nat.toDigits 10 n).drop front).isEmpty then ['0'] else (Nat.toDigits 10 n).drop front
  whole_digits c hc := by
    rcases List.mem_append.mp hc with hdigit | hzero
    · exact Text.isDigit_of_mem_toDigits (List.mem_of_mem_take hdigit)
    · exact isDigit_of_mem_zeros hzero
  whole_ne_nil := by
    have hne : Nat.toDigits 10 n ≠ [] := Nat.toDigits_ne_nil
    simp [hne, hfront.ne']
  whole_leads h := by
    have hlead := Text.head?_toDigits_ne hn
    have hne : Nat.toDigits 10 n ≠ [] := Nat.toDigits_ne_nil
    rw [List.head?_append, List.head?_take, if_neg hfront.ne'] at h
    cases hhead : (Nat.toDigits 10 n).head? with
    | none => exact absurd (List.head?_eq_none_iff.mp hhead) hne
    | some d =>
      rw [hhead] at h hlead
      exact absurd h hlead
  fraction_digits c hc := by
    split at hc
    · rw [List.mem_singleton.mp hc]
      rfl
    · exact Text.isDigit_of_mem_toDigits (List.mem_of_mem_drop hc)

/-- One digit before the point, and an exponent. -/
def withExponent (n : Nat) (lead : Int) : NumberText where
  whole := (Nat.toDigits 10 n).take 1
  fraction := (Nat.toDigits 10 n).drop 1
  exponent := some (decide (lead < 0), Nat.toDigits 10 lead.natAbs)
  whole_digits c hc := Text.isDigit_of_mem_toDigits (List.mem_of_mem_take hc)
  whole_ne_nil := by
    have hne : Nat.toDigits 10 n ≠ [] := Nat.toDigits_ne_nil
    simp [hne]
  whole_leads _ := by simp
  fraction_digits c hc := Text.isDigit_of_mem_toDigits (List.mem_of_mem_drop hc)
  exponent_digits e he := by
    obtain rfl := Option.some.inj he
    exact ⟨Nat.toDigits_ne_nil, fun c hc => Text.isDigit_of_mem_toDigits hc⟩

theorem value_belowOne (n zeros : Nat) :
    (belowOne n zeros).value = n * 10 ^ (-(zeros : Int) - (Nat.toDigits 10 n).length) := by
  have hdigits : digitsValue ((belowOne n zeros).whole ++ (belowOne n zeros).fraction) = n := by
    simp [belowOne, digitsValue_eq, Nat.ofDigitChars_append, Nat.ofDigitChars_cons]
  rw [value, hdigits]
  simp only [belowOne, exponent?, Option.map_none, Option.getD_none, List.length_append,
    List.length_replicate]
  congr 2
  push_cast
  ring

theorem value_aboveOne {front zeros : Nat} (hn : 0 < n) (hfront : 0 < front)
    (hzeros : zeros = front - (Nat.toDigits 10 n).length) :
    (aboveOne n front zeros hn hfront).value =
      n * 10 ^ ((front : Int) - (Nat.toDigits 10 n).length) := by
  rcases Nat.lt_or_ge front (Nat.toDigits 10 n).length with hinside | hbehind
  · -- the point stands among the digits
    have hrest : ((Nat.toDigits 10 n).drop front).isEmpty = false := by
      rw [List.isEmpty_eq_false_iff, List.ne_nil_iff_length_pos, List.length_drop]
      omega
    have hnone : zeros = 0 := by omega
    rw [value]
    simp only [aboveOne, hrest, hnone, Bool.false_eq_true, if_false, List.replicate_zero, List.append_nil,
      List.take_append_drop, digitsValue_toDigits, exponent?, Option.map_none, Option.getD_none,
      List.length_drop]
    congr 2
    omega
  · -- the digits are all before the point, and zeros after them
    have hrest : (Nat.toDigits 10 n).drop front = [] := List.drop_eq_nil_of_le hbehind
    have htake : (Nat.toDigits 10 n).take front = Nat.toDigits 10 n := List.take_of_length_le hbehind
    have hdigits : digitsValue (Nat.toDigits 10 n ++ List.replicate zeros '0' ++ ['0']) =
        10 ^ zeros * n * 10 := by
      simp [digitsValue_eq, Nat.ofDigitChars_append, Nat.ofDigitChars_cons, Nat.mul_comm]
    have hexponent : ((front : Int) - (Nat.toDigits 10 n).length) = (zeros : Int) := by omega
    rw [value, hexponent, zpow_natCast]
    simp only [aboveOne, hrest, htake, List.isEmpty_nil, if_true, hdigits, exponent?, Option.map_none,
      Option.getD_none, List.length_singleton]
    push_cast
    norm_num
    ring

theorem value_withExponent (n : Nat) (lead : Int) :
    (withExponent n lead).value = n * 10 ^ (lead + 1 - (Nat.toDigits 10 n).length) := by
  have hlength := Nat.length_toDigits_pos (b := 10) (n := n)
  have hexponent : (withExponent n lead).exponent? = some lead := by
    simp only [withExponent, exponent?, Option.map_some, digitsValue_toDigits, decide_eq_true_eq,
      Option.some.injEq]
    split <;> omega
  rw [value, hexponent]
  simp only [withExponent, List.take_append_drop, digitsValue_toDigits, Option.getD_some,
    List.length_drop]
  congr 2
  omega

/-! ## What is written -/

theorem pointed_of_nonpos {whole : Int} (h : whole ≤ 0) (n : Nat) :
    Format.pointed (Nat.toDigits 10 n) whole = (belowOne n (-whole).toNat).chars := by
  have hne : List.replicate (-whole).toNat '0' ++ Nat.toDigits 10 n ≠ [] := by
    simp [Nat.toDigits_ne_nil]
  rw [chars, Format.pointed, if_pos h]
  simp only [belowOne, exponentChars, fractionChars_of_ne_nil hne, List.append_nil, List.singleton_append]

theorem pointed_of_pos {whole : Int} (h : 0 < whole) (hn : 0 < n) :
    Format.pointed (Nat.toDigits 10 n) whole =
      (aboveOne n whole.toNat (whole - (Nat.toDigits 10 n).length).toNat hn (by omega)).chars := by
  rw [chars, Format.pointed, if_neg (not_le.mpr h)]
  have hne : (if ((Nat.toDigits 10 n).drop whole.toNat).isEmpty then ['0']
      else (Nat.toDigits 10 n).drop whole.toNat) ≠ [] := by
    split
    · exact List.cons_ne_nil _ _
    · next hrest => exact List.isEmpty_eq_false_iff.mp (Bool.eq_false_iff.mpr hrest)
  simp only [aboveOne, exponentChars, fractionChars_of_ne_nil hne, List.append_nil]

theorem scientific_eq (n : Nat) (lead : Int) :
    Format.scientific (Nat.toDigits 10 n) lead = (withExponent n lead).chars := by
  have hfraction (digits : List Char) :
      (if digits.isEmpty then [] else '.' :: digits) = fractionChars digits := by
    cases digits <;> rfl
  have hsign : (if lead < 0 then '-' else '+') = if decide (lead < 0) then '-' else '+' := by
    simp only [decide_eq_true_eq]
  rw [chars, Format.scientific]
  simp only [withExponent, exponentChars, hfraction, hsign, List.append_assoc]

/-- A double above zero is written as a number with a point or an exponent, of the value of its shortest
digits. -/
theorem exists_of_pos (format : Format) {mantissa : Nat} {e : Int} (hpos : 0 < mantissa)
    (hdigits : 0 < (Decimal.Shortest.digits format.tie mantissa e).digits) :
    ∃ t : NumberText, format.magnitude mantissa e = t.chars ∧
      (t.fraction ≠ [] ∨ t.exponent? ≠ none) ∧
      t.value = (Decimal.Shortest.digits format.tie mantissa e).value := by
  rw [Format.magnitude, if_neg hpos.ne']
  generalize Decimal.Shortest.digits format.tie mantissa e = shortest at hdigits
  obtain ⟨n, exponent⟩ := shortest
  simp only at hdigits ⊢
  have hscaled : Scaled.value ⟨n, exponent⟩ = n * 10 ^ exponent := rfl
  have hlength := Nat.length_toDigits_pos (b := 10) (n := n)
  split
  · rcases lt_or_ge 0 (exponent + (Nat.toDigits 10 n).length - 1 + 1) with habove | hbelow
    · refine ⟨_, pointed_of_pos habove hdigits, .inl ?_, ?_⟩
      · simp only [aboveOne]
        split
        · exact List.cons_ne_nil _ _
        · next hrest => exact List.isEmpty_eq_false_iff.mp (Bool.eq_false_iff.mpr hrest)
      · rw [value_aboveOne hdigits _ (by omega), hscaled]
        congr 2
        omega
    · refine ⟨_, pointed_of_nonpos hbelow n, .inl ?_, ?_⟩
      · simp [belowOne, Nat.toDigits_ne_nil]
      · rw [value_belowOne, hscaled]
        congr 2
        omega
  · refine ⟨_, scientific_eq n _, .inr (by simp [withExponent, exponent?]), ?_⟩
    rw [value_withExponent, hscaled]
    congr 2
    omega

/-- Zero is written with a point. -/
def zero : NumberText where
  whole := ['0']
  fraction := ['0']
  whole_digits := List.forall_mem_singleton.mpr rfl
  whole_ne_nil := by decide
  whole_leads := by decide
  fraction_digits := List.forall_mem_singleton.mpr rfl

/-- A finite double is written as a number with a point or an exponent, in the range of doubles. -/
theorem exists_of_finite (format : Format) {mantissa : Nat} {e : Int} (hmantissa : mantissa < 2 ^ 53)
    (hexponent : e ≤ 971) :
    ∃ t : NumberText, format.magnitude mantissa e = t.chars ∧
      (t.fraction ≠ [] ∨ t.exponent? ≠ none) ∧ t.value < Binary64.overflow := by
  rcases Nat.eq_zero_or_pos mantissa with rfl | hpos
  · refine ⟨zero, rfl, .inl (List.cons_ne_nil _ _), ?_⟩
    have hvalue : zero.value = 0 := by
      have hdigits : digitsValue (zero.whole ++ zero.fraction) = 0 := rfl
      rw [value, hdigits, Nat.cast_zero, zero_mul]
    rw [hvalue, Binary64.overflow]
    norm_num
  · obtain ⟨hdigits, hbound⟩ :=
      Decimal.Shortest.digits_bounded hpos hmantissa hexponent format.tie
    obtain ⟨t, hchars, hparts, hvalue⟩ := exists_of_pos format hpos hdigits
    exact ⟨t, hchars, hparts, hvalue.trans_lt hbound⟩

end NumberText

/-! ## What is read -/

theorem dropWord_append (word rest : List Char) : dropWord word (word ++ rest) = some rest := by
  simp [dropWord]

theorem readValue_null (fuel : Nat) (rest : List Char) :
    readValue (fuel + 1) ('n' :: 'u' :: 'l' :: 'l' :: rest) = some (.null, rest) := by
  have hword := dropWord_append ['n', 'u', 'l', 'l'] rest
  simp only [List.cons_append, List.nil_append] at hword
  rw [readValue, hword]
  rfl

end Observability.Json

namespace Observability.Binary64

open Json (EndsValue readValue)

/-- The parts of a finite double are bounded. -/
theorem bounds_of_view {x : Binary64} {negative : Bool} {mantissa : Nat} {e : Int}
    (h : x.view = .finite negative mantissa e) : mantissa < 2 ^ 53 ∧ e ≤ 971 := by
  have hfraction : x.fraction < 0x10000000000000 := Nat.mod_lt _ (by decide)
  have hfield : x.exponentField < 2048 := Nat.mod_lt _ (by decide)
  rw [view] at h
  split at h
  · split at h <;> cases h
  · next hne =>
    split at h
    · obtain ⟨-, rfl, rfl⟩ := View.finite.inj h
      omega
    · obtain ⟨-, rfl, rfl⟩ := View.finite.inj h
      simp only [hiddenBit]
      omega

/-- What the text of a double is read as. -/
def reread (x : Binary64) : Json :=
  ((readValue 1 (Decimal.Format.json.chars x)).map Prod.fst).getD .null

/-- The text of a double is a number in parts below all that overflow, or null. -/
theorem json_chars (x : Binary64) :
    (∃ (negative : Bool) (t : Json.NumberText),
      Decimal.Format.json.chars x = (if negative then ['-'] else []) ++ t.chars ∧
      (t.fraction ≠ [] ∨ t.exponent? ≠ none) ∧ t.value < overflow) ∨
    Decimal.Format.json.chars x = ['n', 'u', 'l', 'l'] := by
  cases hview : x.view with
  | nan =>
    right
    rw [Decimal.Format.chars, hview]
    rfl
  | infinite negative =>
    right
    rw [Decimal.Format.chars, hview]
    cases negative <;> rfl
  | finite negative mantissa e =>
    obtain ⟨hmantissa, hexponent⟩ := bounds_of_view hview
    obtain ⟨t, hchars, hparts, hvalue⟩ :=
      Json.NumberText.exists_of_finite Decimal.Format.json hmantissa hexponent
    refine .inl ⟨negative, t, ?_, hparts, hvalue⟩
    rw [Decimal.Format.chars, hview, ← hchars]
    cases negative <;> rfl

/-- The text of a double is read as one value, whatever follows it. -/
theorem exists_readValue (x : Binary64) :
    ∃ value : Json, ∀ fuel {rest}, EndsValue rest →
      readValue (fuel + 1) (Decimal.Format.json.chars x ++ rest) = some (value, rest) := by
  rcases x.json_chars with ⟨negative, t, htext, hparts, hvalue⟩ | htext
  · have hfinite := ofDecimal_isFinite negative hvalue
    refine ⟨.double (ofDecimal negative (Json.digitsValue (t.whole ++ t.fraction))
      (t.exponent?.getD 0 - t.fraction.length)), fun fuel rest hrest => ?_⟩
    rw [htext, Json.readValue_signed negative t fuel hrest, Json.number?_eq_double hparts hfinite]
    rfl
  · refine ⟨.null, fun fuel rest _ => ?_⟩
    rw [htext]
    exact Json.readValue_null fuel rest

theorem endsValue_nil : EndsValue [] := by simp [EndsValue]

theorem readValue_chars (x : Binary64) (fuel : Nat) {rest : List Char} (hrest : EndsValue rest) :
    readValue (fuel + 1) (Decimal.Format.json.chars x ++ rest) = some (x.reread, rest) := by
  obtain ⟨value, hread⟩ := x.exists_readValue
  have hreread : x.reread = value := by
    have halone := hread 0 endsValue_nil
    rw [List.append_nil] at halone
    rw [reread, halone]
    rfl
  rw [hread fuel hrest, hreread]

end Observability.Binary64
