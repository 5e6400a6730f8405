import Observability.Json.Parser
import Observability.Json.Printer
import Observability.Proofs.Decimal.Range
import Observability.Proofs.Text.DecimalDigits
import Observability.Proofs.Text.Scan

/-!
# Numbers in JSON text

`NumberText` is the written form of a number behind its sign: the digits before the point, those behind
it, and the exponent.

* `readMagnitude_chars` says that the reader takes these parts and leaves what follows.
* `readValue_int` says that an integer is read back as it.
-/

namespace Observability.Json

open Text (Stops)

/-- What may stand behind a value: nothing, a comma or a closing bracket. -/
def EndsValue (rest : List Char) : Prop := ∀ c ∈ rest.head?, c = ',' ∨ c = ']' ∨ c = '}'

theorem EndsValue.ne {rest : List Char} (h : EndsValue rest) {c : Char} {more : List Char}
    (hrest : rest = c :: more) : Text.isDigit c = false ∧ c ≠ '.' ∧ c ≠ 'e' ∧ c ≠ 'E' := by
  have hc := h c (by simp [hrest])
  rcases hc with rfl | rfl | rfl <;> decide

theorem EndsValue.stops {rest : List Char} (h : EndsValue rest) : Stops Text.isDigit rest := by
  cases rest with
  | nil => simp [Stops]
  | cons c more =>
    intro d hd
    obtain rfl := Option.some.inj hd
    exact (h.ne rfl).1

/-! ## The parts of a number -/

theorem exponent_digits_none :
    ∀ e ∈ (none : Option (Bool × List Char)), e.2 ≠ [] ∧ ∀ c ∈ e.2, Text.isDigit c = true := by
  simp

/-- A number without its sign.  There is a point if there are digits behind it. -/
structure NumberText where
  whole : List Char
  fraction : List Char := []
  /-- whether the exponent is negative, and its digits -/
  exponent : Option (Bool × List Char) := none
  whole_digits : ∀ c ∈ whole, Text.isDigit c = true
  whole_ne_nil : whole ≠ []
  whole_leads : whole.head? = some '0' → whole.length ≤ 1
  fraction_digits : ∀ c ∈ fraction, Text.isDigit c = true := by simp
  exponent_digits : ∀ e ∈ exponent, e.2 ≠ [] ∧ ∀ c ∈ e.2, Text.isDigit c = true := by
    exact exponent_digits_none

namespace NumberText

def exponentChars : Option (Bool × List Char) → List Char
  | none => []
  | some (negative, digits) => 'e' :: (if negative then '-' else '+') :: digits

def fractionChars : List Char → List Char
  | [] => []
  | digits => '.' :: digits

def chars (t : NumberText) : List Char :=
  t.whole ++ (fractionChars t.fraction ++ exponentChars t.exponent)

def exponent? (t : NumberText) : Option Int :=
  t.exponent.map fun (negative, digits) =>
    if negative then -(digitsValue digits : Int) else digitsValue digits

/-- The number that the text stands for. -/
def value (t : NumberText) : ℚ :=
  digitsValue (t.whole ++ t.fraction) * 10 ^ (t.exponent?.getD 0 - t.fraction.length)

end NumberText

/-! ## Reading the parts -/

theorem readExponent_chars {exponent : Option (Bool × List Char)} {rest : List Char}
    (hdigits : ∀ e ∈ exponent, e.2 ≠ [] ∧ ∀ c ∈ e.2, Text.isDigit c = true) (hrest : EndsValue rest) :
    readExponent (NumberText.exponentChars exponent ++ rest) =
      some (exponent.map fun (negative, digits) =>
        if negative then -(digitsValue digits : Int) else digitsValue digits, rest) := by
  cases exponent with
  | none =>
    cases rest with
    | nil => rfl
    | cons c more =>
      obtain ⟨-, -, he, hE⟩ := hrest.ne rfl
      simp [NumberText.exponentChars, readExponent, he, hE]
  | some e =>
    obtain ⟨negative, digits⟩ := e
    obtain ⟨hne, hall⟩ := hdigits _ rfl
    have htake := Text.takeWhile_append_of_stops hall hrest.stops
    have hdrop := Text.dropWhile_append_of_stops hall hrest.stops
    cases negative <;> simp [NumberText.exponentChars, readExponent, htake, hdrop, hne]

theorem stops_exponentChars {exponent : Option (Bool × List Char)} {rest : List Char}
    (hrest : EndsValue rest) : Stops Text.isDigit (NumberText.exponentChars exponent ++ rest) := by
  cases exponent with
  | none => exact hrest.stops
  | some e =>
    intro c hc
    obtain rfl := Option.some.inj hc
    decide

theorem readFraction_chars {fraction more : List Char}
    (hdigits : ∀ c ∈ fraction, Text.isDigit c = true) (hmore : Stops Text.isDigit more)
    (hpoint : more.head? ≠ some '.') :
    readFraction (NumberText.fractionChars fraction ++ more) = some (fraction, more) := by
  cases fraction with
  | nil =>
    cases more with
    | nil => rfl
    | cons c more =>
      have hc : c ≠ '.' := fun h => hpoint (by rw [h]; rfl)
      simp [NumberText.fractionChars, readFraction, hc]
  | cons d digits =>
    have htake := Text.takeWhile_append_of_stops hdigits hmore
    have hdrop := Text.dropWhile_append_of_stops hdigits hmore
    simp only [List.cons_append] at htake hdrop
    simp [NumberText.fractionChars, readFraction, htake, hdrop]

/-- The reader of numbers takes the parts and leaves what follows. -/
theorem readMagnitude_chars (t : NumberText) (negative : Bool) {rest : List Char}
    (hrest : EndsValue rest) :
    readMagnitude negative (t.chars ++ rest) =
      (number? negative t.whole t.fraction t.exponent?).map fun value => (value, rest) := by
  have hbehind := @stops_exponentChars t.exponent _ hrest
  have hpoint : (NumberText.exponentChars t.exponent ++ rest).head? ≠ some '.' := by
    cases t.exponent with
    | none =>
      cases rest with
      | nil => simp [NumberText.exponentChars]
      | cons c more => simpa [NumberText.exponentChars] using (hrest.ne rfl).2.1
    | some e => simp [NumberText.exponentChars]
  have hwhole : Stops Text.isDigit
      (NumberText.fractionChars t.fraction ++ (NumberText.exponentChars t.exponent ++ rest)) := by
    cases t.fraction with
    | nil => exact hbehind
    | cons d digits =>
      intro c hc
      obtain rfl := Option.some.inj hc
      decide
  have htake := Text.takeWhile_append_of_stops t.whole_digits hwhole
  have hdrop := Text.dropWhile_append_of_stops t.whole_digits hwhole
  have hleads : ¬ (t.whole.isEmpty ∨ (t.whole.head? = some '0' ∧ 1 < t.whole.length)) := by
    have hempty := t.whole_ne_nil
    have hlength := t.whole_leads
    rw [List.isEmpty_iff]
    rintro (hnil | ⟨hzero, hlong⟩)
    · exact hempty hnil
    · exact absurd (hlength hzero) (not_le.mpr hlong)
  rw [readMagnitude, NumberText.chars, List.append_assoc, List.append_assoc]
  simp only [htake, hdrop, if_neg hleads, readFraction_chars t.fraction_digits hbehind hpoint,
    Option.bind_eq_bind, Option.bind_some, readExponent_chars t.exponent_digits hrest]
  rw [NumberText.exponent?]
  cases number? negative t.whole t.fraction _ <;> rfl

/-- A number with a point or an exponent is the nearest double, if that is finite. -/
theorem number?_eq_double {negative : Bool} {whole fraction : List Char} {exponent : Option Int}
    (hparts : fraction ≠ [] ∨ exponent ≠ none)
    (hfinite : (Binary64.ofDecimal negative (digitsValue (whole ++ fraction))
      (exponent.getD 0 - fraction.length)).IsFinite) :
    number? negative whole fraction exponent =
      some (.double (Binary64.ofDecimal negative (digitsValue (whole ++ fraction))
        (exponent.getD 0 - fraction.length))) := by
  obtain ⟨sign, mantissa, e, hview⟩ := hfinite
  have hnot : ¬ (fraction.isEmpty = true ∧ exponent = none ∧ ¬(negative = true ∧ digitsValue whole = 0)) := by
    rw [List.isEmpty_iff]
    rintro ⟨hnil, hnone, -⟩
    exact hparts.elim (absurd hnil) (absurd hnone)
  simp only [number?, if_neg hnot, hview]

/-! ## Values that are numbers -/

/-- A text that starts with a digit or a minus is read as a number. -/
theorem readValue_eq_readNumber {c : Char} (hc : Text.isDigit c = true ∨ c = '-') (fuel : Nat)
    (rest : List Char) : readValue (fuel + 1) (c :: rest) = readNumber (c :: rest) := by
  have hother : c ≠ 'n' ∧ c ≠ 't' ∧ c ≠ 'f' ∧ c ≠ '"' ∧ c ≠ '[' ∧ c ≠ '{' := by
    refine ⟨?_, ?_, ?_, ?_, ?_, ?_⟩ <;> rintro rfl <;> revert hc <;> decide
  obtain ⟨hn, ht, hf, hquote, hbracket, hbrace⟩ := hother
  rw [readValue] <;> simp [hn, ht, hf, hquote, hbracket, hbrace]

/-- Behind a minus, or without a sign if it starts with a digit, a number is read. -/
theorem readNumber_sign (negative : Bool) {c : Char} (hc : Text.isDigit c = true) (cs : List Char) :
    readNumber ((if negative then ['-'] else []) ++ c :: cs) = readMagnitude negative (c :: cs) := by
  cases negative with
  | true => rfl
  | false =>
    have hminus : c ≠ '-' := by
      rintro rfl
      revert hc
      decide
    show readNumber (c :: cs) = readMagnitude false (c :: cs)
    rw [readNumber]
    rintro rest hrest
    exact hminus (List.cons.inj hrest).1

/-- A signed number is read as a value. -/
theorem readValue_signed (negative : Bool) (t : NumberText) (fuel : Nat) {rest : List Char}
    (hrest : EndsValue rest) :
    readValue (fuel + 1) ((if negative then ['-'] else []) ++ t.chars ++ rest) =
      (number? negative t.whole t.fraction t.exponent?).map fun value => (value, rest) := by
  obtain ⟨c, cs, hcs⟩ := List.exists_cons_of_ne_nil t.whole_ne_nil
  have hc : Text.isDigit c = true := t.whole_digits c (by simp [hcs])
  have hchars : t.chars ++ rest =
      c :: (cs ++ (NumberText.fractionChars t.fraction ++ NumberText.exponentChars t.exponent) ++ rest) := by
    simp [NumberText.chars, hcs]
  rw [← readMagnitude_chars t negative hrest, List.append_assoc, hchars, ← readNumber_sign negative hc]
  cases negative with
  | true => exact readValue_eq_readNumber (.inr rfl) fuel _
  | false => exact readValue_eq_readNumber (.inl hc) fuel _

theorem digitsValue_eq (cs : List Char) : digitsValue cs = Nat.ofDigitChars 10 cs 0 := by
  simp only [digitsValue, Nat.ofDigitChars_eq_foldl, Nat.mul_comm]

/-- The digits of a natural number. -/
def NumberText.ofNat (n : Nat) : NumberText where
  whole := Nat.toDigits 10 n
  whole_digits _ h := Text.isDigit_of_mem_toDigits h
  whole_ne_nil := Nat.toDigits_ne_nil
  whole_leads h := by
    rcases Nat.eq_zero_or_pos n with rfl | hpos
    · decide
    · exact absurd h (Text.head?_toDigits_ne hpos)

/-- An integer is read back as it. -/
theorem readValue_int (n : Json.Integer) (fuel : Nat) {rest : List Char} (hrest : EndsValue rest) :
    readValue (fuel + 1) (intChars n.val ++ rest) = some (.int n, rest) := by
  have hread := readValue_signed (decide (n.val < 0)) (.ofNat n.val.natAbs) fuel hrest
  have hchars : (if decide (n.val < 0) = true then ['-'] else []) ++
      (NumberText.ofNat n.val.natAbs).chars = intChars n.val := by
    by_cases hneg : n.val < 0 <;>
      simp [intChars, NumberText.chars, NumberText.ofNat, NumberText.fractionChars,
        NumberText.exponentChars, hneg]
  have hvalue : digitsValue (Nat.toDigits 10 n.val.natAbs) = n.val.natAbs := by
    rw [digitsValue_eq, Nat.ofDigitChars_ten_toDigits]
  have hsigned : (if decide (n.val < 0) = true then -(n.val.natAbs : Int) else n.val.natAbs) = n.val := by
    by_cases hneg : n.val < 0
    · rw [if_pos (decide_eq_true hneg)]; omega
    · rw [if_neg (by simpa using hneg)]; omega
  have hint : Integer.ofInt? n.val = some n := dif_pos ⟨n.lower, n.upper⟩
  have hzero : ¬ (decide (n.val < 0) = true ∧ n.val.natAbs = 0) := by
    rintro ⟨hneg, hnil⟩
    have := of_decide_eq_true hneg
    omega
  have hnumber : number? (decide (n.val < 0)) (NumberText.ofNat n.val.natAbs).whole
      (NumberText.ofNat n.val.natAbs).fraction (NumberText.ofNat n.val.natAbs).exponent? =
        some (.int n) := by
    simp only [number?, NumberText.ofNat, NumberText.exponent?, hvalue, hsigned, hint, Option.map_none,
      List.isEmpty_nil, hzero, not_false_eq_true, and_self, if_true, Option.map_some]
  rw [hchars] at hread
  rw [hread, hnumber]
  rfl

end Observability.Json
