import Mathlib.Tactic.SplitIfs
import Observability.Json.Parser
import Observability.Json.Printer

/-!
# Strings in JSON text

What is written for a string is read back as it, whatever its characters, and what follows is left as it
is.  No character below the blank is written as itself, so a string never breaks a line.

The reader takes one character at a time; `readString_step` is one such step, and `readString_escapeChar`
all the steps that one written character takes.
-/

namespace Observability.Json

/-- One step of the reader, if it is not the one behind the last character. -/
theorem readString_step {state next : StringState} {c : Char} {out : List Char}
    (hgoes : ¬ (state = .plain ∧ c = '"')) (h : state.step c = some (out, next)) (rest : List Char) :
    readString state (c :: rest) = (readString next rest).map fun read => (out ++ read.1, read.2) := by
  rw [readString, if_neg hgoes, h]

/-- An escape of four hexadecimal digits for a character below the blank. -/
theorem readString_unitEscape {n : Nat} (h : n < 0x20) (rest : List Char) :
    readString .plain (unitEscape n ++ rest) =
      (readString .plain rest).map fun read => (Char.ofNat n :: read.1, read.2) := by
  have hdigits : unitEscape n =
      ['\\', 'u', '0', '0', Text.hexDigit (n / 16), Text.hexDigit (n % 16)] := by
    have hhigh : n / 16 / 16 = 0 := by omega
    have hlow : n / 16 % 16 = n / 16 := by omega
    simp [unitEscape, Text.hexDigits, hhigh, hlow, Text.hexDigit]
  have hhigh : StringState.step (Text.hexDigit (n / 16)) (.unicode 2 0 none) =
      some ([], .unicode 1 (n / 16) none) := by
    simp [StringState.step, Text.digit?_hexDigit (show n / 16 < 16 by omega)]
  have hlow : StringState.step (Text.hexDigit (n % 16)) (.unicode 1 (n / 16) none) =
      some ([Char.ofNat n], .plain) := by
    have hvalue : n / 16 * 16 + n % 16 = n := by omega
    have hhalves : isHighHalf n = false ∧ isLowHalf n = false := by
      simp only [isHighHalf, isLowHalf, Bool.and_eq_false_iff, decide_eq_false_iff_not]
      omega
    simp [StringState.step, Text.digit?_hexDigit (Nat.mod_lt n (show 0 < 16 by decide)), hvalue,
      finishUnicode, hhalves]
  rw [hdigits]
  simp only [List.cons_append, List.nil_append]
  rw [readString_step (by decide) (show StringState.step '\\' .plain = some ([], .escape) from rfl),
    readString_step (by decide)
      (show StringState.step 'u' .escape = some ([], .unicode 4 0 none) from rfl),
    readString_step (by decide)
      (show StringState.step '0' (.unicode 4 0 none) = some ([], .unicode 3 0 none) from rfl),
    readString_step (by decide)
      (show StringState.step '0' (.unicode 3 0 none) = some ([], .unicode 2 0 none) from rfl),
    readString_step (by simp) hhigh, readString_step (by simp) hlow]
  cases readString .plain rest <;> rfl

/-- A backslash and a letter. -/
theorem readString_simpleEscape {letter c : Char} (hletter : letter ≠ 'u')
    (h : simpleEscape? letter = some c) (rest : List Char) :
    readString .plain ('\\' :: letter :: rest) =
      (readString .plain rest).map fun read => (c :: read.1, read.2) := by
  have hstep : StringState.step letter .escape = some ([c], .plain) := by
    simp [StringState.step, hletter, h]
  rw [readString_step (by decide) (show StringState.step '\\' .plain = some ([], .escape) from rfl),
    readString_step (by simp) hstep]
  cases readString .plain rest <;> rfl

/-- What is written for a character is read back as it. -/
theorem readString_escapeChar (c : Char) (rest : List Char) :
    readString .plain (escapeChar c ++ rest) =
      (readString .plain rest).map fun read => (c :: read.1, read.2) := by
  rw [escapeChar]
  split_ifs with hquote hbackslash hbackspace htab hnewline hfeed hreturn hcontrol
  · subst hquote; exact readString_simpleEscape (by decide) rfl rest
  · subst hbackslash; exact readString_simpleEscape (by decide) rfl rest
  · subst hbackspace; exact readString_simpleEscape (by decide) rfl rest
  · subst htab; exact readString_simpleEscape (by decide) rfl rest
  · subst hnewline; exact readString_simpleEscape (by decide) rfl rest
  · subst hfeed; exact readString_simpleEscape (by decide) rfl rest
  · subst hreturn; exact readString_simpleEscape (by decide) rfl rest
  · have hread := readString_unitEscape hcontrol rest
    rwa [Char.ofNat_toNat] at hread
  · have hstep : StringState.step c .plain = some ([c], .plain) := by
      simp [StringState.step, hbackslash, hcontrol]
    exact readString_step (by simp [hquote]) hstep rest

/-- The characters of a string are read back up to the closing quote. -/
theorem readString_escaped (cs rest : List Char) :
    readString .plain (cs.flatMap escapeChar ++ '"' :: rest) = some (cs, rest) := by
  induction cs with
  | nil => rfl
  | cons c cs ih =>
    rw [List.flatMap_cons, List.append_assoc, readString_escapeChar, ih]
    rfl

theorem stringChars_append (s : String) (rest : List Char) :
    stringChars s ++ rest = '"' :: (s.toList.flatMap escapeChar ++ '"' :: rest) := by
  simp [stringChars]

/-! ## Strings stay on their line -/

theorem newline_notMem_hexDigits (count n : Nat) : '\n' ∉ Text.hexDigits count n := by
  have hdigit : ∀ n : Fin 16, Text.hexDigit n.val ≠ '\n' := by decide
  induction count generalizing n with
  | zero => simp [Text.hexDigits]
  | succ count ih =>
    simp only [Text.hexDigits, List.mem_append, List.mem_singleton, not_or]
    exact ⟨ih _, (hdigit ⟨n % 16, Nat.mod_lt n (by decide)⟩).symm⟩

theorem newline_notMem_escapeChar (c : Char) : '\n' ∉ escapeChar c := by
  rw [escapeChar]
  split_ifs with hquote hbackslash hbackspace htab hnewline hfeed hreturn hcontrol
  · decide
  · decide
  · decide
  · decide
  · decide
  · decide
  · decide
  · simp [unitEscape, newline_notMem_hexDigits]
  · simpa using Ne.symm hnewline

theorem newline_notMem_stringChars (s : String) : '\n' ∉ stringChars s := by
  simp [stringChars, newline_notMem_escapeChar]

end Observability.Json
