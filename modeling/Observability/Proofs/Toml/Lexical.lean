import Mathlib.Data.List.Forall2
import Mathlib.Data.List.TakeWhile
import Observability.Proofs.Text.Scan
import Observability.Toml.Value

/-!
# The small parts of a TOML text

How strings in quotes, keys, blanks, comments and line ends may be written, and that the readers take
them as they are meant, whatever follows.  What may be written is said without the readers; where a reader
asks for a class of characters, a lemma (`isLineChar_iff`, `isWs_iff`, `isKeyChar_iff`) says that it is the
one meant here.

* `InLine`, `IsBlank` and `IsKeyChar` are the classes, and `IsEscape` and `IsHexDigit` what may follow a
  backslash.
* `BasicText cs s` says that `cs` stands for the characters `s` between quotes.
* `KeyText cs name` says that `cs` is a key, bare or in quotes.
* `Trailing` is what may stand behind the content of a line, `Newline` its end, and `Gap` what may stand
  between the items of an array.
-/

namespace Observability.Toml

/-! ## Characters -/

/-- A character that may stand in a line: the tab, or one from the blank on that is not U+007F. -/
def InLine (c : Char) : Prop := c = '\t' ∨ 0x20 ≤ c.toNat ∧ c.toNat ≠ 0x7F

/-- A blank. -/
def IsBlank (c : Char) : Prop := c = ' ' ∨ c = '\t'

/-- A character of a key without quotes: a letter or a digit of ASCII, a dash or an underscore. -/
def IsKeyChar (c : Char) : Prop := c.isAlphanum = true ∨ c = '-' ∨ c = '_'

/-- A letter that may follow a backslash, and what the two stand for. -/
inductive IsEscape : Char → Char → Prop where
  | backspace : IsEscape 'b' '\x08'
  | tab : IsEscape 't' '\t'
  | lineFeed : IsEscape 'n' '\n'
  | formFeed : IsEscape 'f' '\x0c'
  | carriageReturn : IsEscape 'r' '\r'
  | quote : IsEscape '"' '"'
  | backslash : IsEscape '\\' '\\'

/-- A hexadecimal digit of either case, and its value. -/
def IsHexDigit (c : Char) (value : Nat) : Prop :=
  value < 16 ∧ (c = value.digitChar ∨ c = value.digitChar.toUpper)

instance (c : Char) : Decidable (InLine c) := inferInstanceAs (Decidable (_ ∨ _ ∧ _))

instance (c : Char) : Decidable (IsBlank c) := inferInstanceAs (Decidable (_ ∨ _))

instance (c : Char) : Decidable (IsKeyChar c) := inferInstanceAs (Decidable (_ ∨ _ ∨ _))

theorem isLineChar_iff {c : Char} : isLineChar c = true ↔ InLine c := by
  simp [isLineChar, InLine]

theorem isWs_iff {c : Char} : isWs c = true ↔ IsBlank c := by
  simp [isWs, IsBlank]

theorem isKeyChar_iff {c : Char} : isKeyChar c = true ↔ IsKeyChar c := by
  simp [isKeyChar, IsKeyChar, or_assoc]

theorem simpleEscape?_eq {mark c : Char} (h : IsEscape mark c) : simpleEscape? mark = some c := by
  cases h <;> rfl

theorem digit?_eq {c : Char} {value : Nat} (h : IsHexDigit c value) : Text.digit? 16 c = some value := by
  have hall : ∀ v : Fin 16, Text.digit? 16 v.val.digitChar = some v.val ∧
      Text.digit? 16 v.val.digitChar.toUpper = some v.val := by decide
  obtain ⟨hsmall, rfl | rfl⟩ := h
  · exact (hall ⟨value, hsmall⟩).1
  · exact (hall ⟨value, hsmall⟩).2

/-- Every character has a code. -/
theorem charOfCode?_toNat (c : Char) : charOfCode? c.toNat = some c := by
  have hvalid : c.toNat < 0xD800 ∨ (0xDFFF < c.toNat ∧ c.toNat < 0x110000) := c.valid
  rw [charOfCode?, if_pos hvalid, Char.ofNat_toNat]

/-! ## Strings in quotes -/

/-- The characters between two quotes, and those they stand for. -/
inductive BasicText : List Char → List Char → Prop where
  | nil : BasicText [] []
  | plain {c : Char} {cs s : List Char} : InLine c → c ≠ '"' → c ≠ '\\' → BasicText cs s →
      BasicText (c :: cs) (c :: s)
  /-- a backslash and a letter -/
  | letter {mark c : Char} {cs s : List Char} : IsEscape mark c → BasicText cs s →
      BasicText ('\\' :: mark :: cs) (c :: s)
  /-- four or eight hexadecimal digits of the code -/
  | code {mark c : Char} {digits cs s : List Char} {values : List Nat} :
      mark = 'u' ∧ digits.length = 4 ∨ mark = 'U' ∧ digits.length = 8 →
      List.Forall₂ IsHexDigit digits values →
      values.foldl (fun n value => n * 16 + value) 0 = c.toNat → BasicText cs s →
      BasicText ('\\' :: mark :: (digits ++ cs)) (c :: s)

/-- What needs no escape is written as it is. -/
theorem BasicText.plain_append {front : List Char}
    (h : ∀ c ∈ front, InLine c ∧ c ≠ '"' ∧ c ≠ '\\') {cs s : List Char}
    (hrest : BasicText cs s) : BasicText (front ++ cs) (front ++ s) := by
  induction front with
  | nil => exact hrest
  | cons c front ih =>
    obtain ⟨⟨hline, hquote, hslash⟩, hfront⟩ := List.forall_mem_cons.mp h
    exact .plain hline hquote hslash (ih hfront)

/-- No quote stands at the front. -/
theorem BasicText.head?_ne {cs s : List Char} (h : BasicText cs s) : cs.head? ≠ some '"' := by
  cases h with
  | nil => simp
  | plain _ hquote _ _ => simpa using hquote
  | letter _ _ => simp
  | code _ _ _ _ => simp

/-- The digits of a code, read after others that gave `value`. -/
theorem readBasic_digits {digits : List Char} {values : List Nat}
    (hdigits : List.Forall₂ IsHexDigit digits values) (hne : digits ≠ []) {value : Nat} {c : Char}
    (hcode : values.foldl (fun n value => n * 16 + value) value = c.toNat) (tail : List Char) :
    readBasic (.code digits.length value) (digits ++ tail) =
      (readBasic .plain tail).map fun (cs, rest) => (c :: cs, rest) := by
  induction hdigits generalizing value with
  | nil => exact absurd rfl hne
  | @cons digit d rest values hdigit hrest ih =>
    have hd := digit?_eq hdigit
    rw [List.cons_append, readBasic, if_neg (by simp)]
    cases rest with
    | nil =>
      cases hrest
      have hc : charOfCode? (value * 16 + d) = some c := by
        rw [List.foldl_cons, List.foldl_nil] at hcode
        rw [hcode, charOfCode?_toNat]
      simp [LineState.step, hd, hc]
    | cons digit' rest =>
      have hmany : ¬ (digit :: digit' :: rest).length ≤ 1 := by simp
      have hstep : (LineState.code (digit :: digit' :: rest).length value).step digit =
          some ([], .code (digit' :: rest).length (value * 16 + d)) := by
        simp only [LineState.step, hd]
        rw [if_neg hmany]
        rfl
      rw [hstep]
      show (readBasic _ (digit' :: rest ++ tail)).map _ = _
      rw [ih (List.cons_ne_nil _ _) hcode, Option.map_map]
      rfl

/-- A string in quotes is read up to its closing quote. -/
theorem readBasic_text {cs s : List Char} (h : BasicText cs s) (rest : List Char) :
    readBasic .plain (cs ++ '"' :: rest) = some (s, rest) := by
  induction h with
  | nil => simp [readBasic]
  | @plain c cs s hline hquote hslash _ ih =>
    rw [List.cons_append, readBasic, if_neg (by simp [hquote])]
    simp [LineState.step, hslash, isLineChar_iff.mpr hline, ih]
  | @letter mark c cs s hmark _ ih =>
    have hu : mark ≠ 'u' := by rintro rfl; cases hmark
    have hU : mark ≠ 'U' := by rintro rfl; cases hmark
    rw [List.cons_append, List.cons_append, readBasic, if_neg (by simp)]
    simp [LineState.step, readBasic, hu, hU, simpleEscape?_eq hmark, ih]
  | @code mark c digits cs s values hform hdigits hc _ ih =>
    have hread := readBasic_digits hdigits (List.ne_nil_of_length_pos (by omega)) hc (cs ++ '"' :: rest)
    rw [ih] at hread
    rw [List.cons_append, List.cons_append, List.append_assoc, readBasic, if_neg (by simp)]
    rcases hform with ⟨rfl, hlength⟩ | ⟨rfl, hlength⟩
    · rw [hlength] at hread
      simp [LineState.step, readBasic, hread]
    · rw [hlength] at hread
      simp [LineState.step, readBasic, hread]

/-- Two quotes are an empty string, unless a third follows. -/
theorem readString_basic {cs s : List Char} (h : BasicText cs s) {rest : List Char}
    (hrest : rest.head? ≠ some '"') : readString ('"' :: (cs ++ '"' :: rest)) = some (s, rest) := by
  rw [readString, readBasic_text h]
  intro more hmore
  cases cs with
  | nil =>
    obtain ⟨-, rfl⟩ := List.cons.inj hmore
    exact hrest rfl
  | cons c cs =>
    obtain ⟨rfl, -⟩ := List.cons.inj hmore
    exact h.head?_ne rfl

/-- A string in apostrophes is read up to the closing one. -/
theorem readLiteral_text {s : List Char} (h : ∀ c ∈ s, InLine c ∧ c ≠ '\'')
    (rest : List Char) : readLiteral (s ++ '\'' :: rest) = some (s, rest) := by
  induction s with
  | nil => simp [readLiteral]
  | cons c s ih =>
    obtain ⟨⟨hline, hmark⟩, hs⟩ := List.forall_mem_cons.mp h
    rw [List.cons_append, readLiteral, if_neg hmark, if_pos (isLineChar_iff.mpr hline), ih hs]
    rfl

/-! ## Blanks, comments and line ends -/

/-- Nothing but blanks. -/
abbrev Blanks (cs : List Char) : Prop := ∀ c ∈ cs, IsBlank c

theorem skipWs_append {blanks : List Char} (h : Blanks blanks) (rest : List Char) :
    skipWs (blanks ++ rest) = skipWs rest :=
  List.dropWhile_append_of_pos fun c hc => isWs_iff.mpr (h c hc)

theorem isWs_eq_false {c : Char} (hspace : c ≠ ' ') (htab : c ≠ '\t') : isWs c = false := by
  simp [isWs, hspace, htab]

/-- Where no blank stands, none is skipped. -/
theorem skipWs_cons {c : Char} (h : isWs c = false) (rest : List Char) : skipWs (c :: rest) = c :: rest :=
  Text.dropWhile_of_stops fun _ hd => Option.some.inj hd ▸ h

/-- The end of a line. -/
inductive Newline : List Char → Prop where
  | feed : Newline ['\n']
  | carriage : Newline ['\r', '\n']

/-- A line ends with one of two characters, neither of which is one of its own. -/
theorem Newline.exists_cons {n : List Char} (h : Newline n) (rest : List Char) :
    ∃ c more, n ++ rest = c :: more ∧ (c = '\n' ∨ c = '\r') := by
  cases h with
  | feed => exact ⟨'\n', rest, rfl, .inl rfl⟩
  | carriage => exact ⟨'\r', '\n' :: rest, rfl, .inr rfl⟩

/-- A comment: what follows its mark on the line. -/
abbrev IsComment (body : List Char) : Prop := ∀ c ∈ body, InLine c

theorem dropWhile_comment {body : List Char} (h : IsComment body) {n : List Char} (hn : Newline n)
    (rest : List Char) : (body ++ (n ++ rest)).dropWhile isLineChar = n ++ rest := by
  refine Text.dropWhile_append_of_stops (fun c hc => isLineChar_iff.mpr (h c hc)) fun d hd => ?_
  obtain ⟨c, more, hsplit, hc⟩ := hn.exists_cons rest
  rw [hsplit] at hd
  obtain rfl : c = d := Option.some.inj hd
  rcases hc with rfl | rfl <;> decide

/-- What may follow the content of a line: blanks, and a comment behind them. -/
inductive Trailing : List Char → Prop where
  | blanks {blanks : List Char} : Blanks blanks → Trailing blanks
  | comment {blanks body : List Char} : Blanks blanks → IsComment body →
      Trailing (blanks ++ '#' :: body)

/-- What follows the end of a line is reached. -/
theorem lineEnd?_trailing {t : List Char} (h : Trailing t) {n : List Char} (hn : Newline n)
    (rest : List Char) : lineEnd? (t ++ (n ++ rest)) = some rest := by
  have hend : skipComment (skipWs (t ++ (n ++ rest))) = n ++ rest := by
    cases h with
    | blanks hblanks =>
      rw [skipWs_append hblanks]
      cases hn <;> rfl
    | comment hblanks hbody =>
      rw [List.append_assoc, skipWs_append hblanks]
      exact dropWhile_comment hbody hn rest
  rw [lineEnd?, hend]
  cases hn <;> rfl

/-- The last line needs no end. -/
theorem lineEnd?_last {t : List Char} (h : Trailing t) : lineEnd? t = some [] := by
  have hend : skipComment (skipWs t) = [] := by
    cases h with
    | blanks hblanks =>
      rw [skipWs, List.dropWhile_eq_nil_iff.mpr fun c hc => isWs_iff.mpr (hblanks c hc)]
      rfl
    | comment hblanks hbody =>
      rw [skipWs_append hblanks]
      exact List.dropWhile_eq_nil_iff.mpr fun c hc => isLineChar_iff.mpr (hbody c hc)
  rw [lineEnd?, hend]

/-- What may stand between the items of an array: blanks, line ends, and comments with theirs. -/
inductive Gap : List Char → Prop where
  | nil : Gap []
  | blank {c : Char} {gap : List Char} : IsBlank c → Gap gap → Gap (c :: gap)
  | newline {n gap : List Char} : Newline n → Gap gap → Gap (n ++ gap)
  | comment {body n gap : List Char} : IsComment body → Newline n → Gap gap →
      Gap ('#' :: (body ++ (n ++ gap)))

theorem skipGaps_newline (inComment : Bool) {n : List Char} (hn : Newline n) (rest : List Char) :
    skipGaps inComment (n ++ rest) = skipGaps false rest := by
  cases hn <;> rw [List.cons_append]
  · rw [List.nil_append, skipGaps]
  · rw [List.cons_append, List.nil_append, skipGaps]

theorem skipGaps_comment {body : List Char} (h : IsComment body) {n : List Char} (hn : Newline n)
    (rest : List Char) : skipGaps true (body ++ (n ++ rest)) = skipGaps false rest := by
  induction body with
  | nil => exact skipGaps_newline true hn rest
  | cons c body ih =>
    obtain ⟨hc, hbody⟩ := List.forall_mem_cons.mp h
    have hfeed : c ≠ '\n' := by rintro rfl; exact absurd hc (by decide)
    have hcarriage : c ≠ '\r' := by rintro rfl; exact absurd hc (by decide)
    rw [List.cons_append, skipGaps, if_pos rfl, if_pos (isLineChar_iff.mpr hc), ih hbody]
    · exact hfeed
    · exact fun _ hreturn _ => hcarriage hreturn

/-- A gap is skipped. -/
theorem skipGaps_append {gap : List Char} (h : Gap gap) (rest : List Char) :
    skipGaps false (gap ++ rest) = skipGaps false rest := by
  induction h with
  | nil => rfl
  | @blank c gap hc _ ih =>
    have hfeed : c ≠ '\n' := by rintro rfl; exact absurd hc (by decide)
    have hcarriage : c ≠ '\r' := by rintro rfl; exact absurd hc (by decide)
    rw [List.cons_append, skipGaps, if_neg (by simp), if_pos (isWs_iff.mpr hc), ih]
    · exact hfeed
    · exact fun _ hreturn _ => hcarriage hreturn
  | newline hn _ ih => rw [List.append_assoc, skipGaps_newline false hn, ih]
  | comment hbody hn _ ih =>
    rw [List.cons_append, List.append_assoc, List.append_assoc, skipGaps, if_neg (by simp),
      if_neg (by decide), if_pos rfl, skipGaps_comment hbody hn, ih]
    · decide
    · exact fun _ hreturn _ => absurd hreturn (by decide)

/-- Where something else stands, the reader stops. -/
theorem skipGaps_cons {c : Char} (hws : isWs c = false)
    (hc : c ≠ '#' ∧ c ≠ '\n' ∧ c ≠ '\r') (rest : List Char) :
    skipGaps false (c :: rest) = some (c :: rest) := by
  obtain ⟨hcomment, hfeed, hcarriage⟩ := hc
  rw [skipGaps, if_neg (by simp), if_neg (by simp [hws]), if_neg hcomment]
  · exact hfeed
  · exact fun _ hreturn _ => hcarriage hreturn

/-! ## Keys -/

/-- A key and its text. -/
inductive KeyText : List Char → String → Prop where
  | bare {cs : List Char} : cs ≠ [] → (∀ c ∈ cs, IsKeyChar c) → KeyText cs (String.ofList cs)
  | basic {cs s : List Char} : BasicText cs s → KeyText ('"' :: (cs ++ ['"'])) (String.ofList s)
  | literal {s : List Char} : (∀ c ∈ s, InLine c ∧ c ≠ '\'') →
      KeyText ('\'' :: (s ++ ['\''])) (String.ofList s)

/-- A name of such characters is its own key. -/
theorem KeyText.bare_toList {name : String} (hne : name.toList ≠ [])
    (h : ∀ c ∈ name.toList, isKeyChar c = true) : KeyText name.toList name := by
  simpa using KeyText.bare hne fun c hc => isKeyChar_iff.mp (h c hc)

/-- The first character of a key. -/
theorem KeyText.exists_cons {cs : List Char} {name : String} (h : KeyText cs name) :
    ∃ c more, cs = c :: more ∧ (c = '"' ∨ c = '\'' ∨ isKeyChar c = true) := by
  cases h with
  | bare hne hkey =>
    obtain ⟨c, more, rfl⟩ := List.exists_cons_of_ne_nil hne
    exact ⟨c, more, rfl, .inr (.inr (isKeyChar_iff.mpr (hkey c List.mem_cons_self)))⟩
  | basic _ => exact ⟨_, _, rfl, .inl rfl⟩
  | literal _ => exact ⟨_, _, rfl, .inr (.inl rfl)⟩

/-- No blank stands in front of a key. -/
theorem KeyText.skipWs_append {cs : List Char} {name : String} (h : KeyText cs name)
    (rest : List Char) : skipWs (cs ++ rest) = cs ++ rest := by
  obtain ⟨c, more, rfl, hc⟩ := h.exists_cons
  have hws : isWs c = false := by
    apply isWs_eq_false <;> rintro rfl <;> revert hc <;> decide
  exact skipWs_cons hws (more ++ rest)

/-- A key is read up to a character that ends it. -/
theorem readKey_text {cs : List Char} {name : String} (h : KeyText cs name) {rest : List Char}
    (hrest : Text.Stops isKeyChar rest) :
    readKey (cs ++ rest) = some (⟨name, .between (cs ++ rest) rest⟩, rest) := by
  cases h with
  | bare hne hchars =>
    have hkey : ∀ c ∈ cs, isKeyChar c = true := fun c hc => isKeyChar_iff.mpr (hchars c hc)
    have htake := Text.takeWhile_append_of_stops hkey hrest
    have hdrop := Text.dropWhile_append_of_stops hkey hrest
    obtain ⟨c, more, rfl⟩ := List.exists_cons_of_ne_nil hne
    have hc := hkey c List.mem_cons_self
    have hquote : c ≠ '"' := by rintro rfl; exact absurd hc (by decide)
    have hmark : c ≠ '\'' := by rintro rfl; exact absurd hc (by decide)
    rw [List.cons_append] at htake hdrop ⊢
    rw [readKey]
    · simp only [htake, hdrop]
      simp
    · exact fun _ heq => hquote (List.cons.inj heq).1
    · exact fun _ heq => hmark (List.cons.inj heq).1
  | basic htext =>
    rw [List.cons_append, List.append_assoc, List.singleton_append, readKey, readBasic_text htext]
    rfl
  | literal htext =>
    rw [List.cons_append, List.append_assoc, List.singleton_append, readKey, readLiteral_text htext]
    rfl

/-- A key with blanks around it is read up to what ends a path. -/
theorem readPath_text {before cs behind : List Char} {name : String}
    (hbefore : Blanks before) (h : KeyText cs name)
    (hbehind : Blanks behind) {c : Char} (hc : c = '=' ∨ c = ']') (rest : List Char) :
    ∃ key : Key, key.name = name ∧
      readPath (before ++ (cs ++ (behind ++ c :: rest))) = some (([], key), c :: rest) := by
  have hends : Text.Stops isKeyChar (behind ++ c :: rest) := by
    intro d hd
    cases behind with
    | nil =>
      obtain rfl : c = d := Option.some.inj hd
      rcases hc with rfl | rfl <;> decide
    | cons b behind =>
      obtain rfl : b = d := Option.some.inj hd
      rcases hbehind b List.mem_cons_self with rfl | rfl <;> decide
  have hstop : skipWs (behind ++ c :: rest) = c :: rest := by
    rw [skipWs_append hbehind]
    exact skipWs_cons (by rcases hc with rfl | rfl <;> decide) rest
  refine ⟨⟨name, .between (cs ++ (behind ++ c :: rest)) (behind ++ c :: rest)⟩, rfl, ?_⟩
  rw [readPath, maxNesting, readKeys, skipWs_append hbefore, h.skipWs_append, readKey_text h hends]
  simp only [Option.bind_eq_bind, Option.bind_some, hstop]
  rcases hc with rfl | rfl <;> rfl

end Observability.Toml
