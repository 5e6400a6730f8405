import Mathlib.Data.List.TakeWhile
import Observability.Proofs.Text.DecimalDigits
import Observability.Proofs.Text.Scan
import Observability.Toml.Scalar

/-!
# Decimal integers in TOML

`IntegerText cs n` says that `cs` is the number `n` in decimal: its digits, underscores between some of
them, and perhaps a plus in front.  `ofToken?_integer` says that the reader takes such a token as the
number, and as no date and no float, and `readBare_integer` that it finds the end of the token.
-/

namespace Observability.Toml

/-- Digits with an underscore between some of them. -/
inductive Grouped : List Char → List Char → Prop where
  | last {d : Char} : d.isDigit = true → Grouped [d] [d]
  | digit {d : Char} {cs ds : List Char} : d.isDigit = true → Grouped cs ds → Grouped (d :: cs) (d :: ds)
  | underscore {d : Char} {cs ds : List Char} : d.isDigit = true → Grouped cs ds →
      Grouped (d :: '_' :: cs) (d :: ds)

/-- A natural number in decimal. -/
inductive IntegerText : List Char → Nat → Prop where
  | plain {cs : List Char} {n : Nat} : Grouped cs (Nat.toDigits 10 n) → IntegerText cs n
  | plus {cs : List Char} {n : Nat} : Grouped cs (Nat.toDigits 10 n) → IntegerText ('+' :: cs) n

namespace Grouped

variable {cs ds : List Char}

theorem head?_eq (h : Grouped cs ds) : cs.head? = ds.head? := by
  cases h <;> rfl

/-- The first character is a digit. -/
theorem exists_cons (h : Grouped cs ds) : ∃ d more, cs = d :: more ∧ d.isDigit = true := by
  cases h with
  | last hd => exact ⟨_, _, rfl, hd⟩
  | digit hd _ => exact ⟨_, _, rfl, hd⟩
  | underscore hd _ => exact ⟨_, _, rfl, hd⟩

theorem all_digits (h : Grouped cs ds) : ∀ d ∈ ds, d.isDigit = true := by
  induction h with
  | last hd => simpa using hd
  | digit hd _ ih => exact List.forall_mem_cons.mpr ⟨hd, ih⟩
  | underscore hd _ ih => exact List.forall_mem_cons.mpr ⟨hd, ih⟩

theorem mem_cases (h : Grouped cs ds) : ∀ c ∈ cs, c.isDigit = true ∨ c = '_' := by
  induction h with
  | last hd => simpa using .inl hd
  | digit hd _ ih => exact List.forall_mem_cons.mpr ⟨.inl hd, ih⟩
  | underscore hd _ ih =>
    exact List.forall_mem_cons.mpr ⟨.inl hd, List.forall_mem_cons.mpr ⟨.inr rfl, ih⟩⟩

/-- A character of neither kind is not there. -/
theorem notMem (h : Grouped cs ds) {c : Char} (hdigit : c.isDigit = false) (hunderscore : c ≠ '_') :
    c ∉ cs := by
  intro hmem
  rcases h.mem_cases c hmem with hd | rfl
  · rw [hdigit] at hd
    cases hd
  · exact hunderscore rfl

/-- One digit is written as itself. -/
theorem eq_of_singleton {d : Char} (h : Grouped cs [d]) : cs = [d] := by
  cases h with
  | last _ => rfl
  | digit _ hrest => cases hrest
  | underscore _ hrest => cases hrest

theorem ne_underscore {d : Char} (h : d.isDigit = true) : d ≠ '_' := by
  rintro rfl
  exact absurd h (by decide)

theorem dropUnderscores_eq (h : Grouped cs ds) : dropUnderscores cs = some ds := by
  induction h with
  | last hd =>
    rw [dropUnderscores]
    exact ne_underscore hd
  | @digit d cs ds hd hrest ih =>
    obtain ⟨e, more, rfl, he⟩ := hrest.exists_cons
    rw [dropUnderscores, ih, Option.map_some]
    · exact fun heq => absurd heq (ne_underscore hd)
    · simp
    · exact ne_underscore hd
    · exact fun _ heq => absurd (List.cons.inj heq).1 (ne_underscore he)
  | @underscore d cs ds hd hrest ih =>
    rw [dropUnderscores, ih, Option.map_some]
    exact ne_underscore hd

/-- The digits of a number are whole digits: zero stands in front of no others. -/
theorem wholeDigits?_eq {n : Nat} (h : Grouped cs (Nat.toDigits 10 n)) :
    wholeDigits? cs = some (Nat.toDigits 10 n) := by
  have hzero : ¬ (cs.head? = some '0' ∧ 1 < cs.length) := by
    rintro ⟨hhead, hlength⟩
    rcases Nat.eq_zero_or_pos n with rfl | hpos
    · have halone : cs = ['0'] := h.eq_of_singleton
      rw [halone] at hlength
      exact absurd hlength (by decide)
    · exact Text.head?_toDigits_ne hpos (h.head?_eq ▸ hhead)
  have hall : (Nat.toDigits 10 n).all Text.isDigit = true :=
    List.all_eq_true.mpr fun d hd => (Text.isDigit_eq d).trans (h.all_digits d hd)
  rw [wholeDigits?, if_neg hzero, h.dropUnderscores_eq, Option.bind_some, if_pos hall]

/-- There is no sign in front of digits. -/
theorem takeSign_eq (h : Grouped cs ds) : takeSign cs = (false, cs) := by
  obtain ⟨d, more, rfl, hd⟩ := h.exists_cons
  rw [takeSign]
  · exact fun _ heq => absurd hd ((List.cons.inj heq).1 ▸ by decide)
  · exact fun _ heq => absurd hd ((List.cons.inj heq).1 ▸ by decide)

end Grouped

namespace IntegerText

variable {cs : List Char} {n : Nat}

/-- Behind its sign an integer is digits. -/
theorem exists_takeSign (h : IntegerText cs n) :
    ∃ body, takeSign cs = (false, body) ∧ Grouped body (Nat.toDigits 10 n) := by
  cases h with
  | plain hbody => exact ⟨cs, hbody.takeSign_eq, hbody⟩
  | plus hbody => exact ⟨_, rfl, hbody⟩

/-- Besides digits there are underscores and a plus. -/
theorem notMem (h : IntegerText cs n) {c : Char} (hc : c.isDigit = false ∧ c ≠ '_' ∧ c ≠ '+') :
    c ∉ cs := by
  obtain ⟨hdigit, hunderscore, hplus⟩ := hc
  cases h with
  | plain hbody => exact hbody.notMem hdigit hunderscore
  | plus hbody => exact List.not_mem_cons_of_ne_of_not_mem hplus (hbody.notMem hdigit hunderscore)

/-- An integer starts with a digit or a plus. -/
theorem exists_cons (h : IntegerText cs n) :
    ∃ c more, cs = c :: more ∧ (c.isDigit = true ∨ c = '+') := by
  cases h with
  | plain hbody =>
    obtain ⟨d, more, hsplit, hd⟩ := hbody.exists_cons
    exact ⟨d, more, hsplit, .inl hd⟩
  | plus hbody => exact ⟨'+', _, rfl, .inr rfl⟩

/-- An integer is cut out as one token. -/
theorem all_isBareChar (h : IntegerText cs n) : ∀ c ∈ cs, isBareChar c = true := by
  have hdigit {c : Char} (hc : c.isDigit = true) : isBareChar c = true := by
    simp [isBareChar, Char.isAlphanum, hc]
  have hbody {body : List Char} (hbody : Grouped body (Nat.toDigits 10 n)) :
      ∀ c ∈ body, isBareChar c = true := by
    intro c hc
    rcases hbody.mem_cases c hc with hd | rfl
    · exact hdigit hd
    · decide
  cases h with
  | plain h => exact hbody h
  | plus h => exact List.forall_mem_cons.mpr ⟨by decide, hbody h⟩

end IntegerText

/-! ## Judging the token -/

/-- A date has a dash in it. -/
theorem isDate_eq_false {cs : List Char} (h : '-' ∉ cs) : isDate cs = false := by
  rw [isDate]
  rintro y₁ y₂ y₃ y₄ m₁ m₂ d₁ d₂ rfl
  simp at h

/-- A time has a colon in it. -/
theorem isTime_eq_false {cs : List Char} (h : ':' ∉ cs) (offset : Bool) : isTime offset cs = false := by
  rw [isTime]
  rintro h₁ h₂ m₁ m₂ s₁ s₂ rest rfl
  simp at h

theorem isDateTime_eq_false {cs : List Char} (hdash : '-' ∉ cs) (hcolon : ':' ∉ cs) :
    isDateTime cs = false := by
  have hfront : '-' ∉ cs.take 10 := fun h => hdash (List.mem_of_mem_take h)
  rw [isDateTime, isDate_eq_false hdash, isTime_eq_false hcolon, isDate_eq_false hfront]
  rfl

/-- An integer is no float: it has neither a point nor an exponent. -/
theorem float?_integer {cs : List Char} {n : Nat} (h : IntegerText cs n) : float? cs = none := by
  obtain ⟨body, hsign, hbody⟩ := h.exists_takeSign
  obtain ⟨d, more, hsplit, hd⟩ := hbody.exists_cons
  have hnot {c : Char} (hc : c.isDigit = false ∧ c ≠ '_') : c ∉ body := hbody.notMem hc.1 hc.2
  have hinf : body ≠ ['i', 'n', 'f'] := by
    rintro rfl
    exact hnot (by decide : 'i'.isDigit = false ∧ 'i' ≠ '_') (by simp)
  have hnan : body ≠ ['n', 'a', 'n'] := by
    rintro rfl
    exact hnot (by decide : 'n'.isDigit = false ∧ 'n' ≠ '_') (by simp)
  have hmark : ∀ c ∈ body, (!(decide (c = 'e') || decide (c = 'E'))) = true := by
    intro c hc
    have he : c ≠ 'e' := by rintro rfl; exact hnot (by decide) hc
    have hE : c ≠ 'E' := by rintro rfl; exact hnot (by decide) hc
    simp [he, hE]
  have hpoint : ∀ c ∈ body, decide (c ≠ '.') = true := by
    intro c hc
    have hne : c ≠ '.' := by rintro rfl; exact hnot (by decide) hc
    simp [hne]
  rw [float?, hsign]
  simp only [if_neg hinf, if_neg hnan, List.takeWhile_eq_self_iff.mpr hmark,
    List.dropWhile_eq_nil_iff.mpr hmark, List.dropWhile_eq_nil_iff.mpr hpoint]
  rfl

theorem integer64?_natCast {n : Nat} (hn : n < 0x8000000000000000) :
    integer64? n = some (.integer n) := by
  have hrange : -0x8000000000000000 ≤ (n : Int) ∧ (n : Int) < 0x8000000000000000 := by omega
  rw [integer64?, if_pos hrange]

/-- An integer of sixty-four bits is read as its number. -/
theorem integer?_integer {cs : List Char} {n : Nat} (h : IntegerText cs n)
    (hn : n < 0x8000000000000000) : integer? cs = some (.integer n) := by
  obtain ⟨body, hsign, hbody⟩ := h.exists_takeSign
  have hbase {c : Char} (hc : c.isDigit = false ∧ c ≠ '_' ∧ c ≠ '+') (digits : List Char) :
      cs ≠ '0' :: c :: digits := by
    rintro rfl
    exact h.notMem hc (by simp)
  rw [integer?]
  · rw [hsign]
    dsimp only
    rw [hbody.wholeDigits?_eq]
    show Option.bind (Text.ofDigits? 10 _) _ = _
    rw [Text.ofDigits?_toDigits, Option.bind_some, if_neg (by decide)]
    exact integer64?_natCast hn
  · exact hbase (by decide)
  · exact hbase (by decide)
  · exact hbase (by decide)

/-- A token that is an integer of sixty-four bits is this integer. -/
theorem ofToken?_integer {cs : List Char} {n : Nat} (h : IntegerText cs n)
    (hn : n < 0x8000000000000000) : Scalar.ofToken? cs = some (.integer n) := by
  have htrue : cs ≠ ['t', 'r', 'u', 'e'] := by
    rintro rfl
    exact h.notMem (c := 't') (by decide) (by simp)
  have hfalse : cs ≠ ['f', 'a', 'l', 's', 'e'] := by
    rintro rfl
    exact h.notMem (c := 'f') (by decide) (by simp)
  have hdate : isDateTime cs = false :=
    isDateTime_eq_false (h.notMem (by decide)) (h.notMem (by decide))
  rw [Scalar.ofToken?, if_neg htrue, if_neg hfalse, hdate, float?_integer h, integer?_integer h hn]
  rfl

/-! ## Finding its end -/

/-- A token that is no date is judged alone, whatever follows it. -/
theorem readBare_token {token rest : List Char} (htoken : ∀ c ∈ token, isBareChar c = true)
    (hdate : isDate token = false) (hrest : Text.Stops isBareChar rest) :
    readBare (token ++ rest) = (Scalar.ofToken? token).map fun s => (s, rest) := by
  rw [readBare, Text.takeWhile_append_of_stops htoken hrest,
    Text.dropWhile_append_of_stops htoken hrest]
  simp only [hdate, Bool.false_and]
  split <;> rfl

theorem readBare_integer {cs rest : List Char} {n : Nat} (h : IntegerText cs n)
    (hn : n < 0x8000000000000000) (hrest : Text.Stops isBareChar rest) :
    readBare (cs ++ rest) = some (.integer n, rest) := by
  rw [readBare_token h.all_isBareChar (isDate_eq_false (h.notMem (by decide))) hrest,
    ofToken?_integer h hn]
  rfl

theorem readBare_true {rest : List Char} (hrest : Text.Stops isBareChar rest) :
    readBare (['t', 'r', 'u', 'e'] ++ rest) = some (.boolean true, rest) :=
  readBare_token (List.all_eq_true.mp rfl) rfl hrest

theorem readBare_false {rest : List Char} (hrest : Text.Stops isBareChar rest) :
    readBare (['f', 'a', 'l', 's', 'e'] ++ rest) = some (.boolean false, rest) :=
  readBare_token (List.all_eq_true.mp rfl) rfl hrest

end Observability.Toml
