import Mathlib.Data.List.Forall2
import Observability.Proofs.Toml.Integer
import Observability.Proofs.Toml.Lexical

/-!
# Values in a TOML text

`Setting` is what a key may be set to in a configuration: a string, a natural number, a truth value or
strings in an array.

* `SettingText cs setting` says that `cs` is written for the setting.
* `Holds node setting` says that the node of a tree is the setting, wherever it stands.

`readValue_setting` says that a value is read as a node that holds it.
-/

namespace Observability.Toml

/-- What a key may be set to. -/
inductive Setting where
  | text (value : String)
  | number (value : Nat)
  | flag (value : Bool)
  | texts (items : List String)
  deriving DecidableEq, Repr

/-- Whether a number is one that a document can hold. -/
def Setting.Fits : Setting → Prop
  | .number n => n < 0x8000000000000000
  | _ => True

/-- The node is a string. -/
def IsText (node : Node) (s : String) : Prop := ∃ span, node = .scalar span (.string s)

/-- The node is the setting. -/
inductive Holds : Node → Setting → Prop where
  | text {node : Node} {s : String} : IsText node s → Holds node (.text s)
  | number {span : Span} {n : Nat} : Holds (.scalar span (.integer n)) (.number n)
  | flag {span : Span} {b : Bool} : Holds (.scalar span (.boolean b)) (.flag b)
  | texts {span : Span} {nodes : List Node} {items : List String} :
      List.Forall₂ IsText nodes items → Holds (.array span nodes) (.texts items)

/-! ## Written values -/

/-- The items of an array from behind its opening bracket to the closing one.  A comma may follow the
last of them. -/
inductive ItemsText : List Char → List String → Prop where
  | close {gap : List Char} : Gap gap → ItemsText (gap ++ [']']) []
  | last {before cs s behind : List Char} : Gap before → BasicText cs s → Gap behind →
      ItemsText (before ++ '"' :: (cs ++ '"' :: (behind ++ [']']))) [String.ofList s]
  | more {before cs s behind rest : List Char} {items : List String} : Gap before → BasicText cs s →
      Gap behind → ItemsText rest items →
      ItemsText (before ++ '"' :: (cs ++ '"' :: (behind ++ ',' :: rest))) (String.ofList s :: items)

/-- A value and its text. -/
inductive SettingText : List Char → Setting → Prop where
  | text {cs s : List Char} : BasicText cs s →
      SettingText ('"' :: (cs ++ ['"'])) (.text (String.ofList s))
  | number {cs : List Char} {n : Nat} : IntegerText cs n → SettingText cs (.number n)
  | yes : SettingText ['t', 'r', 'u', 'e'] (.flag true)
  | no : SettingText ['f', 'a', 'l', 's', 'e'] (.flag false)
  | texts {cs : List Char} {items : List String} : ItemsText cs items →
      SettingText ('[' :: cs) (.texts items)

/-- No blank stands in front of a value. -/
theorem SettingText.exists_cons {cs : List Char} {setting : Setting} (h : SettingText cs setting) :
    ∃ c more, cs = c :: more ∧ isWs c = false := by
  cases h with
  | text _ => exact ⟨'"', _, rfl, by decide⟩
  | number hcs =>
    obtain ⟨c, more, hsplit, hc⟩ := hcs.exists_cons
    refine ⟨c, more, hsplit, ?_⟩
    apply isWs_eq_false <;> rintro rfl <;> revert hc <;> decide
  | yes => exact ⟨'t', _, rfl, by decide⟩
  | no => exact ⟨'f', _, rfl, by decide⟩
  | texts _ => exact ⟨'[', _, rfl, by decide⟩

/-- What may follow a value: nothing, or a character that no value goes on with. -/
def EndsSetting (rest : List Char) : Prop :=
  ∀ c ∈ rest.head?, c = ' ' ∨ c = '\t' ∨ c = '#' ∨ c = '\n' ∨ c = '\r'

theorem EndsSetting.stops {rest : List Char} (h : EndsSetting rest) : Text.Stops isBareChar rest := by
  intro c hc
  rcases h c hc with rfl | rfl | rfl | rfl | rfl <;> decide

theorem EndsSetting.head?_ne {rest : List Char} (h : EndsSetting rest) : rest.head? ≠ some '"' := by
  intro hquote
  have hends := h '"' hquote
  revert hends
  decide

/-! ## Reading them -/

/-- Behind a gap stands the bracket or the comma that ends an item, and no quote. -/
theorem Gap.head?_ne {gap : List Char} (h : Gap gap) {c : Char} (hc : c ≠ '"') (rest : List Char) :
    (gap ++ c :: rest).head? ≠ some '"' := by
  cases h with
  | nil => simpa using hc
  | @blank b gap hb _ =>
    have hne : b ≠ '"' := by rintro rfl; exact absurd hb (by decide)
    simpa using hne
  | newline hn _ => cases hn <;> simp
  | comment _ _ _ => simp

/-- A string is read as a node that holds it. -/
theorem readValue_text {cs s : List Char} (h : BasicText cs s) {rest : List Char}
    (hrest : rest.head? ≠ some '"') (nesting : Nat) :
    ∃ node, readValue nesting ('"' :: (cs ++ '"' :: rest)) = some (node, rest) ∧
      IsText node (String.ofList s) := by
  refine ⟨.scalar (.between ('"' :: (cs ++ '"' :: rest)) rest) (.string (String.ofList s)), ?_, _, rfl⟩
  rw [readValue, readString_basic h hrest]
  rfl

/-- The reader at an item of an array: it is read, and then what ends it decides. -/
theorem readItems_item {before cs s behind : List Char} (hbefore : Gap before) (hcs : BasicText cs s)
    (hbehind : Gap behind) {c : Char} (hc : c = ']' ∨ c = ',') (more : List Char)
    (nesting fuel : Nat) :
    ∃ node, IsText node (String.ofList s) ∧
      readItems (readValue nesting) (fuel + 1) (before ++ '"' :: (cs ++ '"' :: (behind ++ c :: more))) =
        if c = ']' then some ([node], more)
        else (readItems (readValue nesting) fuel more).map fun (nodes, rest) => (node :: nodes, rest) := by
  have hquote : c ≠ '"' := by rcases hc with rfl | rfl <;> decide
  obtain ⟨node, hread, hnode⟩ := readValue_text hcs (hbehind.head?_ne hquote more) nesting
  have hstart : skipGaps false (before ++ '"' :: (cs ++ '"' :: (behind ++ c :: more))) =
      some ('"' :: (cs ++ '"' :: (behind ++ c :: more))) := by
    rw [skipGaps_append hbefore, skipGaps_cons (by decide) (by decide)]
  have hends : skipGaps false (behind ++ c :: more) = some (c :: more) := by
    rw [skipGaps_append hbehind]
    rcases hc with rfl | rfl <;> exact skipGaps_cons (by decide) (by decide) more
  refine ⟨node, hnode, ?_⟩
  rw [readItems, hstart]
  show Option.bind (readValue nesting _) _ = _
  rw [hread]
  show Option.bind (skipGaps false (behind ++ c :: more)) _ = _
  rw [hends]
  rcases hc with rfl | rfl
  · rfl
  · rw [if_neg (by decide)]
    show Option.bind (readItems (readValue nesting) fuel more) _ = _
    cases readItems (readValue nesting) fuel more <;> rfl

/-- The items of an array are read as nodes that are their strings. -/
theorem readItems_text {cs : List Char} {items : List String} (h : ItemsText cs items) (nesting : Nat)
    (rest : List Char) {fuel : Nat} (hfuel : cs.length ≤ fuel) :
    ∃ nodes, readItems (readValue nesting) fuel (cs ++ rest) = some (nodes, rest) ∧
      List.Forall₂ IsText nodes items := by
  induction h generalizing fuel with
  | close hgap =>
    obtain ⟨fuel, rfl⟩ : ∃ k, fuel = k + 1 := ⟨fuel - 1, by simp at hfuel; omega⟩
    refine ⟨[], ?_, .nil⟩
    rw [List.append_assoc, List.singleton_append, readItems, skipGaps_append hgap,
      skipGaps_cons (by decide) (by decide)]
    rfl
  | @last before cs s behind hbefore hcs hbehind =>
    obtain ⟨fuel, rfl⟩ : ∃ k, fuel = k + 1 := ⟨fuel - 1, by simp at hfuel; omega⟩
    obtain ⟨node, hnode, hread⟩ := readItems_item hbefore hcs hbehind (.inl rfl) rest nesting fuel
    refine ⟨[node], ?_, .cons hnode .nil⟩
    rw [if_pos rfl] at hread
    simpa using hread
  | @more before cs s behind others items hbefore hcs hbehind _ ih =>
    simp only [List.length_append, List.length_cons] at hfuel
    obtain ⟨fuel, rfl⟩ : ∃ k, fuel = k + 1 := ⟨fuel - 1, by omega⟩
    obtain ⟨node, hnode, hread⟩ :=
      readItems_item hbefore hcs hbehind (.inr rfl) (others ++ rest) nesting fuel
    obtain ⟨nodes, hothers, hnodes⟩ := @ih fuel (by omega)
    refine ⟨node :: nodes, ?_, .cons hnode hnodes⟩
    rw [if_neg (by decide), hothers] at hread
    simpa using hread

/-- What does not start like a string, an array or a table is a bare value. -/
theorem readValue_bare {c : Char} (hc : c ≠ '"' ∧ c ≠ '\'' ∧ c ≠ '[' ∧ c ≠ '{') (nesting : Nat)
    (cs : List Char) :
    readValue nesting (c :: cs) =
      (readBare (c :: cs)).map fun (value, rest) => (.scalar (.between (c :: cs) rest) value, rest) := by
  obtain ⟨hquote, hmark, hbracket, hbrace⟩ := hc
  rw [readValue]
  · exact fun _ heq => hquote (List.cons.inj heq).1
  · exact fun _ heq => hmark (List.cons.inj heq).1
  · exact fun _ heq => hbracket (List.cons.inj heq).1
  · exact fun _ heq => hbrace (List.cons.inj heq).1

/-- A bare value that is read as a scalar stands for it in a node. -/
theorem exists_readValue_of_readBare {token rest : List Char} {value : Scalar}
    (hread : readBare (token ++ rest) = some (value, rest)) {c : Char} {more : List Char}
    (htoken : token = c :: more) (hc : c ≠ '"' ∧ c ≠ '\'' ∧ c ≠ '[' ∧ c ≠ '{') (nesting : Nat) :
    ∃ span, readValue nesting (token ++ rest) = some (.scalar span value, rest) := by
  subst htoken
  refine ⟨.between (c :: more ++ rest) rest, ?_⟩
  rw [List.cons_append, readValue_bare hc, ← List.cons_append, hread]
  rfl

/-- A value is read as a node that holds it, whatever ends it. -/
theorem readValue_setting {cs : List Char} {setting : Setting} (h : SettingText cs setting)
    (hfits : setting.Fits) {rest : List Char} (hrest : EndsSetting rest) (nesting : Nat) :
    ∃ node, readValue (nesting + 1) (cs ++ rest) = some (node, rest) ∧ Holds node setting := by
  cases h with
  | @text cs s hcs =>
    obtain ⟨node, hread, hnode⟩ := readValue_text hcs hrest.head?_ne (nesting + 1)
    refine ⟨node, ?_, .text hnode⟩
    simpa using hread
  | @number cs n hcs =>
    obtain ⟨c, more, htoken, hc⟩ := hcs.exists_cons
    have hstart : c ≠ '"' ∧ c ≠ '\'' ∧ c ≠ '[' ∧ c ≠ '{' := by
      rcases hc with hdigit | rfl
      · refine ⟨?_, ?_, ?_, ?_⟩ <;> rintro rfl <;> exact absurd hdigit (by decide)
      · decide
    obtain ⟨span, hread⟩ := exists_readValue_of_readBare (readBare_integer hcs hfits hrest.stops) htoken
      hstart (nesting + 1)
    exact ⟨_, hread, .number⟩
  | yes =>
    obtain ⟨span, hread⟩ :=
      exists_readValue_of_readBare (readBare_true hrest.stops) rfl (by decide) (nesting + 1)
    exact ⟨_, hread, .flag⟩
  | no =>
    obtain ⟨span, hread⟩ :=
      exists_readValue_of_readBare (readBare_false hrest.stops) rfl (by decide) (nesting + 1)
    exact ⟨_, hread, .flag⟩
  | @texts cs items hcs =>
    have hfuel : cs.length ≤ (cs ++ rest).length + 1 := by simp only [List.length_append]; omega
    obtain ⟨nodes, hread, hnodes⟩ := readItems_text hcs nesting rest hfuel
    refine ⟨.array (.between ('[' :: (cs ++ rest)) rest) nodes, ?_, .texts hnodes⟩
    rw [List.cons_append, readValue, hread]
    rfl

end Observability.Toml
