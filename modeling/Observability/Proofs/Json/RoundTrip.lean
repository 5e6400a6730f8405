import Observability.Proofs.Json.DoubleText
import Observability.Proofs.Json.StringText

/-!
# JSON text read back

The text of a value is read as the value itself, its doubles apart: each of them is replaced by what its
text is read as, a finite double by a finite double.

* `mapDoubles f` replaces the doubles of a value; `isExact` says that there are none.
* `Reads v` says that a reader with fuel enough takes the text of `v` and leaves what follows.

`parse?_print` says this of whole texts, for values whose objects have their keys in order.  A text never
breaks a line (`newline_notMem_chars`).
-/

namespace Observability.Json

/-! ## Doubles apart -/

mutual

/-- The value with `f x` in place of each double `x`. -/
def mapDoubles (f : Binary64 → Json) : Json → Json
  | .null => .null
  | .bool b => .bool b
  | .int n => .int n
  | .double x => f x
  | .string s => .string s
  | .array items => .array (mapItems f items)
  | .object members => .object (mapMembers f members)

def mapItems (f : Binary64 → Json) : List Json → List Json
  | [] => []
  | v :: rest => mapDoubles f v :: mapItems f rest

def mapMembers (f : Binary64 → Json) : List (String × Json) → List (String × Json)
  | [] => []
  | (k, v) :: rest => (k, mapDoubles f v) :: mapMembers f rest

end

mutual

/-- Whether there is no double in the value. -/
def isExact : Json → Bool
  | .null | .bool _ | .int _ | .string _ => true
  | .double _ => false
  | .array items => isExactItems items
  | .object members => isExactMembers members

def isExactItems : List Json → Bool
  | [] => true
  | v :: rest => isExact v && isExactItems rest

def isExactMembers : List (String × Json) → Bool
  | [] => true
  | (_, v) :: rest => isExact v && isExactMembers rest

end

variable {f : Binary64 → Json}

mutual

/-- A value without doubles stays as it is. -/
theorem mapDoubles_of_isExact : ∀ v : Json, v.isExact = true → v.mapDoubles f = v
  | .null, _ | .bool _, _ | .int _, _ | .string _, _ => by simp [mapDoubles]
  | .double _, h => by simp [isExact] at h
  | .array items, h => by
    rw [isExact] at h
    rw [mapDoubles, mapItems_of_isExact items h]
  | .object members, h => by
    rw [isExact] at h
    rw [mapDoubles, mapMembers_of_isExact members h]

theorem mapItems_of_isExact : ∀ items : List Json, isExactItems items = true → mapItems f items = items
  | [], _ => by rw [mapItems]
  | v :: rest, h => by
    rw [isExactItems, Bool.and_eq_true] at h
    rw [mapItems, mapDoubles_of_isExact v h.1, mapItems_of_isExact rest h.2]

theorem mapMembers_of_isExact :
    ∀ members : List (String × Json), isExactMembers members = true → mapMembers f members = members
  | [], _ => by rw [mapMembers]
  | (k, v) :: rest, h => by
    rw [isExactMembers, Bool.and_eq_true] at h
    rw [mapMembers, mapDoubles_of_isExact v h.1, mapMembers_of_isExact rest h.2]

end

/-- The keys stay, in their order. -/
theorem keys_mapMembers (members : List (String × Json)) :
    (mapMembers f members).map (·.1) = members.map (·.1) := by
  induction members with
  | nil => simp [mapMembers]
  | cons first rest ih =>
    obtain ⟨k, v⟩ := first
    rw [mapMembers, List.map_cons, List.map_cons, ih]

theorem ascending_mapMembers {members : List (String × Json)} (h : Ascending members) :
    Ascending (mapMembers f members) := by
  rw [Ascending, keys_mapMembers]
  exact h

/-! ## Members in order -/

/-- A key above all others goes to the end. -/
theorem insert_of_above {key : String} {members : List (String × Json)}
    (h : ∀ m ∈ members, m.1 < key) (value : Json) :
    insert key value members = members ++ [(key, value)] := by
  induction members with
  | nil => rfl
  | cons first rest ih =>
    obtain ⟨hfirst, hrest⟩ := List.forall_mem_cons.mp h
    have hnot : ¬ key < first.1 := String.lt_asymm hfirst
    have hne : key ≠ first.1 := fun hsame => String.lt_irrefl key (hsame ▸ hfirst)
    rw [insert, if_neg hnot, if_neg hne, ih hrest]
    rfl

/-- Members in order are those that they stand for. -/
theorem membersOf_of_ascending {members : List (String × Json)} (h : Ascending members) :
    membersOf members = members := by
  have hfold (before rest : List (String × Json)) (h : Ascending (before ++ rest)) :
      rest.foldl (fun members pair => insert pair.1 pair.2 members) before = before ++ rest := by
    induction rest generalizing before with
    | nil => simp
    | cons first rest ih =>
      have habove : ∀ m ∈ before, m.1 < first.1 := by
        intro m hm
        rw [Ascending, List.map_append, List.pairwise_append] at h
        exact h.2.2 m.1 (List.mem_map_of_mem hm) first.1 (by simp)
      rw [List.foldl_cons, insert_of_above habove, ih, List.append_assoc, List.singleton_append]
      rwa [List.append_assoc, List.singleton_append]
  exact hfold [] members h

/-! ## Reading values -/

/-- The text of the value is read, whatever ends it. -/
def Reads (v : Json) : Prop :=
  ∀ (fuel : Nat) {rest : List Char}, (chars v).length ≤ fuel → EndsValue rest →
    readValue fuel (chars v ++ rest) = some (v.mapDoubles Binary64.reread, rest)

/-- A value begins neither with a blank nor with a closing bracket. -/
theorem head_of_readValue {fuel : Nat} {c : Char} {cs : List Char} {read : Json × List Char}
    (h : readValue fuel (c :: cs) = some read) : isBlank c = false ∧ c ≠ ']' := by
  have hnone (h' : c = ' ' ∨ c = '\n' ∨ c = '\t' ∨ c = '\r' ∨ c = ']') :
      readValue fuel (c :: cs) = none := by
    cases fuel with
    | zero => rw [readValue]
    | succ fuel =>
      rcases h' with rfl | rfl | rfl | rfl | rfl <;>
        simp [readValue, readNumber, readMagnitude, Text.isDigit]
  refine ⟨?_, fun hbracket => ?_⟩
  · rw [isBlank, Bool.eq_false_iff]
    intro hblank
    simp only [Bool.or_eq_true, decide_eq_true_eq] at hblank
    rw [hnone (by tauto)] at h
    cases h
  · rw [hnone (by tauto)] at h
    cases h

theorem skipBlanks_cons {c : Char} (hc : isBlank c = false) (cs : List Char) :
    skipBlanks (c :: cs) = c :: cs := by
  rw [skipBlanks, List.dropWhile_cons_of_neg (by simp [hc])]

theorem endsValue_itemChars (items : List Json) (tail : List Char) :
    EndsValue (itemChars items ++ tail) := by
  cases items <;> simp [EndsValue, itemChars]

theorem endsValue_memberChars (members : List (String × Json)) (tail : List Char) :
    EndsValue (memberChars members ++ tail) := by
  cases members <;> simp [EndsValue, memberChars]

/-- The text of a value that is read starts with a character that no reader skips. -/
theorem Reads.exists_cons {v : Json} (h : Reads v) (more : List Char) :
    ∃ c cs, chars v ++ more = c :: cs ∧ isBlank c = false ∧ c ≠ ']' := by
  have hread := h (chars v).length le_rfl Binary64.endsValue_nil
  rw [List.append_nil] at hread
  cases htext : chars v with
  | nil =>
    rw [htext, List.length_nil, readValue] at hread
    cases hread
  | cons c cs =>
    rw [htext] at hread
    exact ⟨c, cs ++ more, rfl, head_of_readValue hread⟩

/-- The first item is read, and then more of them if there is a comma. -/
theorem readItems_first {v : Json} (hv : Reads v) {fuel : Nat} (hfuel : (chars v).length ≤ fuel)
    {more : List Char} (hmore : EndsValue more) :
    readItems (fuel + 1) (chars v ++ more) =
      match skipBlanks more with
      | ']' :: tail => return ([v.mapDoubles Binary64.reread], tail)
      | ',' :: tail => do
        let (values, tail) ← readItems fuel (skipBlanks tail)
        return (v.mapDoubles Binary64.reread :: values, tail)
      | _ => none := by
  rw [readItems, hv fuel hfuel hmore]
  rfl

/-- The items of an array are read if each is, the first of them behind the opening bracket. -/
theorem readItems_chars {v : Json} (hv : Reads v) (rest : List Json) (hrest : ∀ w ∈ rest, Reads w)
    (fuel : Nat) (tail : List Char) (hfuel : (chars v ++ itemChars rest).length ≤ fuel) :
    readItems fuel (chars v ++ (itemChars rest ++ tail)) =
      some (mapItems Binary64.reread (v :: rest), tail) := by
  induction rest generalizing v fuel with
  | nil =>
    simp only [itemChars, List.length_append, List.length_singleton] at hfuel
    obtain ⟨fuel, rfl⟩ : ∃ k, fuel = k + 1 := ⟨fuel - 1, by omega⟩
    rw [readItems_first hv (by omega) (endsValue_itemChars [] tail)]
    simp only [itemChars, mapItems]
    rfl
  | cons w rest ih =>
    obtain ⟨hw, hrest⟩ := List.forall_mem_cons.mp hrest
    simp only [itemChars, List.length_append, List.length_cons] at hfuel
    obtain ⟨fuel, rfl⟩ : ∃ k, fuel = k + 1 := ⟨fuel - 1, by omega⟩
    obtain ⟨c, cs, htext, hblank, -⟩ := hw.exists_cons (itemChars rest ++ tail)
    have hskip : skipBlanks (chars w ++ (itemChars rest ++ tail)) =
        chars w ++ (itemChars rest ++ tail) := by
      rw [htext, skipBlanks_cons hblank]
    have hmore := ih hw hrest fuel (by rw [List.length_append]; omega)
    have hcomma : skipBlanks (itemChars (w :: rest) ++ tail) =
        ',' :: (chars w ++ (itemChars rest ++ tail)) := by
      rw [itemChars, List.cons_append, List.cons_append, skipBlanks_cons (by decide), List.append_assoc]
    rw [readItems_first hv (by omega) (endsValue_itemChars (w :: rest) tail), hcomma]
    simp only [hskip, hmore, mapItems]
    rfl

/-- The text of a member. -/
def memberText (k : String) (v : Json) : List Char := stringChars k ++ ':' :: chars v

/-- The first member is read, and then more of them if there is a comma. -/
theorem readMembers_first (k : String) {v : Json} (hv : Reads v) {fuel : Nat}
    (hfuel : (chars v).length ≤ fuel) {more : List Char} (hmore : EndsValue more) :
    readMembers (fuel + 1) (memberText k v ++ more) =
      match skipBlanks more with
      | '}' :: tail => return ([(k, v.mapDoubles Binary64.reread)], tail)
      | ',' :: tail => do
        let (pairs, tail) ← readMembers fuel (skipBlanks tail)
        return ((k, v.mapDoubles Binary64.reread) :: pairs, tail)
      | _ => none := by
  obtain ⟨c, cs, htext, hblank, -⟩ := hv.exists_cons more
  have hskip : skipBlanks (chars v ++ more) = chars v ++ more := by
    rw [htext, skipBlanks_cons hblank]
  have hcolon : skipBlanks (':' :: (chars v ++ more)) = ':' :: (chars v ++ more) :=
    skipBlanks_cons (by decide) _
  rw [memberText, List.append_assoc, List.cons_append, stringChars_append, readMembers,
    readString_escaped]
  simp only [Option.bind_eq_bind, Option.bind_some, hcolon]
  rw [hskip, hv fuel hfuel hmore, String.ofList_toList]
  rfl

/-- The members of an object are read if the value of each is. -/
theorem readMembers_chars (k : String) {v : Json} (hv : Reads v) (rest : List (String × Json))
    (hrest : ∀ m ∈ rest, Reads m.2) (fuel : Nat) (tail : List Char)
    (hfuel : (memberText k v ++ memberChars rest).length ≤ fuel) :
    readMembers fuel (memberText k v ++ (memberChars rest ++ tail)) =
      some (mapMembers Binary64.reread ((k, v) :: rest), tail) := by
  induction rest generalizing k v fuel with
  | nil =>
    simp only [memberText, memberChars, List.length_append, List.length_cons, List.length_nil] at hfuel
    obtain ⟨fuel, rfl⟩ : ∃ n, fuel = n + 1 := ⟨fuel - 1, by omega⟩
    rw [readMembers_first k hv (by omega) (endsValue_memberChars [] tail)]
    simp only [memberChars, mapMembers]
    rfl
  | cons m rest ih =>
    obtain ⟨k', w⟩ := m
    obtain ⟨hw, hrest⟩ := List.forall_mem_cons.mp hrest
    simp only [memberText, memberChars, List.length_append, List.length_cons] at hfuel
    obtain ⟨fuel, rfl⟩ : ∃ n, fuel = n + 1 := ⟨fuel - 1, by omega⟩
    have hquote : skipBlanks (memberText k' w ++ (memberChars rest ++ tail)) =
        memberText k' w ++ (memberChars rest ++ tail) := by
      rw [memberText, List.append_assoc, stringChars_append, skipBlanks_cons (by decide)]
    have hmore := ih k' hw hrest fuel
      (by simp only [memberText, List.length_append, List.length_cons]; omega)
    have hcomma : skipBlanks (memberChars ((k', w) :: rest) ++ tail) =
        ',' :: (memberText k' w ++ (memberChars rest ++ tail)) := by
      rw [memberChars, List.cons_append, List.cons_append, List.cons_append, skipBlanks_cons (by decide)]
      simp only [memberText, List.append_assoc, List.cons_append]
    rw [readMembers_first k hv (by omega) (endsValue_memberChars ((k', w) :: rest) tail), hcomma]
    simp only [hquote, hmore, mapMembers]
    rfl

/-! ## All values -/

/-- A reader of which the text has at least one character has fuel for it. -/
theorem Reads.of_succ {v : Json} (hpos : chars v ≠ [])
    (h : ∀ (fuel : Nat) {rest : List Char}, (chars v).length ≤ fuel + 1 → EndsValue rest →
      readValue (fuel + 1) (chars v ++ rest) = some (v.mapDoubles Binary64.reread, rest)) : Reads v := by
  intro fuel rest hfuel hrest
  have hlength := List.length_pos_iff.mpr hpos
  obtain ⟨fuel, rfl⟩ : ∃ n, fuel = n + 1 := ⟨fuel - 1, by omega⟩
  exact h fuel hfuel hrest

theorem reads_word {v : Json} {word : List Char} (hchars : chars v = word) (hne : word ≠ [])
    (hsame : v.mapDoubles Binary64.reread = v)
    (hread : ∀ fuel rest, readValue (fuel + 1) (word ++ rest) = some (v, rest)) : Reads v :=
  .of_succ (hchars ▸ hne) fun fuel rest _ _ => by rw [hchars, hsame, hread]

theorem reads_string (s : String) : Reads (.string s) := by
  refine .of_succ (by simp [chars, stringChars]) fun fuel rest _ _ => ?_
  rw [chars, stringChars_append, readValue, readString_escaped, mapDoubles]
  simp

theorem reads_int (n : Json.Integer) : Reads (.int n) := by
  have hne : intChars n.val ≠ [] := by
    rw [intChars]
    split
    · exact List.cons_ne_nil _ _
    · exact Nat.toDigits_ne_nil
  refine .of_succ (by rwa [chars]) fun fuel rest _ hrest => ?_
  rw [chars, readValue_int n fuel hrest, mapDoubles]

theorem reads_double (x : Binary64) : Reads (.double x) := by
  have hne : Decimal.Format.json.chars x ≠ [] := by
    intro hnil
    have hread := x.readValue_chars 0 Binary64.endsValue_nil
    rw [hnil, List.append_nil] at hread
    simp [readValue] at hread
  refine .of_succ (by rwa [chars]) fun fuel rest _ hrest => ?_
  rw [chars, x.readValue_chars fuel hrest, mapDoubles]

/-- An array is read if its items are. -/
theorem reads_array {items : List Json} (h : ∀ v ∈ items, Reads v) : Reads (.array items) := by
  cases items with
  | nil => exact reads_word (by rw [chars]) (by simp) (by simp [mapDoubles, mapItems]) fun _ _ => rfl
  | cons v rest =>
    obtain ⟨hv, hrest⟩ := List.forall_mem_cons.mp h
    refine .of_succ (by simp [chars]) fun fuel tail hfuel _ => ?_
    rw [chars, List.length_append, List.length_cons] at hfuel
    obtain ⟨c, cs, htext, hblank, hbracket⟩ := hv.exists_cons (itemChars rest ++ tail)
    have hread := readItems_chars hv rest hrest fuel tail
      (by rw [List.length_append]; omega)
    rw [htext] at hread
    rw [chars, List.append_assoc, List.cons_append, htext, readValue, skipBlanks_cons hblank]
    split
    · next hclose => exact absurd (List.cons.inj hclose).1 hbracket
    · rw [hread, mapDoubles]
      rfl

/-- An object is read if its keys are in order and the values of its members are read. -/
theorem reads_object {members : List (String × Json)} (hkeys : Ascending members)
    (h : ∀ m ∈ members, Reads m.2) : Reads (.object members) := by
  cases members with
  | nil => exact reads_word (by rw [chars]) (by simp) (by simp [mapDoubles, mapMembers]) fun _ _ => rfl
  | cons m rest =>
    obtain ⟨k, v⟩ := m
    obtain ⟨hv, hrest⟩ := List.forall_mem_cons.mp h
    refine .of_succ (by simp [chars]) fun fuel tail hfuel _ => ?_
    have htext : chars (.object ((k, v) :: rest)) ++ tail =
        '\x7b' :: (memberText k v ++ (memberChars rest ++ tail)) := by
      simp [chars, memberText]
    have hskip : skipBlanks (memberText k v ++ (memberChars rest ++ tail)) =
        memberText k v ++ (memberChars rest ++ tail) := by
      rw [memberText, List.append_assoc, stringChars_append, skipBlanks_cons (by decide)]
    have hread := readMembers_chars k hv rest hrest fuel tail
      (by simp only [memberText, chars, List.length_append, List.length_cons] at hfuel ⊢; omega)
    have hinOrder : ofPairs (mapMembers Binary64.reread ((k, v) :: rest)) =
        (Json.object ((k, v) :: rest)).mapDoubles Binary64.reread := by
      rw [ofPairs, membersOf_of_ascending (ascending_mapMembers hkeys), mapDoubles]
    rw [htext, readValue, hskip]
    split
    · next hclose => simp [memberText, stringChars] at hclose
    · rw [hread, ← hinOrder]
      rfl

mutual

/-- The text of every value is read, if its objects have their keys in order. -/
theorem reads_of_canonical : ∀ v : Json, Canonical v → Reads v
  | .null, _ => reads_word (by rw [chars]) (by simp) (by rw [mapDoubles]) readValue_null
  | .bool true, _ => reads_word (by rw [chars]) (by simp) (by rw [mapDoubles]) fun _ _ => rfl
  | .bool false, _ => reads_word (by rw [chars]) (by simp) (by rw [mapDoubles]) fun _ _ => rfl
  | .int n, _ => reads_int n
  | .double x, _ => reads_double x
  | .string s, _ => reads_string s
  | .array items, h => reads_array (reads_items items (by cases h with | array h => exact h))
  | .object members, h => by
    cases h with
    | object hkeys h => exact reads_object hkeys (reads_members members h)

theorem reads_items : ∀ items : List Json, (∀ v ∈ items, Canonical v) → ∀ v ∈ items, Reads v
  | [], _ => by simp
  | v :: rest, h => by
    obtain ⟨hv, hrest⟩ := List.forall_mem_cons.mp h
    exact List.forall_mem_cons.mpr ⟨reads_of_canonical v hv, reads_items rest hrest⟩

theorem reads_members : ∀ members : List (String × Json), (∀ m ∈ members, Canonical m.2) →
    ∀ m ∈ members, Reads m.2
  | [], _ => by simp
  | (k, v) :: rest, h => by
    obtain ⟨hv, hrest⟩ := List.forall_mem_cons.mp h
    exact List.forall_mem_cons.mpr ⟨reads_of_canonical v hv, reads_members rest hrest⟩

end

/-- **JSON text read back.**  The text of a value whose objects have their keys in order is read as this
value, its doubles apart. -/
theorem parse?_print {v : Json} (h : Canonical v) :
    parse? v.print = some (v.mapDoubles Binary64.reread) := by
  have hreads := reads_of_canonical v h
  obtain ⟨c, cs, htext, hblank, -⟩ := hreads.exists_cons []
  rw [List.append_nil] at htext
  have hskip : skipBlanks (chars v) = chars v := by rw [htext, skipBlanks_cons hblank]
  have hread := hreads ((chars v).length + 1) (Nat.le_succ _) Binary64.endsValue_nil
  rw [List.append_nil] at hread
  rw [parse?, print, String.toList_ofList]
  simp only [hskip, hread, Option.bind_eq_bind, Option.bind_some]
  rfl

/-! ## Values stay on their line -/

theorem newline_notMem_number (t : NumberText) : '\n' ∉ t.chars := by
  have hdigit {c : Char} (h : Text.isDigit c = true) : '\n' ≠ c := by
    rintro rfl
    revert h
    decide
  intro hmem
  rw [NumberText.chars, List.mem_append, List.mem_append] at hmem
  rcases hmem with hwhole | hfraction | hexponent
  · exact hdigit (t.whole_digits _ hwhole) rfl
  · cases hparts : t.fraction with
    | nil => rw [hparts] at hfraction; cases hfraction
    | cons d digits =>
      rw [hparts] at hfraction
      rcases List.mem_cons.mp hfraction with hpoint | hrest
      · revert hpoint; decide
      · exact hdigit (t.fraction_digits _ (hparts ▸ hrest)) rfl
  · cases hparts : t.exponent with
    | none => rw [hparts] at hexponent; cases hexponent
    | some e =>
      obtain ⟨negative, digits⟩ := e
      rw [hparts] at hexponent
      rcases List.mem_cons.mp hexponent with hmark | hexponent
      · revert hmark; decide
      rcases List.mem_cons.mp hexponent with hsign | hrest
      · revert hsign; cases negative <;> decide
      · exact hdigit ((t.exponent_digits _ hparts).2 _ hrest) rfl

theorem newline_notMem_double (x : Binary64) : '\n' ∉ Decimal.Format.json.chars x := by
  rcases x.json_chars with ⟨negative, t, htext, -⟩ | htext
  · rw [htext, List.mem_append, not_or]
    exact ⟨by cases negative <;> decide, newline_notMem_number t⟩
  · rw [htext]
    decide

theorem newline_notMem_toDigits (n : Nat) : '\n' ∉ Nat.toDigits 10 n := by
  intro hmem
  have hdigit := Text.isDigit_of_mem_toDigits hmem
  revert hdigit
  decide

theorem newline_notMem_intChars (n : Int) : '\n' ∉ intChars n := by
  rw [intChars]
  split
  · rw [List.mem_cons, not_or]
    exact ⟨by decide, newline_notMem_toDigits _⟩
  · exact newline_notMem_toDigits _

mutual

/-- The text of a value is one line. -/
theorem newline_notMem_chars : ∀ v : Json, '\n' ∉ chars v
  | .null | .bool true | .bool false => by simp [chars]
  | .int n => by
    rw [chars]
    exact newline_notMem_intChars n.val
  | .double x => by
    rw [chars]
    exact newline_notMem_double x
  | .string s => by
    rw [chars]
    exact newline_notMem_stringChars s
  | .array [] | .object [] => by simp [chars]
  | .array (v :: rest) => by
    have hv := newline_notMem_chars v
    have hrest := newline_notMem_itemChars rest
    simp [chars, hv, hrest]
  | .object ((k, v) :: rest) => by
    have hk := newline_notMem_stringChars k
    have hv := newline_notMem_chars v
    have hrest := newline_notMem_memberChars rest
    simp [chars, hk, hv, hrest]

theorem newline_notMem_itemChars : ∀ items : List Json, '\n' ∉ itemChars items
  | [] => by simp [itemChars]
  | v :: rest => by
    have hv := newline_notMem_chars v
    have hrest := newline_notMem_itemChars rest
    simp [itemChars, hv, hrest]

theorem newline_notMem_memberChars : ∀ members : List (String × Json), '\n' ∉ memberChars members
  | [] => by simp [memberChars]
  | (k, v) :: rest => by
    have hk := newline_notMem_stringChars k
    have hv := newline_notMem_chars v
    have hrest := newline_notMem_memberChars rest
    simp [memberChars, hk, hv, hrest]

end

end Observability.Json
