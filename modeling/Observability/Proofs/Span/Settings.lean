import Mathlib.Data.List.Nodup
import Observability.Proofs.Span.Attributes

/-!
# What start options come to

Start options are folded from left to right.  What comes of them is said here of the whole list.

* `SpanSettings.kinds` and `SpanSettings.listed` pick the kinds and the attributes out of the options.
* `Attribute.Gathers given list` says that `list` has every key of `given` once, where that key first
  occurs, with the value it has last.  Only one list does (`Gathers.unique`).

`Attribute.gathers_merged` says that merged attributes gather the given ones, and `find?_merged` what is
found among them.  `settings_of_options` puts kind and attributes together.
-/

namespace Observability

namespace Attribute

/-- Where the key first occurs. -/
def firstPlace (given : List Attribute) (key : String) : Nat := (given.map (·.key)).idxOf key

/-- No attribute behind this one has its key. -/
def IsLast (given : List Attribute) (a : Attribute) : Prop :=
  ∃ before after, given = before ++ a :: after ∧ a.key ∉ after.map (·.key)

/-- `list` has every key of `given` once, in the order of first occurrences, with its last value. -/
structure Gathers (given list : List Attribute) : Prop where
  nodup : (list.map (·.key)).Nodup
  mem_keys (key : String) : key ∈ list.map (·.key) ↔ key ∈ given.map (·.key)
  isLast {a : Attribute} (ha : a ∈ list) : IsLast given a
  ordered : list.Pairwise fun a b => firstPlace given a.key < firstPlace given b.key

/-! ## The attribute that has a key last -/

theorem last?_eq_some_iff {given : List Attribute} {key : String} {a : Attribute} :
    last? given key = some a ↔ a.key = key ∧ IsLast given a := by
  rw [last?, List.find?_eq_some_iff_append, decide_eq_true_eq]
  refine and_congr_right fun hkey => ⟨?_, ?_⟩
  · rintro ⟨later, earlier, hgiven, hlater⟩
    refine ⟨earlier.reverse, later.reverse, by simpa using List.reverse_eq_append_iff.mp hgiven, ?_⟩
    intro hmem
    obtain ⟨other, hother, hsame⟩ := List.mem_map.mp hmem
    simpa [hsame.trans hkey] using hlater other (List.mem_reverse.mp hother)
  · rintro ⟨before, after, rfl, hafter⟩
    refine ⟨after.reverse, before.reverse, by simp, fun other hother => ?_⟩
    have hne : other.key ≠ key := fun hsame =>
      hafter (List.mem_map.mpr ⟨other, List.mem_reverse.mp hother, hsame.trans hkey.symm⟩)
    simpa using hne

theorem last?_eq_none_iff {given : List Attribute} {key : String} :
    last? given key = none ↔ key ∉ given.map (·.key) := by
  simp [last?]

/-- Of two last attributes with one key there is only one. -/
theorem IsLast.unique {given : List Attribute} {a b : Attribute} (ha : IsLast given a)
    (hb : IsLast given b) (hkey : a.key = b.key) : a = b := by
  have hfound := last?_eq_some_iff.mpr ⟨hkey, ha⟩
  rw [last?_eq_some_iff.mpr ⟨rfl, hb⟩] at hfound
  exact (Option.some.inj hfound).symm

/-! ## What merging gives -/

/-- Merged attributes have the given keys without repetition. -/
theorem map_key_merged (given : List Attribute) :
    (merged given).map (·.key) = (given.map (·.key)).eraseDups := by
  have hkey : ∀ key ∈ (given.map (·.key)).eraseDups, (last? given key).map (·.key) = some key := by
    intro key hmem
    obtain ⟨a, ha, hkey⟩ := exists_last? (List.mem_eraseDups.mp hmem)
    rw [ha, Option.map_some, hkey]
  rw [merged, List.map_filterMap, List.filterMap_congr hkey, List.filterMap_some]

/-- Without repetitions, keys stand in the order in which they first occur. -/
theorem pairwise_eraseDups (keys : List String) :
    keys.eraseDups.Pairwise fun a b => keys.idxOf a < keys.idxOf b := by
  induction keys using List.reverseRecOn with
  | nil => exact List.Pairwise.nil
  | append_singleton keys key ih =>
    have hplace : ∀ {other}, other ∈ keys.eraseDups →
        (keys ++ [key]).idxOf other = keys.idxOf other := fun h =>
      List.idxOf_append_of_mem (List.mem_eraseDups.mp h)
    have hold : keys.eraseDups.Pairwise fun a b =>
        (keys ++ [key]).idxOf a < (keys ++ [key]).idxOf b :=
      ih.imp_of_mem fun ha hb hlt => by rwa [hplace ha, hplace hb]
    rw [eraseDups_concat]
    split
    · exact hold
    · next hnew =>
      refine List.pairwise_append.mpr ⟨hold, List.pairwise_singleton _ _, fun a ha b hb => ?_⟩
      rw [List.mem_singleton.mp hb, hplace ha, List.idxOf_append_of_notMem hnew,
        List.idxOf_cons_self, Nat.add_zero]
      exact List.idxOf_lt_length_of_mem (List.mem_eraseDups.mp ha)

/-- **Merged attributes gather the given ones.** -/
theorem gathers_merged (given : List Attribute) : Gathers given (merged given) where
  nodup := map_key_merged given ▸ nodup_eraseDups _
  mem_keys key := by rw [map_key_merged, List.mem_eraseDups]
  isLast {a} ha := by
    obtain ⟨key, -, hlast⟩ := List.mem_filterMap.mp ha
    exact (last?_eq_some_iff.mp hlast).2
  ordered := by
    have hkeys := pairwise_eraseDups (given.map (·.key))
    rw [← map_key_merged, List.pairwise_map] at hkeys
    exact hkeys

/-- Only one list gathers the given attributes. -/
theorem Gathers.unique {given list other : List Attribute} (h : Gathers given list)
    (h' : Gathers given other) : list = other := by
  have hsub : ∀ {list other}, Gathers given list → Gathers given other → ∀ a ∈ list, a ∈ other := by
    intro list other h h' a ha
    have hkey : a.key ∈ other.map (·.key) :=
      (h'.mem_keys _).mpr ((h.mem_keys _).mp (List.mem_map_of_mem ha))
    obtain ⟨b, hb, hsame⟩ := List.mem_map.mp hkey
    exact (h'.isLast hb).unique (h.isLast ha) hsame ▸ hb
  refine List.Perm.eq_of_pairwise (fun a b _ _ hab hba => absurd hba (Nat.lt_asymm hab))
    h.ordered h'.ordered ?_
  exact (List.perm_ext_iff_of_nodup (.of_map _ h.nodup) (.of_map _ h'.nodup)).mpr
    fun a => ⟨hsub h h' a, hsub h' h a⟩

/-- A look-up among merged attributes finds the value that was given last. -/
theorem find?_merged (given : List Attribute) (key : String) :
    find? key (merged given) = (last? given key).map (·.value) := by
  induction given using List.reverseRecOn with
  | nil => rfl
  | append_singleton given new ih =>
    rw [merged_concat, last?_concat, covering]
    split
    · next same => rw [← same, find?_put_self, Option.map_some]
    · next differ => rw [find?_put_of_ne (Ne.symm differ), ih]

theorem find?_merged_eq_some_iff {given : List Attribute} {key : String} {value : AttributeValue} :
    find? key (merged given) = some value ↔ IsLast given ⟨key, value⟩ := by
  rw [find?_merged, Option.map_eq_some_iff]
  constructor
  · rintro ⟨a, hfound, rfl⟩
    obtain ⟨rfl, hlast⟩ := last?_eq_some_iff.mp hfound
    exact hlast
  · intro hlast
    exact ⟨⟨key, value⟩, last?_eq_some_iff.mpr ⟨rfl, hlast⟩, rfl⟩

theorem find?_merged_eq_none_iff {given : List Attribute} {key : String} :
    find? key (merged given) = none ↔ key ∉ given.map (·.key) := by
  rw [find?_merged, Option.map_eq_none_iff, last?_eq_none_iff]

end Attribute

/-! ## Options -/

namespace SpanSettings

/-- The kinds among the options, in their order. -/
def kinds (options : List StartOption) : List SpanKind :=
  options.filterMap fun
    | .kind kind => some kind
    | .attributes _ => none

/-- The last kind wins; a span without one is internal. -/
theorem kind_ofOptions (options : List StartOption) :
    (ofOptions options).kind = (kinds options).getLast?.getD .internal := by
  induction options using List.reverseRecOn with
  | nil => rfl
  | append_singleton options option ih =>
    rw [ofOptions_append, List.foldl_cons, List.foldl_nil, kinds, List.filterMap_append, ← kinds]
    cases option with
    | kind kind => simp [apply]
    | attributes list => simpa [apply] using ih

/-- Options matter by their kinds in order and their attributes in order, and by nothing else. -/
theorem ofOptions_eq (options : List StartOption) :
    ofOptions options =
      ⟨(kinds options).getLast?.getD .internal, Attribute.merged (listed options)⟩ := by
  rw [← kind_ofOptions, ← attributes_ofOptions]

/-- **What options come to.**  The kind is the last one given, internal if there is none.  The attributes
are the one list that has every given key once, in the order of first occurrences, with its last value.
A look-up finds the last value of a key, and nothing under a key that was not given.  How attributes are
grouped and how kinds stand between them makes no difference, and more options continue the fold. -/
theorem settings_of_options (options : List StartOption) :
    let settings := ofOptions options
    settings.kind = (kinds options).getLast?.getD .internal ∧
    (∀ list, Attribute.Gathers (listed options) list ↔ list = settings.attributes) ∧
    (∀ key value, settings.valueOf? key = some value ↔
      Attribute.IsLast (listed options) ⟨key, value⟩) ∧
    (∀ key, settings.valueOf? key = none ↔ key ∉ (listed options).map (·.key)) ∧
    (∀ other, kinds other = kinds options → listed other = listed options →
      ofOptions other = settings) ∧
    ∀ more, ofOptions (options ++ more) = more.foldl apply settings := by
  intro settings
  have hattributes : settings.attributes = Attribute.merged (listed options) :=
    attributes_ofOptions options
  refine ⟨kind_ofOptions options, fun list => ⟨fun h => ?_, ?_⟩, fun key value => ?_, fun key => ?_,
    fun other hkinds hlisted => ?_, ofOptions_append options⟩
  · rw [hattributes]
    exact h.unique (Attribute.gathers_merged _)
  · rintro rfl
    rw [hattributes]
    exact Attribute.gathers_merged _
  · rw [valueOf?, hattributes]
    exact Attribute.find?_merged_eq_some_iff
  · rw [valueOf?, hattributes]
    exact Attribute.find?_merged_eq_none_iff
  · rw [ofOptions_eq, hkinds, hlisted, ← ofOptions_eq]

/-- Attributes in three options with a kind in between are as in one: `a` keeps its place and gets the
value given last, and the kind before the last is lost. -/
theorem settings_of_options_regrouped :
    let a (n : Int64) : Attribute := ⟨"a", .int n⟩
    let b : Attribute := ⟨"b", .bool true⟩
    let options : List StartOption :=
      [.attributes [a 1, b], .kind .server, .attributes [a 2], .kind .producer, .attributes [a 3]]
    let other : List StartOption := [.kind .server, .attributes [a 1, b, a 2, a 3], .kind .producer]
    kinds other = kinds options ∧ listed other = listed options ∧
      ofOptions other = ofOptions options ∧ (ofOptions options).kind = .producer ∧
      Attribute.Gathers (listed options) [a 3, b] := by
  intro a b options other
  have hkinds : kinds other = kinds options := rfl
  have hlisted : listed other = listed options := rfl
  obtain ⟨hkind, hgathers, -, -, hsame, -⟩ := settings_of_options options
  exact ⟨hkinds, hlisted, hsame other hkinds hlisted, hkind, (hgathers _).mpr (by decide)⟩

end SpanSettings

end Observability
