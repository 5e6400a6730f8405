import Mathlib.Data.List.Basic
import Mathlib.Data.List.Induction
import Observability.Span.Options

/-!
# Merged attributes

Putting attributes into a list one after the other keeps each key once.  `Attribute.merged` says what
comes of a whole list without going through it step by step: the keys stand in the order in which they
first occur, and each has the value it has last.

`putAll_merged` says that putting them in one by one gives just this, and `attributes_ofOptions` that
options do the same with their attributes, however these are grouped.
-/

namespace Observability

namespace Attribute

/-- The attribute that has the key last. -/
def last? (list : List Attribute) (key : String) : Option Attribute :=
  list.reverse.find? fun a => a.key = key

/-- Each key once, at the position of its first occurrence, with its last value. -/
def merged (list : List Attribute) : List Attribute :=
  (list.map (·.key)).eraseDups.filterMap (last? list)

/-- The look-up with `new` in place of what its key had. -/
def covering (new : Attribute) (last : String → Option Attribute) (key : String) : Option Attribute :=
  if new.key = key then some new else last key

theorem last?_concat (list : List Attribute) (new : Attribute) :
    last? (list ++ [new]) = covering new (last? list) := by
  funext key
  simp only [last?, covering, List.reverse_append, List.reverse_cons, List.reverse_nil,
    List.nil_append, List.cons_append, List.find?_cons]
  by_cases h : new.key = key <;> simp [h]

/-- Where the key does not occur, the look-up is the same. -/
theorem filterMap_covering {new : Attribute} {keys : List String} (h : new.key ∉ keys)
    (last : String → Option Attribute) :
    keys.filterMap (covering new last) = keys.filterMap last := by
  refine List.filterMap_congr fun key hkey => ?_
  rw [covering, if_neg]
  intro heq
  exact h (heq ▸ hkey)

/-- A key that occurs has a last attribute. -/
theorem exists_last? {list : List Attribute} {key : String} (h : key ∈ list.map (·.key)) :
    ∃ a, last? list key = some a ∧ a.key = key := by
  obtain ⟨old, hold, hkey⟩ := List.mem_map.mp h
  have hsome : (last? list key).isSome := by
    rw [last?, List.find?_isSome]
    exact ⟨old, List.mem_reverse.mpr hold, by simpa using hkey⟩
  obtain ⟨a, ha⟩ := Option.isSome_iff_exists.mp hsome
  exact ⟨a, ha, by simpa using List.find?_some ha⟩

/-! ## Keys without repetition -/

/-- One more key comes last, unless it is there. -/
theorem eraseDups_concat (keys : List String) (key : String) :
    (keys ++ [key]).eraseDups =
      if key ∈ keys then keys.eraseDups else keys.eraseDups ++ [key] := by
  rw [List.eraseDups_append, List.removeAll]
  by_cases h : key ∈ keys <;> simp [h, List.eraseDups_cons]

theorem nodup_eraseDups (keys : List String) : keys.eraseDups.Nodup := by
  induction keys using List.reverseRecOn with
  | nil => exact List.nodup_nil
  | append_singleton keys key ih =>
    rw [eraseDups_concat]
    split
    · exact ih
    · next hnew =>
      refine List.nodup_append.mpr ⟨ih, by simp, ?_⟩
      intro old hold other hother heq
      rw [List.mem_singleton.mp hother] at heq
      exact hnew (heq ▸ List.mem_eraseDups.mp hold)

/-! ## One attribute more -/

/-- To put an attribute in is to look its key up anew, if the key is there. -/
theorem put_filterMap (new : Attribute) {last : String → Option Attribute} {keys : List String}
    (hlast : ∀ key ∈ keys, ∃ a, last key = some a ∧ a.key = key) (hkeys : keys.Nodup) :
    put new (keys.filterMap last) =
      if new.key ∈ keys then keys.filterMap (covering new last)
      else keys.filterMap last ++ [new] := by
  induction keys with
  | nil => simp [put]
  | cons key rest ih =>
    obtain ⟨hfirst, hrest⟩ := List.nodup_cons.mp hkeys
    obtain ⟨a, ha, hkey⟩ := hlast key List.mem_cons_self
    have ih := ih (fun other hother => hlast other (List.mem_cons_of_mem _ hother)) hrest
    rw [List.filterMap_cons_some ha, put]
    by_cases hsame : new.key = key
    · have hplace : covering new last key = some new := if_pos hsame
      rw [if_pos (hkey.trans hsame.symm), if_pos (by simp [hsame]),
        List.filterMap_cons_some hplace, filterMap_covering (hsame ▸ hfirst), hkey, ← hsame]
    · have hplace : covering new last key = some a := (if_neg hsame).trans ha
      have hmem : new.key ∈ key :: rest ↔ new.key ∈ rest := by simp [hsame]
      rw [if_neg (fun heq => hsame (heq.symm.trans hkey)), ih]
      by_cases hin : new.key ∈ rest
      · rw [if_pos hin, if_pos (hmem.mpr hin), List.filterMap_cons_some hplace]
      · rw [if_neg hin, if_neg (fun h => hin (hmem.mp h)), List.cons_append]

/-- Merging goes on from what was merged before. -/
theorem merged_concat (list : List Attribute) (new : Attribute) :
    merged (list ++ [new]) = put new (merged list) := by
  have hkeys : (list ++ [new]).map (·.key) = list.map (·.key) ++ [new.key] := by simp
  rw [merged, merged, hkeys, eraseDups_concat, last?_concat,
    put_filterMap new (fun key h => exists_last? (List.mem_eraseDups.mp h)) (nodup_eraseDups _)]
  by_cases hold : new.key ∈ list.map (·.key)
  · rw [if_pos hold, if_pos (List.mem_eraseDups.mpr hold)]
  · have hnew : new.key ∉ (list.map (·.key)).eraseDups := fun h => hold (List.mem_eraseDups.mp h)
    rw [if_neg hold, if_neg hnew, List.filterMap_append, filterMap_covering hnew]
    simp [covering]

/-! ## Whole lists -/

/-- Attributes put in after others that were merged are merged with them. -/
theorem putAll_merged (news list : List Attribute) :
    putAll news (merged list) = merged (list ++ news) := by
  induction news using List.reverseRecOn with
  | nil => simp [putAll]
  | append_singleton news new ih =>
    calc putAll (news ++ [new]) (merged list)
        = put new (putAll news (merged list)) := by rw [putAll, putAll, List.foldl_concat]
      _ = merged (list ++ (news ++ [new])) := by rw [ih, ← merged_concat, List.append_assoc]

end Attribute

namespace SpanSettings

/-- The attributes among the options, in their order. -/
def listed (options : List StartOption) : List Attribute :=
  options.flatMap fun
    | .kind _ => []
    | .attributes list => list

/-- Options merge their attributes. -/
theorem attributes_ofOptions (options : List StartOption) :
    (ofOptions options).attributes = Attribute.merged (listed options) := by
  induction options using List.reverseRecOn with
  | nil => rfl
  | append_singleton options option ih =>
    have hlisted : listed (options ++ [option]) = listed options ++ listed [option] :=
      List.flatMap_append
    rw [ofOptions_append, hlisted, List.foldl_cons, List.foldl_nil]
    cases option with
    | kind kind => simpa [apply, listed] using ih
    | attributes list =>
      rw [apply, ih, Attribute.putAll_merged]
      simp [listed]

end SpanSettings

end Observability
