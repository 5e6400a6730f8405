import Mathlib.Data.List.Nodup
import Observability.Toml.Document

/-!
# Keys of a TOML tree

A reader of trees refuses a key that is set twice.  `Entries.Distinct` says that no table has one, at any
depth.  Everything that grows a table keeps this: an entry under a new key, another value under an old
one, a header (`descend_distinct`, `addEntries_distinct`, `addSection_distinct`).  The values that are
read have it too (`readValue_distinct`), and so has the tree of a document (`parse?_distinct`).
-/

namespace Observability.Toml

/-- No table of the node has a key twice, at any depth. -/
inductive Node.Distinct : Node → Prop where
  | scalar (span : Span) (value : Scalar) : Distinct (.scalar span value)
  | array (span : Span) {items : List Node} : (∀ item ∈ items, Distinct item) →
      Distinct (.array span items)
  | tables (span : Span) {items : List Node} : (∀ item ∈ items, Distinct item) →
      Distinct (.tables span items)
  | table (span : Option Span) (origin : Origin) {entries : Entries} :
      (entries.map (·.1.name)).Nodup → (∀ entry ∈ entries, Distinct entry.2) →
      Distinct (.table span origin entries)

namespace Entries

/-- The table has no key twice, at any depth. -/
structure Distinct (entries : Entries) : Prop where
  names : (entries.map (·.1.name)).Nodup
  values : ∀ entry ∈ entries, entry.2.Distinct

variable {name : String} {entries : Entries}

/-- What is found stands in the table, under the name. -/
theorem mem_of_find? {node : Node} (h : find? name entries = some node) :
    ∃ key, (key, node) ∈ entries ∧ key.name = name := by
  induction entries with
  | nil => cases h
  | cons entry rest ih =>
    unfold find? at h
    split at h
    · next hname =>
      obtain rfl := Option.some.inj h
      exact ⟨entry.1, List.mem_cons_self, hname⟩
    · obtain ⟨key, hmem, hkey⟩ := ih h
      exact ⟨key, List.mem_cons_of_mem _ hmem, hkey⟩

/-- Where nothing is found, no key has the name. -/
theorem notMem_of_find? (h : find? name entries = none) : name ∉ entries.map (·.1.name) := by
  intro hmem
  induction entries with
  | nil => cases hmem
  | cons entry rest ih =>
    unfold find? at h
    split at h
    · cases h
    · next hname =>
      rcases List.mem_cons.mp hmem with rfl | hmem
      · exact hname rfl
      · exact ih h hmem

theorem map_name_replace (name : String) (node : Node) (entries : Entries) :
    (replace name node entries).map (·.1.name) = entries.map (·.1.name) := by
  induction entries with
  | nil => rfl
  | cons entry rest ih =>
    unfold replace
    split
    · rfl
    · rw [List.map_cons, List.map_cons, ih]

theorem mem_replace {node : Node} {entry : Key × Node} (h : entry ∈ replace name node entries) :
    entry.2 = node ∨ entry ∈ entries := by
  induction entries with
  | nil => cases h
  | cons first rest ih =>
    unfold replace at h
    split at h
    · rcases List.mem_cons.mp h with rfl | hmem
      · exact .inl rfl
      · exact .inr (List.mem_cons_of_mem _ hmem)
    · rcases List.mem_cons.mp h with rfl | hmem
      · exact .inr List.mem_cons_self
      · exact (ih hmem).imp_right (List.mem_cons_of_mem _)

namespace Distinct

theorem nil : Distinct [] := ⟨List.nodup_nil, by simp⟩

/-- One entry more, under a name that is new. -/
theorem concat (h : entries.Distinct) {key : Key} {node : Node}
    (hnew : find? key.name entries = none) (hnode : node.Distinct) :
    Distinct (entries ++ [(key, node)]) where
  names := by
    rw [List.map_append, List.map_singleton]
    refine h.names.append (List.nodup_singleton _) ?_
    intro other hother hkey
    obtain rfl := List.mem_singleton.mp hkey
    exact notMem_of_find? hnew hother
  values := by
    intro entry hentry
    rcases List.mem_append.mp hentry with hentry | hentry
    · exact h.values entry hentry
    · obtain rfl := List.mem_singleton.mp hentry
      exact hnode

theorem replace (h : entries.Distinct) (name : String) {node : Node} (hnode : node.Distinct) :
    Distinct (Entries.replace name node entries) where
  names := by
    rw [map_name_replace]
    exact h.names
  values := by
    intro entry hentry
    rcases mem_replace hentry with heq | hmem
    · rw [heq]
      exact hnode
    · exact h.values entry hmem

theorem erase (h : entries.Distinct) (name : String) : Distinct (Entries.erase name entries) where
  names := h.names.sublist (List.filter_sublist.map _)
  values := fun entry hentry => h.values entry (List.mem_of_mem_filter hentry)

theorem of_find? (h : entries.Distinct) {node : Node} (hfind : find? name entries = some node) :
    node.Distinct := by
  obtain ⟨key, hmem, -⟩ := mem_of_find? hfind
  exact h.values _ hmem

end Distinct

theorem find?_erase (name : String) (entries : Entries) :
    find? name (Entries.erase name entries) = none := by
  cases h : find? name (Entries.erase name entries) with
  | none => rfl
  | some node =>
    obtain ⟨key, hmem, hkey⟩ := mem_of_find? h
    exact absurd hkey (by simpa using List.of_mem_filter hmem)

end Entries

theorem Node.Distinct.entries {span : Option Span} {origin : Origin} {entries : Entries}
    (h : (Node.table span origin entries).Distinct) : entries.Distinct := by
  cases h with
  | table _ _ hnames hvalues => exact ⟨hnames, hvalues⟩

theorem Node.Distinct.items {span : Span} {items : List Node} (h : (Node.tables span items).Distinct) :
    ∀ item ∈ items, item.Distinct := by
  cases h with
  | tables _ hitems => exact hitems

theorem Entries.Distinct.table {entries : Entries} (h : entries.Distinct) (span : Option Span)
    (origin : Origin) : (Node.table span origin entries).Distinct :=
  .table span origin h.names h.values

/-! ## Growing -/

/-- What every step keeps, a sequence of steps keeps. -/
theorem foldlM_keeps {α β : Type} {keeps : β → Prop} {step : β → α → Option β} {list : List α}
    (hstep : ∀ a ∈ list, ∀ before after, keeps before → step before a = some after → keeps after)
    {start result : β} (hstart : keeps start) (h : list.foldlM step start = some result) :
    keeps result := by
  induction list generalizing start with
  | nil =>
    obtain rfl := Option.some.inj h
    exact hstart
  | cons a rest ih =>
    obtain ⟨hfirst, hrest⟩ := List.forall_mem_cons.mp hstep
    rw [List.foldlM_cons] at h
    obtain ⟨next, hnext, h⟩ := Option.bind_eq_some_iff.mp h
    exact ih hrest (hfirst start next hstart hnext) h

/-- A change that keeps a table distinct does so at the end of a path too. -/
theorem descend_distinct {dotted : Bool} {change : Origin → Entries → Option Entries}
    (hchange : ∀ origin (inner result : Entries), inner.Distinct →
      change origin inner = some result → result.Distinct)
    {path : List Key} {origin : Origin} {entries result : Entries} (hentries : entries.Distinct)
    (h : descend dotted change path origin entries = some result) : result.Distinct := by
  induction path generalizing origin entries result with
  | nil => exact hchange origin entries result hentries h
  | cons key path ih =>
    unfold descend at h
    split at h
    · next hnew =>
      obtain ⟨inner, hinner, h⟩ := Option.bind_eq_some_iff.mp h
      obtain rfl := Option.some.inj h
      exact hentries.concat hnew ((ih .nil hinner).table _ _)
    · next span found inner hfind =>
      split at h
      · cases h
      · obtain ⟨after, hafter, h⟩ := Option.bind_eq_some_iff.mp h
        obtain rfl := Option.some.inj h
        exact hentries.replace _ ((ih (hentries.of_find? hfind).entries hafter).table _ _)
    · next span items hfind =>
      have hitems := (hentries.of_find? hfind).items
      split at h
      · next last found inner hlast =>
        obtain ⟨after, hafter, h⟩ := Option.bind_eq_some_iff.mp h
        obtain rfl := Option.some.inj h
        have hinner := (hitems _ (List.mem_of_getLast? hlast)).entries
        refine hentries.replace _ (.tables _ fun item hitem => ?_)
        rcases List.mem_append.mp hitem with hitem | hitem
        · exact hitems item (List.dropLast_subset _ hitem)
        · obtain rfl := List.mem_singleton.mp hitem
          exact (ih hinner hafter).table _ _
      · cases h
    · cases h

theorem addEntry_distinct {origin : Origin} {entries result : Entries} {entry : Entry}
    (hentries : entries.Distinct) (hvalue : entry.value.Distinct)
    (h : addEntry origin entries entry = some result) : result.Distinct := by
  refine descend_distinct (fun found inner after hinner hafter => ?_) hentries h
  split at hafter
  · cases hafter
  · split at hafter
    · cases hafter
    · next hnew =>
      obtain rfl := Option.some.inj hafter
      exact hinner.concat hnew hvalue

theorem addEntries_distinct {origin : Origin} {entries result : Entries} {list : List Entry}
    (hentries : entries.Distinct) (hvalues : ∀ entry ∈ list, entry.value.Distinct)
    (h : addEntries origin entries list = some result) : result.Distinct :=
  foldlM_keeps (fun entry hentry _ _ hbefore hstep =>
    addEntry_distinct hbefore (hvalues entry hentry) hstep) hentries h

/-! ## Values -/

section

variable {value : List Char → Option (Node × List Char)}
  (hvalue : ∀ {cs : List Char} {node : Node} {rest : List Char}, value cs = some (node, rest) →
    node.Distinct)

include hvalue

theorem readItems_distinct {fuel : Nat} {cs rest : List Char} {items : List Node}
    (h : readItems value fuel cs = some (items, rest)) : ∀ item ∈ items, item.Distinct := by
  induction fuel generalizing cs items rest with
  | zero => cases h
  | succ fuel ih =>
    unfold readItems at h
    obtain ⟨start, -, h⟩ := Option.bind_eq_some_iff.mp h
    split at h
    · obtain ⟨rfl, rfl⟩ := Prod.mk.inj (Option.some.inj h)
      simp
    · obtain ⟨⟨node, behind⟩, hnode, h⟩ := Option.bind_eq_some_iff.mp h
      obtain ⟨next, -, h⟩ := Option.bind_eq_some_iff.mp h
      split at h
      · obtain ⟨rfl, rfl⟩ := Prod.mk.inj (Option.some.inj h)
        exact List.forall_mem_singleton.mpr (hvalue hnode)
      · obtain ⟨⟨nodes, behind⟩, hnodes, h⟩ := Option.bind_eq_some_iff.mp h
        obtain ⟨rfl, rfl⟩ := Prod.mk.inj (Option.some.inj h)
        exact List.forall_mem_cons.mpr ⟨hvalue hnode, ih hnodes⟩
      · cases h

theorem readEntry_distinct {cs rest : List Char} {entry : Entry}
    (h : readEntry value cs = some (entry, rest)) : entry.value.Distinct := by
  unfold readEntry at h
  obtain ⟨⟨⟨path, key⟩, behind⟩, -, h⟩ := Option.bind_eq_some_iff.mp h
  dsimp only at h
  split at h
  · obtain ⟨⟨node, behind⟩, hnode, h⟩ := Option.bind_eq_some_iff.mp h
    obtain ⟨rfl, rfl⟩ := Prod.mk.inj (Option.some.inj h)
    exact hvalue hnode
  · cases h

theorem readPairs_distinct {fuel : Nat} {cs rest : List Char} {entries : List Entry}
    (h : readPairs value fuel cs = some (entries, rest)) : ∀ entry ∈ entries, entry.value.Distinct := by
  induction fuel generalizing cs entries rest with
  | zero => cases h
  | succ fuel ih =>
    unfold readPairs at h
    obtain ⟨⟨entry, behind⟩, hentry, h⟩ := Option.bind_eq_some_iff.mp h
    have hfirst := readEntry_distinct hvalue hentry
    dsimp only at h
    split at h
    · obtain ⟨rfl, rfl⟩ := Prod.mk.inj (Option.some.inj h)
      exact List.forall_mem_singleton.mpr hfirst
    · obtain ⟨⟨others, behind⟩, hothers, h⟩ := Option.bind_eq_some_iff.mp h
      obtain ⟨rfl, rfl⟩ := Prod.mk.inj (Option.some.inj h)
      exact List.forall_mem_cons.mpr ⟨hfirst, ih hothers⟩
    · cases h

end

/-- A value has no key twice. -/
theorem readValue_distinct {nesting : Nat} {cs rest : List Char} {node : Node}
    (h : readValue nesting cs = some (node, rest)) : node.Distinct := by
  induction nesting using Nat.strongRecOn generalizing cs node rest with
  | ind nesting ih =>
    unfold readValue at h
    split at h
    · obtain ⟨⟨text, behind⟩, -, h⟩ := Option.map_eq_some_iff.mp h
      obtain ⟨rfl, rfl⟩ := Prod.mk.inj h
      exact .scalar _ _
    · obtain ⟨⟨text, behind⟩, -, h⟩ := Option.map_eq_some_iff.mp h
      obtain ⟨rfl, rfl⟩ := Prod.mk.inj h
      exact .scalar _ _
    · cases nesting with
      | zero => cases h
      | succ inner =>
        obtain ⟨⟨items, behind⟩, hitems, h⟩ := Option.bind_eq_some_iff.mp h
        obtain ⟨rfl, rfl⟩ := Prod.mk.inj (Option.some.inj h)
        exact .array _ (readItems_distinct (ih inner (Nat.lt_succ_self inner)) hitems)
    · cases nesting with
      | zero => cases h
      | succ inner =>
        dsimp only at h
        split at h
        · obtain ⟨⟨list, behind⟩, hlist, h⟩ := Option.bind_eq_some_iff.mp h
          obtain ⟨rfl, rfl⟩ := Prod.mk.inj (Option.some.inj hlist)
          obtain ⟨entries, hentries, h⟩ := Option.bind_eq_some_iff.mp h
          obtain ⟨rfl, rfl⟩ := Prod.mk.inj (Option.some.inj h)
          exact (addEntries_distinct .nil (List.forall_mem_nil _) hentries).table _ _
        · obtain ⟨⟨list, behind⟩, hlist, h⟩ := Option.bind_eq_some_iff.mp h
          obtain ⟨entries, hentries, h⟩ := Option.bind_eq_some_iff.mp h
          obtain ⟨rfl, rfl⟩ := Prod.mk.inj (Option.some.inj h)
          have hvalues := readPairs_distinct (ih inner (Nat.lt_succ_self inner)) hlist
          exact (addEntries_distinct .nil hvalues hentries).table _ _
    · obtain ⟨⟨value, behind⟩, -, h⟩ := Option.map_eq_some_iff.mp h
      obtain ⟨rfl, rfl⟩ := Prod.mk.inj h
      exact .scalar _ _

/-! ## Documents -/

/-- What a line sets has no key twice. -/
def Statement.Distinct : Statement → Prop
  | .header _ => True
  | .entry line => line.value.Distinct

theorem readStatements_distinct {fuel : Nat} {cs : List Char} {statements : List Statement}
    (h : readStatements fuel cs = some statements) : ∀ statement ∈ statements, statement.Distinct := by
  induction fuel generalizing cs statements with
  | zero => cases h
  | succ fuel ih =>
    unfold readStatements at h
    split at h
    · obtain rfl := Option.some.inj h
      simp
    · obtain ⟨rest, -, h⟩ := Option.bind_eq_some_iff.mp h
      exact ih h
    · exact ih h
    · obtain ⟨rest, -, h⟩ := Option.bind_eq_some_iff.mp h
      exact ih h
    · obtain ⟨⟨header, behind⟩, -, h⟩ := Option.bind_eq_some_iff.mp h
      obtain ⟨rest, -, h⟩ := Option.bind_eq_some_iff.mp h
      obtain ⟨others, hothers, h⟩ := Option.bind_eq_some_iff.mp h
      obtain rfl := Option.some.inj h
      exact List.forall_mem_cons.mpr ⟨trivial, ih hothers⟩
    · obtain ⟨⟨entry, behind⟩, hentry, h⟩ := Option.bind_eq_some_iff.mp h
      obtain ⟨rest, -, h⟩ := Option.bind_eq_some_iff.mp h
      obtain ⟨others, hothers, h⟩ := Option.bind_eq_some_iff.mp h
      obtain rfl := Option.some.inj h
      exact List.forall_mem_cons.mpr ⟨readEntry_distinct readValue_distinct hentry, ih hothers⟩

/-- Gathered under their headers, the entries are those of the lines. -/
theorem ofStatements_distinct {statements : List Statement}
    (h : ∀ statement ∈ statements, statement.Distinct) :
    (∀ entry ∈ (Document.ofStatements statements).preamble, entry.value.Distinct) ∧
      ∀ part ∈ (Document.ofStatements statements).sections, ∀ entry ∈ part.entries,
        entry.value.Distinct := by
  induction statements with
  | nil => simp [Document.ofStatements]
  | cons statement rest ih =>
    obtain ⟨hfirst, hrest⟩ := List.forall_mem_cons.mp h
    obtain ⟨hpreamble, hsections⟩ := ih hrest
    cases statement with
    | entry entry => exact ⟨List.forall_mem_cons.mpr ⟨hfirst, hpreamble⟩, hsections⟩
    | header header => exact ⟨by simp [Document.ofStatements],
        List.forall_mem_cons.mpr ⟨hpreamble, hsections⟩⟩

theorem addTo_distinct {part : Section} (hpart : ∀ entry ∈ part.entries, entry.value.Distinct)
    {parent result : Entries} (hparent : parent.Distinct) (h : part.addTo parent = some result) :
    result.Distinct := by
  have htable {inner : Entries} (hinner : inner.Distinct) {node : Node}
      (hnode : (addEntries .header inner part.entries).map (.table (some part.span) .header) =
        some node) : node.Distinct := by
    obtain ⟨after, hafter, rfl⟩ := Option.map_eq_some_iff.mp hnode
    exact (addEntries_distinct hinner hpart hafter).table _ _
  unfold Section.addTo at h
  simp only at h
  split at h
  · split at h
    · next hnew =>
      obtain ⟨node, hnode, h⟩ := Option.bind_eq_some_iff.mp h
      obtain rfl := Option.some.inj h
      exact hparent.concat hnew (.tables _ (List.forall_mem_singleton.mpr (htable .nil hnode)))
    · next span items hfind =>
      obtain ⟨node, hnode, h⟩ := Option.bind_eq_some_iff.mp h
      obtain rfl := Option.some.inj h
      refine hparent.replace _ (.tables _ fun item hitem => ?_)
      rcases List.mem_append.mp hitem with hitem | hitem
      · exact (hparent.of_find? hfind).items item hitem
      · obtain rfl := List.mem_singleton.mp hitem
        exact htable .nil hnode
    · cases h
  · split at h
    · next hnew =>
      obtain ⟨node, hnode, h⟩ := Option.bind_eq_some_iff.mp h
      obtain rfl := Option.some.inj h
      exact hparent.concat hnew (htable .nil hnode)
    · next span inner hfind =>
      obtain ⟨node, hnode, h⟩ := Option.bind_eq_some_iff.mp h
      obtain rfl := Option.some.inj h
      have hinner := (hparent.of_find? hfind).entries
      exact (hparent.erase _).concat (Entries.find?_erase _ _) (htable hinner hnode)
    · cases h

theorem addSection_distinct {part : Section} (hpart : ∀ entry ∈ part.entries, entry.value.Distinct)
    {root result : Entries} (hroot : root.Distinct) (h : addSection root part = some result) :
    result.Distinct :=
  descend_distinct (fun _ _ _ hinner hafter => addTo_distinct hpart hinner hafter) hroot h

/-- **No key twice.**  The tree of a document has no key twice in a table, at any depth. -/
theorem parse?_distinct {text : List Char} {root : Entries} (h : parse? text = some root) :
    root.Distinct := by
  unfold parse? at h
  obtain ⟨statements, hread, h⟩ := Option.bind_eq_some_iff.mp h
  obtain ⟨hpreamble, hsections⟩ := ofStatements_distinct (readStatements_distinct hread)
  unfold Document.root? at h
  obtain ⟨before, hbefore, h⟩ := Option.bind_eq_some_iff.mp h
  have hstep : ∀ part ∈ (Document.ofStatements statements).sections, ∀ root after,
      root.Distinct → addSection root part = some after → after.Distinct :=
    fun part hpart _ _ hroot hafter => addSection_distinct (hsections part hpart) hroot hafter
  exact foldlM_keeps hstep (addEntries_distinct .nil hpreamble hbefore) h

end Observability.Toml
