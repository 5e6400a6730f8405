import Mathlib.Data.Option.Defs
import Observability.Proofs.Config.Fields
import Observability.Proofs.Config.Problems

/-!
# What a configuration does not depend on

Of a tree whose sections are tables only the entries of the fields count, and of these only the values.

* `known` leaves out every key that names no section and, in the sections, every key that names no field.
* `Reordered` is another order of the sections, and of the keys in each of them.

Both keep the entry of every field, and so does a tree that is the same without its places.
`fields_stand_alone` says what follows for the configuration that is described, and for the document.
-/

namespace Observability.Config

open Toml (Node Entries Key)

/-! ## Places -/

theorem Part.entriesIn_bare (root : Entries) (p : Part) :
    p.entriesIn (Entries.bare root) = Entries.bare (p.entriesIn root) := by
  unfold Part.entriesIn
  rw [Entries.find?_bare]
  cases Entries.find? p.name root with
  | none => rfl
  | some node => cases node <;> rfl

theorem FieldName.entry?_bare (root : Entries) (f : FieldName) :
    f.entry? (Entries.bare root) = (f.entry? root).map Node.bare := by
  rw [FieldName.entry?, Part.entriesIn_bare, Entries.find?_bare, FieldName.entry?]

theorem FieldName.readIn_bare (root : Entries) (f : FieldName) :
    (f.readIn (Entries.bare root)).toOption = (f.readIn root).toOption := by
  rw [FieldName.readIn, FieldName.entry?_bare, FieldName.readIn]
  cases f.entry? root with
  | none => rfl
  | some node => exact f.read_bare node

theorem tabular_bare_iff {root : Entries} : Tabular (Entries.bare root) ↔ Tabular root := by
  constructor
  · intro h
    refine ⟨by simpa using h.names, fun p node hfind => ?_⟩
    obtain ⟨span, origin, entries, hnode, hnames⟩ := h.tables p node.bare (by
      rw [Entries.find?_bare, hfind, Option.map_some])
    obtain ⟨span', origin', own, rfl, rfl⟩ := Node.exists_of_bare_eq_table hnode
    exact ⟨span', origin', own, rfl, by simpa using hnames⟩
  · intro h
    refine ⟨by simpa using h.names, fun p node hfind => ?_⟩
    rw [Entries.find?_bare] at hfind
    obtain ⟨own, hown, rfl⟩ := Option.map_eq_some_iff.mp hfind
    obtain ⟨span, origin, entries, rfl, hnames⟩ := h.tables p own hown
    exact ⟨none, .header, Entries.bare entries, rfl, by simpa using hnames⟩

theorem toOption_eq_some_iff {ε α : Type} {x : Except ε α} {a : α} : x.toOption = some a ↔ x = .ok a := by
  cases x <;> simp [Except.toOption]

section

variable {root other : Entries}

/-- What is read of a field is in the value of its entry. -/
theorem readIn_congr {f : FieldName} (h : f.entry? (Entries.bare other) = f.entry? (Entries.bare root))
    {x : f.Value} : f.readIn other = .ok x ↔ f.readIn root = .ok x := by
  rw [← toOption_eq_some_iff, ← toOption_eq_some_iff, ← f.readIn_bare other, ← f.readIn_bare root,
    FieldName.readIn, FieldName.readIn, h]

/-- What a tree describes is in the values of the fields. -/
theorem decode_of_entries (hroot : Tabular root) (hother : Tabular other)
    (h : ∀ f, FieldName.entry? (Entries.bare other) f = FieldName.entry? (Entries.bare root) f)
    {c : Config} (hdecode : decode root = .ok c) : decode other = .ok c :=
  (decode_eq_ok_iff hother).mpr fun f => (readIn_congr (h f)).mpr ((decode_eq_ok_iff hroot).mp hdecode f)

/-- The tree of a document whose sections are tables has no key twice. -/
theorem tabular_of_parse? {cs : List Char} (h : Toml.parse? cs = some root)
    (htables : ∀ (p : Part) (node : Node), Entries.find? p.name root = some node →
      ∃ span origin entries, node = .table span origin entries) : Tabular root := by
  have hdistinct := Toml.parse?_distinct h
  refine ⟨hdistinct.names, fun p node hfind => ?_⟩
  obtain ⟨span, origin, entries, rfl⟩ := htables p node hfind
  exact ⟨span, origin, entries, rfl, (hdistinct.of_find? hfind).entries.names⟩

end

/-! ## Keys that name no field -/

def Part.all : List Part := [.logging, .tracing, .metrics]

def FieldName.all : List FieldName :=
  [.filter, .format, .verbosity, .sinks, .tracingEnabled, .serviceName, .tracerName, .sampler,
    .shutdownTimeoutSecs, .metricsEnabled, .address]

/-- Whether a section has the name. -/
def isPart (name : String) : Bool := Part.all.any fun p => p.name = name

/-- Whether a field of the section has the key. -/
def isField (part key : String) : Bool := FieldName.all.any fun f => f.part.name = part ∧ f.key = key

theorem isPart_name (p : Part) : isPart p.name = true := by cases p <;> decide

theorem isField_key (f : FieldName) : isField f.part.name f.key = true := by cases f <;> decide

/-- The node of a section without the keys that name no field. -/
def knownNode (part : String) : Node → Node
  | .table span origin entries =>
    .table span origin (entries.filter fun entry => isField part entry.1.name)
  | node => node

/-- The tree without the keys that name no section, and its sections without those that name no field. -/
def known (root : Entries) : Entries :=
  (root.filter fun entry => isPart entry.1.name).map fun entry =>
    (entry.1, knownNode entry.1.name entry.2)

theorem find?_known (root : Entries) (p : Part) :
    Entries.find? p.name (known root) = (Entries.find? p.name root).map (knownNode p.name) := by
  have hmap := Entries.find?_map id (fun _ => rfl) knownNode p.name
    (root.filter fun entry => isPart entry.1.name)
  rw [Entries.find?_filter (isPart_name p)] at hmap
  exact hmap

theorem entry?_known (root : Entries) (f : FieldName) : f.entry? (known root) = f.entry? root := by
  have hentries : f.part.entriesIn (known root) =
      (f.part.entriesIn root).filter fun entry => isField f.part.name entry.1.name := by
    unfold Part.entriesIn
    rw [find?_known]
    cases Entries.find? f.part.name root with
    | none => rfl
    | some node => cases node <;> rfl
  rw [FieldName.entry?, hentries, FieldName.entry?]
  exact Entries.find?_filter (isField_key f) _

theorem tabular_known {root : Entries} (h : Tabular root) : Tabular (known root) where
  names := by
    rw [known, List.map_map]
    exact h.names.sublist (List.filter_sublist.map _)
  tables := by
    intro p node hfind
    rw [find?_known] at hfind
    obtain ⟨own, hown, rfl⟩ := Option.map_eq_some_iff.mp hfind
    obtain ⟨span, origin, entries, rfl, hnames⟩ := h.tables p own hown
    exact ⟨span, origin, _, rfl, hnames.sublist (List.filter_sublist.map _)⟩

/-! ## Order -/

/-- The same value, or tables of the same entries in different orders. -/
inductive SameEntries : Node → Node → Prop where
  | same (node : Node) : SameEntries node node
  | table {span : Option Toml.Span} {origin : Toml.Origin} {entries others : Entries} :
      entries.Perm others → SameEntries (.table span origin entries) (.table span origin others)

/-- The same key with the same entries. -/
structure SameSection (a b : Key × Node) : Prop where
  key : a.1 = b.1
  entries : SameEntries a.2 b.2

/-- The same tree but for the order of its entries and, one level down, of the entries of its tables. -/
def Reordered (root other : Entries) : Prop :=
  ∃ between, List.Forall₂ SameSection root between ∧ between.Perm other

section

variable {root other : Entries}

theorem names_of_forall₂ {between : Entries} (h : List.Forall₂ SameSection root between) :
    between.map (·.1.name) = root.map (·.1.name) := by
  induction h with
  | nil => rfl
  | cons hfirst _ ih => rw [List.map_cons, List.map_cons, ih, hfirst.key]

theorem find?_of_forall₂ {between : Entries} (h : List.Forall₂ SameSection root between)
    (name : String) :
    Option.Rel SameEntries (Entries.find? name root) (Entries.find? name between) := by
  induction h with
  | nil => exact .none
  | cons hfirst _ ih =>
    rw [Entries.find?, Entries.find?, ← hfirst.key]
    split
    · exact .some hfirst.entries
    · exact ih

/-- In another order the same is found under a name, but for the order of its entries. -/
theorem Reordered.find? (h : Reordered root other) (hnames : (root.map (·.1.name)).Nodup)
    (name : String) : Option.Rel SameEntries (Entries.find? name root) (Entries.find? name other) := by
  obtain ⟨between, hsame, hperm⟩ := h
  rw [Entries.find?_perm (by rwa [names_of_forall₂ hsame]) hperm]
  exact find?_of_forall₂ hsame name

theorem Reordered.tabular (h : Reordered root other) (hroot : Tabular root) : Tabular other where
  names := by
    obtain ⟨between, hsame, hperm⟩ := h
    refine (hperm.map _).nodup_iff.mp ?_
    rw [names_of_forall₂ hsame]
    exact hroot.names
  tables := by
    intro p node hfind
    have hrel := h.find? hroot.names p.name
    rw [hfind] at hrel
    cases hown : Entries.find? p.name root with
    | none =>
      rw [hown] at hrel
      cases hrel
    | some own =>
      rw [hown] at hrel
      obtain ⟨span, origin, entries, rfl, hnames⟩ := hroot.tables p own hown
      cases hrel with
      | some hsame =>
        cases hsame with
        | same => exact ⟨span, origin, entries, rfl, hnames⟩
        | table hperm => exact ⟨span, origin, _, rfl, (hperm.map _).nodup_iff.mp hnames⟩

theorem Reordered.entry? (h : Reordered root other) (hroot : Tabular root) (f : FieldName) :
    f.entry? other = f.entry? root := by
  have hentries : (f.part.entriesIn root).Perm (f.part.entriesIn other) := by
    have hrel := h.find? hroot.names f.part.name
    unfold Part.entriesIn
    revert hrel
    generalize Entries.find? f.part.name root = own
    generalize Entries.find? f.part.name other = found
    intro hrel
    cases hrel with
    | none => exact .refl _
    | some hsame =>
      cases hsame with
      | same => exact .refl _
      | table hperm => exact hperm
  exact Entries.find?_perm (hroot.names_entriesIn f.part) hentries f.key

end

/-- **Each field on its own.**  In a tree whose sections are tables every field of the configuration is
what is read of its own entry, or its default if it has none.  So the configuration is the same without
the keys that name no field, with any other such keys of any values, in any other order of sections and
keys, and wherever its entries stand: it is described by every tree with the same values in the fields.
Another tree that describes a configuration agrees with it on each field whose entry has the same value.
A document of the tree is read exactly if the configuration has no problem, and as this configuration. -/
theorem fields_stand_alone {root : Entries} (hroot : Tabular root) {c : Config}
    (hdecode : decode root = .ok c) :
    (∀ f, FieldName.readIn root f = .ok (f.get c)) ∧
      decode (known root) = .ok c ∧
      (∀ other, Tabular other → known (Entries.bare other) = known (Entries.bare root) →
        decode other = .ok c) ∧
      (∀ other, Reordered (Entries.bare root) (Entries.bare other) → decode other = .ok c) ∧
      (∀ other, Tabular other →
        (∀ f, FieldName.entry? (Entries.bare other) f = FieldName.entry? (Entries.bare root) f) →
        decode other = .ok c) ∧
      (∀ other c', Tabular other → decode other = .ok c' → ∀ f,
        FieldName.entry? (Entries.bare other) f = FieldName.entry? (Entries.bare root) f →
        f.get c' = f.get c) ∧
      ∀ text, Toml.parse? text.toList = some root → ∀ read,
        parse text = .ok read ↔ c.problems = [] ∧ read = c := by
  have hbare : Tabular (Entries.bare root) := tabular_bare_iff.mpr hroot
  have hfields := (decode_eq_ok_iff hroot).mp hdecode
  refine ⟨hfields, ?_, ?_, ?_, ?_, ?_, ?_⟩
  · refine decode_of_entries hroot (tabular_known hroot) (fun f => ?_) hdecode
    rw [FieldName.entry?_bare, FieldName.entry?_bare, entry?_known]
  · intro other hother hknown
    refine decode_of_entries hroot hother (fun f => ?_) hdecode
    rw [← entry?_known, hknown, entry?_known]
  · intro other hreordered
    have hother := tabular_bare_iff.mp (hreordered.tabular hbare)
    exact decode_of_entries hroot hother (hreordered.entry? hbare) hdecode
  · intro other hother hentries
    exact decode_of_entries hroot hother hentries hdecode
  · intro other c' hother hdecode' f hentry
    have hread := (readIn_congr hentry).mp ((decode_eq_ok_iff hother).mp hdecode' f)
    rw [hfields f] at hread
    exact (Except.ok.inj hread).symm
  · intro text htext read
    rw [parse_of_decode htext hdecode, checked_eq_ok_iff]

/-- A document with keys that name no field, at the root and in a section, and a section without keys. -/
def strayText : String := "site = 1\n[metrics]\nowner = 2\naddress = \"[::1]:80\"\n[logging]\n"

/-- The tree of the document. -/
def strayTree : Entries :=
  [ (⟨"site", 60, 56⟩, .scalar ⟨53, 52⟩ (.integer 1)),
    (⟨"metrics", 50, 43⟩, .table (some ⟨51, 11⟩) .header
      [ (⟨"owner", 41, 36⟩, .scalar ⟨33, 32⟩ (.integer 2)),
        (⟨"address", 31, 24⟩, .scalar ⟨21, 11⟩ (.string "[::1]:80")) ]),
    (⟨"logging", 9, 2⟩, .table (some ⟨10, 1⟩) .header []) ]

/-- A tree with the same value in the field, in another place, and all else different. -/
def terseTree : Entries :=
  [ (⟨"metrics", 30, 23⟩, .table (some ⟨31, 0⟩) .inline
      [ (⟨"address", 20, 13⟩, .scalar ⟨10, 0⟩ (.string "[::1]:80")) ]) ]

def strayConfig : Config := { metrics := { address := "[::1]:80" } }

theorem parse?_stray : Toml.parse? strayText.toList = some strayTree := rfl

theorem fields_stand_alone_stray :
    Tabular strayTree ∧ decode strayTree = .ok strayConfig ∧
      decode (known strayTree) = .ok strayConfig ∧ decode strayTree.reverse = .ok strayConfig ∧
      Tabular terseTree ∧ decode terseTree = .ok strayConfig ∧
      parse strayText = .ok strayConfig := by
  have htables : ∀ (p : Part) (node : Node), Entries.find? p.name strayTree = some node →
      ∃ span origin entries, node = .table span origin entries := by
    intro p node hfind
    cases p with
    | logging =>
      obtain rfl := Option.some.inj hfind
      exact ⟨_, _, _, rfl⟩
    | tracing => cases hfind
    | metrics =>
      obtain rfl := Option.some.inj hfind
      exact ⟨_, _, _, rfl⟩
  have hstray : Tabular strayTree := tabular_of_parse? parse?_stray htables
  have hterse : Tabular terseTree := by
    refine ⟨by decide, fun p node hfind => ?_⟩
    cases p with
    | logging => cases hfind
    | tracing => cases hfind
    | metrics =>
      obtain rfl := Option.some.inj hfind
      exact ⟨_, _, _, rfl, by decide⟩
  have hdecode : decode strayTree = .ok strayConfig := rfl
  have hreversed : Reordered (Entries.bare strayTree) (Entries.bare strayTree.reverse) := by
    refine ⟨Entries.bare strayTree, List.forall₂_same.mpr fun _ _ => ⟨rfl, .same _⟩, ?_⟩
    rw [Entries.bare_eq_map, Entries.bare_eq_map, List.map_reverse]
    exact (List.reverse_perm _).symm
  have hagree : ∀ f, FieldName.entry? (Entries.bare terseTree) f =
      FieldName.entry? (Entries.bare strayTree) f := by
    intro f
    cases f <;> rfl
  obtain ⟨-, hknown, -, horder, hentries, -, hparse⟩ := fields_stand_alone hstray hdecode
  exact ⟨hstray, hdecode, hknown, horder _ hreversed, hterse, hentries _ hterse hagree,
    (hparse strayText parse?_stray strayConfig).mpr ⟨by decide +kernel, rfl⟩⟩

end Observability.Config
