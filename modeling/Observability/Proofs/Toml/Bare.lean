import Mathlib.Data.List.Perm.Basic
import Mathlib.Data.Option.Basic
import Observability.Proofs.Toml.Distinct

/-!
# The values of a TOML tree

A tree knows where its keys and values stand in the text, which array came from headers and how a table
came about.  `Node.bare` and `Entries.bare` leave only the value, so trees of one value are the same when bare.

What is found in a table is then described by what becomes of it when the table is changed: `find?_map`
for a change of every value, `find?_filter` for keys that are left out, `find?_perm` for another order.
-/

namespace Observability.Toml

mutual

/-- The value alone. -/
def Node.bare : Node → Node
  | .scalar _ value => .scalar ⟨0, 0⟩ value
  | .array _ items => .array ⟨0, 0⟩ (Node.bareAll items)
  | .tables _ items => .array ⟨0, 0⟩ (Node.bareAll items)
  | .table _ _ entries => .table none .header (Entries.bare entries)

/-- The values of several nodes. -/
def Node.bareAll : List Node → List Node
  | [] => []
  | node :: rest => node.bare :: Node.bareAll rest

/-- The keys of a table and their values alone. -/
def Entries.bare : List (Key × Node) → List (Key × Node)
  | [] => []
  | (key, node) :: rest => (⟨key.name, ⟨0, 0⟩⟩, node.bare) :: Entries.bare rest

end

theorem Node.bareAll_eq_map (items : List Node) : Node.bareAll items = items.map Node.bare := by
  induction items with
  | nil => rfl
  | cons node rest ih => rw [bareAll, ih, List.map_cons]

/-- What is a table when bare, is a table. -/
theorem Node.exists_of_bare_eq_table {node : Node} {span : Option Span} {origin : Origin}
    {entries : Entries} (h : node.bare = .table span origin entries) :
    ∃ span' origin' own, node = .table span' origin' own ∧ Entries.bare own = entries := by
  cases node with
  | table span' origin' own => exact ⟨span', origin', own, rfl, (Node.table.inj h).2.2⟩
  | scalar => cases h
  | array => cases h
  | tables => cases h

namespace Entries

theorem bare_eq_map (entries : Entries) :
    bare entries = entries.map fun entry => (⟨entry.1.name, ⟨0, 0⟩⟩, entry.2.bare) := by
  induction entries with
  | nil => rfl
  | cons entry rest ih => rw [bare, ih, List.map_cons]

@[simp] theorem names_bare (entries : Entries) :
    (bare entries).map (·.1.name) = entries.map (·.1.name) := by
  rw [bare_eq_map, List.map_map]
  rfl

/-! ## What is found -/

variable {name : String} {entries other : Entries}

/-- A change of the values that keeps the names changes what is found, and nothing else. -/
theorem find?_map (rename : Key → Key) (hname : ∀ key, (rename key).name = key.name)
    (change : String → Node → Node) (name : String) (entries : Entries) :
    find? name (entries.map fun entry => (rename entry.1, change entry.1.name entry.2)) =
      (find? name entries).map (change name) := by
  induction entries with
  | nil => rfl
  | cons entry rest ih =>
    rw [List.map_cons, find?, find?, hname, ih]
    by_cases h : entry.1.name = name
    · rw [if_pos h, if_pos h, h, Option.map_some]
    · rw [if_neg h, if_neg h]

theorem find?_bare (name : String) (entries : Entries) :
    find? name (bare entries) = (find? name entries).map Node.bare := by
  rw [bare_eq_map]
  exact find?_map (fun key => ⟨key.name, ⟨0, 0⟩⟩) (fun _ => rfl) (fun _ => Node.bare) name entries

/-- Leaving out other names changes nothing. -/
theorem find?_filter {keep : String → Bool} (hkeep : keep name = true) (entries : Entries) :
    find? name (entries.filter fun entry => keep entry.1.name) = find? name entries := by
  induction entries with
  | nil => rfl
  | cons entry rest ih =>
    by_cases hentry : keep entry.1.name = true
    · rw [List.filter_cons, if_pos hentry, find?, find?, ih]
    · have hne : entry.1.name ≠ name := by
        rintro rfl
        exact hentry hkeep
      rw [List.filter_cons, if_neg hentry, find?, if_neg hne, ih]

/-- In a table without a key twice, an entry is what is found under its name. -/
theorem find?_eq_some_iff (hnames : (entries.map (·.1.name)).Nodup) {node : Node} :
    find? name entries = some node ↔ ∃ key, (key, node) ∈ entries ∧ key.name = name := by
  constructor
  · exact mem_of_find?
  · rintro ⟨key, hmem, rfl⟩
    cases hfind : find? key.name entries with
    | none => exact absurd (List.mem_map_of_mem hmem) (notMem_of_find? hfind)
    | some found =>
      obtain ⟨other, hother, hname⟩ := mem_of_find? hfind
      have heq := List.inj_on_of_nodup_map hnames hother hmem hname
      rw [(Prod.mk.inj heq).2]

/-- The order of the keys changes nothing. -/
theorem find?_perm (hnames : (entries.map (·.1.name)).Nodup) (h : entries.Perm other) (name : String) :
    find? name other = find? name entries := by
  have hother : (other.map (·.1.name)).Nodup := (h.map _).nodup_iff.mp hnames
  ext node
  rw [find?_eq_some_iff hnames, find?_eq_some_iff hother]
  simp only [h.mem_iff]

end Entries

end Observability.Toml
