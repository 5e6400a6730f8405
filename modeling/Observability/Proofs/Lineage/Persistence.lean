import Mathlib.Data.Finset.Card
import Observability.Correlation

/-!
# Contexts as persistent maps

A run makes new contexts and derives others from any of those it has: by a copy, by a value of an
application, by a span, and by adopting or ensuring a correlation id.  Beside each context it notes what
the context is to be:

* `BuiltContext.inserted` lists what was inserted on the path of the context, the latest first;
* `BuiltContext.home` is the place of the step that its storage goes back to.  Copies go back to where
  their source does, and so do contexts that are asked to take an id and have one (`isIdentity`); every
  other step is a home of its own.

Both are noted without looking at the context.  `exists_derive` says all that a step does, `Sound` is what
a run keeps, and `contexts_persist` says of every run that its contexts are the maps that were noted and
share their storage with those of their home only.
-/

namespace Observability

/-! ## Runs that build contexts -/

/-- A way to derive a context without starting a span. -/
inductive ContextStep where
  | copy
  /-- a value of an application, in any slot that applications can name -/
  | withValue (slot : Slot) (isOpen : slot.isOpen = true) (value : slot.Value)
  | withSpan (span : SpanHandle)
  | adopt (id : CorrelationId)
  | ensure

/-- A context, and what is noted of it. -/
structure BuiltContext where
  context : Context
  home : Nat
  inserted : List Cell

/-- Whether a correlation id was inserted. -/
def carriesId (inserted : List Cell) : Bool := inserted.any fun cell => cell.slot = .correlation

namespace ContextStep

/-- What the step gives, and the value that it brings. -/
def outcome : ContextStep → Context → Act (Context × Option Cell)
  | .copy, ctx => return (ctx, none)
  | .withValue slot _ value, ctx => return (← ctx.withValue slot value, some ⟨slot, value⟩)
  | .withSpan span, ctx => return (← ctx.withSpan span, some ⟨.span, span⟩)
  | .adopt id, ctx => return (← ctx.adoptCorrelationId id, some ⟨.correlation, id⟩)
  | .ensure, ctx => do
    let (ctx, id) ← ctx.ensureCorrelationId
    return (ctx, some ⟨.correlation, id⟩)

/-- Whether the step inserts nothing on a path with these insertions. -/
def isIdentity (inserted : List Cell) : ContextStep → Bool
  | .copy => true
  | .withValue .. | .withSpan _ => false
  | .adopt _ | .ensure => carriesId inserted

/-- Whether the step is one of an application's own values. -/
def isOpen : ContextStep → Bool
  | .withValue .. => true
  | .copy | .withSpan _ | .adopt _ | .ensure => false

end ContextStep

/-- Derives a context, and notes what it is to be; `place` is the one that it comes to. -/
def BuiltContext.derive (source : BuiltContext) (place : Nat) (step : ContextStep) :
    Act BuiltContext := do
  let (ctx, brought) ← step.outcome source.context
  if step.isIdentity source.inserted then return { source with context := ctx }
  else return ⟨ctx, place, brought.toList ++ source.inserted⟩

/-- A step of a run: a new context, or one derived from that at a place. -/
inductive ContextCommand where
  | create
  | derive (source : Nat) (step : ContextStep)

namespace ContextCommand

/-- Puts the context behind those built so far; at a place without one there is nothing to derive. -/
def perform (built : List BuiltContext) : ContextCommand → Act (List BuiltContext)
  | .create => do return built ++ [⟨← Context.create, built.length, []⟩]
  | .derive place step => do
    match built[place]? with
    | some source => return built ++ [← source.derive built.length step]
    | none => return built

/-- The contexts that a run builds, in order. -/
def performAll (commands : List ContextCommand) : Act (List BuiltContext) :=
  commands.foldlM perform []

end ContextCommand

/-! ## The nearest insertion -/

/-- The first of the cells in `slot` holds `value`. -/
def IsNearest (slot : Slot) (value : slot.Value) (cells : List Cell) : Prop :=
  ∃ later earlier, cells = later ++ ⟨slot, value⟩ :: earlier ∧ ∀ cell ∈ later, cell.slot ≠ slot

namespace Context

theorem lookup_cons_self (cell : Cell) (rest : List Cell) :
    lookup cell.slot (cell :: rest) = some cell.value := by
  simp [lookup]

theorem lookup_cons_of_ne {slot : Slot} {cell : Cell} (h : cell.slot ≠ slot) (rest : List Cell) :
    lookup slot (cell :: rest) = lookup slot rest := by
  simp [lookup, h]

/-- Nothing is found exactly in a slot that no cell is in. -/
theorem lookup_eq_none_iff {slot : Slot} {cells : List Cell} :
    lookup slot cells = none ↔ ∀ cell ∈ cells, cell.slot ≠ slot := by
  induction cells with
  | nil => simp [lookup]
  | cons cell rest ih =>
    by_cases hslot : cell.slot = slot
    · subst hslot
      simp [lookup_cons_self]
    · simp [lookup_cons_of_ne hslot, ih, hslot]

/-- What is found is the value of the first cell in the slot. -/
theorem lookup_eq_some_iff {slot : Slot} {value : slot.Value} {cells : List Cell} :
    lookup slot cells = some value ↔ IsNearest slot value cells := by
  constructor
  · intro h
    induction cells with
    | nil => cases h
    | cons cell rest ih =>
      by_cases hslot : cell.slot = slot
      · subst hslot
        rw [lookup_cons_self] at h
        obtain rfl := Option.some.inj h
        exact ⟨[], rest, rfl, by simp⟩
      · rw [lookup_cons_of_ne hslot] at h
        obtain ⟨later, earlier, rfl, hlater⟩ := ih h
        exact ⟨cell :: later, earlier, rfl, List.forall_mem_cons.mpr ⟨hslot, hlater⟩⟩
  · rintro ⟨later, earlier, rfl, hlater⟩
    induction later with
    | nil => exact lookup_cons_self ⟨slot, value⟩ earlier
    | cons cell later ih =>
      obtain ⟨hslot, hrest⟩ := List.forall_mem_cons.mp hlater
      rw [List.cons_append, lookup_cons_of_ne hslot]
      exact ih hrest

end Context

theorem carriesId_iff {inserted : List Cell} :
    carriesId inserted = (Context.lookup .correlation inserted).isSome := by
  rw [Bool.eq_iff_iff, Option.isSome_iff_ne_none, ne_eq, Context.lookup_eq_none_iff]
  simp [carriesId]

/-! ## One step -/

namespace ContextStep

/-- A step gives the very context back, or inserts what it brings in a storage of its own; an id is
inserted only where there is none. -/
theorem outcome_cases (step : ContextStep) {ctx : Context} {inserted : List Cell}
    (hid : carriesId inserted = ctx.correlationId?.isSome) (c : Collector) :
    (step.isIdentity inserted = true ∧
      ∃ brought, Act.runOn (step.outcome ctx) c = (.ok (ctx, brought), c)) ∨
    (step.isIdentity inserted = false ∧ ∃ cell c',
      (cell.slot = .correlation → carriesId inserted = false) ∧ cell.slot.isOpen = step.isOpen ∧
      Act.runOn (step.outcome ctx) c =
        (.ok (ctx.insert c.storageCount cell.slot cell.value, some cell), c') ∧
      c'.storageCount = c.storageCount + 1) := by
  cases step with
  | copy => exact Or.inl ⟨rfl, none, rfl⟩
  | withValue slot isOpen value =>
    refine Or.inr ⟨rfl, ⟨slot, value⟩, _, ?_, isOpen, rfl, rfl⟩
    rintro rfl
    cases isOpen
  | withSpan span => exact Or.inr ⟨rfl, ⟨.span, span⟩, _, by simp, rfl, rfl, rfl⟩
  | adopt id =>
    cases hcarried : ctx.correlationId? with
    | some present =>
      refine Or.inl ⟨by rw [isIdentity, hid, hcarried]; rfl, some ⟨.correlation, id⟩, ?_⟩
      rw [outcome, Act.runOn_bind, Context.runOn_adoptCorrelationId_of_some hcarried]
      rfl
    | none =>
      have hnone : carriesId inserted = false := by rw [hid, hcarried]; rfl
      refine Or.inr ⟨hnone, ⟨.correlation, id⟩, { c with storageCount := c.storageCount + 1 },
        fun _ => hnone, rfl, ?_, rfl⟩
      rw [outcome, Act.runOn_bind, Context.runOn_adoptCorrelationId_of_none hcarried]
      rfl
  | ensure =>
    cases hcarried : ctx.correlationId? with
    | some id =>
      refine Or.inl ⟨by rw [isIdentity, hid, hcarried]; rfl, some ⟨.correlation, id⟩, ?_⟩
      rw [outcome, Act.runOn_bind, Context.runOn_ensureCorrelationId_of_some hcarried]
      rfl
    | none =>
      have hnone : carriesId inserted = false := by rw [hid, hcarried]; rfl
      refine Or.inr ⟨hnone, ⟨.correlation, ⟨c.idText c.idCount⟩⟩,
        { c with idCount := c.idCount + 1, storageCount := c.storageCount + 1 },
        fun _ => hnone, rfl, ?_, rfl⟩
      rw [outcome, Act.runOn_bind, Context.runOn_ensureCorrelationId_of_none hcarried]
      rfl

end ContextStep

namespace BuiltContext

/-- The context holds what was inserted, each slot once. -/
structure Faithful (built : BuiltContext) : Prop where
  get_eq : ∀ slot, built.context.get slot = Context.lookup slot built.inserted
  distinct : (built.context.cells.map Cell.slot).Nodup
  slots : ∀ slot, slot ∈ built.context.cells.map Cell.slot ↔ slot ∈ built.inserted.map Cell.slot
  one_id : built.inserted.countP (fun cell => cell.slot = .correlation) ≤ 1

/-- A new context holds nothing. -/
theorem faithful_empty (storage : StorageId) (place : Nat) :
    Faithful ⟨Context.empty storage, place, []⟩ where
  get_eq _ := rfl
  distinct := List.nodup_nil
  slots _ := Iff.rfl
  one_id := Nat.zero_le _

/-- What is inserted is held from then on, instead of what was in its slot. -/
theorem Faithful.insert {source : BuiltContext} (h : source.Faithful) (storage : StorageId) (place : Nat)
    {cell : Cell} (hfirst : cell.slot = .correlation → carriesId source.inserted = false) :
    Faithful ⟨source.context.insert storage cell.slot cell.value, place, cell :: source.inserted⟩ where
  get_eq slot := by
    by_cases hslot : cell.slot = slot
    · subst hslot
      rw [Context.get_insert_self, Context.lookup_cons_self]
    · rw [Context.get_insert_of_ne _ _ _ (Ne.symm hslot), Context.lookup_cons_of_ne hslot, h.get_eq]
  distinct := by
    refine List.nodup_cons.mpr ⟨?_, h.distinct.sublist (List.filter_sublist.map _)⟩
    simp
  slots slot := by
    have hold := h.slots slot
    simp only [List.mem_map] at hold
    simp only [Context.insert, List.map_cons, List.mem_cons, List.mem_map, List.mem_filter, ← hold]
    constructor
    · rintro (rfl | ⟨other, ⟨hmem, -⟩, rfl⟩)
      · exact Or.inl rfl
      · exact Or.inr ⟨other, hmem, rfl⟩
    · rintro (rfl | ⟨other, hmem, rfl⟩)
      · exact Or.inl rfl
      · by_cases hsame : other.slot = cell.slot
        · exact Or.inl hsame
        · exact Or.inr ⟨other, ⟨hmem, by simpa using hsame⟩, rfl⟩
  one_id := by
    rw [List.countP_cons]
    split
    · next hcorrelation =>
      have hnone := hfirst (of_decide_eq_true hcorrelation)
      have hzero : source.inserted.countP (fun cell => cell.slot = .correlation) = 0 := by
        simpa [List.countP_eq_zero, carriesId] using hnone
      omega
    · exact h.one_id

/-- The number of values is the number of types that were inserted. -/
theorem Faithful.size_eq {built : BuiltContext} (h : built.Faithful) :
    built.context.size = (built.inserted.map Cell.slot).toFinset.card := by
  have hslots : (built.inserted.map Cell.slot).toFinset =
      (built.context.cells.map Cell.slot).toFinset := by
    ext slot
    rw [List.mem_toFinset, List.mem_toFinset]
    exact (h.slots slot).symm
  rw [hslots, List.toFinset_card_of_nodup h.distinct, List.length_map]
  rfl

/-- **One step.**  A step always gives a context, which holds what it is noted to hold.  It is the very
context of the source, or one with a storage of its own. -/
theorem exists_derive {source : BuiltContext} (h : source.Faithful) (place : Nat) (step : ContextStep)
    (c : Collector) :
    ∃ next c', Act.runOn (source.derive place step) c = (.ok next, c') ∧ next.Faithful ∧
      ((step.isIdentity source.inserted = true ∧ next = source ∧ c' = c) ∨
        (step.isIdentity source.inserted = false ∧ ∃ cell : Cell, cell.slot.isOpen = step.isOpen ∧
          next = ⟨source.context.insert c.storageCount cell.slot cell.value, place,
            cell :: source.inserted⟩ ∧
          c'.storageCount = c.storageCount + 1)) := by
  have hid : carriesId source.inserted = source.context.correlationId?.isSome := by
    rw [carriesId_iff, ← h.get_eq]
    rfl
  rcases step.outcome_cases hid c with ⟨hsame, brought, hrun⟩ | ⟨hnew, cell, c', hfirst, hopen, hrun, hcount⟩
  · refine ⟨source, c, ?_, h, Or.inl ⟨hsame, rfl, rfl⟩⟩
    rw [derive, Act.runOn_bind, hrun]
    simp [hsame]
  · refine ⟨_, c', ?_, h.insert c.storageCount place hfirst, Or.inr ⟨hnew, cell, hopen, rfl, hcount⟩⟩
    rw [derive, Act.runOn_bind, hrun]
    simp [hnew]

/-! ## Runs -/

/-- What a run keeps: every context is what was noted of it, is the one at the home that it goes back to,
and shares its storage with those that go back to the same home only. -/
structure Sound (built : List BuiltContext) (c : Collector) : Prop where
  faithful : ∀ entry ∈ built, entry.Faithful
  home_le : ∀ (place : Nat) (entry : BuiltContext), built[place]? = some entry → entry.home ≤ place
  at_home : ∀ entry ∈ built, ∃ origin, built[entry.home]? = some origin ∧ origin.home = entry.home ∧
    origin.context = entry.context
  storage_lt : ∀ entry ∈ built, entry.context.storage < c.storageCount
  same_iff : ∀ a ∈ built, ∀ b ∈ built, a.context.storage = b.context.storage ↔ a.home = b.home

namespace Sound

variable {built : List BuiltContext} {c c' : Collector}

theorem start (c : Collector) : Sound [] c where
  faithful := by simp
  home_le := by simp
  at_home := by simp
  storage_lt := by simp
  same_iff := by simp

/-- The context at a place goes back to none of the places to come. -/
theorem home_lt (h : Sound built c) {entry : BuiltContext} (hentry : entry ∈ built) :
    entry.home < built.length := by
  obtain ⟨origin, horigin, -⟩ := h.at_home entry hentry
  obtain ⟨hlt, -⟩ := List.getElem?_eq_some_iff.mp horigin
  exact hlt

/-- The homes of those that were built stay where they are. -/
theorem at_home_concat (h : Sound built c) (next : BuiltContext) {entry : BuiltContext}
    (hentry : entry ∈ built) : ∃ origin, (built ++ [next])[entry.home]? = some origin ∧
      origin.home = entry.home ∧ origin.context = entry.context := by
  rw [List.getElem?_append_left (h.home_lt hentry)]
  exact h.at_home entry hentry

/-- The homes of a longer run, if the last context does not go back to a place that is still to come. -/
theorem home_le_concat (h : Sound built c) {next : BuiltContext} (hnext : next.home ≤ built.length)
    (place : Nat) (entry : BuiltContext) (hplace : (built ++ [next])[place]? = some entry) :
    entry.home ≤ place := by
  rcases Nat.lt_or_ge place built.length with hlt | hge
  · rw [List.getElem?_append_left hlt] at hplace
    exact h.home_le place entry hplace
  · rw [List.getElem?_append_right hge] at hplace
    obtain rfl := List.mem_singleton.mp (List.mem_of_getElem? hplace)
    exact Nat.le_trans hnext hge

/-- A copy of one of the contexts comes last. -/
theorem again (h : Sound built c) {source : BuiltContext} (hsource : source ∈ built) :
    Sound (built ++ [source]) c := by
  have hmem : ∀ entry ∈ built ++ [source], entry ∈ built := by
    intro entry hentry
    rcases List.mem_append.mp hentry with hold | hnew
    · exact hold
    · exact List.mem_singleton.mp hnew ▸ hsource
  exact {
    faithful := fun entry hentry => h.faithful entry (hmem entry hentry)
    home_le := h.home_le_concat (Nat.le_of_lt (h.home_lt hsource))
    at_home := fun entry hentry => h.at_home_concat source (hmem entry hentry)
    storage_lt := fun entry hentry => h.storage_lt entry (hmem entry hentry)
    same_iff := fun a ha b hb => h.same_iff a (hmem a ha) b (hmem b hb) }

/-- A context with a storage of its own comes last. -/
theorem fresh (h : Sound built c) {next : BuiltContext} (faithful : next.Faithful)
    (hhome : next.home = built.length) (hstorage : next.context.storage = c.storageCount)
    (hcount : c'.storageCount = c.storageCount + 1) : Sound (built ++ [next]) c' := by
  have happart : ∀ entry ∈ built,
      entry.context.storage ≠ next.context.storage ∧ entry.home ≠ next.home := by
    intro entry hentry
    rw [hstorage, hhome]
    exact ⟨Nat.ne_of_lt (h.storage_lt entry hentry), Nat.ne_of_lt (h.home_lt hentry)⟩
  exact {
    faithful := fun entry hentry => by
      rcases List.mem_append.mp hentry with hold | hnew
      · exact h.faithful entry hold
      · exact List.mem_singleton.mp hnew ▸ faithful
    home_le := h.home_le_concat (Nat.le_of_eq hhome)
    at_home := fun entry hentry => by
      rcases List.mem_append.mp hentry with hold | hnew
      · exact h.at_home_concat next hold
      · rw [List.mem_singleton.mp hnew, hhome, List.getElem?_concat_length]
        exact ⟨next, rfl, hhome, rfl⟩
    storage_lt := fun entry hentry => by
      rw [hcount]
      rcases List.mem_append.mp hentry with hold | hnew
      · exact Nat.lt_succ_of_lt (h.storage_lt entry hold)
      · rw [List.mem_singleton.mp hnew, hstorage]
        exact Nat.lt_succ_self _
    same_iff := fun a ha b hb => by
      rcases List.mem_append.mp ha with hold | hnew <;> rcases List.mem_append.mp hb with hold' | hnew'
      · exact h.same_iff a hold b hold'
      · rw [List.mem_singleton.mp hnew']
        exact iff_of_false (happart a hold).1 (happart a hold).2
      · rw [List.mem_singleton.mp hnew]
        exact iff_of_false (happart b hold').1.symm (happart b hold').2.symm
      · rw [List.mem_singleton.mp hnew, List.mem_singleton.mp hnew']
        exact iff_of_true rfl rfl }

/-- Contexts of a storage that is still to come share it with none that was built. -/
theorem same_eq_false (h : Sound built c) {next : Context} (hstorage : next.storage = c.storageCount)
    {earlier : BuiltContext} (hearlier : earlier ∈ built) : next.same earlier.context = false := by
  refine decide_eq_false ?_
  rw [hstorage]
  exact (Nat.ne_of_lt (h.storage_lt earlier hearlier)).symm

end Sound

/-- `next` is what a step makes of `source` when `built` was built before. -/
structure Follows (built : List BuiltContext) (source : BuiltContext) (step : ContextStep)
    (next : BuiltContext) : Prop where
  identity : step.isIdentity source.inserted = true → next.context = source.context
  fresh : step.isIdentity source.inserted = false →
    ∀ earlier ∈ built, next.context.same earlier.context = false
  /-- an application does not change the id of the operation -/
  keeps_id : step.isOpen = true → next.context.correlationId? = source.context.correlationId?
  /-- the library does not change the values of an application -/
  keeps_open : step.isOpen = false → ∀ slot, slot.isOpen = true →
    next.context.get slot = source.context.get slot

end BuiltContext

namespace ContextCommand

variable {built : List BuiltContext} {c : Collector}

open BuiltContext

theorem runOn_perform_create (built : List BuiltContext) (c : Collector) :
    Act.runOn (perform built .create) c =
      (.ok (built ++ [⟨Context.empty c.storageCount, built.length, []⟩]),
        { c with storageCount := c.storageCount + 1 }) := rfl

/-- A step from a context that was built can be taken, and does what such a step is to do. -/
theorem exists_perform_derive (h : Sound built c) {place : Nat} {source : BuiltContext}
    (hsource : built[place]? = some source) (step : ContextStep) :
    ∃ next c', Act.runOn (perform built (.derive place step)) c = (.ok (built ++ [next]), c') ∧
      Sound (built ++ [next]) c' ∧ Follows built source step next := by
  have hmem := List.mem_of_getElem? hsource
  obtain ⟨next, c', hrun, hfaithful, hcases⟩ :=
    exists_derive (h.faithful source hmem) built.length step c
  refine ⟨next, c', ?_, ?_⟩
  · simp only [perform, hsource]
    rw [Act.runOn_bind, hrun]
    rfl
  rcases hcases with ⟨hsame, rfl, rfl⟩ | ⟨hnew, cell, hopen, rfl, hcount⟩
  · exact ⟨h.again hmem, fun _ => rfl, fun hnew => absurd hsame (by simp [hnew]), fun _ => rfl,
      fun _ _ _ => rfl⟩
  · refine ⟨h.fresh hfaithful rfl rfl hcount, ?_, ?_, ?_, ?_⟩
    · intro hsame
      rw [hnew] at hsame
      cases hsame
    · exact fun _ earlier hearlier => h.same_eq_false rfl hearlier
    · intro hown
      refine Context.correlationId?_insert_of_ne _ _ _ fun hslot => ?_
      rw [hown, ← hslot] at hopen
      cases hopen
    · intro hlibrary slot hslot
      refine Context.get_insert_of_ne _ _ _ ?_
      rintro rfl
      rw [hlibrary, hslot] at hopen
      cases hopen

/-- A command never fails, leaves the contexts that were built, and keeps the run sound. -/
theorem exists_perform (h : Sound built c) (command : ContextCommand) :
    ∃ more c', Act.runOn (perform built command) c = (.ok (built ++ more), c') ∧
      Sound (built ++ more) c' := by
  cases command with
  | create =>
    refine ⟨_, _, runOn_perform_create built c, ?_⟩
    exact h.fresh (faithful_empty _ _) rfl rfl rfl
  | derive place step =>
    cases hsource : built[place]? with
    | none => exact ⟨[], c, by simp [perform, hsource], by simpa using h⟩
    | some source =>
      obtain ⟨next, c', hrun, hsound, -⟩ := exists_perform_derive h hsource step
      exact ⟨[next], c', hrun, hsound⟩

/-- What one command keeps, a run keeps. -/
theorem exists_performAll (h : Sound built c) (commands : List ContextCommand) :
    ∃ more c', Act.runOn (commands.foldlM perform built) c = (.ok (built ++ more), c') ∧
      Sound (built ++ more) c' := by
  induction commands generalizing built c with
  | nil => exact ⟨[], c, by simp, by simpa using h⟩
  | cons command rest ih =>
    obtain ⟨first, c₁, hrun, hsound⟩ := exists_perform h command
    obtain ⟨more, c', hrest, hsound'⟩ := ih hsound
    refine ⟨first ++ more, c', ?_, by rwa [List.append_assoc] at hsound'⟩
    rw [List.foldlM_cons, Act.runOn_bind, hrun]
    simpa using hrest

/-- **Contexts persist.**  Every run builds its contexts, and later steps leave them as they are.  A
context gives for each slot the nearest insertion on its path, among them one correlation id at most, and
counts as many values as there are slots on the path.  It is the context at its home, and contexts share
their storage exactly if they have one home.  Whatever was built, one more context can be made that is empty and shares its storage with none,
and one more step can be taken from each context that was built: it gives the very context back or one
whose storage none has, and neither applications nor the library change the values of the other. -/
theorem contexts_persist (commands : List ContextCommand) (c : Collector) :
    ∃ built c', Act.runOn (performAll commands) c = (.ok built, c') ∧
      (∀ later, ∃ more c'',
        Act.runOn (performAll (commands ++ later)) c = (.ok (built ++ more), c'')) ∧
      (∀ entry ∈ built,
        (∀ slot value, entry.context.get slot = some value ↔ IsNearest slot value entry.inserted) ∧
        (∀ slot, entry.context.get slot = none ↔ ∀ cell ∈ entry.inserted, cell.slot ≠ slot) ∧
        entry.inserted.countP (fun cell => cell.slot = .correlation) ≤ 1 ∧
        entry.context.size = (entry.inserted.map Cell.slot).toFinset.card) ∧
      (∀ (place : Nat) (entry : BuiltContext), built[place]? = some entry → entry.home ≤ place ∧
        ∃ origin, built[entry.home]? = some origin ∧ origin.home = entry.home ∧
          origin.context = entry.context) ∧
      (∀ a ∈ built, ∀ b ∈ built, a.context.same b.context = true ↔ a.home = b.home) ∧
      (∃ next c'', Act.runOn (perform built .create) c' = (.ok (built ++ [next]), c'') ∧
        next.context.isEmpty = true ∧ ∀ earlier ∈ built, next.context.same earlier.context = false) ∧
      ∀ (place : Nat) (source : BuiltContext) (step : ContextStep), built[place]? = some source →
        ∃ next c'', Act.runOn (perform built (.derive place step)) c' = (.ok (built ++ [next]), c'') ∧
          Follows built source step next := by
  obtain ⟨built, c', hrun, hsound⟩ := exists_performAll (Sound.start c) commands
  rw [List.nil_append] at hrun hsound
  refine ⟨built, c', hrun, ?_, ?_, ?_, ?_, ?_, ?_⟩
  · intro later
    obtain ⟨more, c'', hlater, -⟩ := exists_performAll hsound later
    refine ⟨more, c'', ?_⟩
    rw [performAll, List.foldlM_append, Act.runOn_bind, hrun]
    exact hlater
  · intro entry hentry
    have faithful := hsound.faithful entry hentry
    refine ⟨fun slot value => ?_, fun slot => ?_, faithful.one_id, faithful.size_eq⟩
    · rw [faithful.get_eq, Context.lookup_eq_some_iff]
    · rw [faithful.get_eq, Context.lookup_eq_none_iff]
  · intro place entry hplace
    exact ⟨hsound.home_le place entry hplace, hsound.at_home entry (List.mem_of_getElem? hplace)⟩
  · intro a ha b hb
    rw [Context.same, decide_eq_true_eq]
    exact hsound.same_iff a ha b hb
  · exact ⟨_, _, runOn_perform_create built c', rfl, fun earlier => hsound.same_eq_false rfl⟩
  · intro place source step hsource
    obtain ⟨next, c'', hstep, -, hfollows⟩ := exists_perform_derive hsound hsource step
    exact ⟨next, c'', hstep, hfollows⟩

/-- An id that comes late is not taken, and the context is a copy then. -/
example : (Act.runOn ((·.map BuiltContext.home) <$> performAll [.create, .derive 0 .ensure,
    .derive 1 .copy, .derive 2 (.adopt ⟨"late"⟩), .derive 3 (.withSpan ⟨0⟩)])
      { idText := fun _ => "generated" }).1 = .ok [0, 1, 1, 1, 4] := by
  rfl

end ContextCommand

end Observability
