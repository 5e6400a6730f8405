import Observability.Tracing.Facility
import Observability.Tracing.Registry

/-!
# Lineages of contexts

Contexts are built from one another: a run makes new ones and derives others from any of those it has,
so that they form a forest.  A `Lineage` is the list of the contexts a run has built, the latest last,
each with the collector just before and just after it was built.

* `Derivation` is one way to derive a context, and `Derivation.outcome` what it gives.
* `Grows β between l c` says that a run has built `l` and that the collector is now `c`.  The relation
  `between` says what may happen to the collector between two steps: spans end, providers are shut down,
  other runs go on.
* `Derives l i j` says that the context at `j` goes back to the one at `i`, in any number of steps.

`Grows.made` gives every context the step that built it, and `Grows.ordered` carries an order of
collectors along a run.
-/

namespace Observability

/-- A way to derive a context from another one. -/
inductive Derivation where
  /-- a value of an application, in any slot that applications can name -/
  | withValue (slot : Slot) (isOpen : slot.isOpen = true) (value : slot.Value)
  | withSpan (span : SpanHandle)
  | adopt (id : CorrelationId)
  | ensure
  /-- a start by a tracer, in any number of wrappers -/
  | start (tracer : Tracer Backend) (name : String) (options : List StartOption)
  /-- a start by a facility over such a tracer -/
  | startIn (facility : SpanFacility Backend) (name : String)
  /-- a start through a registry, whatever it holds -/
  | startAt (registry : Registry (SpanFacility Backend)) (name : String)

/-- What deriving from `ctx` gives, and the collector after it. -/
def Derivation.outcome (β : Type) :
    Derivation → Context → Collector → Except Crash Context × Collector
  | .withValue slot _ value, ctx, c => Act.runOn (ctx.withValue slot value) c
  | .withSpan span, ctx, c => Act.runOn (ctx.withSpan span) c
  | .adopt id, ctx, c => Act.runOn (ctx.adoptCorrelationId id) c
  | .ensure, ctx, c => Act.runOn (Prod.fst <$> ctx.ensureCorrelationId) c
  | .start tracer name options, ctx, c => Act.runOn (Prod.fst <$> tracer.start ctx name options) c
  | .startIn facility name, ctx, c => Act.runOn (facility.startSpan ctx name) c
  | .startAt registry name, ctx, c =>
    let ((answer, _), after) := RegistryAct.runOn (Registry.startSpan β ctx name) registry c
    (answer, after)

/-- The tracer that a derivation starts a span with, if it starts one. -/
def Derivation.tracer? : Derivation → Option (Tracer Backend)
  | .start tracer _ _ => some tracer
  | .startIn facility _ => some facility.tracer
  | .startAt registry _ => registry.facility.map SpanFacility.tracer
  | .withValue .. | .withSpan _ | .adopt _ | .ensure => none

/-- Where a built context comes from: it is new, or derived from the one at a place. -/
inductive Origin where
  | root
  | derived (parent : Nat) (how : Derivation)

def Origin.parent? : Origin → Option Nat
  | .root => none
  | .derived parent _ => some parent

/-- A context that was built, with the collector just before and just after. -/
structure Birth where
  origin : Origin
  context : Context
  before : Collector
  after : Collector

/-- The contexts that a run has built, the latest last. -/
abbrev Lineage := List Birth

namespace Lineage

variable {β : Type} {between : Collector → Collector → Prop} {l : Lineage} {c : Collector}

/-- The birth is a step that can be taken once `l` is built. -/
def Makes (β : Type) (l : Lineage) (birth : Birth) : Prop :=
  match birth.origin with
  | .root => Act.runOn Context.create birth.before = (.ok birth.context, birth.after)
  | .derived parent how =>
    ∃ source, l[parent]? = some source ∧
      how.outcome β source.context birth.before = (.ok birth.context, birth.after)

/-- A run that started anywhere has built `l`, and the collector is now `c`. -/
inductive Grows (β : Type) (between : Collector → Collector → Prop) : Lineage → Collector → Prop
  | start (c : Collector) : Grows β between [] c
  | build {l : Lineage} {birth : Birth} (grown : Grows β between l birth.before)
      (made : Makes β l birth) : Grows β between (l ++ [birth]) birth.after
  | pause {l : Lineage} {c c' : Collector} (grown : Grows β between l c) (other : between c c') :
      Grows β between l c'

/-- The context at `j` goes back to the one at `i`, in any number of steps. -/
inductive Derives (l : Lineage) (i : Nat) : Nat → Prop
  | refl : Derives l i i
  | step {j k : Nat} {birth : Birth} (path : Derives l i j) (here : l[k]? = some birth)
      (parent : birth.origin.parent? = some j) : Derives l i k

/-! ## What a place of a lineage holds -/

theorem get?_concat {birth new : Birth} {j : Nat} (h : (l ++ [new])[j]? = some birth) :
    (j < l.length ∧ l[j]? = some birth) ∨ (j = l.length ∧ new = birth) := by
  rcases Nat.lt_trichotomy j l.length with hlt | heq | hgt
  · rw [List.getElem?_append_left hlt] at h
    exact Or.inl ⟨hlt, h⟩
  · subst heq
    rw [List.getElem?_concat_length] at h
    exact Or.inr ⟨rfl, Option.some.inj h⟩
  · rw [List.getElem?_eq_none (by simp; omega)] at h
    cases h

/-- Every context was built by a step on those before it. -/
theorem Grows.made (h : Grows β between l c) {j : Nat} {birth : Birth}
    (hj : l[j]? = some birth) : Makes β (l.take j) birth := by
  induction h with
  | start => simp at hj
  | pause _ _ ih => exact ih hj
  | @build l new grown made ih =>
    rcases get?_concat hj with ⟨hlt, hold⟩ | ⟨rfl, rfl⟩
    · rw [List.take_append_of_le_length (Nat.le_of_lt hlt)]
      exact ih hold
    · rw [List.take_left]
      exact made

/-- A derived context has its parent before it, and the derivation gave it. -/
theorem Grows.source (h : Grows β between l c) {j parent : Nat} {birth : Birth} {how : Derivation}
    (hj : l[j]? = some birth) (ho : birth.origin = .derived parent how) :
    ∃ source, parent < j ∧ l[parent]? = some source ∧
      how.outcome β source.context birth.before = (.ok birth.context, birth.after) := by
  have hm := h.made hj
  unfold Makes at hm
  rw [ho] at hm
  obtain ⟨source, hs, hout⟩ := hm
  rw [List.getElem?_take] at hs
  split at hs
  · next hlt => exact ⟨source, hlt, hs, hout⟩
  · cases hs

/-- What a step and what happens between two steps both respect, a whole run respects. -/
theorem Grows.ordered {R : Collector → Collector → Prop} (refl : ∀ c, R c c)
    (trans : ∀ {a b c}, R a b → R b c → R a c) (other : ∀ {c c'}, between c c' → R c c')
    (step : ∀ {l birth}, Makes β l birth → R birth.before birth.after)
    (h : Grows β between l c) :
    l.Pairwise (fun a b => R a.after b.before) ∧ ∀ birth ∈ l, R birth.after c := by
  induction h with
  | start => exact ⟨List.Pairwise.nil, by simp⟩
  | pause _ hc ih => exact ⟨ih.1, fun birth hb => trans (ih.2 birth hb) (other hc)⟩
  | @build l new _ made ih =>
    refine ⟨List.pairwise_append.mpr ⟨ih.1, List.pairwise_singleton _ _, ?_⟩, ?_⟩
    · intro a ha b hb
      rw [List.mem_singleton.mp hb]
      exact ih.2 a ha
    · intro birth hb
      rcases List.mem_append.mp hb with hold | hnew
      · exact trans (ih.2 birth hold) (step made)
      · rw [List.mem_singleton.mp hnew]
        exact refl _

/-! ## Paths -/

/-- A path has one parent at each of its places, so of two places on it one derives the other. -/
theorem Derives.total {i j k : Nat} (hi : Derives l i k) (hj : Derives l j k) :
    Derives l i j ∨ Derives l j i := by
  induction hi with
  | refl => exact Or.inr hj
  | step path here parent ih =>
    cases hj with
    | refl => exact Or.inl (path.step here parent)
    | step path' here' parent' =>
      rw [here] at here'
      cases here'
      rw [parent] at parent'
      cases parent'
      exact ih path'

/-- A path ends with its last context, or goes back to the parent of that. -/
theorem derives_iff {j parent : Nat} {birth : Birth} (hj : l[j]? = some birth)
    (hparent : birth.origin.parent? = some parent) (k : Nat) :
    Derives l k j ↔ k = j ∨ Derives l k parent := by
  constructor
  · intro h
    cases h with
    | refl => exact Or.inl rfl
    | step path here parent' =>
      rw [hj] at here
      cases here
      rw [hparent] at parent'
      cases parent'
      exact Or.inr path
  · rintro (rfl | h)
    · exact .refl
    · exact h.step hj hparent

/-- A path to a context without a parent is that context alone. -/
theorem eq_of_derives_root {j : Nat} {birth : Birth} (hj : l[j]? = some birth)
    (hroot : birth.origin.parent? = none) {k : Nat} (h : Derives l k j) : k = j := by
  cases h with
  | refl => rfl
  | step path here parent =>
    rw [hj] at here
    cases here
    rw [hroot] at parent
    cases parent

/-! ## The nearest marked place -/

/-- Of the marked places on the path of the context at `j`, the one at `k` is the last. -/
structure Nearest (l : Lineage) (marks : Nat → Prop) (k j : Nat) : Prop where
  marked : marks k
  path : Derives l k j
  last : ∀ k', marks k' → Derives l k' j → Derives l k' k

/-- What new contexts lack, and derived ones have from their parents unless their own place is marked, a
context has from the nearest marked place on its path. -/
theorem Grows.nearest_cases {α : Type} {marks : Nat → Prop} {view : Nat → Option α}
    (h : Grows β between l c)
    (root : ∀ j birth, l[j]? = some birth → birth.origin = .root →
      Act.runOn Context.create birth.before = (.ok birth.context, birth.after) →
        ¬ marks j ∧ view j = none)
    (kept : ∀ j birth parent how source, l[j]? = some birth → birth.origin = .derived parent how →
      l[parent]? = some source →
      how.outcome β source.context birth.before = (.ok birth.context, birth.after) →
        ¬ marks j → view j = view parent)
    (j : Nat) (hj : j < l.length) :
    (∃ k, Nearest l marks k j ∧ view j = view k) ∨
      (view j = none ∧ ∀ k, marks k → ¬ Derives l k j) := by
  induction j using Nat.strongRecOn with
  | ind j ih =>
    have hbirth := List.getElem?_eq_getElem hj
    generalize l[j] = birth at hbirth
    by_cases hmarked : marks j
    · exact Or.inl ⟨j, ⟨hmarked, .refl, fun _ _ hd => hd⟩, rfl⟩
    cases ho : birth.origin with
    | root =>
      have hmade := h.made hbirth
      unfold Makes at hmade
      rw [ho] at hmade
      refine Or.inr ⟨(root j birth hbirth ho hmade).2, fun k hk hpath => hmarked ?_⟩
      exact eq_of_derives_root hbirth (by rw [ho]; rfl) hpath ▸ hk
    | derived parent how =>
      obtain ⟨source, hlt, hs, hout⟩ := h.source hbirth ho
      have hpath := derives_iff hbirth (show birth.origin.parent? = some parent by rw [ho]; rfl)
      have hsame := kept j birth parent how source hbirth ho hs hout hmarked
      have hback : ∀ k, marks k → Derives l k j → Derives l k parent := by
        intro k hk hd
        rcases (hpath k).mp hd with rfl | hd
        · exact absurd hk hmarked
        · exact hd
      rcases ih parent hlt (Nat.lt_trans hlt hj) with ⟨k, hnearest, hk⟩ | ⟨hnone, hno⟩
      · refine Or.inl ⟨k, ⟨hnearest.marked, (hpath k).mpr (Or.inr hnearest.path), ?_⟩, hsame.trans hk⟩
        exact fun k' hk' hd => hnearest.last k' hk' (hback k' hk' hd)
      · exact Or.inr ⟨hsame.trans hnone, fun k hk hd => hno k hk (hback k hk hd)⟩

end Lineage

end Observability
