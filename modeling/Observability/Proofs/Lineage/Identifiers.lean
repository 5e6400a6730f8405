import Observability.Proofs.Lineage.Basic
import Observability.UniqueId

/-!
# Correlation ids along a lineage

The correlation id of a context is written once.  `IdFate` lists what a derivation may do about the id:
keep what is there, or, if there is none, take the next one of the supply or the one it was offered.
Each way to derive has one of these fates (`fate_of_outcome`), so along a path the id changes at most
once, from none to the one that every later context carries.

`SupplyGoesOn` is all that is asked of what happens between two steps: ids are not taken back, and their
texts do not change.
-/

namespace Observability

/-- The supply of ids is the same or further on. -/
def SupplyGoesOn (c c' : Collector) : Prop := c'.idText = c.idText ∧ c.idCount ≤ c'.idCount

/-- No two of the ids generated so far have the same text. -/
def NoRepeats (c : Collector) : Prop :=
  ∀ m n, m < c.idCount → n < c.idCount → c.idText m = c.idText n → m = n

theorem SupplyGoesOn.refl (c : Collector) : SupplyGoesOn c c := ⟨rfl, Nat.le_refl _⟩

theorem SupplyGoesOn.trans {a b c : Collector} (hab : SupplyGoesOn a b) (hbc : SupplyGoesOn b c) :
    SupplyGoesOn a c := ⟨hbc.1.trans hab.1, Nat.le_trans hab.2 hbc.2⟩

/-- What becomes of the id when `ctx'` is derived from `ctx` and `offered` was offered. -/
inductive IdFate (offered : Option CorrelationId) (ctx : Context) (c : Collector) (ctx' : Context)
    (c' : Collector) : Prop
  | kept (id : ctx'.correlationId? = ctx.correlationId?) (count : c'.idCount = c.idCount)
  | generated (none : ctx.correlationId? = none)
      (id : ctx'.correlationId? = some ⟨c.idText c.idCount⟩) (count : c'.idCount = c.idCount + 1)
  | adopted (id : CorrelationId) (offer : offered = some id) (none : ctx.correlationId? = none)
      (written : ctx'.correlationId? = some id) (count : c'.idCount = c.idCount)

/-- An id is never lost or changed. -/
theorem IdFate.id_kept {offered : Option CorrelationId} {ctx ctx' : Context} {c c' : Collector}
    {x : CorrelationId} (h : IdFate offered ctx c ctx' c') (hx : ctx.correlationId? = some x) :
    ctx'.correlationId? = some x := by
  cases h with
  | kept id _ => exact id.trans hx
  | generated none _ _ => rw [none] at hx; cases hx
  | adopted _ _ none _ _ => rw [none] at hx; cases hx

/-- Deriving from a context without an id first, and then on from the result. -/
theorem IdFate.after_generated {ctx mid ctx' : Context} {c after c' : Collector}
    (none : ctx.correlationId? = none) (id : mid.correlationId? = some ⟨c.idText c.idCount⟩)
    (count : after.idCount = c.idCount + 1) (h : IdFate .none mid after ctx' c') :
    IdFate .none ctx c ctx' c' := by
  cases h with
  | kept id' count' => exact .generated none (id'.trans id) (count'.trans count)
  | generated none' _ _ => rw [none'] at id; cases id
  | adopted _ offer _ _ _ => cases offer

/-! ## Every way to derive has a fate -/

/-- An exporting tracer keeps the id, whether it records the span or not. -/
theorem ExportingTracer.start_fate (tracer : ExportingTracer) (ctx : Context) (name : String)
    (options : List StartOption) (c : Collector) :
    ∃ ctx' span c', Act.runOn (tracer.start ctx name options) c = (.ok (ctx', span), c') ∧
      c'.idText = c.idText ∧ IdFate none ctx c ctx' c' := by
  cases h : tracer.records c with
  | false =>
    rw [tracer.runOn_start_of_not_records h]
    exact ⟨_, _, _, rfl, rfl, .kept (Context.correlationId?_insert_of_ne _ _ _ (by decide)) rfl⟩
  | true =>
    rw [tracer.runOn_start_of_records h]
    have htold : ∀ parent fields, (announced parent fields c).idText = c.idText ∧
        (announced parent fields c).idCount = c.idCount := by
      intro parent fields
      unfold announced
      split <;> exact ⟨rfl, rfl⟩
    refine ⟨_, _, _, rfl, (htold _ _).1, .kept ?_ (htold _ _).2⟩
    rw [Context.correlationId?_insert_of_ne _ _ _ (by decide),
      Context.correlationId?_insert_of_ne _ _ _ (by decide)]

theorem Backend.start_fate (tracer : Backend) (ctx : Context) (name : String)
    (options : List StartOption) (c : Collector) :
    ∃ ctx' span c', Act.runOn (SpanBackend.start tracer ctx name options) c =
        (.ok (ctx', span), c') ∧
      c'.idText = c.idText ∧ IdFate none ctx c ctx' c' := by
  cases tracer with
  | exporting tracer => exact tracer.start_fate ctx name options c
  | recording tracer =>
    refine ⟨_, _, _, tracer.runOn_start ctx name options c, rfl, .kept ?_ rfl⟩
    exact Context.correlationId?_insert_of_ne _ _ _ (by decide)

/-- The outermost wrapper writes the id, and those inside find it. -/
theorem Tracer.start_fate (tracer : Tracer Backend) (ctx : Context) (name : String)
    (options : List StartOption) (c : Collector) :
    ∃ ctx' span c', Act.runOn (tracer.start ctx name options) c = (.ok (ctx', span), c') ∧
      c'.idText = c.idText ∧ IdFate none ctx c ctx' c' := by
  induction tracer generalizing ctx options c with
  | backend tracer => exact tracer.start_fate ctx name options c
  | correlated inner ih =>
    cases hid : ctx.correlationId? with
    | some id =>
      obtain ⟨ctx', span, c', hrun, htext, hfate⟩ :=
        ih ctx (options ++ correlationOptions id) c
      refine ⟨ctx', span, c', ?_, htext, hfate⟩
      rw [Tracer.start, Act.runOn_bind, Context.runOn_ensureCorrelationId_of_some hid]
      exact hrun
    | none =>
      obtain ⟨ctx', span, c', hrun, htext, hfate⟩ :=
        ih (ctx.insert c.storageCount .correlation ⟨c.idText c.idCount⟩)
          (options ++ correlationOptions ⟨c.idText c.idCount⟩)
          { c with idCount := c.idCount + 1, storageCount := c.storageCount + 1 }
      refine ⟨ctx', span, c', ?_, htext, ?_⟩
      · rw [Tracer.start, Act.runOn_bind, Context.runOn_ensureCorrelationId_of_none hid]
        exact hrun
      · exact .after_generated hid (Context.correlationId?_insert_correlation _ _ _) rfl hfate

/-- A wrapper gives a context with an id. -/
theorem Tracer.start_correlated_id {inner : Tracer Backend} {ctx ctx' : Context} {name : String}
    {options : List StartOption} {span : SpanHandle} {c c' : Collector}
    (h : Act.runOn ((Tracer.correlated inner).start ctx name options) c = (.ok (ctx', span), c')) :
    ∃ x, ctx'.correlationId? = some x := by
  have hinner : ∃ mid id after options', mid.correlationId? = some id ∧
      Act.runOn (inner.start mid name options') after = (.ok (ctx', span), c') := by
    rw [Tracer.start, Act.runOn_bind] at h
    cases hid : ctx.correlationId? with
    | some id =>
      rw [Context.runOn_ensureCorrelationId_of_some hid] at h
      exact ⟨ctx, id, c, _, hid, h⟩
    | none =>
      rw [Context.runOn_ensureCorrelationId_of_none hid] at h
      exact ⟨_, _, _, _, Context.correlationId?_insert_correlation _ _ _, h⟩
  obtain ⟨mid, id, after, options', hid, hrun⟩ := hinner
  obtain ⟨ctx'', span'', c'', hrun', -, hfate⟩ := inner.start_fate mid name options' after
  rw [hrun] at hrun'
  cases hrun'
  exact ⟨id, hfate.id_kept hid⟩

theorem SpanFacility.startSpan_fate (facility : SpanFacility Backend) (ctx : Context)
    (name : String) (c : Collector) :
    ∃ ctx' c', Act.runOn (facility.startSpan ctx name) c = (.ok ctx', c') ∧
      c'.idText = c.idText ∧ IdFate none ctx c ctx' c' := by
  obtain ⟨ctx', span, c', hrun, htext, hfate⟩ := facility.tracer.start_fate ctx name [] c
  refine ⟨ctx', { c' with journal := c'.journal ++ [.counter "telemetry_spans_started_total" [] 1] },
    ?_, htext, ?_⟩
  · rw [startSpan, Act.runOn_bind, hrun]
    rfl
  · cases hfate with
    | kept id count => exact .kept id count
    | generated none id count => exact .generated none id count
    | adopted id offer none written count => exact .adopted id offer none written count

/-- The id that a derivation offers. -/
def Derivation.offered : Derivation → Option CorrelationId
  | .adopt id => some id
  | _ => none

/-- Every derivation gives a context, and does one of three things about the id. -/
theorem Derivation.exists_outcome (β : Type) (how : Derivation) (ctx : Context) (c : Collector) :
    ∃ ctx' c', how.outcome β ctx c = (.ok ctx', c') ∧
      c'.idText = c.idText ∧ IdFate how.offered ctx c ctx' c' := by
  cases how with
  | withValue slot isOpen value =>
    have hne : Slot.correlation ≠ slot := fun heq => by cases heq; cases isOpen
    exact ⟨_, _, rfl, rfl, .kept (Context.correlationId?_insert_of_ne _ _ _ hne) rfl⟩
  | withSpan span =>
    exact ⟨_, _, rfl, rfl,
      .kept (Context.correlationId?_insert_of_ne _ _ _ (by decide)) rfl⟩
  | adopt id =>
    simp only [outcome]
    cases hid : ctx.correlationId? with
    | some old =>
      rw [Context.runOn_adoptCorrelationId_of_some hid]
      exact ⟨_, _, rfl, rfl, .kept rfl rfl⟩
    | none =>
      rw [Context.runOn_adoptCorrelationId_of_none hid]
      exact ⟨_, _, rfl, rfl,
        .adopted id rfl hid (Context.correlationId?_insert_correlation _ _ _) rfl⟩
  | ensure =>
    simp only [outcome, Act.runOn_map]
    cases hid : ctx.correlationId? with
    | some old =>
      rw [Context.runOn_ensureCorrelationId_of_some hid]
      exact ⟨_, _, rfl, rfl, .kept rfl rfl⟩
    | none =>
      rw [Context.runOn_ensureCorrelationId_of_none hid]
      exact ⟨_, _, rfl, rfl,
        .generated hid (Context.correlationId?_insert_correlation _ _ _) rfl⟩
  | start tracer name options =>
    obtain ⟨ctx', span, c', hrun, htext, hfate⟩ := tracer.start_fate ctx name options c
    refine ⟨ctx', c', ?_, htext, hfate⟩
    rw [outcome, Act.runOn_map, hrun]
  | startIn facility name => exact facility.startSpan_fate ctx name c
  | startAt registry name =>
    simp only [outcome]
    cases hf : registry.facility with
    | none =>
      rw [Registry.runOn_startSpan_none hf]
      exact ⟨_, _, rfl, rfl, .kept rfl rfl⟩
    | some facility =>
      obtain ⟨ctx', c', hrun, htext, hfate⟩ := facility.startSpan_fate ctx name c
      refine ⟨ctx', c', ?_, htext, hfate⟩
      rw [Registry.runOn_startSpan_some hf]
      exact hrun

theorem Derivation.fate_of_outcome {β : Type} {how : Derivation} {ctx ctx' : Context}
    {c c' : Collector} (h : how.outcome β ctx c = (.ok ctx', c')) :
    c'.idText = c.idText ∧ IdFate how.offered ctx c ctx' c' := by
  obtain ⟨ctx'', c'', hrun, hfate⟩ := how.exists_outcome β ctx c
  rw [h] at hrun
  cases hrun
  exact hfate

/-- A start by a wrapped tracer gives a context with an id, also through a facility or a registry. -/
theorem Derivation.exists_id_of_tracer {β : Type} {how : Derivation} {inner : Tracer Backend}
    {ctx ctx' : Context} {c c' : Collector} (hwrapped : how.tracer? = some (.correlated inner))
    (h : how.outcome β ctx c = (.ok ctx', c')) : ∃ x, ctx'.correlationId? = some x := by
  have hstart : ∃ name options span after,
      Act.runOn ((Tracer.correlated inner).start ctx name options) c =
        (.ok (ctx', span), after) := by
    cases how with
    | start tracer name options =>
      obtain rfl := Option.some.inj hwrapped
      obtain ⟨ctx'', span, after, hrun, -, -⟩ :=
        (Tracer.correlated inner).start_fate ctx name options c
      rw [outcome, Act.runOn_map, hrun] at h
      obtain rfl := Except.ok.inj (Prod.mk.inj h).1
      exact ⟨name, options, span, after, hrun⟩
    | startIn facility name =>
      obtain ⟨span, after, hrun⟩ := SpanFacility.exists_start h
      rw [Option.some.inj hwrapped] at hrun
      exact ⟨name, [], span, after, hrun⟩
    | startAt registry name =>
      obtain ⟨facility, hfacility, htracer⟩ := Option.map_eq_some_iff.mp hwrapped
      rw [outcome, Registry.runOn_startSpan_some hfacility] at h
      obtain ⟨span, after, hrun⟩ := SpanFacility.exists_start h
      rw [htracer] at hrun
      exact ⟨name, [], span, after, hrun⟩
    | withValue | withSpan | adopt | ensure => cases hwrapped
  obtain ⟨name, options, span, after, hrun⟩ := hstart
  exact Tracer.start_correlated_id hrun

namespace Lineage

variable {β : Type} {l : Lineage} {c : Collector}

/-- The id of the context at `j`. -/
def idAt (l : Lineage) (j : Nat) : Option CorrelationId :=
  l[j]?.bind fun birth => birth.context.correlationId?

/-- The step that built the context at `k` took an id from the supply. -/
def Generates (l : Lineage) (k : Nat) : Prop :=
  ∃ birth, l[k]? = some birth ∧ birth.before.idCount < birth.after.idCount

/-- The step that built the context at `k` gave the id it was offered to a context without one. -/
def Adopts (l : Lineage) (k : Nat) : Prop :=
  ∃ birth parent id, l[k]? = some birth ∧ birth.origin = .derived parent (.adopt id) ∧
    idAt l parent = none

/-- A generating step lies on the path of the context at `j`. -/
def HasGenerated (l : Lineage) (j : Nat) : Prop := ∃ k, Generates l k ∧ Derives l k j

/-- The step at `k` wrote the id of its context. -/
def Writes (l : Lineage) (k : Nat) : Prop := Generates l k ∨ Adopts l k

theorem idAt_eq {j : Nat} {birth : Birth} (hj : l[j]? = some birth) :
    idAt l j = birth.context.correlationId? := by
  rw [idAt, hj]
  rfl

theorem exists_of_idAt {j : Nat} {x : CorrelationId} (hx : idAt l j = some x) :
    ∃ birth, l[j]? = some birth ∧ birth.context.correlationId? = some x :=
  Option.bind_eq_some_iff.mp hx

/-! ## Single steps of a run -/

theorem supplyGoesOn_of_makes {birth : Birth} (h : Makes β l birth) :
    SupplyGoesOn birth.before birth.after := by
  unfold Makes at h
  split at h
  · rw [Context.runOn_create] at h
    have hafter := (Prod.mk.inj h).2
    exact hafter ▸ ⟨rfl, Nat.le_refl _⟩
  · obtain ⟨source, -, hout⟩ := h
    obtain ⟨htext, hfate⟩ := Derivation.fate_of_outcome hout
    refine ⟨htext, ?_⟩
    cases hfate with
    | kept _ count => omega
    | generated _ _ count => omega
    | adopted _ _ _ _ count => omega

/-- A new context carries no id, and takes none from the supply. -/
theorem Grows.root_fate (h : Grows β SupplyGoesOn l c) {j : Nat} {birth : Birth}
    (hj : l[j]? = some birth) (ho : birth.origin = .root) :
    birth.context.correlationId? = none ∧ birth.after.idCount = birth.before.idCount := by
  have hm := h.made hj
  unfold Makes at hm
  rw [ho] at hm
  obtain ⟨hctx, hafter⟩ := Prod.mk.inj hm
  exact ⟨Except.ok.inj hctx ▸ rfl, hafter ▸ rfl⟩

/-- A derived context has one of the fates. -/
theorem Grows.derived_fate (h : Grows β SupplyGoesOn l c) {j parent : Nat} {birth : Birth}
    {how : Derivation} (hj : l[j]? = some birth) (ho : birth.origin = .derived parent how) :
    ∃ source, parent < j ∧ l[parent]? = some source ∧
      IdFate how.offered source.context birth.before birth.context birth.after := by
  obtain ⟨source, hlt, hs, hout⟩ := h.source hj ho
  exact ⟨source, hlt, hs, (Derivation.fate_of_outcome hout).2⟩

/-- The fate of a derived context whose parent is known. -/
theorem Grows.step_fate (h : Grows β SupplyGoesOn l c) {j parent : Nat} {birth : Birth}
    (hj : l[j]? = some birth) (hp : birth.origin.parent? = some parent) :
    ∃ source offered, parent < j ∧ l[parent]? = some source ∧
      IdFate offered source.context birth.before birth.context birth.after := by
  cases ho : birth.origin with
  | root =>
    rw [ho] at hp
    cases hp
  | derived parent' how =>
    rw [ho] at hp
    cases hp
    obtain ⟨source, hlt, hs, hfate⟩ := h.derived_fate hj ho
    exact ⟨source, _, hlt, hs, hfate⟩

/-- A generating step gives its context the next id of the supply; the parent had none. -/
theorem Grows.of_generates (h : Grows β SupplyGoesOn l c) {k : Nat} {birth : Birth}
    (hb : l[k]? = some birth) (hcount : birth.before.idCount < birth.after.idCount) :
    birth.context.correlationId? = some ⟨birth.before.idText birth.before.idCount⟩ ∧
      birth.after.idCount = birth.before.idCount + 1 ∧
      ∀ parent, birth.origin.parent? = some parent → idAt l parent = none := by
  cases ho : birth.origin with
  | root =>
    have := (h.root_fate hb ho).2
    omega
  | derived parent how =>
    obtain ⟨source, -, hs, hfate⟩ := h.derived_fate hb ho
    cases hfate with
    | kept _ count => omega
    | adopted _ _ _ _ count => omega
    | generated none id count =>
      refine ⟨id, count, ?_⟩
      rintro _ ⟨⟩
      exact (idAt_eq hs).trans none

theorem Grows.exists_idAt (h : Grows β SupplyGoesOn l c) {k : Nat} (hk : Generates l k) :
    ∃ x, idAt l k = some x := by
  obtain ⟨birth, hb, hcount⟩ := hk
  exact ⟨_, (idAt_eq hb).trans (h.of_generates hb hcount).1⟩

/-- An adopting step gives its context the id it was offered. -/
theorem Grows.of_adopts (h : Grows β SupplyGoesOn l c) {k parent : Nat} {birth : Birth}
    {id : CorrelationId} (hb : l[k]? = some birth) (ho : birth.origin = .derived parent (.adopt id))
    (hnone : idAt l parent = none) : birth.context.correlationId? = some id := by
  obtain ⟨source, -, hs, hout⟩ := h.source hb ho
  rw [idAt_eq hs] at hnone
  simp only [Derivation.outcome, Context.runOn_adoptCorrelationId_of_none hnone] at hout
  rw [← Except.ok.inj (Prod.mk.inj hout).1]
  exact Context.correlationId?_insert_correlation _ _ _

/-- A writing step gives its context an id that its parent did not have. -/
theorem Grows.of_writes (h : Grows β SupplyGoesOn l c) {k : Nat} (hk : Writes l k) :
    ∃ birth x, l[k]? = some birth ∧ birth.context.correlationId? = some x ∧
      ∀ parent, birth.origin.parent? = some parent → idAt l parent = none := by
  rcases hk with ⟨birth, hb, hcount⟩ | ⟨birth, parent, id, hb, ho, hnone⟩
  · obtain ⟨hid, -, hparent⟩ := h.of_generates hb hcount
    exact ⟨birth, _, hb, hid, hparent⟩
  · refine ⟨birth, id, hb, h.of_adopts hb ho hnone, ?_⟩
    intro parent' hp
    rw [ho] at hp
    cases hp
    exact hnone

/-- A context that carries an id has it from its parent, unless its own step wrote it. -/
theorem Grows.writes_or_inherits (h : Grows β SupplyGoesOn l c) {j : Nat} {birth : Birth}
    {x : CorrelationId} (hj : l[j]? = some birth) (hx : birth.context.correlationId? = some x) :
    Writes l j ∨ ∃ parent, birth.origin.parent? = some parent ∧ parent < j ∧
      idAt l parent = some x := by
  cases ho : birth.origin with
  | root =>
    rw [(h.root_fate hj ho).1] at hx
    cases hx
  | derived parent how =>
    obtain ⟨source, hlt, hs, hfate⟩ := h.derived_fate hj ho
    cases hfate with
    | kept id _ => exact Or.inr ⟨parent, rfl, hlt, by rw [idAt_eq hs, ← id, hx]⟩
    | generated _ _ count => exact Or.inl (Or.inl ⟨birth, hj, by omega⟩)
    | adopted id offer none _ _ =>
      refine Or.inl (Or.inr ⟨birth, parent, id, hj, ?_, (idAt_eq hs).trans none⟩)
      cases how with
      | adopt id' => rw [ho, Option.some.inj offer]
      | _ => cases offer

/-! ## Whole runs -/

/-- What a context carries, every context derived from it carries. -/
theorem Grows.idAt_of_derives (h : Grows β SupplyGoesOn l c) {i j : Nat} {x : CorrelationId}
    (hd : Derives l i j) (hx : idAt l i = some x) : idAt l j = some x := by
  induction hd with
  | refl => exact hx
  | step _ here parent ih =>
    obtain ⟨source, offered, -, hs, hfate⟩ := h.step_fate here parent
    rw [idAt_eq here]
    rw [idAt_eq hs] at ih
    exact hfate.id_kept ih

/-- Some step on the path of a context that carries an id wrote it. -/
theorem Grows.exists_writes (h : Grows β SupplyGoesOn l c) (j : Nat) (x : CorrelationId)
    (hx : idAt l j = some x) : ∃ k, Writes l k ∧ Derives l k j := by
  induction j using Nat.strongRecOn with
  | ind j ih =>
    obtain ⟨birth, hj, hid⟩ := exists_of_idAt hx
    rcases h.writes_or_inherits hj hid with hw | ⟨parent, hp, hlt, hpx⟩
    · exact ⟨j, hw, .refl⟩
    · obtain ⟨k, hk, hd⟩ := ih parent hlt hpx
      exact ⟨k, hk, hd.step hj hp⟩

/-- A writing step that goes back to a context with an id is the step of that context. -/
theorem Grows.eq_of_derives_writes (h : Grows β SupplyGoesOn l c) {i k : Nat} {x : CorrelationId}
    (hx : idAt l i = some x) (hk : Writes l k) (hd : Derives l i k) : i = k := by
  cases hd with
  | refl => rfl
  | @step j _ birth path here parent =>
    obtain ⟨birth', y, hb, -, hnone⟩ := h.of_writes hk
    rw [here] at hb
    cases hb
    have hj := h.idAt_of_derives path hx
    rw [hnone j parent] at hj
    cases hj

/-- At most one step on a path writes the id. -/
theorem Grows.writes_unique (h : Grows β SupplyGoesOn l c) {i k j : Nat} (hi : Writes l i)
    (hk : Writes l k) (hij : Derives l i j) (hkj : Derives l k j) : i = k := by
  obtain ⟨birth, x, hb, hx, -⟩ := h.of_writes hi
  obtain ⟨birth', x', hb', hx', -⟩ := h.of_writes hk
  rcases hij.total hkj with hd | hd
  · exact h.eq_of_derives_writes ((idAt_eq hb).trans hx) hk hd
  · exact (h.eq_of_derives_writes ((idAt_eq hb').trans hx') hi hd).symm

/-- The supply after a step is at most as far on as it is now, and has the same texts. -/
theorem Grows.supply_of_get (h : Grows β SupplyGoesOn l c) {j : Nat} {birth : Birth}
    (hj : l[j]? = some birth) :
    birth.before.idText = c.idText ∧ birth.after.idCount ≤ c.idCount := by
  have hstep := supplyGoesOn_of_makes (h.made hj)
  have hnow := (h.ordered .refl .trans id supplyGoesOn_of_makes).2 birth
    (List.mem_of_getElem? hj)
  exact ⟨(hnow.1.trans hstep.1).symm, hnow.2⟩

/-- A later step starts with a supply at least as far on as an earlier step left it. -/
theorem Grows.idCount_le (h : Grows β SupplyGoesOn l c) {i j : Nat} {a b : Birth}
    (hi : l[i]? = some a) (hj : l[j]? = some b) (hlt : i < j) :
    a.after.idCount ≤ b.before.idCount := by
  obtain ⟨hil, rfl⟩ := List.getElem?_eq_some_iff.mp hi
  obtain ⟨hjl, rfl⟩ := List.getElem?_eq_some_iff.mp hj
  have hpair := (h.ordered .refl .trans id supplyGoesOn_of_makes).1
  exact (List.pairwise_iff_getElem.mp hpair i j hil hjl hlt).2

/-- Two generating steps whose ids have one text are one step, if no text is handed out twice. -/
theorem Grows.generates_unique (h : Grows β SupplyGoesOn l c) (fresh : NoRepeats c) {i k : Nat}
    (hi : Generates l i) (hk : Generates l k) (hid : idAt l i = idAt l k) : i = k := by
  obtain ⟨a, ha, hacount⟩ := hi
  obtain ⟨b, hb, hbcount⟩ := hk
  obtain ⟨hatext, hale⟩ := h.supply_of_get ha
  obtain ⟨hbtext, hble⟩ := h.supply_of_get hb
  have htext : c.idText a.before.idCount = c.idText b.before.idCount := by
    rw [idAt_eq ha, idAt_eq hb, (h.of_generates ha hacount).1, (h.of_generates hb hbcount).1,
      hatext, hbtext] at hid
    exact congrArg CorrelationId.text (Option.some.inj hid)
  have hnumber := fresh _ _ (by omega) (by omega) htext
  rcases Nat.lt_trichotomy i k with hlt | heq | hgt
  · have := h.idCount_le ha hb hlt
    omega
  · exact heq
  · have := h.idCount_le hb ha hgt
    omega

/-- Two contexts with generated ids carry the same id exactly if one generating step lies on both of
their paths. -/
theorem Grows.generated_eq_iff (h : Grows β SupplyGoesOn l c) (fresh : NoRepeats c) {i j : Nat}
    (hi : HasGenerated l i) (hj : HasGenerated l j) :
    idAt l i = idAt l j ↔ ∃ k, Generates l k ∧ Derives l k i ∧ Derives l k j := by
  constructor
  · intro hid
    obtain ⟨a, ha, hai⟩ := hi
    obtain ⟨b, hb, hbj⟩ := hj
    obtain ⟨x, hx⟩ := h.exists_idAt ha
    obtain ⟨y, hy⟩ := h.exists_idAt hb
    have hxi := h.idAt_of_derives hai hx
    have hyj := h.idAt_of_derives hbj hy
    obtain rfl := h.generates_unique fresh ha hb (by rw [hx, hy, ← hxi, ← hyj, hid])
    exact ⟨a, ha, hai, hbj⟩
  · rintro ⟨k, hk, hki, hkj⟩
    obtain ⟨x, hx⟩ := h.exists_idAt hk
    rw [h.idAt_of_derives hki hx, h.idAt_of_derives hkj hx]

/-- **A correlation id is written once along every lineage.**  Every step of a run gives a context; what
a context carries, all contexts derived from it carry; exactly one step on the path of a context that
carries an id wrote it; a context started by a wrapped tracer carries one; and generated ids are told
apart by the steps that generated them. -/
theorem correlationId_written_once (h : Grows β SupplyGoesOn l c) :
    (∀ (how : Derivation) ctx c, ∃ ctx' c', how.outcome β ctx c = (.ok ctx', c')) ∧
    (∀ i j x, Derives l i j → idAt l i = some x → idAt l j = some x) ∧
    (∀ j x, idAt l j = some x →
      ∃ k, (Writes l k ∧ Derives l k j) ∧ ∀ k', Writes l k' → Derives l k' j → k' = k) ∧
    (∀ j birth parent how inner, l[j]? = some birth → birth.origin = .derived parent how →
      how.tracer? = some (.correlated inner) → ∃ x, idAt l j = some x) ∧
    (NoRepeats c → ∀ i j, HasGenerated l i → HasGenerated l j →
      (idAt l i = idAt l j ↔ ∃ k, Generates l k ∧ Derives l k i ∧ Derives l k j)) := by
  refine ⟨?_, fun i j x hd hx => h.idAt_of_derives hd hx, ?_, ?_,
    fun fresh i j hi hj => h.generated_eq_iff fresh hi hj⟩
  · intro how ctx c
    obtain ⟨ctx', c', hout, -⟩ := how.exists_outcome β ctx c
    exact ⟨ctx', c', hout⟩
  · intro j x hx
    obtain ⟨k, hk, hd⟩ := h.exists_writes j x hx
    exact ⟨k, ⟨hk, hd⟩, fun k' hk' hd' => h.writes_unique hk' hk hd' hd⟩
  · intro j birth parent how inner hj ho hwrapped
    obtain ⟨source, -, -, hout⟩ := h.source hj ho
    rw [idAt_eq hj]
    exact Derivation.exists_id_of_tracer hwrapped hout

/-- Two new contexts: one gets an id and a value; then a provider is shut down, and the other context is
started by a wrapped tracer of that provider.  Their ids differ, since no generating step is common. -/
theorem correlationId_written_once_forest :
    ∃ l c, Grows Unit SupplyGoesOn l c ∧ NoRepeats c ∧ idAt l 2 = idAt l 1 ∧
      (∃ x, idAt l 4 = some x) ∧ ¬ ∃ k, Generates l k ∧ Derives l k 2 ∧ Derives l k 4 := by
  let tracer : Tracer Backend :=
    .correlated (.backend (.exporting ⟨"scope", "service", .alwaysOn, 0⟩))
  let c (storages ids : Nat) (switches : List Bool) (spans : List SpanCell) : Collector :=
    { idText := UniqueId.text 7, idCount := ids, storageCount := storages, switches, spans }
  let id (n : Nat) : CorrelationId := ⟨UniqueId.text 7 n⟩
  let x₁ := (Context.empty 0).insert 1 .correlation (id 0)
  let x₂ := x₁.insert 2 (.custom "tenant") (.string "acme")
  let x₄ := ((Context.empty 3).insert 4 .correlation (id 1)).insert 5 .span ⟨0⟩
  let b₀ : Birth := ⟨.root, .empty 0, c 0 0 [false] [], c 1 0 [false] []⟩
  let b₁ : Birth := ⟨.derived 0 .ensure, x₁, c 1 0 [false] [], c 2 1 [false] []⟩
  let b₂ : Birth := ⟨.derived 1 (.withValue (.custom "tenant") rfl (.string "acme")), x₂, c 2 1 [false] [],
    c 3 1 [false] []⟩
  let b₃ : Birth := ⟨.root, .empty 3, c 3 1 [false] [], c 4 1 [false] []⟩
  let b₄ : Birth := ⟨.derived 3 (.start tracer "op" []), x₄, c 4 1 [true] [], c 6 2 [true] [.silent]⟩
  have h₀ : Grows Unit SupplyGoesOn [b₀] b₀.after := @Grows.build _ _ [] b₀ (.start _) rfl
  have h₁ : Grows Unit SupplyGoesOn [b₀, b₁] b₁.after :=
    @Grows.build _ _ [b₀] b₁ h₀ ⟨b₀, rfl, rfl⟩
  have h₂ : Grows Unit SupplyGoesOn [b₀, b₁, b₂] b₂.after :=
    @Grows.build _ _ [b₀, b₁] b₂ h₁ ⟨b₁, rfl, rfl⟩
  have h₃ : Grows Unit SupplyGoesOn [b₀, b₁, b₂, b₃] b₃.after :=
    @Grows.build _ _ [b₀, b₁, b₂] b₃ h₂ rfl
  have h₄ : Grows Unit SupplyGoesOn [b₀, b₁, b₂, b₃, b₄] b₄.after :=
    @Grows.build _ _ [b₀, b₁, b₂, b₃] b₄ (h₃.pause ⟨rfl, Nat.le_refl _⟩) ⟨b₃, rfl, rfl⟩
  have fresh : NoRepeats b₄.after := fun m n hm hn heq =>
    UniqueId.text_injective 7 (Nat.lt_trans hm (by decide)) (Nat.lt_trans hn (by decide)) heq
  obtain ⟨-, carried, -, wrapped, told⟩ := correlationId_written_once h₄
  have hid₂ := carried 1 2 (id 0) (.step .refl rfl rfl) rfl
  refine ⟨_, _, h₄, fresh, hid₂, wrapped 4 b₄ 3 _ _ rfl rfl rfl, ?_⟩
  have h₂g : HasGenerated [b₀, b₁, b₂, b₃, b₄] 2 := ⟨1, ⟨b₁, rfl, by decide⟩, .step .refl rfl rfl⟩
  have h₄g : HasGenerated [b₀, b₁, b₂, b₃, b₄] 4 := ⟨4, ⟨b₄, rfl, by decide⟩, .refl⟩
  rw [← told fresh 2 4 h₂g h₄g]
  intro heq
  have := UniqueId.text_injective 7 (by decide) (by decide)
    (congrArg CorrelationId.text (Option.some.inj heq))
  omega

end Lineage

end Observability
