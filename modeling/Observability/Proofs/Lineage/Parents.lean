import Observability.Proofs.Lineage.Spans
import Observability.Proofs.Tracing.Stamping
import Observability.Proofs.Tracing.Switch

/-!
# Parents along a lineage

A recorded span nests under the span that its context hands down, and the context it gives hands down the
new one.  A context has two slots for this: the current span, which every start replaces, and the parent,
which only recorded starts do.

* `Context.nesting` is what a context hands down, and `Collector.creations` what the subscriber was told of
  new spans.
* `NestingFate` lists what a derivation may do about the two: start a span that is recorded, start one that
  is not, or neither.
* `RecordedAt l k` says that the context at `k` was given by a recorded start, and `NestsUnder l j parent`
  that the nearest such place on the path of the context at `j` started the span with that number.

Each way to derive has the fate that `Derivation.recorded?` names (`nesting_of_outcome`), so a context
hands down the nearest recorded start (`Grows.nestsUnder`), and `parents_follow_contexts` says so of the
spans that are told.  Between two steps spans may end, providers may be shut down and other runs may go on:
all that is asked is that numbers are not taken back (`CreationsGoOn`).
-/

namespace Observability

/-- The recorded span that new ones nest under, by its number. -/
def Context.nesting (ctx : Context) : Option Nat := (ctx.get .parent).join

/-- Whether the observation is of a new span. -/
def Observation.isCreation : Observation → Bool
  | .spanCreated .. => true
  | _ => false

/-- What the subscriber was told of new spans. -/
def Collector.creations (c : Collector) : List Observation := c.journal.filter Observation.isCreation

/-- Whether spans started now are recorded.  Recording tracers tell the subscriber nothing, so they are
not asked. -/
def Backend.recorded? : Backend → Collector → Option Bool
  | .exporting tracer, c => some (tracer.records c)
  | .recording _, _ => none

/-- The switches decide. -/
theorem Backend.recorded?_of_switches {c c' : Collector} (tracer : Backend)
    (h : c'.switches = c.switches) : tracer.recorded? c' = tracer.recorded? c := by
  cases tracer with
  | exporting tracer => simp only [recorded?, ExportingTracer.records, h]
  | recording _ => rfl

/-- Whether the span that the derivation starts is recorded, if it starts one with an exporting tracer. -/
def Derivation.recorded? (how : Derivation) (c : Collector) : Option Bool :=
  how.tracer?.bind fun tracer => tracer.root.recorded? c

/-! ## Single derivations -/

open ExportingTracer (nextNumber announced_eq)

/-- No span is told, and the context hands down what the one before did. -/
structure KeepsNesting (ctx : Context) (c : Collector) (ctx' : Context) (c' : Collector) : Prop where
  nesting : ctx'.nesting = ctx.nesting
  created : c'.createdCount = c.createdCount
  creations : c'.creations = c.creations

/-- The next span is told under the one that the context hands down, and the new context hands down the
new span. -/
structure Nests (ctx : Context) (c : Collector) (ctx' : Context) (c' : Collector) : Prop where
  nesting : ctx'.nesting = nextNumber c
  created : c'.createdCount = (nextNumber c).getD c.createdCount
  creations : ∃ fields, c'.creations = c.creations ++ (nextNumber c).toList.map fun number =>
    .spanCreated number "span" .info ctx.nesting fields

/-- What becomes of the nesting when `ctx'` is derived from `ctx`, by whether a span is recorded. -/
inductive NestingFate (ctx : Context) (c : Collector) (ctx' : Context) (c' : Collector) :
    Option Bool → Prop
  | kept (keeps : KeepsNesting ctx c ctx' c') : NestingFate ctx c ctx' c' none
  /-- the current span is one that takes no notice of calls -/
  | unrecorded (keeps : KeepsNesting ctx c ctx' c') (span : ctx'.span? = some ⟨c.spans.length⟩)
      (cell : c'.spans[c.spans.length]? = some .silent) : NestingFate ctx c ctx' c' (some false)
  | recorded (nests : Nests ctx c ctx' c') : NestingFate ctx c ctx' c' (some true)

/-- A subscriber that takes spans gives each a number. -/
theorem nextNumber_of_admits {c : Collector} (h : c.threshold.admits .info = true) :
    nextNumber c = some (c.createdCount + 1) := if_pos h

theorem Context.nesting_insert_of_ne (ctx : Context) (storage : StorageId) {slot : Slot}
    (value : slot.Value) (h : Slot.parent ≠ slot) :
    (ctx.insert storage slot value).nesting = ctx.nesting :=
  congrArg Option.join (get_insert_of_ne ctx storage value h)

namespace NestingFate

variable {ctx mid ctx' : Context} {c c₁ c' : Collector} {recorded? : Option Bool}

/-- An insertion into another slot keeps what the context hands down. -/
theorem of_insert (ctx : Context) (c : Collector) (storage : StorageId) {slot : Slot}
    (value : slot.Value) (h : Slot.parent ≠ slot) (idCount storageCount : Nat) :
    NestingFate ctx c (ctx.insert storage slot value) { c with idCount, storageCount } none :=
  .kept ⟨ctx.nesting_insert_of_ne storage value h, rfl, rfl⟩

/-- Deriving from the context made sure to carry an id. -/
theorem of_ensured {id : CorrelationId} (hensured : ctx.Ensured c mid id c₁)
    (h : NestingFate mid c₁ ctx' c' recorded?) : NestingFate ctx c ctx' c' recorded? := by
  have hnesting : mid.nesting = ctx.nesting :=
    congrArg Option.join (hensured.others .parent (by decide))
  obtain ⟨idCount, storageCount, rfl⟩ := hensured.rest
  cases h with
  | kept keeps => exact .kept ⟨keeps.nesting.trans hnesting, keeps.created, keeps.creations⟩
  | unrecorded keeps span cell =>
    exact .unrecorded ⟨keeps.nesting.trans hnesting, keeps.created, keeps.creations⟩ span cell
  | recorded nests =>
    refine .recorded ⟨nests.nesting, nests.created, ?_⟩
    rw [← hnesting]
    exact nests.creations

/-- A counter is not of a new span. -/
theorem counted (h : NestingFate ctx c ctx' c' recorded?) (name : String)
    (labels : List (String × String)) (increment : Nat) :
    NestingFate ctx c ctx'
      { c' with journal := c'.journal ++ [.counter name labels increment] } recorded? := by
  have hsame : Collector.creations
      { c' with journal := c'.journal ++ [.counter name labels increment] } = c'.creations := by
    simp [Collector.creations, Observation.isCreation]
  cases h with
  | kept keeps => exact .kept ⟨keeps.nesting, keeps.created, hsame.trans keeps.creations⟩
  | unrecorded keeps span cell =>
    exact .unrecorded ⟨keeps.nesting, keeps.created, hsame.trans keeps.creations⟩ span cell
  | recorded nests =>
    refine .recorded ⟨nests.nesting, nests.created, ?_⟩
    rw [hsame]
    exact nests.creations

/-- Numbers are not taken back. -/
theorem created_le (h : NestingFate ctx c ctx' c' recorded?) : c.createdCount ≤ c'.createdCount := by
  cases h with
  | kept keeps => exact Nat.le_of_eq keeps.created.symm
  | unrecorded keeps _ _ => exact Nat.le_of_eq keeps.created.symm
  | recorded nests =>
    rw [nests.created, nextNumber]
    split
    · exact Nat.le_succ _
    · exact Nat.le_refl _

end NestingFate

/-! ### Every way to derive has a fate -/

theorem ExportingTracer.start_nesting (tracer : ExportingTracer) (ctx : Context) (name : String)
    (options : List StartOption) (c : Collector) :
    ∃ ctx' span c', Act.runOn (tracer.start ctx name options) c = (.ok (ctx', span), c') ∧
      NestingFate ctx c ctx' c' (some (tracer.records c)) := by
  cases h : tracer.records c with
  | false =>
    rw [tracer.runOn_start_of_not_records h]
    refine ⟨_, _, _, rfl, .unrecorded ⟨?_, rfl, rfl⟩ (Context.get_insert_self _ _ .span _) ?_⟩
    · exact ctx.nesting_insert_of_ne _ _ (by decide)
    · exact List.getElem?_concat_length
  | true =>
    simp only [tracer.runOn_start_of_records h, announced_eq]
    refine ⟨_, _, _, rfl, .recorded ⟨?_, rfl,
      tracer.fields name (SpanSettings.ofOptions options).kind, ?_⟩⟩
    · rw [Context.nesting_insert_of_ne _ _ _ (by decide), Context.nesting, Context.get_insert_self]
      rfl
    · rw [Collector.creations, List.filter_append, ← Collector.creations]
      congr 1
      refine List.filter_eq_self.mpr fun observation hmem => ?_
      obtain ⟨number, -, rfl⟩ := List.mem_map.mp hmem
      rfl

theorem Backend.start_nesting (tracer : Backend) (ctx : Context) (name : String)
    (options : List StartOption) (c : Collector) :
    ∃ ctx' span c', Act.runOn (SpanBackend.start tracer ctx name options) c =
        (.ok (ctx', span), c') ∧ NestingFate ctx c ctx' c' (tracer.recorded? c) := by
  cases tracer with
  | exporting tracer => exact tracer.start_nesting ctx name options c
  | recording tracer =>
    refine ⟨_, _, _, tracer.runOn_start ctx name options c, .kept ⟨?_, rfl, ?_⟩⟩
    · exact ctx.nesting_insert_of_ne _ _ (by decide)
    · simp [Collector.creations, Observation.isCreation]

/-- Wrappers make sure of the id, and leave the rest to their backend. -/
theorem Tracer.start_nesting (tracer : Tracer Backend) (ctx : Context) (name : String)
    (options : List StartOption) (c : Collector) :
    ∃ ctx' span c', Act.runOn (tracer.start ctx name options) c = (.ok (ctx', span), c') ∧
      NestingFate ctx c ctx' c' (tracer.root.recorded? c) := by
  cases tracer with
  | backend tracer => exact tracer.start_nesting ctx name options c
  | correlated inner =>
    obtain ⟨mid, id, c₁, hensure, hensured⟩ := ctx.exists_ensured c
    obtain ⟨ctx', span, c', hrun, hfate⟩ := inner.root.start_nesting mid name
      (options ++ wrapperOptions (inner.wrappers + 1) id) c₁
    -- making sure of the id throws no switch, so the backend decides as it would have before
    have hswitches : c₁.switches = c.switches := by
      obtain ⟨idCount, storageCount, rfl⟩ := hensured.rest
      rfl
    have hsame := inner.root.recorded?_of_switches hswitches
    refine ⟨ctx', span, c', ?_, hsame ▸ hfate.of_ensured hensured⟩
    rw [runOn_start_correlated hensure hensured.carries]
    exact hrun

theorem SpanFacility.startSpan_nesting (facility : SpanFacility Backend) (ctx : Context)
    (name : String) (c : Collector) :
    ∃ ctx' c', Act.runOn (facility.startSpan ctx name) c = (.ok ctx', c') ∧
      NestingFate ctx c ctx' c' (facility.tracer.root.recorded? c) := by
  obtain ⟨ctx', span, c', hrun, hfate⟩ := facility.tracer.start_nesting ctx name [] c
  refine ⟨ctx', _, ?_, hfate.counted "telemetry_spans_started_total" [] 1⟩
  rw [startSpan, Act.runOn_bind, hrun]
  rfl

namespace Derivation

/-- Every derivation gives a context. -/
theorem exists_outcome_nesting (β : Type) (how : Derivation) (ctx : Context) (c : Collector) :
    ∃ ctx' c', how.outcome β ctx c = (.ok ctx', c') ∧
      NestingFate ctx c ctx' c' (how.recorded? c) := by
  cases how with
  | withValue slot isOpen value =>
    have hne : Slot.parent ≠ slot := fun heq => by cases heq; cases isOpen
    exact ⟨_, _, rfl, .of_insert ctx c _ value hne _ _⟩
  | withSpan span => exact ⟨_, _, rfl, .of_insert ctx c _ _ (by decide) _ _⟩
  | adopt id =>
    rw [outcome]
    cases hid : ctx.correlationId? with
    | some old =>
      exact ⟨_, _, Context.runOn_adoptCorrelationId_of_some hid id c, .kept ⟨rfl, rfl, rfl⟩⟩
    | none =>
      exact ⟨_, _, Context.runOn_adoptCorrelationId_of_none hid id c,
        .of_insert ctx c _ _ (by decide) _ _⟩
  | ensure =>
    obtain ⟨mid, id, c₁, hensure, hensured⟩ := ctx.exists_ensured c
    refine ⟨mid, c₁, ?_, .of_ensured hensured (.kept ⟨rfl, rfl, rfl⟩)⟩
    rw [outcome, Act.runOn_map, hensure]
  | start tracer name options =>
    obtain ⟨ctx', span, c', hrun, hfate⟩ := tracer.start_nesting ctx name options c
    refine ⟨ctx', c', ?_, hfate⟩
    rw [outcome, Act.runOn_map, hrun]
  | startIn facility name => exact facility.startSpan_nesting ctx name c
  | startAt registry name =>
    cases hfacility : registry.facility with
    | none =>
      have hrecorded : recorded? (.startAt registry name) c = none := by
        rw [recorded?, tracer?, hfacility]
        rfl
      refine ⟨ctx, c, ?_, hrecorded ▸ .kept ⟨rfl, rfl, rfl⟩⟩
      rw [outcome, Registry.runOn_startSpan_none hfacility]
    | some facility =>
      have hrecorded : recorded? (.startAt registry name) c = facility.tracer.root.recorded? c := by
        rw [recorded?, tracer?, hfacility]
        rfl
      obtain ⟨ctx', c', hrun, hfate⟩ := facility.startSpan_nesting ctx name c
      refine ⟨ctx', c', ?_, hrecorded ▸ hfate⟩
      rw [outcome, Registry.runOn_startSpan_some hfacility]
      exact hrun

theorem nesting_of_outcome {β : Type} {how : Derivation} {ctx ctx' : Context} {c c' : Collector}
    (h : how.outcome β ctx c = (.ok ctx', c')) : NestingFate ctx c ctx' c' (how.recorded? c) := by
  obtain ⟨ctx'', c'', hrun, hfate⟩ := how.exists_outcome_nesting β ctx c
  rw [h] at hrun
  cases hrun
  exact hfate

end Derivation

/-! ## Along a lineage -/

/-- Numbers of spans are not taken back. -/
def CreationsGoOn (c c' : Collector) : Prop := c.createdCount ≤ c'.createdCount

theorem CreationsGoOn.refl (c : Collector) : CreationsGoOn c c := Nat.le_refl _

theorem CreationsGoOn.trans {a b c : Collector} (hab : CreationsGoOn a b) (hbc : CreationsGoOn b c) :
    CreationsGoOn a c := Nat.le_trans hab hbc

/-- What happens to spans takes no number back: it may be an end, a call or another start. -/
theorem CreationsGoOn.of_events {c c' : Collector} {events : List SpanEvent}
    (h : c'.ledger = c.ledger.applyAll events) : CreationsGoOn c c' := by
  show c.ledger.created ≤ c'.ledger.created
  rw [h]
  exact SpanLedger.created_le_applyAll _ _

/-- Whether a span was recorded, if the context was given by the start of an exporting tracer. -/
def Birth.recorded? (birth : Birth) : Option Bool :=
  match birth.origin with
  | .root => none
  | .derived _ how => how.recorded? birth.before

/-- The number of the span that was recorded when the context was given. -/
def Birth.number (birth : Birth) : Nat := birth.before.createdCount + 1

/-- Only derived contexts are given by starts. -/
theorem Birth.exists_origin_of_recorded {birth : Birth} {recorded : Bool}
    (h : birth.recorded? = some recorded) : ∃ place how, birth.origin = .derived place how := by
  rw [recorded?] at h
  split at h
  · cases h
  · next place how ho => exact ⟨place, how, ho⟩

theorem Birth.recorded?_eq {birth : Birth} {parent : Nat} {how : Derivation}
    (h : birth.origin = .derived parent how) : birth.recorded? = how.recorded? birth.before := by
  rw [recorded?, h]

namespace Lineage

variable {β : Type} {l : Lineage} {c : Collector}

/-- The context at `k` was given by a recorded start. -/
def RecordedAt (l : Lineage) (k : Nat) : Prop :=
  ∃ birth, l[k]? = some birth ∧ birth.recorded? = some true

/-- The nearest recorded start on the path of the context at `j` started the span with that number; or
there is none. -/
def NestsUnder (l : Lineage) (j : Nat) : Option Nat → Prop
  | some number => ∃ k birth, Nearest l (RecordedAt l) k j ∧ l[k]? = some birth ∧
      birth.number = number
  | none => ∀ k, RecordedAt l k → ¬ Derives l k j

/-- What the context at `j` hands down. -/
def nestingAt (l : Lineage) (j : Nat) : Option Nat :=
  l[j]?.bind fun birth => birth.context.nesting

theorem nestingAt_eq {j : Nat} {birth : Birth} (hj : l[j]? = some birth) :
    nestingAt l j = birth.context.nesting := by
  rw [nestingAt, hj]
  rfl

theorem recordedAt_iff {k : Nat} {birth : Birth} (hk : l[k]? = some birth) :
    RecordedAt l k ↔ birth.recorded? = some true := by
  constructor
  · rintro ⟨other, hother, hrecorded⟩
    rw [hk] at hother
    cases hother
    exact hrecorded
  · exact fun hrecorded => ⟨birth, hk, hrecorded⟩

theorem creationsGoOn_of_makes {birth : Birth} (h : Makes β l birth) :
    CreationsGoOn birth.before birth.after := by
  unfold Makes at h
  split at h
  · rw [Context.runOn_create] at h
    exact (Prod.mk.inj h).2 ▸ Nat.le_refl _
  · obtain ⟨source, -, hout⟩ := h
    exact (Derivation.nesting_of_outcome hout).created_le

section Steps

variable {between : Collector → Collector → Prop}

/-- Every derivation can be taken next, from any context that there is. -/
theorem Grows.exists_derive (h : Grows β between l c) {place : Nat} {source : Birth}
    (hs : l[place]? = some source) (how : Derivation) :
    ∃ ctx c', how.outcome β source.context c = (.ok ctx, c') ∧
      Grows β between (l ++ [⟨.derived place how, ctx, c, c'⟩]) c' := by
  obtain ⟨ctx, c', hout, -⟩ := how.exists_outcome_nesting β source.context c
  exact ⟨ctx, c', hout,
    @Grows.build β between l ⟨.derived place how, ctx, c, c'⟩ h ⟨source, hs, hout⟩⟩

/-- A run goes on with a derivation. -/
theorem Grows.derive {s : SpanRun} (h : Grows β between s.lineage s.collector) (place : Nat)
    (how : Derivation) :
    Grows β between (s.derive β place how).lineage (s.derive β place how).collector := by
  rw [SpanRun.derive]
  cases hplace : s.lineage[place]? with
  | none => exact h
  | some source =>
    obtain ⟨ctx, c', hout, hgrows⟩ := h.exists_derive hplace how
    simp only [hout]
    exact hgrows

/-- A derived context has the fate of its derivation. -/
theorem Grows.nesting_fate (h : Grows β between l c) {j place : Nat} {birth : Birth}
    {how : Derivation} (hj : l[j]? = some birth) (ho : birth.origin = .derived place how) :
    ∃ source, l[place]? = some source ∧
      NestingFate source.context birth.before birth.context birth.after birth.recorded? := by
  obtain ⟨source, -, hs, hout⟩ := h.source hj ho
  exact ⟨source, hs, Birth.recorded?_eq ho ▸ Derivation.nesting_of_outcome hout⟩

/-- A recorded start is told under what the context it starts from hands down. -/
theorem Grows.nests (h : Grows β between l c) {j place : Nat} {birth : Birth} {how : Derivation}
    (hj : l[j]? = some birth) (ho : birth.origin = .derived place how)
    (hrecorded : birth.recorded? = some true) :
    ∃ source, l[place]? = some source ∧
      Nests source.context birth.before birth.context birth.after := by
  obtain ⟨source, hs, hfate⟩ := h.nesting_fate hj ho
  rw [hrecorded] at hfate
  cases hfate with
  | recorded nests => exact ⟨source, hs, nests⟩

/-- Any other derivation tells of no span and hands down what was handed to it. -/
theorem Grows.keepsNesting (h : Grows β between l c) {j place : Nat} {birth : Birth}
    {how : Derivation} (hj : l[j]? = some birth) (ho : birth.origin = .derived place how)
    (hnot : birth.recorded? ≠ some true) :
    birth.after.creations = birth.before.creations ∧ nestingAt l j = nestingAt l place := by
  obtain ⟨source, hs, hfate⟩ := h.nesting_fate hj ho
  rw [nestingAt_eq hj, nestingAt_eq hs]
  generalize birth.recorded? = recorded? at hfate hnot
  cases hfate with
  | kept keeps => exact ⟨keeps.creations, keeps.nesting⟩
  | unrecorded keeps _ _ => exact ⟨keeps.creations, keeps.nesting⟩
  | recorded _ => exact absurd rfl hnot

/-- After a start that is not recorded, the current span is one that takes no notice of calls. -/
theorem Grows.silent_of_unrecorded (h : Grows β between l c) {j place : Nat} {birth : Birth}
    {how : Derivation} (hj : l[j]? = some birth) (ho : birth.origin = .derived place how)
    (hunrecorded : birth.recorded? = some false) :
    ∃ span, spanAt l j = some span ∧
      Act.runOn span.isRecording birth.after = (.ok false, birth.after) := by
  obtain ⟨source, hs, hfate⟩ := h.nesting_fate hj ho
  rw [hunrecorded] at hfate
  cases hfate with
  | unrecorded _ span cell =>
    exact ⟨_, (spanAt_eq hj).trans span, SpanHandle.runOn_isRecording_of_cell cell⟩

/-- A recorded start hands down the span that it started. -/
theorem Grows.nestingAt_of_recorded (h : Grows β between l c)
    (hinfo : ∀ birth ∈ l, birth.before.threshold.admits .info = true) {k : Nat}
    (hk : RecordedAt l k) :
    ∃ birth, l[k]? = some birth ∧ nestingAt l k = some birth.number := by
  obtain ⟨birth, hbirth, hrecorded⟩ := hk
  obtain ⟨place, how, ho⟩ := Birth.exists_origin_of_recorded hrecorded
  obtain ⟨source, -, nests⟩ := h.nests hbirth ho hrecorded
  refine ⟨birth, hbirth, ?_⟩
  rw [nestingAt_eq hbirth, nests.nesting]
  exact nextNumber_of_admits (hinfo birth (List.mem_of_getElem? hbirth))

/-- A context hands down the span of the nearest recorded start on its path. -/
theorem Grows.nestsUnder (h : Grows β between l c)
    (hinfo : ∀ birth ∈ l, birth.before.threshold.admits .info = true) {j : Nat}
    (hj : j < l.length) : NestsUnder l j (nestingAt l j) := by
  have hcases := @Grows.nearest_cases β between l c _ (RecordedAt l) (nestingAt l) h ?_ ?_ j hj
  · rcases hcases with ⟨k, hnearest, hsame⟩ | ⟨hnone, hno⟩
    · obtain ⟨birth, hbirth, hnumber⟩ := h.nestingAt_of_recorded hinfo hnearest.marked
      rw [hsame, hnumber]
      exact ⟨k, birth, hnearest, hbirth, rfl⟩
    · rw [hnone]
      exact hno
  -- a new context hands down nothing, and one that was not given by a recorded start what it was handed
  · intro j birth hbirth ho hmade
    refine ⟨fun hrecorded => ?_, ?_⟩
    · rw [recordedAt_iff hbirth, Birth.recorded?, ho] at hrecorded
      cases hrecorded
    · rw [nestingAt_eq hbirth, ← Except.ok.inj (Prod.mk.inj hmade).1]
      rfl
  · intro j birth place how source hbirth ho _ _ hnot
    exact (h.keepsNesting hbirth ho fun hrecorded => hnot ⟨birth, hbirth, hrecorded⟩).2

end Steps

/-- Later recorded starts get larger numbers. -/
theorem Grows.number_lt (h : Grows β CreationsGoOn l c)
    (hinfo : ∀ birth ∈ l, birth.before.threshold.admits .info = true) {i k : Nat} {a b : Birth}
    (ha : l[i]? = some a) (hb : l[k]? = some b) (hrecorded : a.recorded? = some true)
    (hlt : i < k) : a.number < b.number := by
  obtain ⟨place, how, ho⟩ := Birth.exists_origin_of_recorded hrecorded
  obtain ⟨source, -, nests⟩ := h.nests ha ho hrecorded
  have hcount := nests.created
  rw [nextNumber_of_admits (hinfo a (List.mem_of_getElem? ha))] at hcount
  obtain ⟨hi, rfl⟩ := List.getElem?_eq_some_iff.mp ha
  obtain ⟨hk, rfl⟩ := List.getElem?_eq_some_iff.mp hb
  have hordered := (h.ordered .refl .trans id creationsGoOn_of_makes).1
  have hle := List.pairwise_iff_getElem.mp hordered i k hi hk hlt
  -- the earlier start counted its own span before the later one took its number
  unfold Birth.number
  exact Nat.succ_lt_succ (Nat.lt_of_lt_of_le (hcount ▸ Nat.lt_succ_self _) hle)

/-- Different recorded starts have different numbers. -/
theorem Grows.number_unique (h : Grows β CreationsGoOn l c)
    (hinfo : ∀ birth ∈ l, birth.before.threshold.admits .info = true) {i k : Nat} {a b : Birth}
    (ha : l[i]? = some a) (hb : l[k]? = some b) (harecorded : a.recorded? = some true)
    (hbrecorded : b.recorded? = some true) (hsame : a.number = b.number) : i = k := by
  rcases Nat.lt_trichotomy i k with hlt | heq | hgt
  · exact absurd hsame (Nat.ne_of_lt (h.number_lt hinfo ha hb harecorded hlt))
  · exact heq
  · exact absurd hsame.symm (Nat.ne_of_lt (h.number_lt hinfo hb ha hbrecorded hgt))

/-- **Parents follow contexts.**  From any context of a run, every derivation can be taken next.  Under a
subscriber that takes spans throughout, each context hands down the span of the nearest recorded start on
its path.  A recorded start is told once, under what the context it starts from hands down, and with a
number that no other has.  No other derivation is told as a span or hides a parent, not even a start that
is not recorded, though its span is then the current one. -/
theorem parents_follow_contexts (h : Grows β CreationsGoOn l c)
    (hinfo : ∀ birth ∈ l, birth.before.threshold.admits .info = true) :
    (∀ place source how, l[place]? = some source → ∃ ctx c',
      Grows β CreationsGoOn (l ++ [⟨.derived place how, ctx, c, c'⟩]) c') ∧
    (∀ j, j < l.length → NestsUnder l j (nestingAt l j)) ∧
    (∀ j birth place how, l[j]? = some birth → birth.origin = .derived place how →
      if how.recorded? birth.before = some true then
        ∃ fields, birth.after.creations = birth.before.creations ++
          [.spanCreated birth.number "span" .info (nestingAt l place) fields]
      else birth.after.creations = birth.before.creations ∧ nestingAt l j = nestingAt l place) ∧
    (∀ j birth place how, l[j]? = some birth → birth.origin = .derived place how →
      how.recorded? birth.before = some false → ∃ span, spanAt l j = some span ∧
        Act.runOn span.isRecording birth.after = (.ok false, birth.after)) ∧
    (∀ (i k : Nat) (a b : Birth), l[i]? = some a → l[k]? = some b → a.recorded? = some true →
      b.recorded? = some true → a.number = b.number → i = k) := by
  refine ⟨?_, fun j hj => h.nestsUnder hinfo hj, ?_, ?_,
    fun _ _ _ _ ha hb => h.number_unique hinfo ha hb⟩
  · intro place source how hs
    obtain ⟨ctx, c', -, hgrows⟩ := h.exists_derive hs how
    exact ⟨ctx, c', hgrows⟩
  · intro j birth place how hj ho
    rw [← Birth.recorded?_eq ho]
    split
    · next hrecorded =>
      obtain ⟨source, hs, nests⟩ := h.nests hj ho hrecorded
      obtain ⟨fields, hcreations⟩ := nests.creations
      rw [nextNumber_of_admits (hinfo birth (List.mem_of_getElem? hj))] at hcreations
      exact ⟨fields, nestingAt_eq hs ▸ hcreations⟩
    · next hnot => exact h.keepsNesting hj ho hnot
  · intro j birth place how hj ho hunrecorded
    rw [← Birth.recorded?_eq ho] at hunrecorded
    exact h.silent_of_unrecorded hj ho hunrecorded

/-- A span of one provider, under which a tracer that samples nothing starts another in two wrappers, and a
value on top. -/
def mixedStart : SpanRun :=
  let c : Collector := { idText := fun _ => "x", switches := [false, false] }
  let new := SpanRun.build { registry := {}, collector := c } .root (Act.runOn Context.create c)
  let outer := new.derive Unit 0
    (.start (.correlated (.backend (.exporting ⟨"scope", "service", .alwaysOn, 0⟩))) "outer" [])
  let quiet := outer.derive Unit 1 (.start (.correlated (.correlated
    (.backend (.exporting ⟨"scope", "service", .alwaysOff, 1⟩)))) "quiet" [])
  quiet.derive Unit 2 (.withValue (.app .tenant) rfl "acme")

/-- What then happens to the collector: the span ends, and its provider is shut down. -/
def mixedPause : Collector :=
  let ended := (Act.runOn (SpanHandle.call ⟨0⟩ .finish) mixedStart.collector).2
  (Act.runOn (ExportingProvider.shutdown ⟨"service", .alwaysOn, 0⟩) ended).2

/-- Two more starts, by a tracer of the other provider and by one of the first. -/
def mixedRun : SpanRun :=
  let inner := SpanRun.derive Unit { mixedStart with collector := mixedPause } 3
    (.start (.backend (.exporting ⟨"scope", "service", .alwaysOn, 1⟩)) "inner" [])
  inner.derive Unit 4
    (.start (.backend (.exporting ⟨"scope", "service", .alwaysOn, 0⟩)) "late" [])

/-- The inner span nests under the outer one, past the span that was not sampled, and spans started from
the last context would nest under the inner one. -/
theorem parents_follow_contexts_mixed :
    Grows Unit CreationsGoOn mixedRun.lineage mixedRun.collector ∧
    (∀ birth ∈ mixedRun.lineage, birth.before.threshold.admits .info = true) ∧
    NestsUnder mixedRun.lineage 3 (some 1) ∧ NestsUnder mixedRun.lineage 5 (some 2) ∧
    (∃ birth fields, mixedRun.lineage[4]? = some birth ∧ birth.after.creations =
      birth.before.creations ++ [.spanCreated 2 "span" .info (some 1) fields]) ∧
    ∃ span c', spanAt mixedRun.lineage 5 = some span ∧
      Act.runOn span.isRecording c' = (.ok false, c') := by
  have hstart : Grows Unit CreationsGoOn mixedStart.lineage mixedStart.collector := by
    let c : Collector := { idText := fun _ => "x", switches := [false, false] }
    have hnew := @Grows.build Unit CreationsGoOn []
      ⟨.root, .empty 0, c, { c with storageCount := 1 }⟩ (.start c) rfl
    exact ((Grows.derive (s := ⟨{}, _, _, []⟩) hnew 0 _).derive 1 _).derive 2 _
  have hpause : CreationsGoOn mixedStart.collector mixedPause :=
    .trans (@CreationsGoOn.of_events _ _ [.called 0 .finish] (SpanHandle.ledger_call ⟨0⟩ .finish _))
      (@CreationsGoOn.of_events _ _ [] (ExportingProvider.ledger_shutdown _ _))
  have hrun : Grows Unit CreationsGoOn mixedRun.lineage mixedRun.collector :=
    (Grows.derive (s := { mixedStart with collector := mixedPause }) (hstart.pause hpause) 3 _).derive
      4 _
  have hinfo : ∀ birth ∈ mixedRun.lineage, birth.before.threshold.admits .info = true := by decide
  obtain ⟨-, nests, told, silent, -⟩ := parents_follow_contexts hrun hinfo
  obtain ⟨fields, hfields⟩ := told 4 _ 3 _ rfl rfl
  obtain ⟨span, hspan, hsilent⟩ := silent 5 _ 4 _ rfl rfl rfl
  exact ⟨hrun, hinfo, nests 3 (by decide), nests 5 (by decide), ⟨_, fields, rfl, hfields⟩,
    span, _, hspan, hsilent⟩

end Lineage

end Observability
