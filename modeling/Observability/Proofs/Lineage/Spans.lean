import Observability.Proofs.Lineage.Identifiers
import Observability.Proofs.Span.Outcome

/-!
# Spans along a lineage

A run builds contexts and starts spans from any of them; any of them is ended, in any order and as often
as it likes; and the facility in the registry is replaced by another one now and then.

* `SpanCommand` is one thing that a run does, `SpanRun` what it has come to, and `SpanRun.step` what one
  command adds to it.
* `LastStart l k j` says that the start at `k` is the last one on the path of the context at `j`.
* `SpanRun.endsOn` picks the ends of one span out of those of all.

`Sound` is what a run keeps.  From it come `spanAt_cases`, which says that a context carries the span of
the last start on its path, and `sound_after`, by which every span is as its own ends leave it.
`spans_do_not_interfere` puts both together.
-/

namespace Observability

/-- The derivation starts no span: a value of an application, or an id. -/
def Derivation.isPlain : Derivation → Bool
  | .withValue .. | .adopt _ | .ensure => true
  | .withSpan _ | .start .. | .startIn .. | .startAt .. => false

/-- The context was given by the start of a span. -/
def Birth.Starts (birth : Birth) : Prop :=
  ∃ parent how, birth.origin = .derived parent how ∧ how.tracer?.isSome = true

namespace Lineage

/-- The span that the context at `j` carries. -/
def spanAt (l : Lineage) (j : Nat) : Option SpanHandle :=
  l[j]?.bind fun birth => birth.context.span?

/-- The context at `k` was given by the start of a span. -/
def StartsAt (l : Lineage) (k : Nat) : Prop := ∃ birth, l[k]? = some birth ∧ birth.Starts

/-- Of the starts on the path of the context at `j`, the one at `k` is the last. -/
structure LastStart (l : Lineage) (k j : Nat) : Prop where
  starts : StartsAt l k
  path : Derives l k j
  last : ∀ k', StartsAt l k' → Derives l k' j → Derives l k' k

end Lineage

open Lineage

/-- Something done in a run.  Contexts are known by their places. -/
inductive SpanCommand where
  /-- a new context -/
  | root
  | derive (place : Nat) (how : Derivation) (isPlain : how.isPlain = true)
  | startSpan (place : Nat) (name : String)
  | endSpan (place : Nat) (last : SpanEnd)
  /-- puts a facility over the tracer in the place of any other -/
  | register (tracer : ExportingTracer)

/-- What a run has come to: the contexts it has built, and the ends of their spans so far, each with the
place of its context. -/
structure SpanRun where
  registry : Registry (SpanFacility Backend)
  collector : Collector
  lineage : Lineage := []
  ends : List (Nat × SpanEnd) := []

namespace SpanRun

/-- The run with the context that was built, if none failed. -/
def build (s : SpanRun) (origin : Origin) : Except Crash Context × Collector → SpanRun
  | (.ok ctx, c) =>
    { s with collector := c, lineage := s.lineage ++ [⟨origin, ctx, s.collector, c⟩] }
  | (.error _, c) => { s with collector := c }

/-- The run with a context derived from the one at the place, if there is one. -/
def derive (β : Type) (s : SpanRun) (place : Nat) (how : Derivation) : SpanRun :=
  match s.lineage[place]? with
  | none => s
  | some source => s.build (.derived place how) (how.outcome β source.context s.collector)

/-- The run after the command. -/
def step (β : Type) (s : SpanRun) : SpanCommand → SpanRun
  | .root => s.build .root (Act.runOn Context.create s.collector)
  | .derive place how _ => s.derive β place how
  | .startSpan place name => s.derive β place (.startAt s.registry name)
  | .endSpan place last =>
    match s.lineage[place]? with
    | none => s
    | some birth =>
      let ((_, registry), collector) := RegistryAct.runOn
        (Registry.endSpan β birth.context last.status last.error) s.registry s.collector
      { s with registry, collector, ends := s.ends ++ [(place, last)] }
  | .register tracer =>
    let ((_, registry), collector) := RegistryAct.runOn
      (Registry.register (SpanFacility.exporting tracer)) s.registry s.collector
    { s with registry, collector }

/-- The run after the commands. -/
def after (β : Type) (s : SpanRun) (commands : List SpanCommand) : SpanRun :=
  commands.foldl (step β) s

/-- The ends of the span so far: those of the contexts that carry it. -/
def endsOn (s : SpanRun) (span : SpanHandle) : List SpanEnd :=
  (s.ends.filter fun last => spanAt s.lineage last.1 = some span).map (·.2)

end SpanRun

/-! ## Single derivations -/

/-- A plain derivation keeps the span, and only the supplies change. -/
theorem Derivation.exists_outcome_of_isPlain (β : Type) {how : Derivation} (h : how.isPlain = true)
    (ctx : Context) (c : Collector) :
    how.tracer? = none ∧ ∃ ctx' idCount storageCount,
      how.outcome β ctx c = (.ok ctx', { c with idCount, storageCount }) ∧
        ctx'.span? = ctx.span? := by
  cases how with
  | withValue slot isOpen value =>
    have hne : Slot.span ≠ slot := fun heq => by cases heq; cases isOpen
    exact ⟨rfl, _, _, _, rfl, Context.get_insert_of_ne _ _ _ hne⟩
  | adopt id =>
    rw [outcome]
    cases hid : ctx.correlationId? with
    | some old =>
      exact ⟨rfl, _, _, _, Context.runOn_adoptCorrelationId_of_some hid id c, rfl⟩
    | none =>
      exact ⟨rfl, _, _, _, Context.runOn_adoptCorrelationId_of_none hid id c,
        Context.get_insert_of_ne ctx _ _ (by decide)⟩
  | ensure =>
    rw [outcome, Act.runOn_map]
    cases hid : ctx.correlationId? with
    | some old =>
      rw [Context.runOn_ensureCorrelationId_of_some hid]
      exact ⟨rfl, _, _, _, rfl, rfl⟩
    | none =>
      rw [Context.runOn_ensureCorrelationId_of_none hid]
      exact ⟨rfl, _, _, _, rfl, Context.get_insert_of_ne ctx _ _ (by decide)⟩
  | withSpan | start | startIn | startAt => cases h

/-- What the start of a span did: it opened one under the id of its context. -/
structure Birth.Opens (birth : Birth) (id : CorrelationId) : Prop where
  span : birth.context.span? = some ⟨birth.before.spans.length⟩
  carries : birth.context.correlationId? = some id
  ledger : ∃ parent fields, birth.after.ledger = birth.before.ledger.apply
    (.opened [⟨correlationKey, .string id.text⟩] parent fields)

theorem Birth.Opens.length {birth : Birth} {id : CorrelationId} (h : birth.Opens id) :
    birth.after.spans.length = birth.before.spans.length + 1 := by
  obtain ⟨parent, fields, hledger⟩ := h.ledger
  show birth.after.ledger.spans.length = _
  rw [hledger]
  exact List.length_append

/-- The births of a run are plain, or start spans that are recorded. -/
def Birth.Tame (birth : Birth) : Prop :=
  ∀ parent how, birth.origin = .derived parent how → how.isPlain = true ∨
    ∃ tracer name, how = .startAt ⟨some (.exporting tracer)⟩ name ∧
      tracer.records birth.before = true

theorem Derivation.exists_outcome_startAt (β : Type) {tracer : ExportingTracer} {c : Collector}
    (hrecords : tracer.records c = true) (ctx : Context) (name : String) (origin : Origin) :
    ∃ ctx' c' id,
      (Derivation.startAt ⟨some (.exporting tracer)⟩ name).outcome β ctx c = (.ok ctx', c') ∧
      c'.switches = c.switches ∧ Birth.Opens ⟨origin, ctx', c, c'⟩ id := by
  obtain ⟨ctx', c', id, parent, fields, hrun, hspan, hid, hswitches, hledger⟩ :=
    SpanFacility.exists_runOn_startSpan hrecords ctx name
  refine ⟨ctx', c', id, ?_, hswitches, hspan, hid, parent, fields, hledger⟩
  rw [outcome, Registry.runOn_startSpan_some rfl]
  exact Prod.ext (congrArg Prod.fst hrun) (congrArg Prod.snd hrun)

/-! ## Which span a context carries -/

namespace Lineage

variable {β : Type} {between : Collector → Collector → Prop} {l : Lineage} {c : Collector}

theorem spanAt_eq {j : Nat} {birth : Birth} (hj : l[j]? = some birth) :
    spanAt l j = birth.context.span? := by
  rw [spanAt, hj]
  rfl

theorem spanAt_append {j : Nat} (hj : j < l.length) (more : List Birth) :
    spanAt (l ++ more) j = spanAt l j := by
  rw [spanAt, List.getElem?_append_left hj, spanAt]

theorem StartsAt.starts {k : Nat} {birth : Birth} (hk : StartsAt l k) (hbirth : l[k]? = some birth) :
    birth.Starts := by
  obtain ⟨other, hother, hstarts⟩ := hk
  rw [hbirth] at hother
  cases hother
  exact hstarts

/-- A start opened a span. -/
theorem Grows.opens (h : Grows β between l c) {k : Nat} {birth : Birth} (hbirth : l[k]? = some birth)
    (tame : birth.Tame) (hstarts : birth.Starts) : ∃ id, birth.Opens id := by
  obtain ⟨parent, how, ho, htracer⟩ := hstarts
  obtain ⟨source, -, -, hout⟩ := h.source hbirth ho
  rcases tame parent how ho with hplain | ⟨tracer, name, rfl, hrecords⟩
  · rw [(Derivation.exists_outcome_of_isPlain β hplain source.context birth.before).1] at htracer
    cases htracer
  · obtain ⟨ctx', c', id, hrun, -, hopens⟩ :=
      Derivation.exists_outcome_startAt β hrecords source.context name birth.origin
    rw [hrun] at hout
    cases hout
    exact ⟨id, hopens⟩

/-- Paths lead from earlier places to later ones. -/
theorem Grows.le_of_derives (h : Grows β between l c) {i j : Nat} (hd : Derives l i j) : i ≤ j := by
  induction hd with
  | refl => exact Nat.le_refl _
  | step path here parent ih =>
    next birth =>
      cases ho : birth.origin with
      | root =>
        rw [ho] at parent
        cases parent
      | derived parent' how =>
        rw [ho] at parent
        cases parent
        obtain ⟨source, hlt, -⟩ := h.source here ho
        omega

/-- The last start on a path is one. -/
theorem Grows.lastStart_unique (h : Grows β between l c) {i k j : Nat} (hi : LastStart l i j)
    (hk : LastStart l k j) : i = k :=
  Nat.le_antisymm (h.le_of_derives (hk.last i hi.starts hi.path))
    (h.le_of_derives (hi.last k hk.starts hk.path))

theorem Derives.lt_length {k j : Nat} (hd : Derives l k j) (hk : k < l.length) : j < l.length := by
  cases hd with
  | refl => exact hk
  | step _ here _ => exact (List.getElem?_eq_some_iff.mp here).1

theorem StartsAt.lt_length {k : Nat} (hk : StartsAt l k) : k < l.length := by
  obtain ⟨birth, hbirth, -⟩ := hk
  exact (List.getElem?_eq_some_iff.mp hbirth).1

/-- A context carries the span of the last start on its path; none, if there is none. -/
theorem Grows.spanAt_cases (h : Grows β between l c) (tame : ∀ birth ∈ l, birth.Tame) (j : Nat)
    (hj : j < l.length) :
    (∃ k, LastStart l k j ∧ spanAt l j = spanAt l k) ∨
      (spanAt l j = none ∧ ∀ k, StartsAt l k → ¬ Derives l k j) := by
  have hcases := @Grows.nearest_cases β between l c _ (StartsAt l) (spanAt l) h ?_ ?_ j hj
  · rcases hcases with ⟨k, hnearest, hsame⟩ | hnone
    · exact Or.inl ⟨k, ⟨hnearest.marked, hnearest.path, hnearest.last⟩, hsame⟩
    · exact Or.inr hnone
  · intro j birth hbirth ho hmade
    refine ⟨fun hk => ?_, ?_⟩
    · obtain ⟨_, _, ho', -⟩ := hk.starts hbirth
      rw [ho] at ho'
      cases ho'
    · rw [spanAt_eq hbirth, ← Except.ok.inj (Prod.mk.inj hmade).1]
      rfl
  · intro j birth parent how source hbirth ho hs hout hnot
    rcases tame birth (List.mem_of_getElem? hbirth) parent how ho with hplain | ⟨tracer, name, rfl, _⟩
    · obtain ⟨-, ctx', _, _, hrun, hspan⟩ :=
        Derivation.exists_outcome_of_isPlain β hplain source.context birth.before
      rw [hrun] at hout
      rw [spanAt_eq hbirth, spanAt_eq hs, ← hspan, Except.ok.inj (Prod.mk.inj hout).1]
    · exact absurd ⟨birth, hbirth, parent, _, ho, rfl⟩ hnot

end Lineage

/-! ## What a run keeps -/

namespace SpanRun

/-- The span that the birth opened is as its own ends leave it. -/
structure Settled (s : SpanRun) (birth : Birth) : Prop where
  numbered : birth.before.ledger.Numbered
  history : ∃ events, s.collector.ledger = birth.after.ledger.applyAll events ∧
    callsOn birth.before.spans.length events =
      (s.endsOn ⟨birth.before.spans.length⟩).flatMap SpanEnd.calls

/-- What holds all along a run from the collector `c₀`. -/
structure Sound (β : Type) (c₀ : Collector) (s : SpanRun) : Prop where
  grown : Grows β SupplyGoesOn s.lineage s.collector
  tame : ∀ birth ∈ s.lineage, birth.Tame
  facility : ∃ tracer, s.registry = ⟨some (.exporting tracer)⟩ ∧ tracer.records c₀ = true
  switches : s.collector.switches = c₀.switches
  numbered : s.collector.ledger.Numbered
  ends : ∀ last ∈ s.ends, last.1 < s.lineage.length
  ordered : s.lineage.Pairwise fun a b => a.after.spans.length ≤ b.before.spans.length
  latest : ∀ birth ∈ s.lineage, birth.after.spans.length ≤ s.collector.spans.length
  settled : ∀ birth ∈ s.lineage, birth.Starts → s.Settled birth

namespace Sound

variable {β : Type} {c₀ : Collector} {s : SpanRun}

/-- A start opened a span. -/
theorem opens (h : Sound β c₀ s) {birth : Birth} (hbirth : birth ∈ s.lineage)
    (hstarts : birth.Starts) : ∃ id, birth.Opens id := by
  obtain ⟨k, hk⟩ := List.mem_iff_getElem?.mp hbirth
  exact h.grown.opens hk (h.tame birth hbirth) hstarts

/-- The spans that contexts carry are in use. -/
theorem spanAt_lt (h : Sound β c₀ s) {j : Nat} {span : SpanHandle} (hj : j < s.lineage.length)
    (hspan : spanAt s.lineage j = some span) : span.index < s.collector.spans.length := by
  rcases h.grown.spanAt_cases h.tame j hj with ⟨k, hlast, hsame⟩ | ⟨hnone, -⟩
  · obtain ⟨birth, hbirth, hstarts⟩ := hlast.starts
    have hmem := List.mem_of_getElem? hbirth
    obtain ⟨id, hopens⟩ := h.opens hmem hstarts
    rw [hsame, spanAt_eq hbirth, hopens.span] at hspan
    have hle := h.latest birth hmem
    rw [hopens.length] at hle
    rw [← Option.some.inj hspan]
    exact hle
  · rw [hnone] at hspan
    cases hspan

/-- Contexts that are built later do not matter to the ends so far. -/
theorem endsOn_append (h : Sound β c₀ s) (collector : Collector) (more : List Birth)
    (span : SpanHandle) :
    endsOn { s with collector, lineage := s.lineage ++ more } span = s.endsOn span := by
  rw [endsOn, endsOn]
  congr 1
  refine List.filter_congr fun last hlast => ?_
  rw [spanAt_append (h.ends last hlast)]

/-- A span that is not in use was not ended. -/
theorem endsOn_eq_nil (h : Sound β c₀ s) : s.endsOn ⟨s.collector.spans.length⟩ = [] := by
  rw [endsOn, List.map_eq_nil_iff, List.filter_eq_nil_iff]
  intro last hlast hspan
  exact Nat.lt_irrefl _ (h.spanAt_lt (h.ends last hlast) (by simpa using hspan))

/-- A context more. -/
theorem build (h : Sound β c₀ s) (birth : Birth) (events : List SpanEvent)
    (hbefore : birth.before = s.collector) (made : Makes β s.lineage birth) (tame : birth.Tame)
    (hswitches : birth.after.switches = s.collector.switches)
    (hledger : birth.after.ledger = s.collector.ledger.applyAll events)
    (hquiet : ∀ index, callsOn index events = []) :
    Sound β c₀ { s with collector := birth.after, lineage := s.lineage ++ [birth] } := by
  have hlength : s.collector.spans.length ≤ birth.after.spans.length := by
    show s.collector.ledger.spans.length ≤ birth.after.ledger.spans.length
    rw [hledger]
    exact SpanLedger.length_le_applyAll _ _
  refine ⟨.build (hbefore ▸ h.grown) made, ?_, h.facility, hswitches.trans h.switches, ?_, ?_, ?_, ?_,
    ?_⟩
  · intro b hb
    rcases List.mem_append.mp hb with hold | hnew
    · exact h.tame b hold
    · exact List.mem_singleton.mp hnew ▸ tame
  · rw [hledger]
    exact h.numbered.applyAll events
  · intro last hlast
    simp only [List.length_append, List.length_singleton]
    exact Nat.lt_succ_of_lt (h.ends last hlast)
  · refine List.pairwise_append.mpr ⟨h.ordered, List.pairwise_singleton _ _, ?_⟩
    intro a ha b hb
    rw [List.mem_singleton.mp hb, hbefore]
    exact h.latest a ha
  · intro b hb
    rcases List.mem_append.mp hb with hold | hnew
    · exact Nat.le_trans (h.latest b hold) hlength
    · exact List.mem_singleton.mp hnew ▸ Nat.le_refl _
  · intro b hb hstarts
    rcases List.mem_append.mp hb with hold | hnew
    · obtain ⟨numbered, history, hhistory, hcalls⟩ := h.settled b hold hstarts
      refine ⟨numbered, history ++ events, ?_, ?_⟩
      · rw [SpanLedger.applyAll_append, ← hhistory]
        exact hledger
      · rw [callsOn_append, hquiet, List.append_nil, hcalls, h.endsOn_append]
    · rw [List.mem_singleton.mp hnew]
      refine ⟨hbefore ▸ h.numbered, [], rfl, ?_⟩
      rw [h.endsOn_append, hbefore, h.endsOn_eq_nil]
      rfl

/-- Something that happens to the spans that there are. -/
theorem touch (h : Sound β c₀ s) {registry : Registry (SpanFacility Backend)} {collector : Collector}
    (more : List (Nat × SpanEnd)) (events : List SpanEvent)
    (hfacility : ∃ tracer, registry = ⟨some (.exporting tracer)⟩ ∧ tracer.records c₀ = true)
    (hsupply : SupplyGoesOn s.collector collector)
    (hswitches : collector.switches = s.collector.switches)
    (hledger : collector.ledger = s.collector.ledger.applyAll events)
    (hplaces : ∀ last ∈ more, last.1 < s.lineage.length)
    (hcalls : ∀ span, callsOn span.index events =
      ((more.filter fun last => spanAt s.lineage last.1 = some span).map (·.2)).flatMap
        SpanEnd.calls) :
    Sound β c₀ { s with registry, collector, ends := s.ends ++ more } := by
  have hlength : s.collector.spans.length ≤ collector.spans.length := by
    show s.collector.ledger.spans.length ≤ collector.ledger.spans.length
    rw [hledger]
    exact SpanLedger.length_le_applyAll _ _
  refine ⟨h.grown.pause hsupply, h.tame, hfacility, hswitches.trans h.switches, ?_, ?_, h.ordered,
    fun b hb => Nat.le_trans (h.latest b hb) hlength, fun b hb hstarts => ?_⟩
  · rw [hledger]
    exact h.numbered.applyAll events
  · intro last hlast
    rcases List.mem_append.mp hlast with hold | hnew
    · exact h.ends last hold
    · exact hplaces last hnew
  · obtain ⟨numbered, history, hhistory, hown⟩ := h.settled b hb hstarts
    refine ⟨numbered, history ++ events, ?_, ?_⟩
    · rw [SpanLedger.applyAll_append, ← hhistory]
      exact hledger
    · have hmore := hcalls ⟨b.before.spans.length⟩
      rw [callsOn_append, hown, hmore, endsOn, endsOn, List.filter_append, List.map_append,
        List.flatMap_append]

/-- The facility in the registry is over a tracer that records. -/
theorem exists_tracer (h : Sound β c₀ s) :
    ∃ tracer, s.registry = ⟨some (.exporting tracer)⟩ ∧ tracer.records s.collector = true := by
  obtain ⟨tracer, hregistry, hrecords⟩ := h.facility
  exact ⟨tracer, hregistry, by rwa [ExportingTracer.records, h.switches]⟩

/-- An end is asked of the facility in the registry, whichever started the span. -/
theorem exists_runOn_endSpan (h : Sound β c₀ s) (ctx : Context) (last : SpanEnd) :
    ∃ spans journal,
      RegistryAct.runOn (Registry.endSpan β ctx last.status last.error) s.registry s.collector =
        ((.ok (), s.registry), { s.collector with spans, journal }) ∧
      Act.runOn (SpanFacility.endSpan ctx last.status last.error) s.collector =
        (.ok (), { s.collector with spans, journal }) ∧
      Collector.ledger { s.collector with spans, journal } =
        s.collector.ledger.applyAll (match ctx.span? with
          | some span => last.calls.map (.called span.index)
          | none => []) := by
  obtain ⟨tracer, hregistry, -⟩ := h.facility
  obtain ⟨spans, journal, hrun, hledger⟩ := SpanFacility.endSpan_onSpans ctx last s.collector
  have hasked : Act.runOn (TracingFacility.endSpan β (SpanFacility.exporting tracer) ctx last.status
      last.error) s.collector = (.ok (), { s.collector with spans, journal }) := hrun
  refine ⟨spans, journal, ?_, hrun, hledger⟩
  rw [Registry.runOn_endSpan_some (by rw [hregistry]), hasked]

/-- Of an end, the calls on a span are its own if the context carries it. -/
theorem callsOn_endSpan {place : Nat} {birth : Birth} (hplace : s.lineage[place]? = some birth)
    (last : SpanEnd) (span : SpanHandle) :
    callsOn span.index (match birth.context.span? with
        | some span => last.calls.map (.called span.index)
        | none => []) =
      (([(place, last)].filter fun last => spanAt s.lineage last.1 = some span).map
        (·.2)).flatMap SpanEnd.calls := by
  rw [List.filter_singleton, spanAt_eq hplace]
  cases birth.context.span? with
  | none => rfl
  | some other =>
    simp only [callsOn_called]
    by_cases hsame : other = span
    · simp [hsame]
    · have hindex : other.index ≠ span.index := fun heq => hsame (congrArg SpanHandle.mk heq)
      simp [hsame, hindex]

/-- What all commands keep. -/
theorem step (h : Sound β c₀ s) {command : SpanCommand}
    (hrecords : ∀ tracer, command = .register tracer → tracer.records c₀ = true) :
    Sound β c₀ (s.step β command) := by
  cases command with
  | root =>
    refine h.build ⟨.root, .empty s.collector.storageCount, s.collector, _⟩ [] rfl rfl ?_ rfl rfl
      fun _ => rfl
    rintro _ _ ⟨⟩
  | derive place how isPlain =>
    cases hplace : s.lineage[place]? with
    | none => simpa only [SpanRun.step, derive, hplace] using h
    | some source =>
      obtain ⟨-, ctx', idCount, storageCount, hrun, -⟩ :=
        Derivation.exists_outcome_of_isPlain β isPlain source.context s.collector
      simp only [SpanRun.step, derive, hplace, hrun, SpanRun.build]
      refine h.build ⟨.derived place how, ctx', s.collector, _⟩ [] rfl ⟨source, hplace, hrun⟩ ?_ rfl
        rfl fun _ => rfl
      rintro _ _ ⟨⟩
      exact Or.inl isPlain
  | startSpan place name =>
    cases hplace : s.lineage[place]? with
    | none => simpa only [SpanRun.step, derive, hplace] using h
    | some source =>
      obtain ⟨tracer, hregistry, htracer⟩ := h.exists_tracer
      obtain ⟨ctx', c', id, hrun, hswitches, hopens⟩ := Derivation.exists_outcome_startAt β htracer
        source.context name (.derived place (.startAt s.registry name))
      rw [← hregistry] at hrun
      obtain ⟨parent, fields, hledger⟩ := hopens.ledger
      simp only [SpanRun.step, derive, hplace, hrun, SpanRun.build]
      refine h.build ⟨.derived place (.startAt s.registry name), ctx', s.collector, c'⟩
        [.opened [⟨correlationKey, .string id.text⟩] parent fields] rfl ⟨source, hplace, hrun⟩ ?_
        hswitches hledger fun _ => rfl
      rintro _ _ ⟨⟩
      exact Or.inr ⟨tracer, name, by rw [hregistry], htracer⟩
  | endSpan place last =>
    cases hplace : s.lineage[place]? with
    | none => simpa only [SpanRun.step, hplace] using h
    | some birth =>
      obtain ⟨spans, journal, hrun, -, hledger⟩ := h.exists_runOn_endSpan birth.context last
      simp only [SpanRun.step, hplace, hrun]
      refine h.touch [(place, last)] _ h.facility ⟨rfl, Nat.le_refl _⟩ rfl hledger ?_
        (callsOn_endSpan hplace last)
      intro other hother
      rw [List.mem_singleton.mp hother]
      exact (List.getElem?_eq_some_iff.mp hplace).1
  | register tracer =>
    obtain ⟨spans, journal, hrun, hledger⟩ := Act.OnSpans.emit_none .debug
      [("message", .text (if s.registry.facility.isSome then "Tracing facility replaced"
        else "Tracing facility registered"))] s.collector
    simp only [SpanRun.step, Registry.runOn_register, hrun]
    have htouch := h.touch [] [] ⟨tracer, rfl, hrecords tracer rfl⟩
      (show SupplyGoesOn s.collector { s.collector with spans, journal } from ⟨rfl, Nat.le_refl _⟩)
      rfl hledger (by simp) fun _ => rfl
    rwa [List.append_nil] at htouch

theorem after (h : Sound β c₀ s) (commands : List SpanCommand)
    (hrecords : ∀ tracer, .register tracer ∈ commands → tracer.records c₀ = true) :
    Sound β c₀ (s.after β commands) := by
  induction commands generalizing s with
  | nil => exact h
  | cons command rest ih =>
    refine ih (h.step ?_) fun tracer hmem => hrecords tracer (List.mem_cons_of_mem _ hmem)
    rintro tracer rfl
    exact hrecords tracer List.mem_cons_self

/-- A run that begins with a facility over a recording tracer. -/
theorem of_registered (β : Type) {tracer : ExportingTracer} {c : Collector}
    (hnumbered : c.ledger.Numbered) (hrecords : tracer.records c = true) :
    Sound β c { registry := ⟨some (.exporting tracer)⟩, collector := c } where
  grown := .start c
  tame := by simp
  facility := ⟨tracer, rfl, hrecords⟩
  switches := rfl
  numbered := hnumbered
  ends := by simp
  ordered := .nil
  latest := by simp
  settled := by simp

/-! ### Which span is ended -/

theorem exists_spanAt (h : Sound β c₀ s) {k : Nat} (hk : StartsAt s.lineage k) :
    ∃ birth id, s.lineage[k]? = some birth ∧ birth.Starts ∧ birth.Opens id ∧
      spanAt s.lineage k = some ⟨birth.before.spans.length⟩ := by
  obtain ⟨birth, hbirth, hstarts⟩ := hk
  obtain ⟨id, hopens⟩ := h.opens (List.mem_of_getElem? hbirth) hstarts
  exact ⟨birth, id, hbirth, hstarts, hopens, (spanAt_eq hbirth).trans hopens.span⟩

/-- A later start opens a later span. -/
theorem index_lt (h : Sound β c₀ s) {i k : Nat} {a b : Birth} {id : CorrelationId}
    (ha : s.lineage[i]? = some a) (hb : s.lineage[k]? = some b) (hopens : a.Opens id) (hlt : i < k) :
    a.before.spans.length < b.before.spans.length := by
  obtain ⟨hi, rfl⟩ := List.getElem?_eq_some_iff.mp ha
  obtain ⟨hk, rfl⟩ := List.getElem?_eq_some_iff.mp hb
  have hle := List.pairwise_iff_getElem.mp h.ordered i k hi hk hlt
  rwa [hopens.length] at hle

/-- Different starts opened different spans. -/
theorem start_unique (h : Sound β c₀ s) {i k : Nat} (hi : StartsAt s.lineage i)
    (hk : StartsAt s.lineage k) (hsame : spanAt s.lineage i = spanAt s.lineage k) : i = k := by
  obtain ⟨a, _, ha, -, haopens, haspan⟩ := h.exists_spanAt hi
  obtain ⟨b, _, hb, -, hbopens, hbspan⟩ := h.exists_spanAt hk
  rw [haspan, hbspan] at hsame
  have hindex : a.before.spans.length = b.before.spans.length :=
    congrArg SpanHandle.index (Option.some.inj hsame)
  rcases Nat.lt_trichotomy i k with hlt | heq | hgt
  · exact absurd (h.index_lt ha hb haopens hlt) (by omega)
  · exact heq
  · exact absurd (h.index_lt hb ha hbopens hgt) (by omega)

theorem spanAt_eq_iff (h : Sound β c₀ s) {k : Nat} (hk : StartsAt s.lineage k) (j : Nat) :
    spanAt s.lineage j = spanAt s.lineage k ↔ LastStart s.lineage k j := by
  obtain ⟨birth, id, -, -, -, hspan⟩ := h.exists_spanAt hk
  constructor
  · intro hsame
    have hj : j < s.lineage.length := by
      by_contra hout
      rw [spanAt, List.getElem?_eq_none (Nat.le_of_not_lt hout), hspan] at hsame
      cases hsame
    rcases h.grown.spanAt_cases h.tame j hj with ⟨k', hlast, hk'⟩ | ⟨hnone, -⟩
    · exact h.start_unique hlast.starts hk (hk'.symm.trans hsame) ▸ hlast
    · rw [hnone, hspan] at hsame
      cases hsame
  · intro hlast
    rcases h.grown.spanAt_cases h.tame j (hlast.path.lt_length hk.lt_length) with
      ⟨k', hlast', hk'⟩ | ⟨-, hno⟩
    · rw [hk', h.grown.lastStart_unique hlast' hlast]
    · exact absurd hlast.path (hno k hk)

theorem spanAt_eq_none_iff (h : Sound β c₀ s) (j : Nat) :
    spanAt s.lineage j = none ↔ ∀ k, StartsAt s.lineage k → ¬ Derives s.lineage k j := by
  constructor
  · intro hnone k hk hpath
    rcases h.grown.spanAt_cases h.tame j (hpath.lt_length hk.lt_length) with
      ⟨k', hlast, hk'⟩ | ⟨-, hno⟩
    · obtain ⟨birth, id, -, -, -, hspan⟩ := h.exists_spanAt hlast.starts
      rw [hk', hspan] at hnone
      cases hnone
    · exact hno k hk hpath
  · intro hno
    by_cases hj : j < s.lineage.length
    · rcases h.grown.spanAt_cases h.tame j hj with ⟨k, hlast, -⟩ | ⟨hnone, -⟩
      · exact absurd hlast.path (hno k hlast.starts)
      · exact hnone
    · rw [spanAt, List.getElem?_eq_none (Nat.le_of_not_lt hj)]
      rfl

/-! ### What an end does -/

/-- An end touches the span that the context carries and no other; without one it touches none. -/
theorem endSpan_touches (h : Sound β c₀ s) (ctx : Context) (last : SpanEnd) :
    ∃ c', RegistryAct.runOn (Registry.endSpan β ctx last.status last.error) s.registry s.collector =
        ((.ok (), s.registry), c') ∧
      match ctx.span? with
      | some span => TouchesOnly span.index s.collector c'
      | none => c'.spans = s.collector.spans ∧ ∀ number,
          c'.journal.filter (Observation.isOn number) =
            s.collector.journal.filter (Observation.isOn number) := by
  obtain ⟨spans, journal, hasked, hrun, hledger⟩ := h.exists_runOn_endSpan ctx last
  refine ⟨_, hasked, ?_⟩
  cases hspan : ctx.span? with
  | some span =>
    obtain ⟨c', hrun', htouches⟩ := SpanFacility.finish_touchesOnly span last s.collector
    rw [SpanFacility.endSpan, hspan] at hrun
    rw [hrun'] at hrun
    cases hrun
    exact htouches
  | none =>
    rw [hspan] at hledger
    refine ⟨congrArg (·.spans) hledger, fun number => ?_⟩
    have htold := congrArg (fun ledger => ledger.journal.filter (Observation.isOn number)) hledger
    simpa only [SpanLedger.applyAll, List.foldl_nil, Collector.filter_isOn] using htold

/-- A span is as the first of its own ends leaves it, and all that is told of it is what that one
settles, and the errors of the others. -/
theorem outcome (h : Sound β c₀ s) {birth : Birth} {id : CorrelationId} (hbirth : birth ∈ s.lineage)
    (hstarts : birth.Starts) (hopens : birth.Opens id) :
    let number? := ExportingTracer.nextNumber birth.before
    let ends := s.endsOn ⟨birth.before.spans.length⟩
    s.collector.spans[birth.before.spans.length]? =
        some (.exported (SpanEnd.settled number? id ends)) ∧
      ∀ number, number? = some number →
        s.collector.journal.filter (Observation.isOn number) =
          birth.after.journal.filter (Observation.isOn number) ++
            SpanEnd.records s.collector.threshold number id ends := by
  intro number? ends
  obtain ⟨numbered, events, hledger, hcalls⟩ := h.settled birth hbirth hstarts
  obtain ⟨parent, fields, hopened⟩ := hopens.ledger
  have hcell : birth.after.ledger.spans[birth.before.spans.length]? =
      some (.exported (SpanEnd.settled number? id [])) := by
    rw [hopened]
    exact List.getElem?_concat_length
  have hnumbered : birth.after.ledger.Numbered := by
    rw [hopened]
    exact numbered.apply _
  have hthreshold : birth.after.ledger.threshold = s.collector.threshold := by
    show _ = s.collector.ledger.threshold
    rw [hledger, SpanLedger.threshold_applyAll]
  obtain ⟨hspan, htold⟩ := SpanLedger.applyAll_of_exported hnumbered hcell events
  rw [← hledger, hcalls] at hspan htold
  refine ⟨hspan.trans (by rw [SpanEnd.calls_ends]), fun number hnumber => ?_⟩
  have hrecords := htold number hnumber
  rw [Collector.filter_isOn, Collector.filter_isOn, hthreshold,
    observe_calls (SpanEnd.settled_nil number? id), SpanEnd.spanRecords_ends] at hrecords
  exact hrecords

end Sound

end SpanRun

open SpanRun in
/-- **Spans do not interfere.**  A context carries the span of the last start on its path.  An end
touches that span only, whichever facility started it; without one it touches none.  And each span is as
the first of its own ends leaves it: what is told of it are the status, the description and the two
attributes that this end settles, and the errors that its ends were given. -/
theorem spans_do_not_interfere (β : Type) {tracer : ExportingTracer} {c : Collector}
    (hnumbered : c.ledger.Numbered) (commands : List SpanCommand)
    (hrecords : ∀ used, used = tracer ∨ .register used ∈ commands → used.records c = true) :
    let s := SpanRun.after β { registry := ⟨some (.exporting tracer)⟩, collector := c } commands
    let l := s.lineage
    (∀ k j, StartsAt l k → (spanAt l j = spanAt l k ↔ LastStart l k j)) ∧
    (∀ j, spanAt l j = none ↔ ∀ k, StartsAt l k → ¬ Derives l k j) ∧
    (∀ j birth (last : SpanEnd), l[j]? = some birth → ∃ c',
      RegistryAct.runOn (Registry.endSpan β birth.context last.status last.error) s.registry
        s.collector = ((.ok (), s.registry), c') ∧
      match spanAt l j with
      | some span => TouchesOnly span.index s.collector c'
      | none => c'.spans = s.collector.spans ∧ ∀ number,
          c'.journal.filter (Observation.isOn number) =
            s.collector.journal.filter (Observation.isOn number)) ∧
    ∀ k birth, l[k]? = some birth → StartsAt l k → ∃ span id,
      spanAt l k = some span ∧ (∀ j, LastStart l k j → idAt l j = some id) ∧
      let number? := ExportingTracer.nextNumber birth.before
      s.collector.spans[span.index]? =
          some (.exported (SpanEnd.settled number? id (s.endsOn span))) ∧
        ∀ number, number? = some number →
          s.collector.journal.filter (Observation.isOn number) =
            birth.after.journal.filter (Observation.isOn number) ++
              SpanEnd.records s.collector.threshold number id (s.endsOn span) := by
  intro s l
  have h : Sound β c s := (Sound.of_registered β hnumbered (hrecords tracer (Or.inl rfl))).after
    commands fun used hused => hrecords used (Or.inr hused)
  refine ⟨fun k j hk => h.spanAt_eq_iff hk j, h.spanAt_eq_none_iff, ?_, ?_⟩
  · intro j birth last hbirth
    rw [spanAt_eq hbirth]
    exact h.endSpan_touches birth.context last
  · intro k birth hbirth hk
    obtain ⟨_, id, hbirth', hstarts, hopens, hspan⟩ := h.exists_spanAt hk
    rw [hbirth] at hbirth'
    cases hbirth'
    refine ⟨⟨birth.before.spans.length⟩, id, hspan, fun j hlast => ?_,
      h.outcome (List.mem_of_getElem? hbirth) hstarts hopens⟩
    exact h.grown.idAt_of_derives hlast.path ((idAt_eq hbirth).trans hopens.carries)

/-- Two spans on one path.  The outer one is ended first, from a context derived after it was started and
under another facility, and once more at last; the inner one is ended in between. -/
def nestedCommands : List SpanCommand :=
  [ .root, .startSpan 0 "outer", .startSpan 1 "inner",
    .derive 1 (.withValue (.custom "tenant") rfl (.string "acme")) rfl,
    .register ⟨"other", "service", .alwaysOn, 0⟩,
    .endSpan 3 ⟨503, none⟩, .endSpan 2 ⟨200, none⟩, .endSpan 1 ⟨0, some "late"⟩ ]

/-- Each of the two spans is told of as its own first end settles it. -/
theorem spans_do_not_interfere_nested :
    let tracer : ExportingTracer := ⟨"scope", "service", .alwaysOn, 0⟩
    let c : Collector := { idText := fun _ => "x", switches := [false] }
    let s := SpanRun.after Unit { registry := ⟨some (.exporting tracer)⟩, collector := c }
      nestedCommands
    LastStart s.lineage 1 3 ∧
      s.collector.journal.filter (Observation.isOn 1) =
        [ .spanCreated 1 "span" .info none (tracer.fields "outer" .client),
          .spanRecorded 1 [("attributes", .text (
            "[\x7b\"key\":\"x-correlation-id\",\"value\":\"x\"\x7d," ++
            "\x7b\"key\":\"http.status_code\",\"value\":503\x7d]"))],
          .spanRecorded 1 [("otel.status_code", .text "error")],
          .spanRecorded 1 [("otel.status_description", .text "HTTP status 503")],
          .event .trace (some 1) [("message", .text "span ended")],
          .spanRecorded 1 [("error", .text "late")] ] ∧
      s.collector.journal.filter (Observation.isOn 2) =
        [ .spanCreated 2 "span" .info (some 1) (tracer.fields "inner" .client),
          .spanRecorded 2 [("attributes", .text (
            "[\x7b\"key\":\"x-correlation-id\",\"value\":\"x\"\x7d," ++
            "\x7b\"key\":\"http.status_code\",\"value\":200\x7d]"))],
          .spanRecorded 2 [("otel.status_code", .text "ok")],
          .event .trace (some 2) [("message", .text "span ended")] ] := by
  have hrecords : ∀ used, used = ⟨"scope", "service", .alwaysOn, 0⟩ ∨
      .register used ∈ nestedCommands →
        used.records { idText := fun _ => "x", switches := [false] } = true := by
    rintro used (rfl | hmem)
    · rfl
    · have hused : used = ⟨"other", "service", .alwaysOn, 0⟩ := by simpa [nestedCommands] using hmem
      rw [hused]
      rfl
  obtain ⟨hcarried, -, -, houtcome⟩ := spans_do_not_interfere Unit
    (SpanLedger.numbered_of_no_spans rfl) nestedCommands hrecords
  obtain ⟨outer, id, houter, hid, -, htold⟩ := houtcome 1 _ rfl ⟨_, rfl, 0, _, rfl, rfl⟩
  obtain ⟨inner, id', hinner, hid', -, htold'⟩ := houtcome 2 _ rfl ⟨_, rfl, 1, _, rfl, rfl⟩
  have hlast := (hcarried 1 3 ⟨_, rfl, 0, _, rfl, rfl⟩).mp rfl
  have hlast' := (hcarried 2 2 ⟨_, rfl, 1, _, rfl, rfl⟩).mp rfl
  obtain rfl : outer = ⟨0⟩ := Option.some.inj (houter.symm.trans rfl)
  obtain rfl : inner = ⟨1⟩ := Option.some.inj (hinner.symm.trans rfl)
  obtain rfl : id = ⟨"x"⟩ := Option.some.inj ((hid 3 hlast).symm.trans rfl)
  obtain rfl : id' = ⟨"x"⟩ := Option.some.inj ((hid' 2 hlast').symm.trans rfl)
  exact ⟨hlast, (htold 1 rfl).trans rfl, (htold' 2 rfl).trans rfl⟩

end Observability
