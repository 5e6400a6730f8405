import Mathlib.Algebra.GroupWithZero.Nat
import Observability.Proofs.Keeps
import Observability.Proofs.Span.Outcome
import Observability.Proofs.Tracing.Wrapped
import Observability.Proofs.Transport.Journey
import Observability.Tracing.ScriptedTransport

/-!
# The metrics of the facade

Facilities count the spans that they start and end, and layers take a sample of each request.  These are
the three metrics of the facade.

* `Collector.metered` is what the journal holds of them; `Collector.increments`, `Collector.total` and
  `Collector.samples` are read off it.
* `TrafficEvent` is what was done to a span, and `TrafficEvent.metered` what the metrics tell of it.
* `Unmetered` and `UnmeteredBase` ask of backends and base transports that they leave these metrics to
  the facade.  Those of the library do.

The laws of starts (`exists_runOn_startSpan_metered`), of ends (`endSpan_meters`) and of the layers say
that each of them tells of itself and of nothing else.
-/

namespace Observability

/-! ## The three metrics -/

/-- Counts the spans started. -/
def startedTotal : String := "telemetry_spans_started_total"

/-- Counts the spans ended, by their status. -/
def endedTotal : String := "telemetry_spans_ended_total"

/-- Samples the requests of layers, by the status of the response. -/
def requestDuration : String := "telemetry_transport_request_duration_seconds"

abbrev Labels := List (String × String)

namespace Observation

/-- Whether the observation is of a metric of the facade. -/
def isFacade : Observation → Bool
  | .counter name _ _ => name = startedTotal || name = endedTotal
  | .sample name _ => name = requestDuration
  | _ => false

/-- The labels and the amount, if a counter of the name is incremented. -/
def increment? (name : String) : Observation → Option (Labels × Nat)
  | .counter other labels amount => if other = name then some (labels, amount) else none
  | _ => none

/-- The labels, if a sample is taken for the histogram of the name. -/
def sample? (name : String) : Observation → Option Labels
  | .sample other labels => if other = name then some labels else none
  | _ => none

theorem isFacade_of_increment? {name : String} (hname : name = startedTotal ∨ name = endedTotal)
    {observation : Observation} {increment : Labels × Nat}
    (h : observation.increment? name = some increment) : observation.isFacade = true := by
  cases observation with
  | counter other labels amount =>
    rw [increment?] at h
    split at h
    · next hother => simpa [isFacade, hother] using hname
    · cases h
  | _ => cases h

theorem isFacade_of_sample? {observation : Observation} {labels : Labels}
    (h : observation.sample? requestDuration = some labels) : observation.isFacade = true := by
  cases observation with
  | sample other labels =>
    rw [sample?] at h
    split at h
    · next hother => simpa [isFacade] using hother
    · cases h
  | _ => cases h

end Observation

namespace Collector

/-- What the journal holds of the metrics of the facade. -/
def metered (c : Collector) : List Observation := c.journal.filter Observation.isFacade

/-- The increments of a counter in their order. -/
def increments (name : String) (c : Collector) : List (Labels × Nat) :=
  c.journal.filterMap (Observation.increment? name)

/-- The sum of a counter over its labels. -/
def total (name : String) (c : Collector) : Nat := ((c.increments name).map Prod.snd).sum

/-- The labels of the samples of a histogram in their order. -/
def samples (name : String) (c : Collector) : List Labels :=
  c.journal.filterMap (Observation.sample? name)

/-- What is only read off metrics of the facade is read off `metered`. -/
theorem filterMap_metered {α : Type} {read : Observation → Option α}
    (h : ∀ {observation a}, read observation = some a → observation.isFacade = true)
    (c : Collector) : c.journal.filterMap read = c.metered.filterMap read := by
  rw [metered, List.filterMap_filter]
  refine List.filterMap_congr fun observation _ => ?_
  cases hread : read observation with
  | none => simp
  | some a => simp [h hread]

end Collector

/-! ## What is told of starts and ends -/

namespace SpanEnd

/-- The status that the end sets on its span. -/
def outcome (last : SpanEnd) : SpanStatus := .ofOutcome last.status last.error

/-- The end of a layer whose request had this outcome: with the status of the response, or with the status
zero and the error. -/
def ofResponse : Except String Response → SpanEnd
  | .ok response => ⟨response.status, none⟩
  | .error error => ⟨0, some error⟩

/-- Among all that an end calls on its span, one call sets a status. -/
theorem filterMap_status?_calls (last : SpanEnd) :
    last.calls.filterMap SpanCall.status? = [last.outcome] := by
  rcases last with ⟨status, _ | error⟩ <;> rfl

/-- What the metrics tell of an end: nothing if there is no span to end. -/
def metered (ctx : Context) (last : SpanEnd) : List Observation :=
  if ctx.span?.isSome then [.counter endedTotal [("status", last.outcome.name)] 1] else []

end SpanEnd

/-- The labels of the sample that a request with this outcome gets: the status of the response, or zero. -/
def sampleLabels : Except String Response → Labels
  | .ok response => [("status", toString response.status.toNat)]
  | .error _ => [("status", "0")]

/-- What is done to spans in a run. -/
inductive TrafficEvent where
  /-- a span was started, and this context carries it -/
  | started (ctx : Context)
  | ended (ctx : Context) (last : SpanEnd)
  | layer (event : LayerEvent)

namespace TrafficEvent

/-- Whether a span was started, by a layer or by other users. -/
def isStart : TrafficEvent → Bool
  | .started _ | .layer (.entered _) => true
  | _ => false

/-- The end that was asked for, by a layer or by other users, with its context. -/
def end? : TrafficEvent → Option (Context × SpanEnd)
  | .ended ctx last => some (ctx, last)
  | .layer (.completed ctx outcome) => some (ctx, .ofResponse outcome)
  | _ => none

/-- The context of a layer that was entered. -/
def entry? : TrafficEvent → Option Context
  | .layer (.entered ctx) => some ctx
  | _ => none

/-- The outcome of a request that a layer completed. -/
def completion? : TrafficEvent → Option (Except String Response)
  | .layer (.completed _ outcome) => some outcome
  | _ => none

/-- The context of a start that was no layer's. -/
def directStart? : TrafficEvent → Option Context
  | .started ctx => some ctx
  | _ => none

/-- An end that was no layer's. -/
def directEnd? : TrafficEvent → Option (Context × SpanEnd)
  | .ended ctx last => some (ctx, last)
  | _ => none

/-- The context carries a span, unless the event is an end that anyone may ask for. -/
def Carried : TrafficEvent → Prop
  | .started ctx | .layer (.entered ctx) | .layer (.completed ctx _) => ctx.span?.isSome = true
  | .ended _ _ => True

/-- What the metrics tell of the event. -/
def metered : TrafficEvent → List Observation
  | .started _ | .layer (.entered _) => [.counter startedTotal [] 1]
  | .ended ctx last => last.metered ctx
  | .layer (.completed ctx outcome) =>
    .sample requestDuration (sampleLabels outcome) :: (SpanEnd.ofResponse outcome).metered ctx

end TrafficEvent

/-! ## What is asked of backends and base transports -/

/-- The starts of a backend leave the metrics of the facade alone. -/
class Unmetered (τ : Type) [SpanBackend τ] : Prop where
  start : ∀ (tracer : τ) (ctx : Context) (name : String) (options : List StartOption),
    Act.Keeps Collector.metered (SpanBackend.start tracer ctx name options)

/-- A base transport leaves the metrics of the facade alone. -/
class UnmeteredBase (β : Type) [BaseTransport β] : Prop where
  ready : ∀ base : β, Act.Keeps Collector.metered (BaseTransport.ready base)
  call : ∀ (base : β) (request : Request), Act.Keeps Collector.metered (BaseTransport.call base request)

/-- Whatever else is put into the journal is none of the facade's metrics. -/
theorem Collector.metered_append {c c' : Collector} {observations : List Observation}
    (hjournal : c'.journal = c.journal ++ observations)
    (hother : ∀ observation ∈ observations, observation.isFacade = false) :
    c'.metered = c.metered := by
  have hnone : observations.filter Observation.isFacade = [] :=
    List.filter_eq_nil_iff.mpr fun observation hmem => by simp [hother observation hmem]
  rw [metered, metered, hjournal, List.filter_append, hnone, List.append_nil]

instance : Unmetered Backend where
  start tracer ctx name options c := by
    cases tracer with
    | recording tracer =>
      show (Act.runOn (tracer.start ctx name options) c).2.metered = c.metered
      rw [tracer.runOn_start]
      exact Collector.metered_append rfl (by simp [Observation.isFacade])
    | exporting tracer =>
      show (Act.runOn (tracer.start ctx name options) c).2.metered = c.metered
      cases hrecords : tracer.records c with
      | false =>
        rw [tracer.runOn_start_of_not_records hrecords]
        rfl
      | true =>
        simp only [tracer.runOn_start_of_records hrecords, ExportingTracer.announced_eq]
        exact Collector.metered_append rfl (by simp [Observation.isFacade])

/-- The wrappers of a tracer leave them to the facade as well. -/
instance {τ : Type} [SpanBackend τ] [Unmetered τ] : Unmetered (Tracer τ) where
  start tracer ctx name options c := by
    cases tracer with
    | backend tracer => exact Unmetered.start tracer ctx name options c
    | correlated inner =>
      obtain ⟨mid, id, _, hensure, hensured⟩ := ctx.exists_ensured c
      obtain ⟨idCount, storageCount, rfl⟩ := hensured.rest
      show (Act.runOn (Tracer.start (.correlated inner) ctx name options) c).2.metered = c.metered
      rw [Tracer.runOn_start_correlated hensure hensured.carries]
      exact Unmetered.start inner.root mid name _ _

instance : UnmeteredBase ScriptedTransport where
  ready base := by
    show Act.Keeps _ base.ready
    rw [ScriptedTransport.ready]
    split <;> exact .pure _
  call base request c := by
    show (Act.runOn (base.call request) c).2.metered = c.metered
    rw [base.runOn_call]
    exact Collector.metered_append rfl (by simp [Observation.isFacade])

/-! ## What facilities tell -/

/-- The action succeeds, and these are all the metrics of the facade that it records. -/
def Act.Meters (action : Act Unit) (told : List Observation) : Prop :=
  ∀ c, ∃ c', runOn action c = (.ok (), c') ∧ c'.metered = c.metered ++ told

namespace Act.Meters

/-- Actions in sequence. -/
theorem seq {first : Act Unit} {next : Unit → Act Unit} {before after : List Observation}
    (hfirst : Meters first before) (hnext : Meters (next ()) after) :
    Meters (first >>= next) (before ++ after) := by
  intro c
  obtain ⟨c₁, hrun₁, htold₁⟩ := hfirst c
  obtain ⟨c₂, hrun₂, htold₂⟩ := hnext c₁
  refine ⟨c₂, ?_, ?_⟩
  · rw [runOn_bind, hrun₁]
    exact hrun₂
  · rw [htold₂, htold₁, List.append_assoc]

/-- A metric of the facade. -/
theorem observe {observation : Observation} (h : observation.isFacade = true) :
    Meters (Act.observe observation) [observation] := by
  refine fun c => ⟨_, rfl, ?_⟩
  simp [Collector.metered, List.filter_append, h]

/-- A counter of the facade. -/
theorem count {name : String} (hname : name = startedTotal ∨ name = endedTotal) (labels : Labels) :
    Meters (Act.count name labels) [.counter name labels 1] :=
  observe (by simpa [Observation.isFacade] using hname)

/-- What is told of a span is no metric. -/
theorem call (span : SpanHandle) (call : SpanCall) : Meters (span.call call) [] := by
  intro c
  have hother (cell : SpanCell) : ∀ observation ∈ (SpanHandle.callCell c.threshold call cell).2,
      observation.isFacade = false := by
    intro observation hmem
    cases cell with
    | silent => simp [SpanHandle.callCell] at hmem
    | recording number ended =>
      obtain rfl := List.mem_singleton.mp hmem
      rfl
    | exported span =>
      obtain ⟨report, -, htold⟩ := List.mem_flatMap.mp hmem
      cases report with
      | fields fields =>
        simp only [SpanHandle.observe] at htold
        split at htold <;> simp_all [Observation.isFacade]
      | ended =>
        simp only [SpanHandle.observe] at htold
        split at htold <;> simp_all [Observation.isFacade]
  rw [SpanHandle.call, runOn_step, List.append_nil]
  cases c.spans[span.index]? with
  | none => exact ⟨c, rfl, rfl⟩
  | some cell => exact ⟨_, rfl, Collector.metered_append rfl (hother cell)⟩

/-- An event is no metric. -/
theorem emit (severity : Severity) (span : Option Nat) (fields : Fields) :
    Meters (Act.emit severity span fields) [] := by
  intro c
  rw [Act.emit, runOn_step, List.append_nil]
  refine ⟨_, rfl, ?_⟩
  split
  · exact Collector.metered_append rfl (by simp [Observation.isFacade])
  · rfl

end Act.Meters

namespace SpanFacility

variable {τ : Type} [SpanBackend τ]

/-- A start counts one span, and gives a context that carries it. -/
theorem exists_runOn_startSpan_metered [CarriesSpans τ] [Unmetered τ] (facility : SpanFacility τ)
    (ctx : Context) (name : String) (c : Collector) :
    ∃ ctx' c', Act.runOn (facility.startSpan ctx name) c = (.ok ctx', c') ∧
      ctx'.span?.isSome = true ∧ c'.metered = c.metered ++ [.counter startedTotal [] 1] := by
  obtain ⟨ctx', span, c₁, hstart, hspan⟩ := CarriesSpans.start facility.tracer ctx name [] c
  have hkept : c₁.metered = c.metered := (Unmetered.start facility.tracer ctx name []).after hstart
  have hrun : Act.runOn (facility.tracer.start ctx name []) c = (.ok (ctx', span), c₁) := hstart
  obtain ⟨c₂, hcount, htold⟩ := Act.Meters.count (.inl rfl) [] c₁
  refine ⟨ctx', c₂, ?_, by rw [hspan]; rfl, by rw [htold, hkept]⟩
  rw [startedTotal] at hcount
  simp only [startSpan, Act.runOn_bind, hrun, hcount, Act.runOn_pure]

/-- An end counts its span, if there is one, under the status that it sets. -/
theorem endSpan_meters (ctx : Context) (last : SpanEnd) :
    Act.Meters (endSpan ctx last.status last.error) (last.metered ctx) := by
  have houtcome (span : SpanHandle) : Act.Meters (do
      Act.count "telemetry_spans_ended_total" [("status", last.outcome.name)]
      span.call (.setStatus last.outcome)
      span.call .finish)
      [.counter endedTotal [("status", last.outcome.name)] 1] :=
    .seq (.count (.inr rfl) _) (.seq (.call span _) (.call span _))
  rw [endSpan, SpanEnd.metered]
  cases ctx.span? with
  | none => exact .emit _ _ _
  | some span =>
    rcases last with ⟨status, _ | error⟩
    · exact .seq (.call span _) (houtcome span)
    · exact .seq (.call span _) (.seq (.call span (.recordError error)) (houtcome span))

end SpanFacility

namespace Transport

variable {τ β : Type} [SpanBackend τ]

/-- A layer that is entered counts its span. -/
theorem exists_runOn_openSpan_metered [CarriesSpans τ] [Unmetered τ] (facility : SpanFacility τ)
    (request : Request) (c : Collector) :
    ∃ ctx request' c', Act.runOn (openSpan β facility request) c = (.ok (ctx, request'), c') ∧
      ctx.span?.isSome = true ∧
      c'.metered = c.metered ++ (TrafficEvent.layer (.entered ctx)).metered := by
  obtain ⟨parent, c₁, hparent, hkept⟩ : ∃ parent c₁,
      Act.runOn (parentContext request) c = (.ok parent, c₁) ∧ c₁.metered = c.metered := by
    cases hcontext : request.context with
    | some parent => exact ⟨parent, c, runOn_parentContext_of_some hcontext c, rfl⟩
    | none => exact ⟨_, _, runOn_parentContext_of_none hcontext c, rfl⟩
  obtain ⟨ctx, c₂, hstart, hspan, htold⟩ :=
    facility.exists_runOn_startSpan_metered parent ("HTTP " ++ request.method) c₁
  refine ⟨ctx, { request with headers := correlate ctx request.headers, context := some ctx }, c₂, ?_,
    hspan, by rw [htold, hkept]; rfl⟩
  simp only [openSpan, TracingFacility.startSpan, Act.runOn_bind, hparent, hstart, Act.runOn_pure]

/-- A layer that is left takes a sample and ends its span. -/
theorem closeSpan_meters (facility : SpanFacility τ) (ctx : Context)
    (outcome : Except String Response) :
    Act.Meters (closeSpan β facility ctx outcome)
      (TrafficEvent.layer (.completed ctx outcome)).metered := by
  have hends := SpanFacility.endSpan_meters ctx (.ofResponse outcome)
  cases outcome with
  | ok response =>
    rw [closeSpan_ok]
    exact .seq (.observe (by simp [Observation.isFacade, requestDuration])) hends
  | error error =>
    rw [closeSpan_error]
    exact .seq (.observe (by simp [Observation.isFacade, requestDuration])) hends

end Transport

end Observability
