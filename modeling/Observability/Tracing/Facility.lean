import Observability.Tracing.Tracer
import Observability.Transport

/-!
# Facilities over tracers

A span facility traces through a tracer.  Ending the span of a context records the HTTP status, the error
if there is one, and the status of the outcome, and then ends the span; a context without a span is left
alone.  Starts and ends are counted.
-/

namespace Observability

/-- A facility that traces through a tracer. -/
structure SpanFacility (τ : Type) where
  tracer : Tracer τ
  deriving Repr

namespace SpanFacility

variable {τ : Type} [SpanBackend τ]

/-- Starts a span without options. -/
def startSpan (facility : SpanFacility τ) (ctx : Context) (name : String) : Act Context := do
  let (ctx, _) ← facility.tracer.start ctx name []
  Act.count "telemetry_spans_started_total" []
  return ctx

/-- Ends a span with an outcome. -/
def finish (span : SpanHandle) (status : HttpStatus) (error : Option String) : Act Unit := do
  span.call (.setAttribute ⟨statusCodeKey, .int (Int64.ofNat status.toNat)⟩)
  match error with
  | some text => span.call (.recordError text)
  | none => pure ()
  let outcome := SpanStatus.ofOutcome status error
  Act.count "telemetry_spans_ended_total" [("status", outcome.name)]
  span.call (.setStatus outcome)
  span.call .finish

/-- Ends the current span of the context, if it has one. -/
def endSpan (ctx : Context) (status : HttpStatus) (error : Option String) : Act Unit :=
  match ctx.span? with
  | some span => finish span status error
  | none =>
    Act.emit .trace none [("message", .text "end_span called on a context without a span")]

instance {β : Type} : TracingFacility (SpanFacility τ) β where
  newTransport facility transport := return .traced facility transport
  startSpan := startSpan
  endSpan _ := endSpan

/-- A facility gives the very context that its tracer gave it. -/
theorem exists_start {facility : SpanFacility τ} {ctx ctx' : Context} {name : String}
    {c c' : Collector} (h : Act.runOn (facility.startSpan ctx name) c = (.ok ctx', c')) :
    ∃ span after, Act.runOn (facility.tracer.start ctx name []) c = (.ok (ctx', span), after) := by
  rw [startSpan, Act.runOn_bind] at h
  rcases hstart : Act.runOn (facility.tracer.start ctx name []) c with
    ⟨crash | ⟨given, span⟩, after⟩
  · rw [hstart] at h
    cases h
  · rw [hstart] at h
    obtain rfl := Except.ok.inj (Prod.mk.inj h).1
    exact ⟨span, after, rfl⟩

end SpanFacility

/-! ## Recording -/

/-- A facility that notes its calls, and marks the contexts it starts with its name. -/
structure RecordingFacility where
  name : String
  deriving DecidableEq, Repr

namespace RecordingFacility

def note (facility : RecordingFacility) (call : FacilityCall) : Act Unit :=
  Act.observe (.facility facility.name call)

def startSpan (facility : RecordingFacility) (ctx : Context) (name : String) : Act Context := do
  facility.note (.startSpan name)
  ctx.withValue .marker facility.name

def endSpan (facility : RecordingFacility) (ctx : Context) (status : HttpStatus)
    (error : Option String) : Act Unit :=
  facility.note (.endSpan status error (ctx.get .marker))

instance {β : Type} : TracingFacility RecordingFacility β where
  newTransport facility transport := do
    facility.note .newTransport
    return transport
  startSpan := startSpan
  endSpan := endSpan

/-- A start is noted, and the context is marked. -/
@[simp] theorem runOn_startSpan (facility : RecordingFacility) (ctx : Context) (name : String)
    (c : Collector) :
    Act.runOn (facility.startSpan ctx name) c =
      (.ok (ctx.insert c.storageCount .marker facility.name),
        { c with
          journal := c.journal ++ [.facility facility.name (.startSpan name)]
          storageCount := c.storageCount + 1 }) := by
  simp [startSpan, note, Act.observe]

/-- An end is noted with the mark of the context. -/
@[simp] theorem runOn_endSpan (facility : RecordingFacility) (ctx : Context) (status : HttpStatus)
    (error : Option String) (c : Collector) :
    Act.runOn (facility.endSpan ctx status error) c =
      (.ok (), { c with
        journal := c.journal ++
          [.facility facility.name (.endSpan status error (ctx.get .marker))] }) := rfl

end RecordingFacility

/-- A facility of either kind. -/
inductive Facility where
  | spans (facility : SpanFacility Backend)
  | recording (facility : RecordingFacility)
  deriving Repr

instance {β : Type} : TracingFacility Facility β where
  newTransport
    | .spans facility, transport => return .traced (.spans facility) transport
    | .recording facility, transport => do
      facility.note .newTransport
      return transport
  startSpan
    | .spans facility, ctx, name => facility.startSpan ctx name
    | .recording facility, ctx, name => facility.startSpan ctx name
  endSpan
    | .spans _, ctx, status, error => SpanFacility.endSpan ctx status error
    | .recording facility, ctx, status, error => facility.endSpan ctx status error

end Observability
