import Observability.Config.Basic
import Observability.Correlation
import Observability.Span.Handle

/-!
# Tracers

A tracer starts spans.  `SpanBackend τ` says that values of `τ` do; the context it gives back carries the
new span.  A `Tracer τ` is a backend with any number of wrappers, each of which makes the span a client
span that carries the correlation id of its context; the options of a wrapper come behind those of the
caller and so win over them.
-/

namespace Observability

/-- The backends `τ` that start spans. -/
class SpanBackend (τ : Type) where
  start : τ → Context → (name : String) → List StartOption → Act (Context × SpanHandle)

/-- A backend, perhaps in wrappers that add the correlation id. -/
inductive Tracer (τ : Type) where
  | backend (tracer : τ)
  | correlated (inner : Tracer τ)
  deriving Repr

namespace Tracer

/-- The options that a wrapper adds. -/
def correlationOptions (id : CorrelationId) : List StartOption :=
  [.kind .client, .attributes [⟨correlationKey, .string id.text⟩]]

variable {τ : Type} [SpanBackend τ]

/-- Starts a span. -/
def start : Tracer τ → Context → String → List StartOption → Act (Context × SpanHandle)
  | .backend tracer, ctx, name, options => SpanBackend.start tracer ctx name options
  | .correlated inner, ctx, name, options => do
    let (ctx, id) ← ctx.ensureCorrelationId
    inner.start ctx name (options ++ correlationOptions id)

instance : SpanBackend (Tracer τ) where
  start := start

end Tracer

/-! ## Exporting -/

/-- A backend whose spans are reported to the subscriber.  `switch` is the place of its switch in the
collector; once that is thrown, no more spans are recorded. -/
structure ExportingTracer where
  scope : String
  serviceName : String
  sampler : Sampler
  switch : Nat
  deriving DecidableEq, Repr

namespace ExportingTracer

/-- A new switch, which is not thrown. -/
def freshSwitch : Act Nat :=
  Act.step fun c => (c.switches.length, { c with switches := c.switches ++ [false] })

/-- A tracer with a switch of its own. -/
def create (scope serviceName : String) (sampler : Sampler) : Act ExportingTracer :=
  return { scope, serviceName, sampler, switch := ← freshSwitch }

/-- Whether spans started now are recorded. -/
def isRecording (tracer : ExportingTracer) : Act Bool :=
  Act.step fun c =>
    (tracer.sampler = .alwaysOn && c.switches[tracer.switch]? = some false, c)

/-- The fields of a new span. -/
def fields (tracer : ExportingTracer) (name : String) (kind : SpanKind) : Fields :=
  [ ("otel.name", .text name), ("otel.kind", .text kind.name), ("otel.scope", .text tracer.scope),
    ("service.name", .text tracer.serviceName) ]

/-- Makes a span known to the subscriber, if it takes spans.  Gives the number of the span. -/
def announce (parent : Option Nat) (fields : Fields) : Act (Option Nat) :=
  Act.step fun c =>
    if c.threshold.admits .info then
      let number := c.createdCount + 1
      (some number, { c with
        createdCount := number
        journal := c.journal ++ [.spanCreated number "span" .info parent fields] })
    else (none, c)

/-- Starts a span under the nearest recorded one.  A span that is not recorded is stored all the same,
and leaves the parent of later spans as it was. -/
def start (tracer : ExportingTracer) (ctx : Context) (name : String)
    (options : List StartOption) : Act (Context × SpanHandle) := do
  if ← tracer.isRecording then
    let settings := SpanSettings.ofOptions options
    let parent := (ctx.get .parent).join
    let number ← announce parent (tracer.fields name settings.kind)
    let span ← SpanHandle.create (.exported { number, attributes := settings.attributes })
    let ctx ← ctx.withValue .parent number
    return (← ctx.withSpan span, span)
  else
    let span ← SpanHandle.create .silent
    return (← ctx.withSpan span, span)

instance : SpanBackend ExportingTracer where
  start := start

/-! ### What a start does -/

/-- Whether the tracer records spans in the state of the collector. -/
def records (tracer : ExportingTracer) (c : Collector) : Bool :=
  tracer.sampler = .alwaysOn && c.switches[tracer.switch]? = some false

/-- The number that a span announced now gets, if it is known to the subscriber. -/
def nextNumber (c : Collector) : Option Nat :=
  if c.threshold.admits .info then some (c.createdCount + 1) else none

/-- The collector after a span was announced. -/
def announced (parent : Option Nat) (fields : Fields) (c : Collector) : Collector :=
  match nextNumber c with
  | some number => { c with
      createdCount := number
      journal := c.journal ++ [.spanCreated number "span" .info parent fields] }
  | none => c

@[simp] theorem runOn_isRecording (tracer : ExportingTracer) (c : Collector) :
    Act.runOn tracer.isRecording c = (.ok (tracer.records c), c) := rfl

@[simp] theorem runOn_announce (parent : Option Nat) (fields : Fields) (c : Collector) :
    Act.runOn (announce parent fields) c = (.ok (nextNumber c), announced parent fields c) := by
  by_cases h : c.threshold.admits .info <;> simp [announce, announced, nextNumber, h]

/-- A span that is not recorded is stored, and nothing is told. -/
theorem runOn_start_of_not_records {tracer : ExportingTracer} {c : Collector}
    (h : tracer.records c = false) (ctx : Context) (name : String) (options : List StartOption) :
    Act.runOn (tracer.start ctx name options) c =
      (.ok (ctx.insert c.storageCount .span ⟨c.spans.length⟩, ⟨c.spans.length⟩),
        { c with spans := c.spans ++ [.silent], storageCount := c.storageCount + 1 }) := by
  simp [start, h]

/-- A recorded span is announced under the nearest recorded one, and becomes the parent of the spans
started from its context. -/
theorem runOn_start_of_records {tracer : ExportingTracer} {c : Collector}
    (h : tracer.records c = true) (ctx : Context) (name : String) (options : List StartOption) :
    Act.runOn (tracer.start ctx name options) c =
      let settings := SpanSettings.ofOptions options
      let told := announced (ctx.get .parent).join (tracer.fields name settings.kind) c
      (.ok ((ctx.insert told.storageCount .parent (nextNumber c)).insert (told.storageCount + 1)
          .span ⟨told.spans.length⟩, ⟨told.spans.length⟩),
        { told with
          spans := told.spans ++
            [.exported { number := nextNumber c, attributes := settings.attributes }]
          storageCount := told.storageCount + 2 }) := by
  simp [start, h]

end ExportingTracer

/-! ## Recording -/

/-- A backend that notes every start, and whose spans note every call. -/
structure RecordingTracer where
  name : String
  deriving DecidableEq, Repr

namespace RecordingTracer

/-- Starts a span and stores it in the context. -/
def start (tracer : RecordingTracer) (ctx : Context) (name : String)
    (options : List StartOption) : Act (Context × SpanHandle) := do
  let number ← Act.step fun c =>
    let number := c.recordedCount + 1
    (number, { c with
      recordedCount := number
      journal := c.journal ++ [.spanStarted number tracer.name name options ctx.summary] })
  let span ← SpanHandle.create (.recording number false)
  return (← ctx.withSpan span, span)

instance : SpanBackend RecordingTracer where
  start := start

/-- A start is noted with what the context was before it. -/
theorem runOn_start (tracer : RecordingTracer) (ctx : Context) (name : String)
    (options : List StartOption) (c : Collector) :
    Act.runOn (tracer.start ctx name options) c =
      (.ok (ctx.insert c.storageCount .span ⟨c.spans.length⟩, ⟨c.spans.length⟩),
        { c with
          recordedCount := c.recordedCount + 1
          journal := c.journal ++
            [.spanStarted (c.recordedCount + 1) tracer.name name options ctx.summary]
          spans := c.spans ++ [.recording (c.recordedCount + 1) false]
          storageCount := c.storageCount + 1 }) := by
  simp [start]

end RecordingTracer

/-- A backend of either kind. -/
inductive Backend where
  | exporting (tracer : ExportingTracer)
  | recording (tracer : RecordingTracer)
  deriving DecidableEq, Repr

instance : SpanBackend Backend where
  start
    | .exporting tracer, ctx, name, options => tracer.start ctx name options
    | .recording tracer, ctx, name, options => tracer.start ctx name options

end Observability
