import Observability.Log.Logger
import Observability.Span.Attribute
import Observability.Tracing.Registry

/-!
# One unit of work

A service handles a request by doing one unit of work under the correlation id of its caller, if the
request brings one that is readable: it starts a span, logs the work, ends the span, and answers with the
id.
-/

namespace Observability.Work

/-- The id that a request brings: the first value of the header, if it is readable. -/
def inboundId? (headers : Headers) : Option String :=
  (headers.first? correlationKey).bind HeaderValue.toText?

/-- The context of a request: a new one, with the id that the request brings. -/
def inboundContext (headers : Headers) : Act Context := do
  let ctx ← Context.create
  match inboundId? headers with
  | some id => ctx.adoptCorrelationId ⟨id⟩
  | none => return ctx

/-- Does the work; gives the id it was done under. -/
def handle (β : Type) {φ σ : Type} [TracingFacility φ β] [LogSink Act σ] (logger : Logger σ)
    (headers : Headers) : RegistryAct φ (Option String) := do
  let inbound ← (inboundContext headers : Act Context)
  let ctx ← Registry.startSpan β inbound "HandleWork"
  let id := ctx.correlationId?.map (·.text)
  (logger.info "Handling work" [.text "correlation_id" (id.getD "")] : Act Unit)
  Registry.endSpan β ctx 200 none
  return id

/-- The answer to the request. -/
def answer (id : Option String) : Json :=
  .object [("correlation_id", match id with
    | some text => .string text
    | none => .null)]

end Observability.Work
