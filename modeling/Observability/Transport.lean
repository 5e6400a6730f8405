import Observability.Correlation

/-!
# Transports and tracing facilities

A transport sends requests to other services.  A tracing facility starts and ends spans for named
operations, and wraps a transport so that each request gets a span.

A `Transport φ β` is a base transport in `β` with any number of wrappers, each of which reports to a
facility in `φ`.  A wrapper starts its span from the context of the request, puts the new context and
its correlation id into the request, lets the transport inside answer, and ends the span of *its own*
context with the outcome.
-/

namespace Observability

/-- A base transport, perhaps in tracing wrappers, the outermost first. -/
inductive Transport (φ β : Type) where
  | base (transport : β)
  | traced (facility : φ) (inner : Transport φ β)

/-- The base transports `β`.  A failure is an error, given by its text. -/
class BaseTransport (β : Type) where
  /-- whether a request can be taken now -/
  ready : β → Act (Except String Unit)
  call : β → Request → Act (Except String Response)

/-- The tracing facilities `φ` for transports over `β`. -/
class TracingFacility (φ : Type) (β : Type) where
  /-- a transport whose requests are traced -/
  newTransport : φ → Transport φ β → Act (Transport φ β)
  /-- starts a span and gives the context that carries it -/
  startSpan : φ → Context → (name : String) → Act Context
  /-- ends the span of the context; an error is given by its text -/
  endSpan : φ → Context → HttpStatus → (error : Option String) → Act Unit

namespace Transport

variable {φ β : Type} [BaseTransport β] [TracingFacility φ β]

/-- A wrapper is ready when the transport inside is. -/
def ready : Transport φ β → Act (Except String Unit)
  | .base transport => BaseTransport.ready transport
  | .traced _ inner => inner.ready

/-- The headers with the correlation id of the context, if it has one and that can stand in a header. -/
def correlate (ctx : Context) (headers : Headers) : Headers :=
  match ctx.correlationId?.bind fun id => HeaderValue.ofText? id.text with
  | some value => headers.set correlationKey value
  | none => headers

/-- The context of a request, or a new one. -/
def parentContext (request : Request) : Act Context :=
  match request.context with
  | some ctx => return ctx
  | none => Context.create

@[simp] theorem runOn_parentContext_of_some {request : Request} {parent : Context}
    (h : request.context = some parent) (c : Collector) :
    Act.runOn (parentContext request) c = (.ok parent, c) := by
  simp [parentContext, h]

@[simp] theorem runOn_parentContext_of_none {request : Request} (h : request.context = none)
    (c : Collector) :
    Act.runOn (parentContext request) c =
      (.ok (Context.empty c.storageCount), { c with storageCount := c.storageCount + 1 }) := by
  simp [parentContext, h]

/-- What a wrapper does first: it starts the span and puts its context into the request. -/
def openSpan (β : Type) {φ : Type} [TracingFacility φ β] (facility : φ) (request : Request) :
    Act (Context × Request) := do
  let parent ← parentContext request
  let ctx ← TracingFacility.startSpan β facility parent ("HTTP " ++ request.method)
  return (ctx, { request with
    headers := correlate ctx request.headers
    context := some ctx })

/-- The status that an outcome is reported under: zero for a failure. -/
def outcomeStatus : Except String Response → HttpStatus
  | .ok response => response.status
  | .error _ => 0

/-- The error that an outcome is reported with. -/
def outcomeError : Except String Response → Option String
  | .ok _ => none
  | .error error => some error

/-- What a wrapper does last: it takes the sample and ends the span of its context. -/
def closeSpan (β : Type) {φ : Type} [TracingFacility φ β] (facility : φ) (ctx : Context)
    (outcome : Except String Response) : Act Unit := do
  Act.observe (.sample "telemetry_transport_request_duration_seconds"
    [("status", toString (outcomeStatus outcome).toNat)])
  TracingFacility.endSpan β facility ctx (outcomeStatus outcome) (outcomeError outcome)

theorem closeSpan_ok {φ β : Type} [TracingFacility φ β] (facility : φ) (ctx : Context)
    (response : Response) :
    closeSpan β facility ctx (.ok response) = (do
      Act.observe (.sample "telemetry_transport_request_duration_seconds"
        [("status", toString response.status.toNat)])
      TracingFacility.endSpan β facility ctx response.status none) := rfl

theorem closeSpan_error {φ β : Type} [TracingFacility φ β] (facility : φ) (ctx : Context)
    (error : String) :
    closeSpan β facility ctx (.error error) = (do
      Act.observe (.sample "telemetry_transport_request_duration_seconds" [("status", "0")])
      TracingFacility.endSpan β facility ctx 0 (some error)) := by
  have hzero : toString (0 : HttpStatus).toNat = "0" := by decide
  rw [closeSpan, outcomeStatus, outcomeError, hzero]

/-- Sends a request through a transport that is ready. -/
def call : Transport φ β → Request → Act (Except String Response)
  | .base transport, request => BaseTransport.call transport request
  | .traced facility inner, request => do
    let (ctx, request) ← openSpan β facility request
    let outcome ← inner.call request
    closeSpan β facility ctx outcome
    return outcome

/-- Sends a request. -/
def send (transport : Transport φ β) (request : Request) : Act (Except String Response) := do
  match ← transport.ready with
  | .error error => return .error error
  | .ok _ => transport.call request

/-- Sends a request whose answer is given up before anything waits for it.  A base transport takes the
request all the same; of a wrapped one only the outermost wrapper does something, which is to start its
span. -/
def abandon (transport : Transport φ β) (request : Request) : Act Unit := do
  match ← transport.ready with
  | .error _ => return ()
  | .ok _ =>
    match transport with
    | .base transport => do
      let _ ← BaseTransport.call transport request
      return ()
    | .traced facility _ => do
      let _ ← openSpan β facility request
      return ()

end Transport

end Observability
