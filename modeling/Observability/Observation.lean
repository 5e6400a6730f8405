import Observability.Http
import Observability.Log.Call
import Observability.Log.Writer
import Observability.Severity
import Observability.Span.Exported
import Observability.Span.Options

/-!
# Observations

Everything that shows outside: what reaches streams, subscribers and metric recorders, and the calls
that recording implementations of the interfaces were asked to note.
-/

namespace Observability

/-- A call on a tracing facility. -/
inductive FacilityCall where
  | newTransport
  | startSpan (name : String)
  /-- the last part is the name of the recording facility that started the context, if one did -/
  | endSpan (status : HttpStatus) (error : Option String) (marker : Option String)
  deriving DecidableEq, Repr

/-- A call on a tracer provider. -/
inductive ProviderCall where
  | tracer (name : String)
  | shutdown
  deriving DecidableEq, Repr

/-- Something that shows outside. -/
inductive Observation where
  /-- a finished line arrived -/
  | line (destination : Destination) (text : String)
  /-- an event, with the number of the span it was put under -/
  | event (severity : Severity) (span : Option Nat) (fields : Fields)
  /-- a span became known to the subscriber -/
  | spanCreated (number : Nat) (name : String) (severity : Severity) (parent : Option Nat)
      (fields : Fields)
  /-- fields were recorded on a span known to the subscriber -/
  | spanRecorded (number : Nat) (fields : Fields)
  | counter (name : String) (labels : List (String × String)) (increment : Nat)
  /-- a sample of a histogram; its value is a duration -/
  | sample (name : String) (labels : List (String × String))
  /-- a recording sink was called -/
  | sink (id : Nat) (call : LogCall)
  /-- a recording tracer started a span -/
  | spanStarted (number : Nat) (tracer name : String) (options : List StartOption)
      (context : Context.Summary)
  /-- a recording span was called -/
  | spanCalled (number : Nat) (call : SpanCall)
  /-- a recording facility was called -/
  | facility (name : String) (call : FacilityCall)
  /-- a scripted provider was called -/
  | provider (name : String) (call : ProviderCall)
  /-- a scripted transport was called -/
  | request (base method uri : String) (headers : Headers) (context : Option Context.Summary)

end Observability
