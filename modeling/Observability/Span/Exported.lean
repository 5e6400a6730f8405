import Observability.Json.Printer
import Observability.Span.Call

/-!
# Exported spans

An exported span gathers attributes and a status while it lasts, and reports them when it ends: the
attributes as JSON text, the name of the status, its description if it is an error, and at last the end
itself.  An error is reported at once.

`ExportedSpan.call` is one call as a pure step: the span afterwards and what it reports.
-/

namespace Observability

/-- The value of a reported field. -/
inductive FieldValue where
  | text (value : String)
  | number (value : Nat)
  deriving DecidableEq, Repr

/-- Named values, as events and spans report them. -/
abbrev Fields := List (String × FieldValue)

/-- What a span reports. -/
inductive SpanReport where
  /-- fields recorded on it -/
  | fields (fields : Fields)
  /-- its end -/
  | ended
  deriving DecidableEq, Repr

/-- An exported span: its number if it is known to the subscriber, and what it gathered. -/
structure ExportedSpan where
  number : Option Nat
  attributes : List Attribute
  status : SpanStatus := .unset
  ended : Bool := false
  deriving DecidableEq, Repr

namespace ExportedSpan

/-- The description of a status, as a report of its own. -/
def describe : SpanStatus → List SpanReport
  | .error description => [.fields [("otel.status_description", .text description)]]
  | _ => []

/-- What the first end reports. -/
def summary (span : ExportedSpan) : List SpanReport :=
  [.fields [("attributes", .text (Attribute.listJson span.attributes).print)],
    .fields [("otel.status_code", .text span.status.name)]] ++
  describe span.status ++ [.ended]

/-- One call: the span afterwards and what it reports.  After the end neither attributes nor status
change any more, and only errors are still reported. -/
def call (span : ExportedSpan) : SpanCall → ExportedSpan × List SpanReport
  | .setAttribute new =>
    if span.ended then (span, [])
    else ({ span with attributes := new.put span.attributes }, [])
  | .recordError error => (span, [.fields [("error", .text error)]])
  | .setStatus status => if span.ended then (span, []) else ({ span with status }, [])
  | .finish => if span.ended then (span, []) else ({ span with ended := true }, span.summary)

/-- Whether calls still change it. -/
def isRecording (span : ExportedSpan) : Bool := !span.ended

end ExportedSpan

end Observability
