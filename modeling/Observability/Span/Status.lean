/-!
# Span status

How a span ended, and the rule that gives the status for an HTTP status and an optional error.
-/

namespace Observability

/-- An HTTP status code; zero stands for a request that got no answer. -/
abbrev HttpStatus := UInt16

/-- How a span ended. -/
inductive SpanStatus where
  | unset
  | ok
  | error (description : String)
  deriving DecidableEq, Repr, Inhabited

namespace SpanStatus

def name : SpanStatus → String
  | .unset => "unset"
  | .ok => "ok"
  | .error _ => "error"

/-- An error fails the span under its own text; without one, a status of 400 or above fails it. -/
def ofOutcome (status : HttpStatus) : Option String → SpanStatus
  | some text => .error text
  | none => if 400 ≤ status then .error s!"HTTP status {status.toNat}" else .ok

end SpanStatus

end Observability
