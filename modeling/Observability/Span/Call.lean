import Observability.Span.Attribute
import Observability.Span.Status

/-!
# Calls on spans
-/

namespace Observability

/-- What can be asked of a started span. -/
inductive SpanCall where
  | setAttribute (new : Attribute)
  /-- an error, as its text -/
  | recordError (error : String)
  | setStatus (status : SpanStatus)
  | finish
  deriving DecidableEq, Repr

end Observability
