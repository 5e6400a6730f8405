import Observability.Filter
import Observability.Tracing.ProviderError

/-!
# Errors of start-up
-/

namespace Observability

/-- Why telemetry cannot be brought up. -/
inductive StartupError where
  /-- the tracer provider cannot be made -/
  | provider (cause : ProviderError)
  | invalidMetricsAddress (address : String)
  | filter (fault : Filter.Fault)
  /-- the process prints its events somewhere already -/
  | subscriberInstalled
  deriving DecidableEq, Repr

def StartupError.message : StartupError → String
  | .provider cause => s!"failed to create tracer provider: {cause.message}"
  | .invalidMetricsAddress address =>
    s!"invalid metrics address '{address}': invalid socket address syntax"
  | .filter fault => s!"invalid log filter: {fault.message}"
  | .subscriberInstalled =>
    "failed to install tracing subscriber: a global default trace dispatcher has already been set"

end Observability
