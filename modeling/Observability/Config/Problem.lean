import Observability.Config.Basic
import Observability.Filter
import Observability.SocketAddress
import Observability.Text.Quoted

/-!
# Problems of a configuration

A configuration of the right shape can still be unusable.  `Config.problems` lists everything wrong with
it, one problem for each rule that is broken, in a fixed order; `Config.Valid` says the rules.
-/

namespace Observability.Config

/-- One thing wrong with a configuration. -/
inductive Problem where
  | emptyServiceName
  | emptyTracerName
  | zeroShutdownTimeout
  | invalidMetricsAddress (address : String)
  | invalidFilter (filter : String) (fault : Filter.Fault)
  deriving DecidableEq, Repr

def Problem.message : Problem → String
  | .emptyServiceName => "tracing.service_name must not be empty"
  | .emptyTracerName => "tracing.tracer_name must not be empty"
  | .zeroShutdownTimeout => "tracing.shutdown_timeout_secs must be greater than zero"
  | .invalidMetricsAddress address =>
    s!"metrics.address {Text.quoted address} is not a socket address"
  | .invalidFilter filter fault =>
    s!"logging.filter {Text.quoted filter} is invalid: {fault.message}"

/-- Neither name is blank, the timeout is above zero, the filter is one, and the address is one if
metrics are enabled. -/
structure Valid (config : Config) : Prop where
  serviceName : Text.allBlank config.tracing.serviceName = false
  tracerName : Text.allBlank config.tracing.tracerName = false
  timeout : config.tracing.shutdownTimeoutSecs ≠ 0
  address : config.metrics.enabled = true →
    (SocketAddress.parse? config.metrics.address).isSome = true
  filter : Filter.check config.logging.filter = .ok ()

/-- The problem as a list, if the condition holds. -/
def problemIf (broken : Bool) (problem : Problem) : List Problem := if broken then [problem] else []

/-- The problem with a filter, if it is refused. -/
def filterProblems (filter : String) : List Problem :=
  match Filter.check filter with
  | .ok _ => []
  | .error fault => [.invalidFilter filter fault]

/-- Everything wrong with the configuration, in the order of the rules. -/
def problems (config : Config) : List Problem :=
  problemIf (Text.allBlank config.tracing.serviceName) .emptyServiceName ++
  problemIf (Text.allBlank config.tracing.tracerName) .emptyTracerName ++
  problemIf (config.tracing.shutdownTimeoutSecs = 0) .zeroShutdownTimeout ++
  problemIf
    (config.metrics.enabled && (SocketAddress.parse? config.metrics.address).isNone)
    (.invalidMetricsAddress config.metrics.address) ++
  filterProblems config.logging.filter

end Observability.Config
