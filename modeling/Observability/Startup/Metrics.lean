import Observability.Config.Basic
import Observability.SocketAddress
import Observability.Startup.Error

/-!
# The metrics endpoint
-/

namespace Observability.Startup

/-- The address to serve metrics on: none if metrics are disabled, whatever the address is then. -/
def metricsAddress (config : Config.Metrics) : Except StartupError (Option SocketAddress) :=
  if config.enabled then
    match SocketAddress.parse? config.address with
    | some address => .ok (some address)
    | none => .error (.invalidMetricsAddress config.address)
  else .ok none

end Observability.Startup
