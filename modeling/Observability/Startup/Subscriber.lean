import Observability.Config.Basic
import Observability.Startup.Error

/-!
# Installing the subscriber

A process prints its events through one subscriber, which is installed once.  A filter given by the
environment takes precedence over the configured one if it is a filter at all.
-/

namespace Observability.Startup

/-- The filter that counts: that of the environment, if it is accepted, else the configured one. -/
def effectiveFilter (environment : Option String) (config : Config.Logging) : String :=
  match environment with
  | some filter =>
    match Filter.check filter with
    | .ok _ => filter
    | .error _ => config.filter
  | none => config.filter

/-- Installs the subscriber; `installed` tells whether the process has one. -/
def installSubscriber (installed : Bool) (environment : Option String) (config : Config.Logging) :
    Except StartupError Unit :=
  match Filter.check (effectiveFilter environment config) with
  | .error fault => .error (.filter fault)
  | .ok _ => if installed then .error .subscriberInstalled else .ok ()

end Observability.Startup
