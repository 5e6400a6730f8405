import Observability.Config.Basic
import Observability.Log.Backend

/-!
# The configured logger
-/

namespace Observability.Startup

/-- A sink of the given kind. -/
def createSink (verbosity : UInt32) : SinkKind → Act Sink
  | .tracing => return .events { maxVerbosity := verbosity }
  | .jsonStdout => return .json (← JsonSink.create .stdout .accepting verbosity)
  | .jsonStderr => return .json (← JsonSink.create .stderr .accepting verbosity)

/-- A logger that writes to the configured sinks, in the order of the configuration. -/
def buildLogger (config : Config.Logging) : Act (Logger (SinkTree Sink)) := do
  let sinks ← config.sinks.mapM (createSink config.verbosity)
  Logger.composite (sinks.map .leaf)

end Observability.Startup
