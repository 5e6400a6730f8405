/-!
# Configuration

What can be configured: three sections of fields, each field with a default.  The fields stand in the
order in which a document without keys lists them.
-/

namespace Observability

/-- How the process prints events. -/
inductive LogFormat where
  | pretty
  | json
  deriving DecidableEq, Repr, Inhabited

/-- A sink that the logger writes to. -/
inductive SinkKind where
  /-- forward lines as events -/
  | tracing
  /-- JSON lines on the standard output -/
  | jsonStdout
  /-- JSON lines on the standard error -/
  | jsonStderr
  deriving DecidableEq, Repr, Inhabited

/-- Whether new spans are recorded. -/
inductive Sampler where
  | alwaysOn
  | alwaysOff
  deriving DecidableEq, Repr, Inhabited

def LogFormat.name : LogFormat → String
  | .pretty => "pretty"
  | .json => "json"

def SinkKind.name : SinkKind → String
  | .tracing => "tracing"
  | .jsonStdout => "json_stdout"
  | .jsonStderr => "json_stderr"

def Sampler.name : Sampler → String
  | .alwaysOn => "always_on"
  | .alwaysOff => "always_off"

namespace Config

/-- The section on log lines. -/
structure Logging where
  /-- which events are printed -/
  filter : String := "info"
  format : LogFormat := .pretty
  /-- the highest verbosity that every sink accepts -/
  verbosity : UInt32 := 0
  /-- the sinks of the logger, in the order they are written to -/
  sinks : List SinkKind := [.tracing]
  deriving DecidableEq, Repr, Inhabited

/-- The section on spans. -/
structure Tracing where
  enabled : Bool := false
  serviceName : String := "telemetry-facade"
  tracerName : String := "telemetry-facade"
  sampler : Sampler := .alwaysOn
  /-- how long a provider may take to shut down, in seconds -/
  shutdownTimeoutSecs : UInt64 := 5
  deriving DecidableEq, Repr, Inhabited

/-- The section on metrics. -/
structure Metrics where
  enabled : Bool := false
  address : String := "0.0.0.0:9090"
  deriving DecidableEq, Repr, Inhabited

end Config

/-- A configuration. -/
structure Config where
  logging : Config.Logging := {}
  tracing : Config.Tracing := {}
  metrics : Config.Metrics := {}
  deriving DecidableEq, Repr, Inhabited

end Observability
