import Observability.Log.EventSink
import Observability.Log.JsonSink
import Observability.Log.Logger
import Observability.Log.RecordingSink

/-!
# The sinks there are

One type for the sinks of this library, so that lists of them can mix the kinds.
-/

namespace Observability

/-- A sink of any kind. -/
inductive Sink where
  | events (sink : EventSink)
  | json (sink : JsonSink)
  | recording (sink : RecordingSink)
  deriving Repr

namespace Sink

instance : LogSink Act Sink where
  init
    | .events sink, depth => return .events (← LogSink.init sink depth)
    | .json sink, depth => return .json (← LogSink.init sink depth)
    | .recording sink, depth => return .recording (← LogSink.init sink depth)
  enabled
    | .events sink, level => LogSink.enabled sink level
    | .json sink, level => LogSink.enabled sink level
    | .recording sink, level => LogSink.enabled sink level
  info
    | .events sink, level, message, pairs => LogSink.info sink level message pairs
    | .json sink, level, message, pairs => LogSink.info sink level message pairs
    | .recording sink, level, message, pairs => LogSink.info sink level message pairs
  error
    | .events sink, error, message, pairs => LogSink.error sink error message pairs
    | .json sink, error, message, pairs => LogSink.error sink error message pairs
    | .recording sink, error, message, pairs => LogSink.error sink error message pairs
  withValues
    | .events sink, pairs => return .events (← LogSink.withValues sink pairs)
    | .json sink, pairs => return .json (← LogSink.withValues sink pairs)
    | .recording sink, pairs => return .recording (← LogSink.withValues sink pairs)
  withName
    | .events sink, name => return .events (← LogSink.withName sink name)
    | .json sink, name => return .json (← LogSink.withName sink name)
    | .recording sink, name => return .recording (← LogSink.withName sink name)

end Sink

end Observability
