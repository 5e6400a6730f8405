import Observability.Collector
import Observability.Json.Printer
import Observability.Log.Sink

/-!
# Event sinks

An event sink hands its lines to the subscriber as events.  The pairs of the sink and of the call go into
one field as the JSON text of an object.  The verbosity of a line gives the severity of its event.
-/

namespace Observability

/-- A sink that emits events. -/
structure EventSink where
  name : String := ""
  values : List KeyValue := []
  maxVerbosity : UInt32
  callDepth : Nat := 0
  deriving Repr

namespace EventSink

/-- The JSON text of the pairs. -/
def fieldsText (sink : EventSink) (pairs : List KeyValue) : String :=
  (Json.object (KeyValue.merge [sink.values, pairs])).print

/-- The fields of an ordinary line. -/
def infoFields (sink : EventSink) (level : UInt32) (message : String) (pairs : List KeyValue) :
    Fields :=
  [ ("message", .text message), ("logger", .text sink.name), ("v", .number level.toNat),
    ("fields", .text (sink.fieldsText pairs)) ]

/-- The fields of a line on an error; without one its text is empty. -/
def errorFields (sink : EventSink) (error : Option String) (message : String)
    (pairs : List KeyValue) : Fields :=
  [ ("message", .text message), ("logger", .text sink.name), ("error", .text (error.getD "")),
    ("fields", .text (sink.fieldsText pairs)) ]

instance : LogSink Act EventSink where
  init sink callDepth := return { sink with callDepth }
  enabled sink level :=
    if level ≤ sink.maxVerbosity then Act.enabled (.ofVerbosity level) else return false
  info sink level message pairs :=
    Act.emit (.ofVerbosity level) none (sink.infoFields level message pairs)
  error sink error message pairs := Act.emit .error none (sink.errorFields error message pairs)
  withValues sink pairs := return { sink with values := sink.values ++ pairs }
  withName sink name := return { sink with name := joinName sink.name name }

end EventSink

end Observability
