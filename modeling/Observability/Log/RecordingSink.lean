import Observability.Collector
import Observability.Log.Sink

/-!
# Recording sinks

A recording sink notes every call in the journal and writes nothing.  It can be told to be disabled, to
have a limit, and to crash in certain operations, after noting the call.
-/

namespace Observability

/-- A sink that notes its calls. -/
structure RecordingSink where
  id : Nat
  isEnabled : Bool := true
  maxLevel : Option UInt32 := none
  /-- the operations it crashes in -/
  crashesIn : List LogOperation := []
  name : String := ""
  values : List KeyValue := []
  deriving Repr

namespace RecordingSink

/-- Notes a call, and crashes if it is told to. -/
def note (sink : RecordingSink) (call : LogCall) : Act Unit := do
  Act.observe (.sink sink.id call)
  if sink.crashesIn.contains call.operation then
    Act.crash s!"sink {sink.id} panicked in {call.operation.name}"

/-- Whether the verbosity is within the limit. -/
def admits (sink : RecordingSink) (level : UInt32) : Bool :=
  sink.isEnabled &&
  match sink.maxLevel with
  | some limit => level ≤ limit
  | none => true

instance : LogSink Act RecordingSink where
  init sink callDepth := do
    sink.note (.init callDepth)
    return sink
  enabled sink level := do
    sink.note (.enabled level)
    return sink.admits level
  info sink level message pairs := sink.note (.info level message pairs sink.values sink.name)
  error sink error message pairs := sink.note (.error error message pairs sink.values sink.name)
  withValues sink pairs := do
    sink.note (.withValues pairs)
    return { sink with values := sink.values ++ pairs }
  withName sink name := do
    sink.note (.withName name)
    return { sink with name := joinName sink.name name }

end RecordingSink

end Observability
