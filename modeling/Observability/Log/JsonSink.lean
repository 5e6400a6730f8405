import Observability.Collector
import Observability.Json.Printer
import Observability.Log.Sink
import Observability.Text.Quoted

/-!
# JSON sinks

A JSON sink writes one object per line: the time, the level, the verbosity or the error, the message,
and the name if there is one.  After these come the pairs of the sink and of the call, none of which
overwrites them.  The line reaches the writer as a whole or is dropped.
-/

namespace Observability

/-- A sink that writes JSON lines.  Sinks derived from it share its writer. -/
structure JsonSink where
  /-- the place of the writer in the collector -/
  writer : Nat
  name : String := ""
  values : List KeyValue := []
  maxVerbosity : UInt32
  callDepth : Nat := 0
  deriving Repr

namespace JsonSink

/-- The members of a line: those given, the name, and then the pairs whose keys are still free. -/
def complete (sink : JsonSink) (given : List (String × Json)) (pairs : List KeyValue) :
    List (String × Json) :=
  let named := if sink.name.isEmpty then given else given ++ [("logger", .string sink.name)]
  (KeyValue.merge [sink.values, pairs]).foldl
    (fun members pair => Json.insertNew pair.1 pair.2 members) (Json.membersOf named)

/-- The members of an ordinary line. -/
def infoMembers (sink : JsonSink) (time : Binary64) (level : UInt32) (message : String)
    (pairs : List KeyValue) : List (String × Json) :=
  sink.complete
    [ ("ts", .double time), ("level", .string "info"), ("v", .int (.ofUInt32 level)),
      ("msg", .string message) ] pairs

/-- The members of a line on an error. -/
def errorMembers (sink : JsonSink) (time : Binary64) (error : Option String) (message : String)
    (pairs : List KeyValue) : List (String × Json) :=
  let cause : List (String × Json) := match error with
    | some text => [("error", .string text)]
    | none => []
  sink.complete
    ([("ts", .double time), ("level", .string "error"), ("msg", .string message)] ++ cause) pairs

/-- Writes a line to the writer.  A crash of the writer is passed on. -/
def writeLine (sink : JsonSink) (members : Binary64 → List (String × Json)) : Act Unit := do
  let crashed ← Act.step fun c =>
    match c.writers[sink.writer]? with
    | none => (false, c)
    | some writer =>
      let (after, lines) := writer.put ((Json.object (members c.clock)).chars ++ ['\n'])
      (after.crashed && !writer.crashed,
        { c with
          writers := c.writers.set sink.writer after
          journal := c.journal ++ lines.map (.line writer.destination) })
  if crashed then Act.crash "writer panicked"

instance : LogSink Act JsonSink where
  init sink callDepth := return { sink with callDepth }
  enabled sink level := return decide (level ≤ sink.maxVerbosity)
  info sink level message pairs :=
    if level ≤ sink.maxVerbosity then
      sink.writeLine fun time => sink.infoMembers time level message pairs
    else return ()
  error sink error message pairs :=
    sink.writeLine fun time => sink.errorMembers time error message pairs
  withValues sink pairs := return { sink with values := sink.values ++ pairs }
  withName sink name := return { sink with name := joinName sink.name name }

/-- A sink over a new writer. -/
def create (destination : Destination) (behaviour : WriterBehaviour) (maxVerbosity : UInt32) :
    Act JsonSink :=
  Act.step fun c =>
    ({ writer := c.writers.length, maxVerbosity },
      { c with writers := c.writers ++ [{ destination, behaviour }] })

/-- The sink in messages. -/
def render (sink : JsonSink) : String :=
  "JsonLogSink \x7b name: " ++ Text.quoted sink.name ++ ", max_verbosity: " ++
  toString sink.maxVerbosity.toNat ++ " \x7d"

end JsonSink

end Observability
