import Observability.CommandLine
import Observability.Config.Parser
import Observability.Json.Printer
import Observability.Service
import Observability.UniqueId

/-!
# The program

Runs the demonstration service from start to stop, prints what shows outside, and then the answers of
the units of work.  Errors go to the standard error, with exit code one, or two for the command line.
-/

namespace Observability.Program

/-- Everything on the standard input. -/
def readInput : IO ByteArray := do
  let input ← IO.getStdin
  let mut bytes := ByteArray.empty
  let mut chunk ← input.read 65536
  while !chunk.isEmpty do
    bytes := bytes ++ chunk
    chunk ← input.read 65536
  return bytes

/-- The text of a field's value. -/
def fieldText : String × FieldValue → String
  | (name, .text value) => if name = "message" then value else s!"{name}={Text.quoted value}"
  | (name, .number value) => s!"{name}={value}"

/-- Prints one observation; only lines and events are printed. -/
def printObservation : Observation → IO Unit
  | .line .stdout text => IO.println text
  | .line _ text => IO.eprintln text
  | .event severity _ fields =>
    IO.eprintln (severity.name ++ " " ++ " ".intercalate (fields.map fieldText))
  | _ => return ()

/-- Runs the service. -/
def runService (config : Config) (line : CommandLine) : IO UInt32 := do
  let environment ← IO.getEnv "LOG_FILTER"
  let salt ← IO.rand 0 0xFFFFFFFFFFFFFFFFFF
  let now ← IO.monoMsNow
  let collector : Collector :=
    { idText := UniqueId.text salt, clock := Binary64.ofDecimal false now (-3),
      threshold := .upTo .info }
  let run := Service.run config environment line.listen line.requests
  let ((result, _), after) := run.runOn {} collector
  after.journal.forM printObservation
  match result with
  | .error crash =>
    IO.eprintln s!"Error: {crash.message}"
    return 1
  | .ok (.error e) =>
    IO.eprintln s!"Error: {e.message}"
    return 1
  | .ok (.ok answers) =>
    answers.forM fun answer => IO.println answer.print
    return 0

/-- The configuration that the command line asks for. -/
def configuration (line : CommandLine) : IO (Except Config.LoadError Config) := do
  if line.readsConfig then return Config.load (← readInput) else return .ok {}

end Observability.Program

open Observability in
/-- The entry point. -/
def main (arguments : List String) : IO UInt32 := do
  match CommandLine.parse arguments with
  | .error e =>
    IO.eprintln s!"error: {e.message}"
    return 2
  | .ok line =>
    match ← Program.configuration line with
    | .error e =>
      IO.eprintln s!"Error: {e.message}"
      return 1
    | .ok config => Program.runService config line
