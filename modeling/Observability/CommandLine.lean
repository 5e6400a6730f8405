import Observability.SocketAddress

/-!
# The command line

`--config` asks for a configuration on the standard input, `--listen` takes an address, and `--request`
takes the correlation id of one unit of work to do and may be given several times.
-/

namespace Observability

/-- What the command line asks for. -/
structure CommandLine where
  readsConfig : Bool := false
  listen : String := "127.0.0.1:8080"
  /-- the ids of the units of work, in order -/
  requests : List String := []
  deriving DecidableEq, Repr

namespace CommandLine

/-- Why a command line is refused. -/
inductive UsageError where
  | unknownOption (option : String)
  | missingValue (option : String)
  | invalidAddress (address : String)
  deriving DecidableEq, Repr

def UsageError.message : UsageError → String
  | .unknownOption option => s!"unexpected argument '{option}' found"
  | .missingValue option => s!"a value is required for '{option}' but none was supplied"
  | .invalidAddress address =>
    s!"invalid value '{address}' for '--listen': invalid socket address syntax"

/-- What one option sets, and the arguments behind it. -/
def readOption (line : CommandLine) (option : String) (rest : List String) :
    Except UsageError (CommandLine × List String) :=
  if option = "--config" ∨ option = "-c" then .ok ({ line with readsConfig := true }, rest)
  else if option = "--listen" ∨ option = "-l" then
    match rest with
    | [] => .error (.missingValue option)
    | address :: rest =>
      if (SocketAddress.parse? address).isSome then .ok ({ line with listen := address }, rest)
      else .error (.invalidAddress address)
  else if option = "--request" ∨ option = "-r" then
    match rest with
    | [] => .error (.missingValue option)
    | id :: rest => .ok ({ line with requests := line.requests ++ [id] }, rest)
  else .error (.unknownOption option)

/-- Reads arguments, so many options at most. -/
def readOptions : Nat → CommandLine → List String → Except UsageError CommandLine
  | 0, line, _ => .ok line
  | _, line, [] => .ok line
  | fuel + 1, line, option :: rest => do
    let (line, rest) ← readOption line option rest
    readOptions fuel line rest

/-- What the arguments ask for. -/
def parse (arguments : List String) : Except UsageError CommandLine :=
  readOptions arguments.length {} arguments

end CommandLine

end Observability
