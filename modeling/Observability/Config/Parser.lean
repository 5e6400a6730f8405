import Observability.Config.Decode
import Observability.Config.Problem
import Observability.Toml.Document

/-!
# Reading a configuration

`Config.parse` takes a text through its three gates: it has to be a TOML document, the document has to
fit the configuration, and the configuration has to break no rule.  `Config.load` starts from the bytes
of a file.
-/

namespace Observability.Config

/-- Why a file cannot be read. -/
inductive FileFault where
  | notFound
  | isDirectory
  /-- the bytes are no text -/
  | invalidText
  deriving DecidableEq, Repr

def FileFault.message : FileFault → String
  | .notFound => "No such file or directory (os error 2)"
  | .isDirectory => "Is a directory (os error 21)"
  | .invalidText => "stream did not contain valid UTF-8"

/-- Why there is no configuration. -/
inductive LoadError where
  | file (fault : FileFault)
  /-- the text is no TOML document -/
  | malformed
  /-- the document does not fit; the text is kept for the report -/
  | misfit (text : String) (fault : Fault)
  | invalid (problems : List Problem)
  deriving Repr

def LoadError.message : LoadError → String
  | .file fault => s!"IO error: {fault.message}"
  | .malformed => "Parse error: not a TOML document"
  | .misfit text fault => s!"Parse error: {fault.report text.toList}"
  | .invalid problems =>
    "Validation failed: " ++ ", ".intercalate (problems.map Problem.message)

/-- The configuration a text describes, whether it breaks a rule or not. -/
def parseShape (text : String) : Except LoadError Config :=
  match Toml.parse? text.toList with
  | none => .error .malformed
  | some root => (decode root).mapError (.misfit text)

/-- A configuration that breaks no rule. -/
def checked (config : Config) : Except LoadError Config :=
  match config.problems with
  | [] => .ok config
  | problems => .error (.invalid problems)

/-- The configuration a text describes, if it breaks no rule. -/
def parse (text : String) : Except LoadError Config := parseShape text >>= checked

/-- The configuration in the bytes of a file. -/
def load (bytes : ByteArray) : Except LoadError Config :=
  match String.fromUTF8? bytes with
  | none => .error (.file .invalidText)
  | some text => parse text

end Observability.Config
