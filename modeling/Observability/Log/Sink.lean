import Observability.KeyValue

/-!
# Log sinks

A log sink writes lines somewhere.  `LogSink m σ` says that values of `σ` are sinks whose calls are
actions of `m`.  Calls do not change a sink; `withValues` and `withName` derive another one and leave the
receiver as it was.
-/

namespace Observability

/-- How many frames a fan-out and the logger around it put between a call and a sink. -/
def callDepthOffset : Nat := 2

/-- The sinks `σ` with calls in `m`. -/
class LogSink (m : Type → Type) (σ : Type) where
  /-- takes notice, once, of how many frames lie between a call and the sink -/
  init : σ → (callDepth : Nat) → m σ
  /-- whether a line of the verbosity would be written -/
  enabled : σ → (level : UInt32) → m Bool
  /-- writes a line -/
  info : σ → (level : UInt32) → (message : String) → List KeyValue → m Unit
  /-- writes a line on an error, which is given by its text -/
  error : σ → (error : Option String) → (message : String) → List KeyValue → m Unit
  /-- a sink that attaches the pairs to each line -/
  withValues : σ → List KeyValue → m σ
  /-- a sink with the name appended to its own -/
  withName : σ → String → m σ

/-- A name inside another one. -/
def joinName (parent name : String) : String :=
  if parent.isEmpty then name else parent ++ "/" ++ name

end Observability
