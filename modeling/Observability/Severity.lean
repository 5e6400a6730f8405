/-!
# Severities

The five severities of events and spans, from the gravest to the finest, and the threshold of a
subscriber, which lets through what is at least as grave as its limit.
-/

namespace Observability

/-- How grave an event is. -/
inductive Severity where
  | error
  | warn
  | info
  | debug
  | trace
  deriving DecidableEq, Repr, Inhabited

namespace Severity

def name : Severity → String
  | .error => "ERROR"
  | .warn => "WARN"
  | .info => "INFO"
  | .debug => "DEBUG"
  | .trace => "TRACE"

/-- One for the gravest, five for the finest. -/
def rank : Severity → Nat
  | .error => 1
  | .warn => 2
  | .info => 3
  | .debug => 4
  | .trace => 5

/-- The severity of a line of the given verbosity: info, debug, and trace for anything above. -/
def ofVerbosity (level : UInt32) : Severity :=
  if level = 0 then .info else if level = 1 then .debug else .trace

end Severity

/-- The finest severity that is let through; `off` lets nothing through. -/
inductive Threshold where
  | off
  | upTo (limit : Severity)
  deriving DecidableEq, Repr, Inhabited

/-- Whether the threshold lets the severity through. -/
def Threshold.admits : Threshold → Severity → Bool
  | .off, _ => false
  | .upTo limit, severity => severity.rank ≤ limit.rank

end Observability
