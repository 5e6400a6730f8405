import Observability.KeyValue

/-!
# Calls on log sinks
-/

namespace Observability

/-- A call on a log sink, with what the sink adds to the line of its own. -/
inductive LogCall where
  | init (callDepth : Nat)
  | enabled (level : UInt32)
  | info (level : UInt32) (message : String) (pairs values : List KeyValue) (name : String)
  | error (error : Option String) (message : String) (pairs values : List KeyValue) (name : String)
  | withValues (pairs : List KeyValue)
  | withName (name : String)
  deriving Repr

/-- What a sink can be asked to do. -/
inductive LogOperation where
  | init
  | enabled
  | info
  | error
  | withValues
  | withName
  deriving DecidableEq, Repr

namespace LogOperation

def all : List LogOperation := [.init, .enabled, .info, .error, .withValues, .withName]

def name : LogOperation → String
  | .init => "init"
  | .enabled => "enabled"
  | .info => "info"
  | .error => "error"
  | .withValues => "with_values"
  | .withName => "with_name"

end LogOperation

/-- The operation called. -/
def LogCall.operation : LogCall → LogOperation
  | .init _ => .init
  | .enabled _ => .enabled
  | .info .. => .info
  | .error .. => .error
  | .withValues _ => .withValues
  | .withName _ => .withName

end Observability
