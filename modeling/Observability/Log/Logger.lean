import Observability.Log.Fanout

/-!
# Loggers

The handle that calls go through: a sink at a verbosity.  `info` writes only if the sink is enabled at
the verbosity; `error` always writes.  Raising the verbosity stops at the largest number.
-/

namespace Observability

/-- A sink at a verbosity. -/
structure Logger (σ : Type) where
  sink : σ
  level : UInt32

/-- The sum, but no more than the largest number. -/
def addVerbosity (a b : UInt32) : UInt32 := UInt32.ofNat (min (a.toNat + b.toNat) 0xFFFFFFFF)

namespace Logger

variable {m : Type → Type} {σ : Type} [Monad m] [LogSink m σ]

/-- A logger over the sink, which is initialised with the frame of the logger. -/
def create (sink : σ) : m (Logger σ) := return ⟨← LogSink.init sink 1, 0⟩

/-- A logger so many steps more verbose. -/
def verbose (logger : Logger σ) (steps : UInt32) : Logger σ :=
  { logger with level := addVerbosity logger.level steps }

def enabled (logger : Logger σ) : m Bool := LogSink.enabled logger.sink logger.level

/-- Writes a line, if it would be seen. -/
def info (logger : Logger σ) (message : String) (pairs : List KeyValue) : m Unit := do
  if ← logger.enabled then LogSink.info logger.sink logger.level message pairs

/-- Writes a line on an error, or on none. -/
def error (logger : Logger σ) (error : Option String) (message : String) (pairs : List KeyValue) :
    m Unit :=
  LogSink.error logger.sink error message pairs

def withValues (logger : Logger σ) (pairs : List KeyValue) : m (Logger σ) :=
  return { logger with sink := ← LogSink.withValues logger.sink pairs }

def withName (logger : Logger σ) (name : String) : m (Logger σ) :=
  return { logger with sink := ← LogSink.withName logger.sink name }

/-- The logger in messages. -/
def render (logger : Logger σ) : String :=
  "Logger \x7b level: " ++ toString logger.level.toNat ++ " \x7d"

end Logger

/-- A logger that writes to all the sinks. -/
def Logger.composite {m : Type → Type} {σ : Type} [Monad m] [LogSink m σ]
    (sinks : List (SinkTree σ)) : m (Logger (SinkTree σ)) :=
  Logger.create (.fanout sinks)

/-- A logger without sinks. -/
def Logger.discard {m : Type → Type} {σ : Type} [Monad m] [LogSink m σ] :
    m (Logger (SinkTree σ)) :=
  Logger.composite []

end Observability
