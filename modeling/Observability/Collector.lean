import Observability.Lifecycle.Channel
import Observability.Observation

/-!
# The collector

Components share what cannot lie in a value: the journal of what shows outside, the threshold of the
subscriber, the spans that were started, the writers, switches and channels in use, and the supplies of
fresh identities.  `Collector` holds them, and `Act` is the type of everything that uses them.

A component may crash.  What it did before stays done, so an `Act` gives the collector also when it
crashes: `Act.runOn` is what an action gives and leaves behind, and its laws say how actions are put
together.
-/

namespace Observability

/-- A component failed in a way its interface does not provide for. -/
structure Crash where
  message : String
  deriving DecidableEq, Repr

/-- A started span. -/
inductive SpanCell where
  /-- records nothing -/
  | silent
  | exported (span : ExportedSpan)
  /-- notes every call; its number, and whether it was ended -/
  | recording (number : Nat) (ended : Bool)
  deriving DecidableEq, Repr

/-- What components share. -/
structure Collector where
  /-- what showed outside, the latest last -/
  journal : List Observation := []
  /-- which events and spans the subscriber takes -/
  threshold : Threshold := .upTo .trace
  /-- the time, in seconds -/
  clock : Binary64 := .zero false
  /-- the text of the generated correlation id of each number -/
  idText : Nat → String
  /-- how many correlation ids were generated -/
  idCount : Nat := 0
  /-- how many contexts were made -/
  storageCount : Nat := 0
  /-- how many background tasks were started -/
  taskCount : Nat := 0
  /-- how many spans are known to the subscriber -/
  createdCount : Nat := 0
  /-- how many spans recording tracers started -/
  recordedCount : Nat := 0
  spans : List SpanCell := []
  writers : List Writer := []
  /-- the switches of providers: whether each is shut down -/
  switches : List Bool := []
  channels : List Channel := []

/-- What an action on a state gives, and the state after it, also if the action failed. -/
def runFrom {ε S α : Type} (action : ExceptT ε (StateM S) α) (s : S) : Except ε α × S :=
  action.run.run s

/-- What follows an action runs on the state the action leaves, unless the action failed. -/
theorem runFrom_bind {ε S α β : Type} (action : ExceptT ε (StateM S) α)
    (next : α → ExceptT ε (StateM S) β) (s : S) :
    runFrom (action >>= next) s =
      match runFrom action s with
      | (.ok a, after) => runFrom (next a) after
      | (.error failure, after) => (.error failure, after) := by
  simp only [runFrom, ExceptT.run_bind, StateT.run_bind]
  rcases action.run.run s with ⟨_ | _, _⟩ <;> rfl

/-- A failure is handled on the state that it left behind. -/
theorem runFrom_tryCatch {ε S α : Type} (action : ExceptT ε (StateM S) α)
    (handler : ε → ExceptT ε (StateM S) α) (s : S) :
    runFrom (tryCatch action handler) s =
      match runFrom action s with
      | (.ok a, after) => (.ok a, after)
      | (.error failure, after) => runFrom (handler failure) after := by
  simp only [runFrom, tryCatch, tryCatchThe, MonadExceptOf.tryCatch, ExceptT.tryCatch, ExceptT.run,
    ExceptT.mk, StateT.run_bind]
  rcases StateT.run action s with ⟨_ | _, _⟩ <;> rfl

/-- Something that uses the collector and may crash. -/
abbrev Act := ExceptT Crash (StateM Collector)

namespace Act

/-- What the action gives, and the collector after it. -/
def runOn {α : Type} (action : Act α) (c : Collector) : Except Crash α × Collector :=
  runFrom action c

/-- A step on the collector that gives a value. -/
def step {α : Type} (f : Collector → α × Collector) : Act α := modifyGet f

/-- Puts an observation into the journal. -/
def observe (observation : Observation) : Act Unit :=
  step fun c => ((), { c with journal := c.journal ++ [observation] })

/-- Whether the subscriber takes the severity. -/
def enabled (severity : Severity) : Act Bool := step fun c => (c.threshold.admits severity, c)

/-- Emits an event under the span of the given number. -/
def emit (severity : Severity) (span : Option Nat) (fields : Fields) : Act Unit :=
  step fun c =>
    ((), if c.threshold.admits severity then
        { c with journal := c.journal ++ [.event severity span fields] }
      else c)

/-- A storage that no context has yet. -/
def freshStorage : Act StorageId :=
  step fun c => (c.storageCount, { c with storageCount := c.storageCount + 1 })

/-- A correlation id that was not generated before. -/
def freshCorrelationId : Act CorrelationId :=
  step fun c => (⟨c.idText c.idCount⟩, { c with idCount := c.idCount + 1 })

/-- The number of a new background task. -/
def freshTask : Act Nat :=
  step fun c => (c.taskCount, { c with taskCount := c.taskCount + 1 })

/-- Fails. -/
def crash {α : Type} (message : String) : Act α := throw ⟨message⟩

/-- Counts one more of something. -/
def count (name : String) (labels : List (String × String)) : Act Unit :=
  observe (.counter name labels 1)

/-! ## Laws of running -/

variable {α β : Type}

@[simp] theorem runOn_pure (a : α) (c : Collector) : runOn (pure a) c = (.ok a, c) := rfl

/-- What follows an action runs on the collector the action leaves, unless the action crashed. -/
@[simp] theorem runOn_bind (action : Act α) (next : α → Act β) (c : Collector) :
    runOn (action >>= next) c =
      match runOn action c with
      | (.ok a, after) => runOn (next a) after
      | (.error crash, after) => (.error crash, after) := by
  rw [runOn, runFrom_bind, runOn]
  rcases runFrom action c with ⟨_ | _, _⟩ <;> rfl

@[simp] theorem runOn_map (f : α → β) (action : Act α) (c : Collector) :
    runOn (f <$> action) c =
      match runOn action c with
      | (.ok a, after) => (.ok (f a), after)
      | (.error crash, after) => (.error crash, after) := by
  rw [map_eq_pure_bind, runOn_bind]
  rfl

@[simp] theorem runOn_step (f : Collector → α × Collector) (c : Collector) :
    runOn (step f) c = (.ok (f c).1, (f c).2) := rfl

@[simp] theorem runOn_crash (message : String) (c : Collector) :
    runOn (crash message : Act α) c = (.error ⟨message⟩, c) := rfl

/-- A crash is handled on the collector that it left behind. -/
@[simp] theorem runOn_tryCatch (action : Act α) (handler : Crash → Act α) (c : Collector) :
    runOn (tryCatch action handler) c =
      match runOn action c with
      | (.ok a, after) => (.ok a, after)
      | (.error crash, after) => runOn (handler crash) after := by
  rw [runOn, runFrom_tryCatch, runOn]
  rcases runFrom action c with ⟨_ | _, _⟩ <;> rfl

end Act

end Observability
