import Observability.Transport

/-!
# The registration point

A registry holds at most one tracing facility: the one registered last.  While nothing is registered
every operation does nothing, so that callers never ask.

`RegistryAct φ` is the type of everything that uses a registry.  What was registered stays registered
even if the action then crashes.
-/

namespace Observability

/-- A registry of facilities in `φ`. -/
structure Registry (φ : Type) where
  facility : Option φ := none
  deriving Repr

/-- Something that uses a registry besides the collector, and may crash. -/
abbrev RegistryAct (φ : Type) := ExceptT Crash (StateT (Registry φ) (StateM Collector))

namespace RegistryAct

variable {φ α β : Type}

/-- What the action gives, and the registry and the collector after it. -/
def runOn (action : RegistryAct φ α) (registry : Registry φ) (c : Collector) :
    (Except Crash α × Registry φ) × Collector :=
  (action.run.run registry).run c

instance : MonadLift Act (RegistryAct φ) where
  monadLift action := ExceptT.mk (StateT.lift action.run)

@[simp] theorem runOn_pure (a : α) (registry : Registry φ) (c : Collector) :
    runOn (pure a) registry c = ((.ok a, registry), c) := rfl

/-- What follows an action runs on what the action leaves, unless the action crashed. -/
@[simp] theorem runOn_bind (action : RegistryAct φ α) (next : α → RegistryAct φ β)
    (registry : Registry φ) (c : Collector) :
    runOn (action >>= next) registry c =
      match runOn action registry c with
      | ((.ok a, registry), after) => runOn (next a) registry after
      | ((.error crash, registry), after) => ((.error crash, registry), after) := by
  simp only [runOn, ExceptT.run_bind, StateT.run_bind]
  rcases (action.run.run registry).run c with ⟨⟨_ | _, _⟩, _⟩ <;> rfl

@[simp] theorem runOn_map (f : α → β) (action : RegistryAct φ α) (registry : Registry φ)
    (c : Collector) :
    runOn (f <$> action) registry c =
      match runOn action registry c with
      | ((.ok a, registry), after) => ((.ok (f a), registry), after)
      | ((.error crash, registry), after) => ((.error crash, registry), after) := by
  rw [map_eq_pure_bind, runOn_bind]
  rfl

/-- What does not use the registry leaves it alone. -/
@[simp] theorem runOn_lift (action : Act α) (registry : Registry φ) (c : Collector) :
    runOn (liftM action) registry c =
      (((action.runOn c).1, registry), (action.runOn c).2) := by
  rfl

/-- A crash is handled on what it left behind. -/
@[simp] theorem runOn_tryCatch (action : RegistryAct φ α) (handler : Crash → RegistryAct φ α)
    (registry : Registry φ) (c : Collector) :
    runOn (tryCatch action handler) registry c =
      match runOn action registry c with
      | ((.ok a, registry), after) => ((.ok a, registry), after)
      | ((.error crash, registry), after) => runOn (handler crash) registry after := by
  simp only [runOn, tryCatch, tryCatchThe, MonadExceptOf.tryCatch, ExceptT.tryCatch, ExceptT.run,
    ExceptT.mk, StateT.run_bind]
  rcases StateT.run (StateT.run action registry) c with ⟨⟨_ | _, _⟩, _⟩ <;> rfl

@[simp] theorem runOn_throw (crash : Crash) (registry : Registry φ) (c : Collector) :
    runOn (throw crash : RegistryAct φ α) registry c = ((.error crash, registry), c) := rfl

end RegistryAct

namespace Registry

variable {φ : Type}

/-- Whether a facility was registered. -/
def isEnabled (registry : Registry φ) : Bool := registry.facility.isSome

/-- The registry in messages. -/
def render (registry : Registry φ) : String :=
  "TracingRegistry \x7b enabled: " ++ toString registry.isEnabled ++ " \x7d"

/-- The facility registered last. -/
def current : RegistryAct φ (Option φ) := do
  let registry : Registry φ ← ExceptT.lift get
  return registry.facility

/-- Registers a facility in place of any other. -/
def register (facility : φ) : RegistryAct φ Unit := do
  let previous ← current
  ExceptT.lift (set (⟨some facility⟩ : Registry φ))
  let message :=
    if previous.isSome then "Tracing facility replaced" else "Tracing facility registered"
  Act.emit .debug none [("message", .text message)]

variable (β : Type) [TracingFacility φ β]

/-- Starts a span; gives the very context back while nothing is registered. -/
def startSpan (ctx : Context) (name : String) : RegistryAct φ Context := do
  match ← current with
  | some facility => TracingFacility.startSpan β facility ctx name
  | none => return ctx

/-- Ends the span of the context. -/
def endSpan (ctx : Context) (status : HttpStatus) (error : Option String) : RegistryAct φ Unit := do
  match ← current with
  | some facility => TracingFacility.endSpan β facility ctx status error
  | none => return ()

/-- The transport that the facility makes of the given one, if a facility is registered. -/
def newTransport (transport : Transport φ β) : RegistryAct φ (Option (Transport φ β)) := do
  match ← current with
  | some facility => return some (← TracingFacility.newTransport facility transport)
  | none => return none

/-! ## Laws of dispatch -/

open RegistryAct (runOn)

@[simp] theorem runOn_current (registry : Registry φ) (c : Collector) :
    runOn current registry c = ((.ok registry.facility, registry), c) := rfl

/-- A registration puts the facility in place, whatever was there, and is told as an event. -/
theorem runOn_register (facility : φ) (registry : Registry φ) (c : Collector) :
    runOn (register facility) registry c =
      ((.ok (), ⟨some facility⟩),
        (Act.runOn (Act.emit .debug none [("message", .text (if registry.facility.isSome then
          "Tracing facility replaced" else "Tracing facility registered"))]) c).2) := rfl

variable {β}

theorem runOn_startSpan_none {registry : Registry φ} (h : registry.facility = none)
    (ctx : Context) (name : String) (c : Collector) :
    runOn (startSpan β ctx name) registry c = ((.ok ctx, registry), c) := by
  simp [startSpan, h]

theorem runOn_startSpan_some {registry : Registry φ} {facility : φ}
    (h : registry.facility = some facility) (ctx : Context) (name : String) (c : Collector) :
    runOn (startSpan β ctx name) registry c =
      (((Act.runOn (TracingFacility.startSpan β facility ctx name) c).1, registry),
        (Act.runOn (TracingFacility.startSpan β facility ctx name) c).2) := by
  simp only [startSpan, RegistryAct.runOn_bind, runOn_current, h]
  exact RegistryAct.runOn_lift _ registry c

theorem runOn_endSpan_none {registry : Registry φ} (h : registry.facility = none)
    (ctx : Context) (status : HttpStatus) (error : Option String) (c : Collector) :
    runOn (endSpan β ctx status error) registry c = ((.ok (), registry), c) := by
  simp [endSpan, h]

theorem runOn_endSpan_some {registry : Registry φ} {facility : φ}
    (h : registry.facility = some facility) (ctx : Context) (status : HttpStatus)
    (error : Option String) (c : Collector) :
    runOn (endSpan β ctx status error) registry c =
      (((Act.runOn (TracingFacility.endSpan β facility ctx status error) c).1, registry),
        (Act.runOn (TracingFacility.endSpan β facility ctx status error) c).2) := by
  simp only [endSpan, RegistryAct.runOn_bind, runOn_current, h]
  exact RegistryAct.runOn_lift _ registry c

theorem runOn_newTransport_none {registry : Registry φ} (h : registry.facility = none)
    (transport : Transport φ β) (c : Collector) :
    runOn (newTransport β transport) registry c = ((.ok none, registry), c) := by
  simp [newTransport, h]

theorem runOn_newTransport_some {registry : Registry φ} {facility : φ}
    (h : registry.facility = some facility) (transport : Transport φ β) (c : Collector) :
    runOn (newTransport β transport) registry c =
      (((Act.runOn (TracingFacility.newTransport facility transport) c).1.map some, registry),
        (Act.runOn (TracingFacility.newTransport facility transport) c).2) := by
  simp only [newTransport, RegistryAct.runOn_bind, runOn_current, h]
  rw [RegistryAct.runOn_lift]
  rcases Act.runOn (TracingFacility.newTransport facility transport) c with ⟨_ | _, _⟩ <;> rfl

end Registry

end Observability
