import Observability.Lifecycle.Shutdown
import Observability.Log.Logger
import Observability.Startup.Error
import Observability.Text.Quoted
import Observability.Tracing.Facility
import Observability.Tracing.Provider
import Observability.Tracing.Registry

/-!
# Bringing tracing up and down

`registerProvider` registers a facility over a tracer of the provider and starts a task, which waits for
the shutdown signal, or for the last coordinator to go, and then shuts the provider down under a
deadline.  How that went is logged, never returned.

A task makes progress when it is joined: `TracingHandle.join` runs it to its end, unless it still waits.
-/

namespace Observability

/-- A task that crashed, in messages. -/
def crashedTaskText (task : Nat) (crash : Crash) : String :=
  s!"task {task} panicked with message {Text.quoted crash.message}"

/-- A registered provider and the task that will shut it down. -/
structure TracingHandle (π σ : Type) where
  provider : π
  logger : Logger σ
  receiver : ShutdownReceiver
  timeoutMs : Nat
  task : Nat

/-- How the shutdown of a provider went. -/
inductive FlushOutcome where
  | finished
  | refused (error : ProviderError)
  /-- the provider crashed in a task of the given number -/
  | crashed (task : Nat) (crash : Crash)
  /-- the deadline passed -/
  | overdue
  deriving DecidableEq, Repr

/-- The text of what went wrong, and what is logged with it; none if nothing did. -/
def FlushOutcome.trouble (timeoutMs : Nat) : FlushOutcome → Option (String × List KeyValue)
  | .finished => none
  | .refused error => some (error.message, [])
  | .crashed task crash => some (crashedTaskText task crash, [])
  | .overdue =>
    some ("deadline has elapsed", [.nat "timeout_secs" (UInt64.ofNat (timeoutMs / 1000))])

namespace TracingHandle

variable {π τ σ : Type} [TracerProvider π τ] [LogSink Act σ]

/-- Shuts the provider down in a task of its own. -/
def flush (provider : π) : Act FlushOutcome := do
  let task ← Act.freshTask
  tryCatch
    (do
      match ← TracerProvider.shutdown provider with
      | some (.ok _) => return .finished
      | some (.error error) => return .refused error
      | none => return .overdue)
    fun crash => return .crashed task crash

/-- What the task does once it is woken. -/
def shutDown (handle : TracingHandle π σ) : Act Unit := do
  let outcome ← flush handle.provider
  match outcome.trouble handle.timeoutMs with
  | none => handle.logger.info "Tracer provider shut down" []
  | some (error, pairs) =>
    handle.logger.error (some error) "failed to shut down tracer provider" pairs

/-- Runs the task to its end, if it was woken.  Gives whether it was.  A crash of the task is told as an
event. -/
def join (handle : TracingHandle π σ) : Act Bool := do
  match ← handle.receiver.receive with
  | .empty => return false
  | _ => do
    tryCatch handle.shutDown fun crash =>
      Act.emit .warn none
        [ ("message", .text "Tracer shutdown task failed"),
          ("error", .text (crashedTaskText handle.task crash)) ]
    handle.receiver.drop
    return true

end TracingHandle

namespace Startup

variable {π τ φ σ : Type} [TracerProvider π τ] [LogSink Act σ]

/-- Registers a facility over a tracer of the provider, and starts the task that shuts the provider
down.  `facility` makes the facility of the tracer. -/
def registerProvider (facility : Tracer τ → φ) (provider : π) (tracerName : String)
    (timeoutMs : Nat) (logger : Logger σ) (receiver : ShutdownReceiver) :
    RegistryAct φ (TracingHandle π σ) :=
  tryCatch
    (do
      let tracer ← (TracerProvider.tracer provider tracerName : Act (Tracer τ))
      Registry.register (facility (.correlated tracer))
      (logger.info "Registered tracing facility" [.text "tracer" tracerName] : Act Unit)
      let task ← (Act.freshTask : Act Nat)
      return { provider, logger, receiver, timeoutMs, task })
    fun crash => do
      (receiver.drop : Act Unit)
      throw crash

/-- Makes a provider for the configuration and registers it.  If that fails nothing is registered, and
the receiver is given up. -/
def registerTracing (provider : ExportingProvider → π) (facility : Tracer τ → φ)
    (config : Config.Tracing) (logger : Logger σ) (receiver : ShutdownReceiver) :
    RegistryAct φ (Except StartupError (TracingHandle π σ)) := do
  match ← (ExportingProvider.create config : Act _) with
  | .error cause => do
    (receiver.drop : Act Unit)
    return .error (.provider cause)
  | .ok made =>
    return .ok (← registerProvider facility (provider made) config.tracerName
      (config.shutdownTimeoutSecs.toNat * 1000) logger receiver)

/-! ## What a registration leaves behind -/

open RegistryAct (runOn)

/-- Without a tracer nothing is registered, and the receiver is given up. -/
theorem runOn_registerProvider_of_error {provider : π} {tracerName : String} {c after : Collector}
    {crash : Crash}
    (h : Act.runOn (TracerProvider.tracer provider tracerName) c = (.error crash, after))
    (facility : Tracer τ → φ) (timeoutMs : Nat) (logger : Logger σ) (receiver : ShutdownReceiver)
    (registry : Registry φ) :
    runOn (registerProvider facility provider tracerName timeoutMs logger receiver) registry c =
      ((.error crash, registry), (Act.runOn receiver.drop after).2) := by
  obtain ⟨channels, hdrop⟩ := receiver.exists_runOn_drop after
  rw [registerProvider, RegistryAct.runOn_tryCatch, RegistryAct.runOn_bind, RegistryAct.runOn_lift, h]
  simp only [RegistryAct.runOn_bind, RegistryAct.runOn_lift, hdrop, RegistryAct.runOn_throw]

/-- With a tracer its facility is registered, whatever happens then. -/
theorem registry_registerProvider_of_ok {provider : π} {tracerName : String} {c after : Collector}
    {tracer : Tracer τ}
    (h : Act.runOn (TracerProvider.tracer provider tracerName) c = (.ok tracer, after))
    (facility : Tracer τ → φ) (timeoutMs : Nat) (logger : Logger σ) (receiver : ShutdownReceiver)
    (registry : Registry φ) :
    (runOn (registerProvider facility provider tracerName timeoutMs logger receiver) registry
      c).1.2 = ⟨some (facility (.correlated tracer))⟩ := by
  rw [registerProvider, RegistryAct.runOn_tryCatch, RegistryAct.runOn_bind, RegistryAct.runOn_lift, h]
  simp only [RegistryAct.runOn_bind, Registry.runOn_register, RegistryAct.runOn_lift]
  rcases Act.runOn (logger.info "Registered tracing facility" [.text "tracer" tracerName]) _ with
    ⟨_ | _, told⟩
  · obtain ⟨channels, hdrop⟩ := receiver.exists_runOn_drop told
    simp only [hdrop, RegistryAct.runOn_throw]
  · rfl

/-- If the provider cannot be made nothing is registered, and the receiver is given up. -/
theorem runOn_registerTracing_of_refused {config : Config.Tracing} {cause : ProviderError}
    {c after : Collector}
    (h : Act.runOn (ExportingProvider.create config) c = (.ok (.error cause), after))
    (provider : ExportingProvider → π) (facility : Tracer τ → φ) (logger : Logger σ)
    (receiver : ShutdownReceiver) (registry : Registry φ) :
    runOn (registerTracing provider facility config logger receiver) registry c =
      ((.ok (.error (.provider cause)), registry), (Act.runOn receiver.drop after).2) := by
  obtain ⟨channels, hdrop⟩ := receiver.exists_runOn_drop after
  rw [registerTracing, RegistryAct.runOn_bind, RegistryAct.runOn_lift, h]
  simp only [RegistryAct.runOn_bind, RegistryAct.runOn_lift, hdrop, RegistryAct.runOn_pure]

/-- A provider that was made is registered. -/
theorem runOn_registerTracing_of_made {config : Config.Tracing} {made : ExportingProvider}
    {c after : Collector}
    (h : Act.runOn (ExportingProvider.create config) c = (.ok (.ok made), after))
    (provider : ExportingProvider → π) (facility : Tracer τ → φ) (logger : Logger σ)
    (receiver : ShutdownReceiver) (registry : Registry φ) :
    runOn (registerTracing provider facility config logger receiver) registry c =
      runOn (.ok <$> registerProvider facility (provider made) config.tracerName
        (config.shutdownTimeoutSecs.toNat * 1000) logger receiver) registry after := by
  rw [registerTracing, RegistryAct.runOn_bind, RegistryAct.runOn_lift, h, map_eq_pure_bind]

end Startup

end Observability
