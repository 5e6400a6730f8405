import Observability.Text.Blank
import Observability.Tracing.ProviderError
import Observability.Tracing.Tracer

/-!
# Tracer providers

A provider hands out tracers and is shut down once.  `TracerProvider π τ` says that values of `π` hand
out tracers over `τ`.  A shutdown that does not return in the time at hand gives nothing.
-/

namespace Observability

/-- The providers `π` of tracers over `τ`. -/
class TracerProvider (π : Type) (τ : outParam Type) where
  tracer : π → (name : String) → Act (Tracer τ)
  /-- what the shutdown gives, if it returns -/
  shutdown : π → Act (Option (Except ProviderError Unit))

/-! ## Exporting -/

/-- A provider of exporting tracers, which share its switch. -/
structure ExportingProvider where
  serviceName : String
  sampler : Sampler
  switch : Nat
  deriving DecidableEq, Repr

namespace ExportingProvider

/-- A provider for the configuration; the name of the service must not be blank. -/
def create (config : Config.Tracing) : Act (Except ProviderError ExportingProvider) :=
  if Text.allBlank config.serviceName then
    return .error (.invalidConfig "service name is empty")
  else do
    let switch ← ExportingTracer.freshSwitch
    return .ok { serviceName := config.serviceName, sampler := config.sampler, switch }

/-- A blank name is refused and nothing happens; otherwise the provider has a switch of its own. -/
theorem runOn_create (config : Config.Tracing) (c : Collector) :
    Act.runOn (create config) c =
      if Text.allBlank config.serviceName then
        (.ok (.error (.invalidConfig "service name is empty")), c)
      else
        (.ok (.ok ⟨config.serviceName, config.sampler, c.switches.length⟩),
          { c with switches := c.switches ++ [false] }) := by
  rw [create]
  split <;> rfl

def tracer (provider : ExportingProvider) (scope : String) : ExportingTracer :=
  { scope, serviceName := provider.serviceName, sampler := provider.sampler,
    switch := provider.switch }

/-- Throws the switch.  Gives whether it was thrown already. -/
def throwSwitch (switch : Nat) : Act Bool :=
  Act.step fun c =>
    (c.switches[switch]?.getD true, { c with switches := c.switches.set switch true })

/-- Ends recording, the first time. -/
def shutdown (provider : ExportingProvider) : Act (Except ProviderError Unit) := do
  if ← throwSwitch provider.switch then return .error .alreadyShutDown
  else
    Act.emit .debug none
      [("message", .text "tracer provider shut down"), ("service", .text provider.serviceName)]
    return .ok ()

end ExportingProvider

/-! ## Scripted -/

/-- How a scripted provider answers a shutdown. -/
inductive ShutdownScript where
  | succeeds
  | fails (error : ProviderError)
  | crashes
  /-- does not return -/
  | hangs
  deriving DecidableEq, Repr

/-- A provider that notes its calls, hands out recording tracers and is shut down by script. -/
structure ScriptedProvider where
  name : String
  script : ShutdownScript
  deriving DecidableEq, Repr

namespace ScriptedProvider

/-- Notes the call and hands out a recording tracer of the requested name. -/
def tracer (provider : ScriptedProvider) (scope : String) : Act RecordingTracer := do
  Act.observe (.provider provider.name (.tracer scope))
  return ⟨scope⟩

/-- Answers by the script.  A shutdown that does not return is not noted. -/
def shutdown (provider : ScriptedProvider) : Act (Option (Except ProviderError Unit)) :=
  match provider.script with
  | .hangs => return none
  | .succeeds => do
    Act.observe (.provider provider.name .shutdown)
    return some (.ok ())
  | .fails error => do
    Act.observe (.provider provider.name .shutdown)
    return some (.error error)
  | .crashes => do
    Act.observe (.provider provider.name .shutdown)
    Act.crash "provider panicked"

end ScriptedProvider

/-- A provider of either kind. -/
inductive Provider where
  | exporting (provider : ExportingProvider)
  | scripted (provider : ScriptedProvider)
  deriving DecidableEq, Repr

instance : TracerProvider Provider Backend where
  tracer
    | .exporting provider, name => return .backend (.exporting (provider.tracer name))
    | .scripted provider, name => return .backend (.recording (← provider.tracer name))
  shutdown
    | .exporting provider => return some (← provider.shutdown)
    | .scripted provider => provider.shutdown

end Observability
