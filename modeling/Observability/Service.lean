import Observability.Config.Basic
import Observability.Startup.Logger
import Observability.Startup.Metrics
import Observability.Startup.Subscriber
import Observability.Startup.Tracing
import Observability.Tracing.ScriptedTransport
import Observability.Work

/-!
# The demonstration service

A service from start to stop: the configured logger, metrics and tracing come up, or the first error
ends the start; units of work are handled under the ids their callers bring; and a shutdown signal
flushes the provider before the service is gone.
-/

namespace Observability

/-- A service that is up. -/
structure Service where
  logger : Logger (SinkTree Sink)
  shutdown : Shutdown
  tracing : Option (TracingHandle Provider (SinkTree Sink))

namespace Service

/-- The name of the service in its log lines. -/
def name : String := "telemetry-facade"

/-- Registers tracing, if it is enabled. -/
def registerTracing (config : Config.Tracing) (logger : Logger (SinkTree Sink))
    (shutdown : Shutdown) :
    RegistryAct Facility (Except StartupError (Option (TracingHandle Provider (SinkTree Sink)))) := do
  if config.enabled then
    let receiver ← (shutdown.subscribe : Act ShutdownReceiver)
    let handle ← Startup.registerTracing Provider.exporting (fun tracer => Facility.spans ⟨tracer⟩)
      config logger receiver
    return handle.map some
  else return .ok none

/-- The event that tells what was configured. -/
def announce (config : Config) : Act Unit :=
  Act.emit .info none
    [ ("message", .text "Configuration loaded"),
      ("tracing_enabled", .text (toString config.tracing.enabled)),
      ("metrics_enabled", .text (toString config.metrics.enabled)) ]

/-- Brings a service up. -/
def start (config : Config) (environment : Option String) :
    RegistryAct Facility (Except StartupError Service) := do
  match Startup.installSubscriber false environment config.logging with
  | .error e => return .error e
  | .ok _ =>
    let bare ← (Startup.buildLogger config.logging : Act _)
    let logger ← (bare.withName name : Act _)
    (announce config : Act Unit)
    match Startup.metricsAddress config.metrics with
    | .error e => return .error e
    | .ok _ =>
      let shutdown ← (Shutdown.create : Act Shutdown)
      match ← registerTracing config.tracing logger shutdown with
      | .error e => return .error e
      | .ok tracing =>
        let traced := (← Registry.current).isSome
        (logger.info "Outbound transport ready" [⟨"traced", .bool traced⟩] : Act Unit)
        return .ok { logger, shutdown, tracing }

/-- Handles one unit of work under the id that its caller brings. -/
def respond (service : Service) (id : Option String) : RegistryAct Facility Json := do
  let headers : Headers := match id.bind HeaderValue.ofText? with
    | some value => [(correlationKey, value)]
    | none => []
  return Work.answer (← Work.handle ScriptedTransport service.logger headers)

/-- Stops the service. -/
def stop (service : Service) : Act Unit := do
  service.shutdown.trigger
  match service.tracing with
  | some handle => do
    let _ ← handle.join
  | none => pure ()
  Act.emit .info none [("message", .text "Shutdown complete")]

/-- A service from start to stop that handles one unit of work for each id. -/
def run (config : Config) (environment : Option String) (listen : String) (ids : List String) :
    RegistryAct Facility (Except StartupError (List Json)) := do
  match ← start config environment with
  | .error e => return .error e
  | .ok service =>
    (service.logger.info "Listening for connections" [.text "address" listen] : Act Unit)
    let answers ← ids.mapM fun id => service.respond (some id)
    (service.stop : Act Unit)
    return .ok answers

end Service

end Observability
