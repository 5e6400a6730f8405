import Observability.Proofs.Tracing.ChannelBlind

/-!
# One call on a registry

Calls are made on a registry, and requests are sent through the transports that earlier calls returned.

* `RegistryCall` is a call, and `RegistryState` is what it is made on.
* `RegistryCall.step` is what a call answers and leaves behind.  Providers and facilities are made as the
  `Wiring` says.
* `RegistryCall.registers` says which facility a call registers, if any.

Each call has its law: without a facility the dispatching ones answer at once and leave everything as it
is (`step_startSpan_none` and its like), with one they are what the facility does
(`step_startSpan_some` and its like), and `step_registerTracing` says how the registration of a
configuration goes.  `step_facility` draws from them what the registry holds afterwards.
-/

namespace Observability

/-- How start-up makes a provider and a facility. -/
structure Wiring (π τ φ : Type) where
  provider : ExportingProvider → π
  facility : Tracer τ → φ

/-- A call on a registry, or a request through the transport that was returned at a place. -/
inductive RegistryCall (φ β π σ : Type) where
  | register (facility : φ)
  | registerProvider (provider : π) (tracerName : String) (timeoutMs : Nat) (logger : Logger σ)
      (receiver : ShutdownReceiver)
  | registerTracing (config : Config.Tracing) (logger : Logger σ) (receiver : ShutdownReceiver)
  | startSpan (ctx : Context) (name : String)
  | endSpan (ctx : Context) (status : HttpStatus) (error : Option String)
  | newTransport (transport : Transport φ β)
  | isEnabled
  | send (place : Nat) (request : Request)

/-- What a call answers. -/
inductive RegistryAnswer (φ β π σ : Type) where
  | done
  | registered (handle : TracingHandle π σ)
  | refused (error : StartupError)
  | started (ctx : Context)
  | transport (made : Option (Transport φ β))
  | enabled (isEnabled : Bool)
  | response (outcome : Except String Response)
  /-- no transport was returned at the place -/
  | noTransport
  | crashed (crash : Crash)

/-- The transport that an answer returns. -/
def RegistryAnswer.transports {φ β π σ : Type} :
    RegistryAnswer φ β π σ → List (Transport φ β)
  | .transport made => made.toList
  | _ => []

/-- What a run goes on: the registry, the transports returned so far, and the collector. -/
structure RegistryState (φ β : Type) where
  registry : Registry φ := {}
  transports : List (Transport φ β) := []
  collector : Collector

/-- Nothing was registered, and so no transport was returned. -/
structure RegistryState.Unregistered {φ β : Type} (s : RegistryState φ β) : Prop where
  facility : s.registry.facility = none
  transports : s.transports = []

/-- The same with other channels. -/
def RegistryState.withChannels {φ β : Type} (s : RegistryState φ β) (channels : List Channel) :
    RegistryState φ β :=
  { s with collector := { s.collector with channels } }

/-- Giving a receiver up shows in the channels only. -/
theorem RegistryState.exists_dropped {φ β : Type} (s : RegistryState φ β)
    (receiver : ShutdownReceiver) :
    ∃ channels, { s with collector := (Act.runOn receiver.drop s.collector).2 } =
      s.withChannels channels := by
  obtain ⟨channels, hdrop⟩ := receiver.exists_runOn_drop s.collector
  refine ⟨channels, ?_⟩
  rw [hdrop, RegistryState.withChannels]

/-- What is answered and left behind if the action of a call does `result`.  A returned transport is
kept. -/
def RegistryState.left {φ β π σ : Type} (s : RegistryState φ β) :
    (Except Crash (RegistryAnswer φ β π σ) × Registry φ) × Collector →
      RegistryAnswer φ β π σ × RegistryState φ β
  | ((.ok answer, registry), c) => (answer, ⟨registry, s.transports ++ answer.transports, c⟩)
  | ((.error crash, registry), c) => (.crashed crash, ⟨registry, s.transports, c⟩)

/-- What is answered and left behind if a component does `result` and nothing else happens: its own
answer is given, or its crash. -/
def RegistryState.after {φ β π σ α : Type} (s : RegistryState φ β)
    (answer : α → RegistryAnswer φ β π σ) (result : Except Crash α × Collector) :
    RegistryAnswer φ β π σ × RegistryState φ β :=
  s.left ((result.1.map answer, s.registry), result.2)

@[simp] theorem RegistryState.after_registry {φ β π σ α : Type} (s : RegistryState φ β)
    (answer : α → RegistryAnswer φ β π σ) (result : Except Crash α × Collector) :
    (s.after answer result).2.registry = s.registry := by
  rcases result with ⟨_ | _, _⟩ <;> rfl

namespace RegistryCall

variable {φ β π τ σ : Type} [F : TracingFacility φ β] [BaseTransport β] [TracerProvider π τ]
  [LogSink Act σ]

/-- What the call does. -/
def action (wiring : Wiring π τ φ) (s : RegistryState φ β) :
    RegistryCall φ β π σ → RegistryAct φ (RegistryAnswer φ β π σ)
  | .register facility => do
    Registry.register facility
    return .done
  | .registerProvider provider tracerName timeoutMs logger receiver =>
    .registered <$>
      Startup.registerProvider wiring.facility provider tracerName timeoutMs logger receiver
  | .registerTracing config logger receiver => do
    match ← Startup.registerTracing wiring.provider wiring.facility config logger receiver with
    | .ok handle => return .registered handle
    | .error error => return .refused error
  | .startSpan ctx name => .started <$> Registry.startSpan β ctx name
  | .endSpan ctx status error => do
    Registry.endSpan β ctx status error
    return .done
  | .newTransport transport => .transport <$> Registry.newTransport β transport
  | .isEnabled => return .enabled s.registry.isEnabled
  | .send place request =>
    match s.transports[place]? with
    | some transport => do return .response (← (transport.send request : Act _))
    | none => return .noTransport

/-- What the call answers and leaves behind. -/
def step (wiring : Wiring π τ φ) (call : RegistryCall φ β π σ) (s : RegistryState φ β) :
    RegistryAnswer φ β π σ × RegistryState φ β :=
  s.left (RegistryAct.runOn (call.action wiring s) s.registry s.collector)

/-- The facility over the tracer that the provider hands out, if it hands one out. -/
def offered (facility : Tracer τ → φ) (provider : π) (tracerName : String) (c : Collector) :
    Option φ :=
  match (Act.runOn (TracerProvider.tracer provider tracerName) c).1 with
  | .ok tracer => some (facility (.correlated tracer))
  | .error _ => none

/-- The facility that the call registers. -/
def registers (wiring : Wiring π τ φ) (c : Collector) : RegistryCall φ β π σ → Option φ
  | .register facility => some facility
  | .registerProvider provider tracerName _ _ _ => offered wiring.facility provider tracerName c
  | .registerTracing config _ _ =>
    match Act.runOn (ExportingProvider.create config) c with
    | (.ok (.ok made), after) =>
      offered wiring.facility (wiring.provider made) config.tracerName after
    | _ => none
  | .startSpan .. | .endSpan .. | .newTransport _ | .isEnabled | .send .. => none

/-! ## One call -/

variable {wiring : Wiring π τ φ} {s : RegistryState φ β} {facility : φ}

theorem step_startSpan_none (h : s.registry.facility = none) (ctx : Context) (name : String) :
    (startSpan ctx name : RegistryCall φ β π σ).step wiring s = (.started ctx, s) := by
  simp [step, action, Registry.runOn_startSpan_none h, RegistryState.left, RegistryAnswer.transports]

theorem step_startSpan_some (h : s.registry.facility = some facility) (ctx : Context)
    (name : String) :
    (startSpan ctx name : RegistryCall φ β π σ).step wiring s =
      s.after .started
        (Act.runOn (TracingFacility.startSpan β facility ctx name) s.collector) := by
  rw [step, action, RegistryAct.runOn_map, Registry.runOn_startSpan_some h]
  rcases Act.runOn (TracingFacility.startSpan β facility ctx name) s.collector with ⟨_ | _, _⟩ <;>
    rfl

theorem step_endSpan_none (h : s.registry.facility = none) (ctx : Context) (status : HttpStatus)
    (error : Option String) :
    (endSpan ctx status error : RegistryCall φ β π σ).step wiring s = (.done, s) := by
  simp [step, action, Registry.runOn_endSpan_none h, RegistryState.left, RegistryAnswer.transports]

theorem step_endSpan_some (h : s.registry.facility = some facility) (ctx : Context)
    (status : HttpStatus) (error : Option String) :
    (endSpan ctx status error : RegistryCall φ β π σ).step wiring s =
      s.after (fun _ => .done)
        (Act.runOn (TracingFacility.endSpan β facility ctx status error) s.collector) := by
  rw [step, action, RegistryAct.runOn_bind, Registry.runOn_endSpan_some h]
  rcases Act.runOn (TracingFacility.endSpan β facility ctx status error) s.collector with
    ⟨_ | _, _⟩ <;> rfl

theorem step_newTransport_none (h : s.registry.facility = none) (transport : Transport φ β) :
    (newTransport transport : RegistryCall φ β π σ).step wiring s = (.transport none, s) := by
  simp [step, action, Registry.runOn_newTransport_none h, RegistryState.left, RegistryAnswer.transports]

theorem step_newTransport_some (h : s.registry.facility = some facility)
    (transport : Transport φ β) :
    (newTransport transport : RegistryCall φ β π σ).step wiring s =
      s.after (fun made => .transport (some made))
        (Act.runOn (TracingFacility.newTransport facility transport) s.collector) := by
  rw [step, action, RegistryAct.runOn_map, Registry.runOn_newTransport_some h]
  rcases Act.runOn (TracingFacility.newTransport facility transport) s.collector with
    ⟨_ | _, _⟩ <;> rfl

theorem step_isEnabled :
    (isEnabled : RegistryCall φ β π σ).step wiring s = (.enabled s.registry.isEnabled, s) := by
  simp [step, action, RegistryState.left, RegistryAnswer.transports]

theorem step_send_none {place : Nat} (h : s.transports[place]? = none) (request : Request) :
    (send place request : RegistryCall φ β π σ).step wiring s = (.noTransport, s) := by
  simp [step, action, h, RegistryState.left, RegistryAnswer.transports]

theorem step_send_some {place : Nat} {transport : Transport φ β}
    (h : s.transports[place]? = some transport) (request : Request) :
    (send place request : RegistryCall φ β π σ).step wiring s =
      s.after .response (Act.runOn (transport.send request) s.collector) := by
  rw [step, action, h]
  simp only [RegistryAct.runOn_bind, RegistryAct.runOn_lift]
  rcases Act.runOn (transport.send request) s.collector with ⟨_ | _, _⟩ <;> rfl

/-- Transports that were returned stay. -/
theorem step_transports (call : RegistryCall φ β π σ) :
    (call.step wiring s).2.transports = s.transports ++ (call.step wiring s).1.transports := by
  rw [step]
  rcases RegistryAct.runOn (call.action wiring s) s.registry s.collector with
    ⟨⟨_ | _, _⟩, _⟩
  · exact (List.append_nil _).symm
  · rfl

/-- The registration of a provider puts its facility in place, if it hands out a tracer. -/
theorem facility_registerProvider (wiring : Wiring π τ φ) (provider : π) (tracerName : String)
    (timeoutMs : Nat) (logger : Logger σ) (receiver : ShutdownReceiver) (registry : Registry φ)
    (c : Collector) :
    (RegistryAct.runOn (Startup.registerProvider wiring.facility provider tracerName timeoutMs
      logger receiver) registry c).1.2.facility =
      (offered wiring.facility provider tracerName c).or registry.facility := by
  rw [offered]
  rcases h : Act.runOn (TracerProvider.tracer provider tracerName) c with ⟨_ | _, _⟩
  · rw [Startup.runOn_registerProvider_of_error h]
    rfl
  · rw [Startup.registry_registerProvider_of_ok h]
    rfl

/-- What is left in the registry is what the action of the call leaves there. -/
theorem step_registry (call : RegistryCall φ β π σ) :
    (call.step wiring s).2.registry =
      (RegistryAct.runOn (call.action wiring s) s.registry s.collector).1.2 := by
  rw [step]
  rcases RegistryAct.runOn (call.action wiring s) s.registry s.collector with
    ⟨⟨_ | _, _⟩, _⟩ <;> rfl

theorem step_facility_registerProvider (provider : π) (tracerName : String) (timeoutMs : Nat)
    (logger : Logger σ) (receiver : ShutdownReceiver) (s : RegistryState φ β) :
    ((registerProvider provider tracerName timeoutMs logger receiver :
      RegistryCall φ β π σ).step wiring s).2.registry.facility =
      (offered wiring.facility provider tracerName s.collector).or s.registry.facility := by
  rw [step_registry, action, RegistryAct.runOn_map,
    ← facility_registerProvider wiring provider tracerName timeoutMs logger receiver]
  rcases RegistryAct.runOn _ s.registry s.collector with ⟨⟨_ | _, _⟩, _⟩ <;> rfl

/-- What is done with a configuration.  Either it is refused and only the receiver is given up, or the
provider made from it is registered. -/
theorem step_registerTracing (wiring : Wiring π τ φ) (config : Config.Tracing) (logger : Logger σ)
    (receiver : ShutdownReceiver) (s : RegistryState φ β) :
    let call : RegistryCall φ β π σ := registerTracing config logger receiver
    (call.registers wiring s.collector = none ∧ ∃ error, call.step wiring s =
      (.refused error, { s with collector := (Act.runOn receiver.drop s.collector).2 })) ∨
    ∃ made after,
      call.registers wiring s.collector =
        offered wiring.facility (wiring.provider made) config.tracerName after ∧
      call.step wiring s = (registerProvider (wiring.provider made) config.tracerName
        (config.shutdownTimeoutSecs.toNat * 1000) logger receiver).step wiring
          { s with collector := after } := by
  intro call
  have hmade := ExportingProvider.runOn_create config s.collector
  split at hmade
  · left
    refine ⟨?_, .provider (.invalidConfig "service name is empty"), ?_⟩
    · simp only [call, registers, hmade]
    · rw [step, action, RegistryAct.runOn_bind, Startup.runOn_registerTracing_of_refused hmade]
      simp [RegistryState.left, RegistryAnswer.transports]
  · right
    refine ⟨_, _, by simp only [call, registers, hmade]; rfl, ?_⟩
    rw [step, action, RegistryAct.runOn_bind, Startup.runOn_registerTracing_of_made hmade, step,
      action, RegistryAct.runOn_map, RegistryAct.runOn_map]
    rcases RegistryAct.runOn _ s.registry _ with ⟨⟨_ | _, _⟩, _⟩ <;> rfl

/-- A call leaves in place the facility that it registers, or else the one before. -/
theorem step_facility (call : RegistryCall φ β π σ) :
    (call.step wiring s).2.registry.facility =
      (call.registers wiring s.collector).or s.registry.facility := by
  cases call with
  | register facility => rfl
  | registerProvider provider tracerName timeoutMs logger receiver =>
    exact step_facility_registerProvider provider tracerName timeoutMs logger receiver s
  | registerTracing config logger receiver =>
    rcases step_registerTracing wiring config logger receiver s with
      ⟨hregs, error, hstep⟩ | ⟨made, after, hregs, hstep⟩
    · rw [hstep, hregs, Option.none_or]
    · rw [hstep, hregs, step_facility_registerProvider]
  | startSpan ctx name =>
    rw [registers, Option.none_or]
    cases h : s.registry.facility with
    | none => rw [step_startSpan_none h, h]
    | some facility => rw [step_startSpan_some h, RegistryState.after_registry, h]
  | endSpan ctx status error =>
    rw [registers, Option.none_or]
    cases h : s.registry.facility with
    | none => rw [step_endSpan_none h, h]
    | some facility => rw [step_endSpan_some h, RegistryState.after_registry, h]
  | newTransport transport =>
    rw [registers, Option.none_or]
    cases h : s.registry.facility with
    | none => rw [step_newTransport_none h, h]
    | some facility => rw [step_newTransport_some h, RegistryState.after_registry, h]
  | isEnabled => rw [step_isEnabled, registers, Option.none_or]
  | send place request =>
    rw [registers, Option.none_or]
    cases h : s.transports[place]? with
    | none => rw [step_send_none h]
    | some transport => rw [step_send_some h, RegistryState.after_registry]

/-- While nothing is registered no call returns a transport. -/
theorem step_answer_of_unregistered (hs : s.Unregistered) (call : RegistryCall φ β π σ) :
    (call.step wiring s).1.transports = [] := by
  cases call with
  | register facility => rfl
  | registerProvider provider tracerName timeoutMs logger receiver =>
    rw [step, action, RegistryAct.runOn_map]
    rcases RegistryAct.runOn _ s.registry s.collector with ⟨⟨_ | _, _⟩, _⟩ <;> rfl
  | registerTracing config logger receiver =>
    rw [step, action, RegistryAct.runOn_bind]
    rcases RegistryAct.runOn _ s.registry s.collector with ⟨⟨_ | _ | _, _⟩, _⟩ <;> rfl
  | startSpan ctx name => rw [step_startSpan_none hs.facility]; rfl
  | endSpan ctx status error => rw [step_endSpan_none hs.facility]; rfl
  | newTransport transport => rw [step_newTransport_none hs.facility]; rfl
  | isEnabled => rw [step_isEnabled]; rfl
  | send place request =>
    rw [step_send_none (by rw [hs.transports]; rfl)]
    rfl

/-- Only a registration ends the unregistered state. -/
theorem step_unregistered (hs : s.Unregistered) {call : RegistryCall φ β π σ}
    (h : call.registers wiring s.collector = none) : (call.step wiring s).2.Unregistered where
  facility := by rw [step_facility, h, hs.facility, Option.none_or]
  transports := by rw [step_transports, step_answer_of_unregistered hs, hs.transports]; rfl

/-- While nothing is registered no facility is called: a call does the same whatever facilities do. -/
theorem step_congr_of_unregistered (hs : s.Unregistered) (call : RegistryCall φ β π σ)
    (G : TracingFacility φ β) : call.step (F := G) wiring s = call.step (F := F) wiring s := by
  cases call with
  | register facility => rfl
  | registerProvider provider tracerName timeoutMs logger receiver => rfl
  | registerTracing config logger receiver => rfl
  | startSpan ctx name =>
    rw [step_startSpan_none (F := G) hs.facility, step_startSpan_none (F := F) hs.facility]
  | endSpan ctx status error =>
    rw [step_endSpan_none (F := G) hs.facility, step_endSpan_none (F := F) hs.facility]
  | newTransport transport =>
    rw [step_newTransport_none (F := G) hs.facility, step_newTransport_none (F := F) hs.facility]
  | isEnabled => rfl
  | send place request =>
    have hnone : s.transports[place]? = none := by rw [hs.transports]; rfl
    rw [step_send_none (F := G) hnone, step_send_none (F := F) hnone]

/-! ### What the answer tells of a registration -/

/-- If a handle is answered for a provider, the provider handed a tracer out. -/
theorem offered_of_registered {provider : π} {tracerName : String} {timeoutMs : Nat}
    {logger : Logger σ} {receiver : ShutdownReceiver} {handle : TracingHandle π σ}
    (h : ((registerProvider provider tracerName timeoutMs logger receiver :
      RegistryCall φ β π σ).step wiring s).1 = .registered handle) :
    (offered wiring.facility provider tracerName s.collector).isSome := by
  rw [step, action, RegistryAct.runOn_map] at h
  rw [offered]
  rcases htracer : Act.runOn (TracerProvider.tracer provider tracerName) s.collector with
    ⟨_ | _, _⟩
  · rw [Startup.runOn_registerProvider_of_error htracer] at h
    cases h
  · rfl

/-- The registration of a provider is not refused. -/
theorem step_registerProvider_ne_refused (provider : π) (tracerName : String) (timeoutMs : Nat)
    (logger : Logger σ) (receiver : ShutdownReceiver) (error : StartupError) :
    ((registerProvider provider tracerName timeoutMs logger receiver :
      RegistryCall φ β π σ).step wiring s).1 ≠ .refused error := by
  rw [step, action, RegistryAct.runOn_map]
  rcases RegistryAct.runOn _ s.registry s.collector with ⟨⟨_ | _, _⟩, _⟩ <;> nofun

/-- If a handle is answered for a configuration, a facility was registered. -/
theorem registers_of_registered {config : Config.Tracing} {logger : Logger σ}
    {receiver : ShutdownReceiver} {handle : TracingHandle π σ}
    (h : ((registerTracing config logger receiver : RegistryCall φ β π σ).step wiring s).1 =
      .registered handle) :
    ((registerTracing config logger receiver : RegistryCall φ β π σ).registers wiring
      s.collector).isSome := by
  rcases step_registerTracing wiring config logger receiver s with
    ⟨hregs, error, hstep⟩ | ⟨made, after, hregs, hstep⟩
  · rw [hstep] at h
    cases h
  · rw [hstep] at h
    rw [hregs]
    exact offered_of_registered h

/-- If a configuration is refused, nothing was done but that the receiver was given up. -/
theorem step_of_refused {config : Config.Tracing} {logger : Logger σ} {receiver : ShutdownReceiver}
    {error : StartupError}
    (h : ((registerTracing config logger receiver : RegistryCall φ β π σ).step wiring s).1 =
      .refused error) :
    (registerTracing config logger receiver : RegistryCall φ β π σ).registers wiring s.collector =
        none ∧
      ((registerTracing config logger receiver : RegistryCall φ β π σ).step wiring s).2 =
        { s with collector := (Act.runOn receiver.drop s.collector).2 } := by
  rcases step_registerTracing wiring config logger receiver s with
    ⟨hregs, error, hstep⟩ | ⟨made, after, hregs, hstep⟩
  · rw [hstep]
    exact ⟨hregs, rfl⟩
  · rw [hstep] at h
    exact absurd h (step_registerProvider_ne_refused _ _ _ _ _ error)

/-! ### Other channels -/

variable (blind : BlindComponents φ β π σ)
include blind

theorem action_blind (call : RegistryCall φ β π σ) :
    RegistryAct.ChannelBlind (call.action wiring s) := by
  cases call with
  | register facility => exact .bind (Registry.register_blind facility) fun _ => .pure _
  | registerProvider provider tracerName timeoutMs logger receiver =>
    exact .map _ (blind.registerProvider _ provider tracerName timeoutMs logger receiver)
  | registerTracing config logger receiver =>
    refine .bind (blind.registerTracing _ _ config logger receiver) fun outcome => ?_
    cases outcome <;> exact .pure _
  | startSpan ctx name =>
    refine .map _ (.bind Registry.current_blind fun facility => ?_)
    cases facility with
    | none => exact .pure _
    | some facility => exact .lift (blind.startSpan facility ctx name)
  | endSpan ctx status error =>
    refine .bind (.bind Registry.current_blind fun facility => ?_) fun _ => .pure _
    cases facility with
    | none => exact .pure _
    | some facility => exact .lift (blind.endSpan facility ctx status error)
  | newTransport transport =>
    refine .map _ (.bind Registry.current_blind fun facility => ?_)
    cases facility with
    | none => exact .pure _
    | some facility => exact .bind (.lift (blind.newTransport facility transport)) fun _ => .pure _
  | isEnabled => exact .pure _
  | send place request =>
    rw [action]
    split
    · exact .bind (.lift (blind.transportSend _ request)) fun _ => .pure _
    · exact .pure _

/-- With other channels a call answers the same, and leaves the same but for the channels. -/
theorem step_withChannels (wiring : Wiring π τ φ) (call : RegistryCall φ β π σ)
    (s : RegistryState φ β) (channels : List Channel) :
    ∃ channels', call.step wiring (s.withChannels channels) =
      ((call.step wiring s).1, (call.step wiring s).2.withChannels channels') := by
  have haction : call.action wiring (s.withChannels channels) = call.action wiring s := by
    cases call <;> rfl
  have hblind : RegistryAct.ChannelBlind (call.action wiring s) := action_blind blind call
  obtain ⟨channels', hrun⟩ := hblind s.registry s.collector channels
  refine ⟨channels', ?_⟩
  show (s.withChannels channels).left (RegistryAct.runOn (call.action wiring (s.withChannels
    channels)) s.registry { s.collector with channels }) = _
  rw [haction, hrun, step]
  rcases RegistryAct.runOn (call.action wiring s) s.registry s.collector with
    ⟨⟨_ | _, _⟩, _⟩ <;> rfl

theorem offered_withChannels (facility : Tracer τ → φ) (provider : π) (tracerName : String)
    (c : Collector) (channels : List Channel) :
    offered facility provider tracerName { c with channels } =
      offered facility provider tracerName c := by
  obtain ⟨channels', htracer⟩ := blind.tracer provider tracerName c channels
  rw [offered, offered, htracer]

/-- With other channels a call registers the same. -/
theorem registers_withChannels (call : RegistryCall φ β π σ) (s : RegistryState φ β)
    (channels : List Channel) :
    call.registers wiring (s.withChannels channels).collector =
      call.registers wiring s.collector := by
  cases call with
  | registerProvider provider tracerName timeoutMs logger receiver =>
    exact offered_withChannels blind wiring.facility provider tracerName s.collector channels
  | registerTracing config logger receiver =>
    obtain ⟨channels', hmade⟩ := ExportingProvider.create_blind config s.collector channels
    rw [registers, registers, RegistryState.withChannels, hmade]
    rcases Act.runOn (ExportingProvider.create config) s.collector with ⟨_ | ⟨_ | made⟩, after⟩
    · rfl
    · rfl
    · exact offered_withChannels blind wiring.facility (wiring.provider made) config.tracerName
        after channels'
  | _ => rfl

end RegistryCall

end Observability
