import Observability.Proofs.Tracing.Call

/-!
# What a registry does over a run of calls

* `run` makes calls in order, and `registrations` lists the facilities that they register, the latest
  last.
* `Idle` says what calls do while nothing is registered, `DispatchesTo` what they do while a facility is
  the one registered last, and `RefusesSilently` what a refused registration leaves behind.

`facility_run` ties the registry to the history: it holds the latest of `registrations`.
`registry_dispatches` draws from it what each call does at any point of any run.
-/

namespace Observability

/-! ## Runs -/

section

variable {φ β π τ σ : Type} [F : TracingFacility φ β] [BaseTransport β] [TracerProvider π τ]
  [LogSink Act σ]

/-- Makes the calls in order. -/
def run (wiring : Wiring π τ φ) : List (RegistryCall φ β π σ) → RegistryState φ β →
    List (RegistryAnswer φ β π σ) × RegistryState φ β
  | [], s => ([], s)
  | call :: rest, s =>
    let (answer, s) := call.step wiring s
    let (answers, s) := run wiring rest s
    (answer :: answers, s)

/-- The facilities that the calls register, the latest last. -/
def registrations (wiring : Wiring π τ φ) : List (RegistryCall φ β π σ) → RegistryState φ β → List φ
  | [], _ => []
  | call :: rest, s =>
    (call.registers wiring s.collector).toList ++ registrations wiring rest (call.step wiring s).2

variable {wiring : Wiring π τ φ}

/-- The registry holds the facility that was registered last. -/
theorem facility_run (calls : List (RegistryCall φ β π σ)) (s : RegistryState φ β) :
    (run wiring calls s).2.registry.facility =
      (registrations wiring calls s).getLast?.or s.registry.facility := by
  induction calls generalizing s with
  | nil => rfl
  | cons call rest ih =>
    have hlast : (call.registers wiring s.collector).toList.getLast? =
        call.registers wiring s.collector := by
      cases call.registers wiring s.collector <;> rfl
    calc (run wiring (call :: rest) s).2.registry.facility
        = (registrations wiring rest (call.step wiring s).2).getLast?.or
            ((call.registers wiring s.collector).or s.registry.facility) := by
          rw [← RegistryCall.step_facility, ← ih]
          rfl
      _ = (registrations wiring (call :: rest) s).getLast?.or s.registry.facility := by
          rw [registrations, List.getLast?_append, hlast, Option.or_assoc]

/-- Transports that were returned stay through any run. -/
theorem exists_transports_run (wiring : Wiring π τ φ) (calls : List (RegistryCall φ β π σ))
    (s : RegistryState φ β) :
    ∃ more, (run wiring calls s).2.transports = s.transports ++ more := by
  induction calls generalizing s with
  | nil => exact ⟨[], (List.append_nil _).symm⟩
  | cons call rest ih =>
    obtain ⟨more, hmore⟩ := ih (call.step wiring s).2
    refine ⟨(call.step wiring s).1.transports ++ more, ?_⟩
    rw [← List.append_assoc, ← RegistryCall.step_transports, ← hmore]
    rfl

/-- A run without registrations stays unregistered, and would be the same whatever facilities do. -/
theorem run_of_no_registrations {calls : List (RegistryCall φ β π σ)} {s : RegistryState φ β}
    (hs : s.Unregistered) (h : registrations wiring calls s = []) :
    (run wiring calls s).2.Unregistered ∧
      ∀ G : TracingFacility φ β, run (F := G) wiring calls s = run (F := F) wiring calls s := by
  induction calls generalizing s with
  | nil => exact ⟨hs, fun _ => rfl⟩
  | cons call rest ih =>
    obtain ⟨hcall, hrest⟩ := List.append_eq_nil_iff.mp h
    obtain ⟨hrun, hsame⟩ := ih (RegistryCall.step_unregistered hs (Option.toList_eq_nil_iff.mp hcall))
      hrest
    refine ⟨hrun, fun G => ?_⟩
    simp only [run, RegistryCall.step_congr_of_unregistered (F := F) hs call G, hsame G]

/-- With other channels a run answers and registers the same, and leaves the same but for the
channels. -/
theorem run_withChannels (blind : BlindComponents φ β π σ) (calls : List (RegistryCall φ β π σ))
    (s : RegistryState φ β) (channels : List Channel) :
    registrations wiring calls (s.withChannels channels) = registrations wiring calls s ∧
      ∃ channels', run wiring calls (s.withChannels channels) =
        ((run wiring calls s).1, (run wiring calls s).2.withChannels channels') := by
  induction calls generalizing s channels with
  | nil => exact ⟨rfl, channels, rfl⟩
  | cons call rest ih =>
    obtain ⟨channels₁, hstep⟩ := RegistryCall.step_withChannels blind wiring call s channels
    obtain ⟨hregs, channels₂, hrun⟩ := ih (call.step wiring s).2 channels₁
    refine ⟨?_, channels₂, ?_⟩
    · rw [registrations, registrations, RegistryCall.registers_withChannels blind, hstep, hregs]
    · simp only [run, hstep, hrun]

end

/-! ## Transports that report -/

section

variable {φ β τ : Type} [TracingFacility φ β]

/-- The facility makes transports as a span facility does: it wraps the one it is given. -/
def Wraps (β : Type) {φ : Type} [TracingFacility φ β] (facility : φ) : Prop :=
  ∀ transport : Transport φ β,
    TracingFacility.newTransport facility transport = pure (.traced facility transport)

theorem SpanFacility.wraps [SpanBackend τ] (facility : SpanFacility τ) : Wraps β facility :=
  fun _ => rfl

theorem Facility.wraps_spans (facility : SpanFacility Backend) : Wraps β (Facility.spans facility) :=
  fun _ => rfl

variable [BaseTransport β]

/-- A request that is reported to the facility: unless the transport inside is not ready, a span is
started before it answers, and ended with the status of the response, or with zero and the error. -/
def Transport.reported (facility : φ) (inner : Transport φ β) (request : Request) :
    Act (Except String Response) := do
  match ← inner.ready with
  | .error error => return .error error
  | .ok _ => do
    let parent ← parentContext request
    let ctx ← TracingFacility.startSpan β facility parent ("HTTP " ++ request.method)
    let outcome ← inner.call { request with
      headers := correlate ctx request.headers
      context := some ctx }
    match outcome with
    | .ok response => do
      Act.observe (.sample "telemetry_transport_request_duration_seconds"
        [("status", toString response.status.toNat)])
      TracingFacility.endSpan β facility ctx response.status none
    | .error error => do
      Act.observe (.sample "telemetry_transport_request_duration_seconds" [("status", "0")])
      TracingFacility.endSpan β facility ctx 0 (some error)
    return outcome

theorem Transport.send_traced (facility : φ) (inner : Transport φ β) (request : Request) :
    (traced facility inner).send request = reported facility inner request := by
  rw [send, reported, ready]
  refine bind_congr fun answer => ?_
  cases answer with
  | error error => rfl
  | ok _ =>
    simp only [call, openSpan, bind_assoc, pure_bind]
    refine bind_congr fun parent => bind_congr fun ctx => bind_congr fun outcome => ?_
    cases outcome with
    | ok response => rw [closeSpan_ok, bind_assoc]
    | error error => rw [closeSpan_error, bind_assoc]

end

/-! ## Dispatch -/

section

variable {φ β π τ σ : Type} [F : TracingFacility φ β] [BaseTransport β] [TracerProvider π τ]
  [LogSink Act σ]

open RegistryCall

/-- What the calls do while nothing is registered: nothing. -/
structure Idle (σ : Type) [LogSink Act σ] (wiring : Wiring π τ φ) (s : RegistryState φ β) : Prop where
  isEnabled : (isEnabled : RegistryCall φ β π σ).step wiring s = (.enabled false, s)
  startSpan (ctx : Context) (name : String) :
    (startSpan ctx name : RegistryCall φ β π σ).step wiring s = (.started ctx, s)
  endSpan (ctx : Context) (status : HttpStatus) (error : Option String) :
    (endSpan ctx status error : RegistryCall φ β π σ).step wiring s = (.done, s)
  newTransport (transport : Transport φ β) :
    (newTransport transport : RegistryCall φ β π σ).step wiring s = (.transport none, s)
  send (place : Nat) (request : Request) :
    (send place request : RegistryCall φ β π σ).step wiring s = (.noTransport, s)

/-- What the calls do while the facility is the one registered last: what it does itself. -/
structure DispatchesTo (σ : Type) [LogSink Act σ] (wiring : Wiring π τ φ) (s : RegistryState φ β)
    (facility : φ) : Prop where
  isEnabled : (isEnabled : RegistryCall φ β π σ).step wiring s = (.enabled true, s)
  startSpan (ctx : Context) (name : String) :
    (startSpan ctx name : RegistryCall φ β π σ).step wiring s =
      s.after .started (Act.runOn (TracingFacility.startSpan β facility ctx name) s.collector)
  endSpan (ctx : Context) (status : HttpStatus) (error : Option String) :
    (endSpan ctx status error : RegistryCall φ β π σ).step wiring s =
      s.after (fun _ => .done)
        (Act.runOn (TracingFacility.endSpan β facility ctx status error) s.collector)
  newTransport (transport : Transport φ β) :
    (newTransport transport : RegistryCall φ β π σ).step wiring s =
      s.after (fun made => .transport (some made))
        (Act.runOn (TracingFacility.newTransport facility transport) s.collector)
  /-- it stays enabled -/
  enabled (more : List (RegistryCall φ β π σ)) : (run wiring more s).2.registry.isEnabled = true
  /-- a transport that it wraps now reports to it ever after -/
  reports (wraps : Wraps β facility) (base : Transport φ β) (more : List (RegistryCall φ β π σ))
      (request : Request) :
    let s' := (run wiring (.newTransport base :: more) s).2
    (send s.transports.length request : RegistryCall φ β π σ).step wiring s' =
      s'.after .response (Act.runOn (Transport.reported facility base request) s'.collector)

/-- What a registration that is refused leaves behind: nothing but that its receiver was given up. -/
structure RefusesSilently (σ : Type) [LogSink Act σ] (wiring : Wiring π τ φ)
    (s : RegistryState φ β) (config : Config.Tracing) (logger : Logger σ)
    (receiver : ShutdownReceiver) : Prop where
  left : ((registerTracing config logger receiver : RegistryCall φ β π σ).step wiring s).2 =
    { s with collector := (Act.runOn receiver.drop s.collector).2 }
  channels : ∃ channels,
    ((registerTracing config logger receiver : RegistryCall φ β π σ).step wiring s).2 =
      s.withChannels channels
  /-- nobody who does not look at the channels can tell -/
  later (blind : BlindComponents φ β π σ) (more : List (RegistryCall φ β π σ)) :
    let s' := ((registerTracing config logger receiver : RegistryCall φ β π σ).step wiring s).2
    registrations wiring more s' = registrations wiring more s ∧
      ∃ channels, run wiring more s' =
        ((run wiring more s).1, (run wiring more s).2.withChannels channels)

variable {wiring : Wiring π τ φ} {s : RegistryState φ β}

theorem idle_of_unregistered (hs : s.Unregistered) : Idle σ wiring s where
  isEnabled := by rw [step_isEnabled, Registry.isEnabled, hs.facility, Option.isSome_none]
  startSpan ctx name := step_startSpan_none hs.facility ctx name
  endSpan ctx status error := step_endSpan_none hs.facility ctx status error
  newTransport transport := step_newTransport_none hs.facility transport
  send place request := step_send_none (by rw [hs.transports]; rfl) request

theorem dispatchesTo_of_facility {facility : φ} (h : s.registry.facility = some facility) :
    DispatchesTo σ wiring s facility where
  isEnabled := by rw [step_isEnabled, Registry.isEnabled, h, Option.isSome_some]
  startSpan ctx name := step_startSpan_some h ctx name
  endSpan ctx status error := step_endSpan_some h ctx status error
  newTransport transport := step_newTransport_some h transport
  enabled more := by rw [Registry.isEnabled, facility_run, h, Option.isSome_or]; simp
  reports wraps base more request := by
    intro s'
    let made := ((RegistryCall.newTransport base : RegistryCall φ β π σ).step wiring s).2
    have hmade : made.transports = s.transports ++ [.traced facility base] := by
      show ((RegistryCall.newTransport base).step wiring s).2.transports = _
      rw [step_newTransport_some h, wraps base]
      rfl
    obtain ⟨rest, hrest⟩ := exists_transports_run wiring more made
    have hplace : s'.transports[s.transports.length]? = some (.traced facility base) := by
      show (run wiring more made).2.transports[s.transports.length]? = _
      rw [hrest, hmade, List.append_assoc, List.getElem?_append_right (Nat.le_refl _), Nat.sub_self]
      rfl
    rw [step_send_some hplace, Transport.send_traced]

theorem refusesSilently_of_refused {config : Config.Tracing} {logger : Logger σ}
    {receiver : ShutdownReceiver} {error : StartupError}
    (h : ((registerTracing config logger receiver : RegistryCall φ β π σ).step wiring s).1 =
      .refused error) : RefusesSilently σ wiring s config logger receiver := by
  obtain ⟨-, hleft⟩ := step_of_refused h
  obtain ⟨channels, hdropped⟩ := s.exists_dropped receiver
  refine ⟨hleft, ⟨channels, hleft.trans hdropped⟩, fun blind more => ?_⟩
  simp only [hleft, hdropped]
  exact run_withChannels blind more s channels

/-- **What a registry does over a run of calls.**  As long as the run registered nothing, calls do
nothing, and the run would be the same whatever facilities do.  Afterwards the registry stays enabled
and each call is what the facility that was registered last does with the same arguments; a transport
that it wraps reports to it ever after.  A registration has taken place if it answers with a handle; if
it is refused, none has, and nothing that calls or logs can tell that it was tried. -/
theorem registry_dispatches (wiring : Wiring π τ φ) (calls : List (RegistryCall φ β π σ))
    (c : Collector) :
    let start : RegistryState φ β := { collector := c }
    let s := (run wiring calls start).2
    (registrations wiring calls start = [] →
      Idle σ wiring s ∧
        ∀ G : TracingFacility φ β,
          run (F := G) wiring calls start = run (F := F) wiring calls start) ∧
    (∀ facility, (registrations wiring calls start).getLast? = some facility →
      DispatchesTo σ wiring s facility) ∧
    (∀ provider tracerName timeoutMs logger receiver handle,
      ((registerProvider provider tracerName timeoutMs logger receiver :
          RegistryCall φ β π σ).step wiring s).1 = .registered handle →
        (offered wiring.facility provider tracerName s.collector).isSome) ∧
    ∀ config logger receiver,
      let call : RegistryCall φ β π σ := registerTracing config logger receiver
      (∀ handle, (call.step wiring s).1 = .registered handle →
        (call.registers wiring s.collector).isSome) ∧
      ∀ error, (call.step wiring s).1 = .refused error →
        call.registers wiring s.collector = none ∧
          RefusesSilently σ wiring s config logger receiver := by
  intro start s
  have hstart : start.Unregistered := ⟨rfl, rfl⟩
  refine ⟨fun hnone => ?_, fun facility hlast => ?_, ?_, fun config logger receiver => ⟨?_, ?_⟩⟩
  · obtain ⟨hs, hsame⟩ := run_of_no_registrations hstart hnone
    exact ⟨idle_of_unregistered hs, hsame⟩
  · refine dispatchesTo_of_facility ?_
    rw [facility_run, hlast, Option.some_or]
  · intro provider tracerName timeoutMs logger receiver handle h
    exact offered_of_registered h
  · intro handle h
    exact registers_of_registered h
  · intro error h
    exact ⟨(step_of_refused h).1, refusesSilently_of_refused h⟩

end

/-- A transport that the first facility made reports to it, although a second one is in its place.  A
registration without a service name is refused then; its receiver is given up, and a request is sent as if
it had not been tried. -/
theorem registry_dispatches_replaced :
    let wiring : Wiring Provider Backend Facility := ⟨.exporting, fun tracer => .spans ⟨tracer⟩⟩
    let first : Facility := .spans ⟨.backend (.recording ⟨"first"⟩)⟩
    let base : Transport Facility ScriptedTransport := .base ⟨"base", .fails "refused"⟩
    let request : Request := ⟨"GET", .host ['b'], [], none⟩
    let calls : List (RegistryCall Facility ScriptedTransport Provider (SinkTree Sink)) :=
      [.register first, .newTransport base, .register (.recording ⟨"second"⟩)]
    let send : RegistryCall Facility ScriptedTransport Provider (SinkTree Sink) := .send 0 request
    let nameless : RegistryCall Facility ScriptedTransport Provider (SinkTree Sink) :=
      .registerTracing { serviceName := " " } ⟨.fanout [], 0⟩ ⟨0, 0⟩
    let c : Collector := { idText := fun _ => "", channels := [{ receivers := [some 0] }] }
    let s := (run wiring calls { collector := c }).2
    let s' := (nameless.step wiring s).2
    s.registry.facility = some (.recording ⟨"second"⟩) ∧
      send.step wiring s =
        s.after .response (Act.runOn (Transport.reported first base request) s.collector) ∧
      (nameless.step wiring s).1 =
        .refused (.provider (.invalidConfig "service name is empty")) ∧
      s'.collector.channels = [{ receivers := [none] }] ∧
      ∃ channels, run wiring [send] s' =
        ((run wiring [send] s).1, (run wiring [send] s).2.withChannels channels) := by
  intro wiring first base request calls send nameless c s s'
  obtain ⟨-, hlast, -⟩ := registry_dispatches (β := ScriptedTransport) (σ := SinkTree Sink) wiring
    [.register first] c
  have hreports := (hlast first rfl).reports (Facility.wraps_spans _) base
    [.register (.recording ⟨"second"⟩)] request
  have hrefused : (nameless.step wiring s).1 =
      .refused (.provider (.invalidConfig "service name is empty")) := rfl
  obtain ⟨-, -, -, hregistration⟩ := registry_dispatches wiring calls c
  obtain ⟨-, hsilent⟩ := (hregistration { serviceName := " " } ⟨.fanout [], 0⟩ ⟨0, 0⟩).2 _ hrefused
  exact ⟨rfl, hreports, hrefused, rfl, (hsilent.later blindComponents [send]).2⟩

end Observability
