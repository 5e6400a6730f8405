import Observability.Proofs.Config.Problems
import Observability.Service

/-!
# Configurations and start-up

A configuration is checked when it is read, and each part of start-up checks its own section once more
when it comes up.

* `registerTracing_refused_iff`, `metricsAddress_refused_iff` and `installSubscriber_refused_iff` say of
  each part when it refuses its section.
* `problems_iff_refused` says that this is when the configuration has the problem of the part.
* `NotRefused action` says that an action of start-up gives no error of start-up.

A service that is started with a configuration without problems is not refused, whatever filter the
environment brings: `Service.start_not_refused`.
-/

namespace Observability

open Config (Problem)

namespace Startup

variable {π τ φ σ : Type} [TracerProvider π τ] [LogSink Act σ]

/-! ## When a part refuses its section -/

/-- Tracing is refused exactly on a blank name of the service. -/
theorem registerTracing_refused_iff (provider : ExportingProvider → π) (facility : Tracer τ → φ)
    (config : Config.Tracing) (logger : Logger σ) (receiver : ShutdownReceiver) (registry : Registry φ)
    (c : Collector) (e : StartupError) :
    (RegistryAct.runOn (registerTracing provider facility config logger receiver) registry c).1.1 =
        .ok (.error e) ↔
      Text.allBlank config.serviceName = true ∧
        e = .provider (.invalidConfig "service name is empty") := by
  have hcreate := ExportingProvider.runOn_create config c
  cases hblank : Text.allBlank config.serviceName with
  | true =>
    rw [hblank, if_pos rfl] at hcreate
    rw [runOn_registerTracing_of_refused hcreate]
    simp [eq_comm]
  | false =>
    rw [hblank, if_neg (by decide)] at hcreate
    rw [runOn_registerTracing_of_made hcreate, RegistryAct.runOn_map]
    split <;> simp

/-- Metrics are refused exactly if they are enabled and the address is none. -/
theorem metricsAddress_refused_iff (config : Config.Metrics) (e : StartupError) :
    metricsAddress config = .error e ↔
      (config.enabled = true ∧ SocketAddress.parse? config.address = none) ∧
        e = .invalidMetricsAddress config.address := by
  unfold metricsAddress
  cases config.enabled with
  | false => simp
  | true =>
    cases SocketAddress.parse? config.address with
    | some address => simp
    | none => simp [eq_comm]

/-- Without a filter in the environment, the filter is refused exactly if it is none. -/
theorem installSubscriber_refused_iff (installed : Bool) (config : Config.Logging)
    (fault : Filter.Fault) :
    installSubscriber installed none config = .error (.filter fault) ↔
      Filter.check config.filter = .error fault := by
  unfold installSubscriber effectiveFilter
  cases Filter.check config.filter with
  | error other => simp
  | ok _ => cases installed <;> simp

/-! ## Both checks -/

section Agreement

variable {config : Config}

theorem emptyServiceName_iff_refused (provider : ExportingProvider → π) (facility : Tracer τ → φ)
    (logger : Logger σ) (receiver : ShutdownReceiver) (registry : Registry φ) (c : Collector) :
    .emptyServiceName ∈ config.problems ↔
      ∃ cause, (RegistryAct.runOn (registerTracing provider facility config.tracing logger receiver)
        registry c).1.1 = .ok (.error (.provider cause)) := by
  simp only [Config.mem_problems, Problem.Holds, registerTracing_refused_iff, exists_and_left]
  exact (and_iff_left ⟨_, rfl⟩).symm

theorem invalidMetricsAddress_iff_refused {address : String} :
    .invalidMetricsAddress address ∈ config.problems ↔
      metricsAddress config.metrics = .error (.invalidMetricsAddress address) := by
  simp only [Config.mem_problems, Problem.Holds, metricsAddress_refused_iff,
    StartupError.invalidMetricsAddress.injEq]
  constructor
  · rintro ⟨rfl, hrefused⟩
    exact ⟨hrefused, rfl⟩
  · rintro ⟨hrefused, rfl⟩
    exact ⟨rfl, hrefused⟩

theorem invalidFilter_iff_refused {installed : Bool} {filter : String} {fault : Filter.Fault} :
    .invalidFilter filter fault ∈ config.problems ↔ filter = config.logging.filter ∧
      installSubscriber installed none config.logging = .error (.filter fault) := by
  rw [Config.mem_problems, Problem.Holds, installSubscriber_refused_iff]
  constructor
  · rintro ⟨rfl, hrefused⟩
    exact ⟨rfl, hrefused⟩
  · rintro ⟨rfl, hrefused⟩
    exact ⟨rfl, hrefused⟩

end Agreement

/-- **Checking and starting agree.**  A configuration has the problem of a part exactly if this part of
start-up refuses it, on the same address or for the same reason, whatever is registered and whatever else
goes on.  One that was read is refused by none of them. -/
theorem problems_iff_refused (config : Config) :
    (∀ (provider : ExportingProvider → π) (facility : Tracer τ → φ) (logger : Logger σ)
        (receiver : ShutdownReceiver) (registry : Registry φ) (c : Collector),
      .emptyServiceName ∈ config.problems ↔
        ∃ cause, (RegistryAct.runOn (registerTracing provider facility config.tracing logger receiver)
          registry c).1.1 = .ok (.error (.provider cause))) ∧
    (∀ address, .invalidMetricsAddress address ∈ config.problems ↔
      metricsAddress config.metrics = .error (.invalidMetricsAddress address)) ∧
    (∀ installed filter fault, .invalidFilter filter fault ∈ config.problems ↔
      filter = config.logging.filter ∧
        installSubscriber installed none config.logging = .error (.filter fault)) ∧
    ((∃ text, Config.parse text = .ok config) ∨ (∃ bytes, Config.load bytes = .ok config) →
      (∀ (provider : ExportingProvider → π) (facility : Tracer τ → φ) (logger : Logger σ)
          (receiver : ShutdownReceiver) (registry : Registry φ) (c : Collector) (cause : ProviderError),
        (RegistryAct.runOn (registerTracing provider facility config.tracing logger receiver)
          registry c).1.1 ≠ .ok (.error (.provider cause))) ∧
      (∀ address, metricsAddress config.metrics ≠ .error (.invalidMetricsAddress address)) ∧
      ∀ installed fault, installSubscriber installed none config.logging ≠ .error (.filter fault)) := by
  refine ⟨emptyServiceName_iff_refused, fun _ => invalidMetricsAddress_iff_refused,
    fun _ _ _ => invalidFilter_iff_refused, fun hread => ?_⟩
  have hnone : ∀ problem, problem ∉ config.problems := by
    rw [← List.eq_nil_iff_forall_not_mem]
    rcases hread with ⟨text, hparse⟩ | ⟨bytes, hload⟩
    · exact Config.problems_of_parse hparse
    · exact Config.problems_of_load hload
  refine ⟨?_, ?_, ?_⟩
  · intro provider facility logger receiver registry c cause hrefused
    exact hnone _ ((emptyServiceName_iff_refused provider facility logger receiver registry c).mpr
      ⟨cause, hrefused⟩)
  · intro address hrefused
    exact hnone _ (invalidMetricsAddress_iff_refused.mpr hrefused)
  · intro installed fault hrefused
    exact hnone _ (invalidFilter_iff_refused.mpr ⟨rfl, hrefused⟩)

/-- A document that enables metrics on an address: no part refuses what it says. -/
theorem problems_iff_refused_enabled :
    let config : Config := { metrics := { enabled := true, address := "[::1]:9" } }
    let logger : Logger RecordingSink := ⟨{ id := 0 }, 0⟩
    Config.parse "[metrics]\nenabled = true\naddress = \"[::1]:9\"\n" = .ok config ∧
      (∀ (receiver : ShutdownReceiver) (registry : Registry Facility) (c : Collector)
          (cause : ProviderError),
        (RegistryAct.runOn (registerTracing Provider.exporting (fun tracer => Facility.spans ⟨tracer⟩)
          config.tracing logger receiver) registry c).1.1 ≠ .ok (.error (.provider cause))) ∧
      (∀ address, metricsAddress config.metrics ≠ .error (.invalidMetricsAddress address)) ∧
      ∀ installed fault, installSubscriber installed none config.logging ≠ .error (.filter fault) := by
  intro config logger
  have hparse : Config.parse "[metrics]\nenabled = true\naddress = \"[::1]:9\"\n" = .ok config := rfl
  obtain ⟨-, -, -, hnone⟩ := @problems_iff_refused Provider Backend Facility RecordingSink _ _ config
  obtain ⟨htracing, hmetrics, hfilter⟩ := hnone (.inl ⟨_, hparse⟩)
  exact ⟨hparse, fun receiver registry c cause =>
    htracing Provider.exporting (fun tracer => Facility.spans ⟨tracer⟩) logger receiver registry c cause,
    hmetrics, hfilter⟩

/-! ## The whole start -/

/-- An accepted filter is installed, whatever the environment brings. -/
theorem installSubscriber_of_accepted {config : Config.Logging}
    (h : Filter.check config.filter = .ok ()) (environment : Option String) :
    installSubscriber false environment config = .ok () := by
  have heffective : Filter.check (effectiveFilter environment config) = .ok () := by
    unfold effectiveFilter
    cases environment with
    | none => exact h
    | some filter =>
      cases hfilter : Filter.check filter with
      | ok _ => simp [hfilter]
      | error _ => simpa [hfilter] using h
  unfold installSubscriber
  rw [heffective]
  rfl

/-- The action gives no error of start-up, whatever it runs on. -/
def NotRefused {α : Type} (action : RegistryAct φ (Except StartupError α)) : Prop :=
  ∀ registry c e, (RegistryAct.runOn action registry c).1.1 ≠ .ok (.error e)

theorem NotRefused.pure {α : Type} (a : α) :
    NotRefused (Pure.pure (.ok a) : RegistryAct φ (Except StartupError α)) := by
  intro registry c e
  simp

theorem NotRefused.bind {α γ : Type} {action : RegistryAct φ γ}
    {next : γ → RegistryAct φ (Except StartupError α)} (h : ∀ a, NotRefused (next a)) :
    NotRefused (action >>= next) := by
  intro registry c e
  rw [RegistryAct.runOn_bind]
  split
  · exact h _ _ _ e
  · simp

/-- What follows an action that is not refused may rely on what it gives. -/
theorem NotRefused.bind_ok {α γ : Type} {action : RegistryAct φ (Except StartupError γ)}
    {next : Except StartupError γ → RegistryAct φ (Except StartupError α)} (haction : NotRefused action)
    (h : ∀ a, NotRefused (next (.ok a))) : NotRefused (action >>= next) := by
  intro registry c e
  have hanswer := haction registry c
  rw [RegistryAct.runOn_bind]
  split
  · next answer registry' after hrun =>
    rw [hrun] at hanswer
    cases answer with
    | ok a => exact h a _ _ e
    | error e' => exact absurd rfl (hanswer e')
  · simp

end Startup

namespace Service

open Startup (NotRefused)

/-- Tracing is not refused to a service that has a name. -/
theorem registerTracing_not_refused {config : Config.Tracing}
    (h : Text.allBlank config.serviceName = false) (logger : Logger (SinkTree Sink))
    (shutdown : Shutdown) : NotRefused (registerTracing config logger shutdown) := by
  unfold registerTracing
  split
  · refine .bind fun receiver => .bind_ok ?_ fun handle => .pure _
    intro registry c e hrefused
    rw [Startup.registerTracing_refused_iff, h] at hrefused
    cases hrefused.1
  · exact .pure none

/-- **What was read starts.**  A service whose configuration has no problem is not refused its start,
whatever filter the environment brings. -/
theorem start_not_refused {config : Config} (h : config.problems = []) (environment : Option String) :
    NotRefused (start config environment) := by
  have hnone (problem : Problem) : ¬ problem.Holds config := by
    rw [← Config.mem_problems, h]
    exact List.not_mem_nil
  have hfilter : Filter.check config.logging.filter = .ok () := by
    cases hcheck : Filter.check config.logging.filter with
    | ok _ => rfl
    | error fault => exact absurd ⟨rfl, hcheck⟩ (hnone (.invalidFilter config.logging.filter fault))
  obtain ⟨address, haddress⟩ : ∃ address, Startup.metricsAddress config.metrics = .ok address := by
    cases hmetrics : Startup.metricsAddress config.metrics with
    | ok address => exact ⟨address, rfl⟩
    | error e =>
      obtain ⟨⟨henabled, hparse⟩, -⟩ := (Startup.metricsAddress_refused_iff _ _).mp hmetrics
      exact absurd ⟨rfl, henabled, hparse⟩ (hnone (.invalidMetricsAddress config.metrics.address))
  have hname : Text.allBlank config.tracing.serviceName = false := by
    simpa [Problem.Holds] using hnone .emptyServiceName
  unfold start
  rw [Startup.installSubscriber_of_accepted hfilter, haddress]
  refine .bind fun bare => .bind fun logger => .bind fun _ => .bind fun shutdown => ?_
  refine .bind_ok (registerTracing_not_refused hname logger shutdown) fun tracing => ?_
  exact .bind fun facility => .bind fun _ => .pure _

end Service

end Observability
