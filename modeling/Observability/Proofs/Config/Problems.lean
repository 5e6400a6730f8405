import Observability.Config.Parser

/-!
# What a configuration is refused for

`Problem.Holds config problem` says that the configuration breaks the rule which the problem is about, and
that the problem tells what it breaks it with.  The problems that are listed are those that hold
(`mem_problems`), and a configuration that was read has none (`problems_of_parse`, `problems_of_load`).
-/

namespace Observability.Config

/-- The configuration has the problem. -/
def Problem.Holds (config : Config) : Problem → Prop
  | .emptyServiceName => Text.allBlank config.tracing.serviceName = true
  | .emptyTracerName => Text.allBlank config.tracing.tracerName = true
  | .zeroShutdownTimeout => config.tracing.shutdownTimeoutSecs = 0
  | .invalidMetricsAddress address =>
    address = config.metrics.address ∧ config.metrics.enabled = true ∧ SocketAddress.parse? address = none
  | .invalidFilter filter fault => filter = config.logging.filter ∧ Filter.check filter = .error fault

theorem mem_problemIf {broken : Bool} {own problem : Problem} :
    problem ∈ problemIf broken own ↔ broken = true ∧ problem = own := by
  unfold problemIf
  cases broken <;> simp

theorem mem_filterProblems {filter : String} {problem : Problem} :
    problem ∈ filterProblems filter ↔
      ∃ fault, Filter.check filter = .error fault ∧ problem = .invalidFilter filter fault := by
  unfold filterProblems
  cases Filter.check filter <;> simp

/-- **What is listed.**  The problems of a configuration are those that hold. -/
theorem mem_problems {config : Config} {problem : Problem} :
    problem ∈ config.problems ↔ problem.Holds config := by
  simp only [problems, List.mem_append, mem_problemIf, mem_filterProblems]
  cases problem with
  | emptyServiceName => simp [Problem.Holds]
  | emptyTracerName => simp [Problem.Holds]
  | zeroShutdownTimeout => simp [Problem.Holds]
  | invalidMetricsAddress address =>
    simp only [Problem.Holds, reduceCtorEq, and_false, false_or, Problem.invalidMetricsAddress.injEq,
      exists_false, or_false, Bool.and_eq_true, Option.isNone_iff_eq_none]
    constructor
    · rintro ⟨⟨henabled, hparse⟩, rfl⟩
      exact ⟨rfl, henabled, hparse⟩
    · rintro ⟨rfl, henabled, hparse⟩
      exact ⟨⟨henabled, hparse⟩, rfl⟩
  | invalidFilter filter fault =>
    simp only [Problem.Holds, reduceCtorEq, and_false, false_or, Problem.invalidFilter.injEq]
    constructor
    · rintro ⟨fault', hcheck, rfl, rfl⟩
      exact ⟨rfl, hcheck⟩
    · rintro ⟨rfl, hcheck⟩
      exact ⟨fault, hcheck, rfl, rfl⟩

/-! ## Configurations that were read -/

/-- A configuration passes exactly if it has no problem, and as it is. -/
theorem checked_eq_ok_iff {config read : Config} :
    checked config = .ok read ↔ config.problems = [] ∧ read = config := by
  unfold checked
  split
  · next hnone => simp [hnone, eq_comm]
  · next hsome => exact iff_of_false (by rintro ⟨⟩) fun h => hsome h.1

/-- A configuration with problems is refused for all of them. -/
theorem checked_of_problems {config : Config} (h : config.problems ≠ []) :
    checked config = .error (.invalid config.problems) := by
  unfold checked
  split
  · next hnone => exact absurd hnone h
  · rfl

/-- A document that fits is checked. -/
theorem parse_of_decode {text : String} {root : Toml.Entries} {config : Config}
    (htext : Toml.parse? text.toList = some root) (hdecode : decode root = .ok config) :
    parse text = checked config := by
  simp only [parse, parseShape, htext, hdecode]
  rfl

theorem problems_of_checked {config read : Config} (h : checked config = .ok read) :
    read.problems = [] := by
  obtain ⟨hnone, rfl⟩ := checked_eq_ok_iff.mp h
  exact hnone

theorem problems_of_parse {text : String} {config : Config} (h : parse text = .ok config) :
    config.problems = [] := by
  unfold parse at h
  cases hshape : parseShape text with
  | error fault =>
    rw [hshape] at h
    cases h
  | ok shape =>
    rw [hshape] at h
    exact problems_of_checked h

theorem problems_of_load {bytes : ByteArray} {config : Config} (h : load bytes = .ok config) :
    config.problems = [] := by
  unfold load at h
  split at h
  · cases h
  · exact problems_of_parse h

end Observability.Config
