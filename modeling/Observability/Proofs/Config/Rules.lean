import Mathlib.Data.List.Forall2
import Mathlib.Data.List.Nodup
import Observability.Proofs.Config.Fields
import Observability.Proofs.Config.Problems

/-!
# The rules of a configuration, one by one

A `Rule` is what a configuration may break, and `Rule.Kept` says when it does not.  Each rule has at most
one problem, `Rule.problem?`:

* it is there exactly if the rule is broken (`problem?_eq_none_iff`),
* it tells what breaks the rule (`reportedBy_of_problem?`),
* it depends on the fields of the rule alone (`problem?_congr`).

The problems of a configuration are those of its rules in their order (`problems_eq_filterMap`), so all
else about the list is about `filterMap`.  A filter is read part by part, and its reason is that of the
first part that is refused (`check_eq_error_iff`).

`problems_rule_by_rule` puts this together for the list, and says what a repair and the reader of a
document make of it.
-/

namespace Observability

/-! ## Filters -/

namespace Filter

/-- The parts of a filter between commas, without those that are empty. -/
def parts (filter : String) : List (List Char) :=
  (filter.toList.splitOn ',').filter fun part => !part.isEmpty

theorem splitCommas_eq_splitOn (cs : List Char) : splitCommas cs = cs.splitOn ',' := by
  induction cs with
  | nil => rfl
  | cons c rest ih =>
    rw [splitCommas, ih, List.splitOn_cons_eq_if_modifyHead]
    by_cases hc : c = ','
    · simp [hc]
    · rw [if_neg hc, if_neg (by simpa using hc)]
      -- a list is never split into no pieces
      cases hpieces : rest.splitOn ',' with
      | nil => exact absurd hpieces (List.splitOn_ne_nil _ _)
      | cons piece pieces => rfl

theorem directives_eq_parts (filter : String) : directives filter = parts filter := by
  rw [directives, splitCommas_eq_splitOn, parts]

section

variable {ε α : Type} {check : α → Except ε Unit} {list : List α}

theorem forM_eq_ok_iff : list.forM check = .ok () ↔ ∀ a ∈ list, check a = .ok () := by
  induction list with
  | nil => simp [List.forM, pure, Except.pure]
  | cons a rest ih =>
    rw [List.forall_mem_cons, ← ih, List.forM]
    cases check a with
    | error e => simp [bind, Except.bind]
    | ok u => simp [bind, Except.bind]

/-- A list is refused for the first of its elements that is. -/
theorem forM_eq_error_iff {e : ε} :
    list.forM check = .error e ↔
      ∃ before a after, list = before ++ a :: after ∧ (∀ b ∈ before, check b = .ok ()) ∧
        check a = .error e := by
  induction list with
  | nil => simp [List.forM, pure, Except.pure]
  | cons first rest ih =>
    rw [List.forM]
    cases hfirst : check first with
    | error e' =>
      constructor
      · intro h
        exact ⟨[], first, rest, rfl, by simp, hfirst.trans h⟩
      · rintro ⟨before, a, after, hlist, hbefore, ha⟩
        cases before with
        | nil =>
          obtain ⟨rfl, rfl⟩ := List.cons.inj hlist
          exact hfirst.symm.trans ha
        | cons b before =>
          obtain ⟨rfl, -⟩ := List.cons.inj hlist
          rw [hbefore first List.mem_cons_self] at hfirst
          cases hfirst
    | ok u =>
      refine ih.trans ⟨?_, ?_⟩
      · rintro ⟨before, a, after, rfl, hbefore, ha⟩
        exact ⟨first :: before, a, after, rfl, List.forall_mem_cons.mpr ⟨hfirst, hbefore⟩, ha⟩
      · rintro ⟨before, a, after, hlist, hbefore, ha⟩
        cases before with
        | nil =>
          obtain ⟨rfl, rfl⟩ := List.cons.inj hlist
          rw [hfirst] at ha
          cases ha
        | cons b before =>
          obtain ⟨-, rfl⟩ := List.cons.inj hlist
          exact ⟨before, a, after, rfl, (List.forall_mem_cons.mp hbefore).2, ha⟩

end

/-- A filter is one if all its parts are directives. -/
theorem check_eq_ok_iff {filter : String} :
    check filter = .ok () ↔ ∀ part ∈ parts filter, checkDirective part = .ok () := by
  rw [check, directives_eq_parts, forM_eq_ok_iff]

/-- A filter is refused for the first of its parts that is. -/
theorem check_eq_error_iff {filter : String} {fault : Fault} :
    check filter = .error fault ↔
      ∃ before part after, parts filter = before ++ part :: after ∧
        (∀ earlier ∈ before, checkDirective earlier = .ok ()) ∧ checkDirective part = .error fault := by
  rw [check, directives_eq_parts, forM_eq_error_iff]

end Filter

namespace Config

/-! ## Rules -/

/-- The rules, in the order in which their problems are listed. -/
inductive Rule where
  | serviceName
  | tracerName
  | timeout
  | address
  | filter
  deriving DecidableEq, Repr

namespace Rule

def all : List Rule := [.serviceName, .tracerName, .timeout, .address, .filter]

theorem nodup_all : all.Nodup := by decide

theorem mem_all (rule : Rule) : rule ∈ all := by cases rule <;> decide

/-- The configuration does not break the rule. -/
def Kept (config : Config) : Rule → Prop
  | .serviceName => ∃ c ∈ config.tracing.serviceName.toList, Text.isBlank c = false
  | .tracerName => ∃ c ∈ config.tracing.tracerName.toList, Text.isBlank c = false
  | .timeout => config.tracing.shutdownTimeoutSecs ≠ 0
  | .address =>
    config.metrics.enabled = false ∨ (SocketAddress.parse? config.metrics.address).isSome = true
  | .filter => ∀ part ∈ Filter.parts config.logging.filter, Filter.checkDirective part = .ok ()

-- the instances of lists by name: characters are finitely many, so there is one that goes through all
instance (config : Config) (rule : Rule) : Decidable (rule.Kept config) :=
  match rule with
  | .serviceName => List.decidableBEx (Text.isBlank · = false) config.tracing.serviceName.toList
  | .tracerName => List.decidableBEx (Text.isBlank · = false) config.tracing.tracerName.toList
  | .timeout => inferInstanceAs (Decidable (config.tracing.shutdownTimeoutSecs ≠ 0))
  | .address =>
    inferInstanceAs (Decidable (config.metrics.enabled = false ∨
      (SocketAddress.parse? config.metrics.address).isSome = true))
  | .filter =>
    List.decidableBAll (Filter.checkDirective · = .ok ()) (Filter.parts config.logging.filter)

/-- The problem with the rule, if the configuration breaks it. -/
def problem? (config : Config) : Rule → Option Problem
  | .serviceName => if Text.allBlank config.tracing.serviceName then some .emptyServiceName else none
  | .tracerName => if Text.allBlank config.tracing.tracerName then some .emptyTracerName else none
  | .timeout => if config.tracing.shutdownTimeoutSecs = 0 then some .zeroShutdownTimeout else none
  | .address =>
    if config.metrics.enabled && (SocketAddress.parse? config.metrics.address).isNone then
      some (.invalidMetricsAddress config.metrics.address)
    else none
  | .filter =>
    match Filter.check config.logging.filter with
    | .ok _ => none
    | .error fault => some (.invalidFilter config.logging.filter fault)

/-- The problem says of the configuration how it breaks the rule: an address by its text, a filter by its
text and by what is wrong with the first of its parts that is refused. -/
inductive ReportedBy (config : Config) : Rule → Problem → Prop
  | serviceName : ReportedBy config .serviceName .emptyServiceName
  | tracerName : ReportedBy config .tracerName .emptyTracerName
  | timeout : ReportedBy config .timeout .zeroShutdownTimeout
  | address : ReportedBy config .address (.invalidMetricsAddress config.metrics.address)
  | filter {before after : List (List Char)} {part : List Char} {fault : Filter.Fault} :
    Filter.parts config.logging.filter = before ++ part :: after →
    (∀ earlier ∈ before, Filter.checkDirective earlier = .ok ()) →
    Filter.checkDirective part = .error fault →
    ReportedBy config .filter (.invalidFilter config.logging.filter fault)

end Rule

/-- The rule that the problem is about. -/
def Problem.rule : Problem → Rule
  | .emptyServiceName => .serviceName
  | .emptyTracerName => .tracerName
  | .zeroShutdownTimeout => .timeout
  | .invalidMetricsAddress _ => .address
  | .invalidFilter _ _ => .filter

/-- The rule that the field is under. -/
def FieldName.rule? : FieldName → Option Rule
  | .serviceName => some .serviceName
  | .tracerName => some .tracerName
  | .shutdownTimeoutSecs => some .timeout
  | .metricsEnabled | .address => some .address
  | .filter => some .filter
  | .format | .verbosity | .sinks | .tracingEnabled | .sampler => none

/-! ## One rule -/

section

variable {config other : Config} {rule : Rule} {problem : Problem}

theorem allBlank_eq_false_iff {text : String} :
    Text.allBlank text = false ↔ ∃ c ∈ text.toList, Text.isBlank c = false := by
  simp [Text.allBlank]

/-- A rule has a problem exactly if it is broken. -/
theorem problem?_eq_none_iff : rule.problem? config = none ↔ rule.Kept config := by
  cases rule with
  | serviceName => simp [Rule.problem?, Rule.Kept, ← allBlank_eq_false_iff]
  | tracerName => simp [Rule.problem?, Rule.Kept, ← allBlank_eq_false_iff]
  | timeout => simp [Rule.problem?, Rule.Kept]
  | address =>
    rw [Rule.problem?, Rule.Kept]
    cases config.metrics.enabled <;> cases SocketAddress.parse? config.metrics.address <;> simp
  | filter =>
    rw [Rule.problem?, Rule.Kept, ← Filter.check_eq_ok_iff]
    cases Filter.check config.logging.filter <;> simp

theorem reportedBy_of_problem? (h : rule.problem? config = some problem) :
    rule.ReportedBy config problem := by
  cases rule with
  | serviceName =>
    obtain ⟨-, rfl⟩ : _ ∧ Problem.emptyServiceName = problem := by simpa [Rule.problem?] using h
    exact .serviceName
  | tracerName =>
    obtain ⟨-, rfl⟩ : _ ∧ Problem.emptyTracerName = problem := by simpa [Rule.problem?] using h
    exact .tracerName
  | timeout =>
    obtain ⟨-, rfl⟩ : _ ∧ Problem.zeroShutdownTimeout = problem := by simpa [Rule.problem?] using h
    exact .timeout
  | address =>
    obtain ⟨-, rfl⟩ : _ ∧ Problem.invalidMetricsAddress config.metrics.address = problem := by
      simpa [Rule.problem?] using h
    exact .address
  | filter =>
    rw [Rule.problem?] at h
    cases hcheck : Filter.check config.logging.filter with
    | ok _ =>
      rw [hcheck] at h
      cases h
    | error fault =>
      rw [hcheck] at h
      obtain rfl := Option.some.inj h
      obtain ⟨before, part, after, hparts, hbefore, hpart⟩ := Filter.check_eq_error_iff.mp hcheck
      exact .filter hparts hbefore hpart

theorem Rule.ReportedBy.rule_eq (h : rule.ReportedBy config problem) : problem.rule = rule := by
  cases h <;> rfl

/-- The problem with a rule is in the fields under it. -/
theorem problem?_congr (h : ∀ f : FieldName, f.rule? = some rule → f.get other = f.get config) :
    rule.problem? other = rule.problem? config := by
  cases rule with
  | serviceName =>
    have hname : other.tracing.serviceName = config.tracing.serviceName := h .serviceName rfl
    rw [Rule.problem?, hname, Rule.problem?]
  | tracerName =>
    have hname : other.tracing.tracerName = config.tracing.tracerName := h .tracerName rfl
    rw [Rule.problem?, hname, Rule.problem?]
  | timeout =>
    have htimeout : other.tracing.shutdownTimeoutSecs = config.tracing.shutdownTimeoutSecs :=
      h .shutdownTimeoutSecs rfl
    rw [Rule.problem?, htimeout, Rule.problem?]
  | address =>
    have henabled : other.metrics.enabled = config.metrics.enabled := h .metricsEnabled rfl
    have haddress : other.metrics.address = config.metrics.address := h .address rfl
    rw [Rule.problem?, henabled, haddress, Rule.problem?]
  | filter =>
    have hfilter : other.logging.filter = config.logging.filter := h .filter rfl
    rw [Rule.problem?, hfilter, Rule.problem?]

end

/-! ## All rules -/

theorem problemIf_eq_toList (broken : Bool) (problem : Problem) :
    problemIf broken problem = (if broken then some problem else none).toList := by
  cases broken <;> rfl

theorem filterProblems_eq_toList (config : Config) :
    filterProblems config.logging.filter = (Rule.filter.problem? config).toList := by
  rw [filterProblems, Rule.problem?]
  cases Filter.check config.logging.filter <;> rfl

/-- The problems of a configuration are those of its rules, in their order. -/
theorem problems_eq_filterMap (config : Config) :
    config.problems = Rule.all.filterMap (Rule.problem? config) := by
  rw [problems, filterProblems_eq_toList, List.filterMap_eq_flatMap_toList]
  simp only [problemIf_eq_toList, Rule.all, List.flatMap_cons, List.flatMap_nil, List.append_assoc,
    List.append_nil, Rule.problem?, decide_eq_true_eq]

section

variable {config other : Config} {problem : Problem}

/-- There are no problems exactly if every rule is kept. -/
theorem problems_eq_nil_iff : config.problems = [] ↔ ∀ rule : Rule, rule.Kept config := by
  rw [problems_eq_filterMap, List.filterMap_eq_nil_iff]
  constructor
  · intro h rule
    exact problem?_eq_none_iff.mp (h rule rule.mem_all)
  · intro h rule _
    exact problem?_eq_none_iff.mpr (h rule)

/-- A configuration without problems is valid, and only such. -/
theorem valid_iff_problems_eq_nil : config.Valid ↔ config.problems = [] := by
  rw [problems_eq_nil_iff]
  constructor
  · intro h rule
    cases rule with
    | serviceName => exact allBlank_eq_false_iff.mp h.serviceName
    | tracerName => exact allBlank_eq_false_iff.mp h.tracerName
    | timeout => exact h.timeout
    | address => exact Classical.or_iff_not_imp_left.mpr fun henabled => h.address (by simpa using henabled)
    | filter => exact Filter.check_eq_ok_iff.mp h.filter
  · intro h
    exact
      { serviceName := allBlank_eq_false_iff.mpr (h .serviceName)
        tracerName := allBlank_eq_false_iff.mpr (h .tracerName)
        timeout := h .timeout
        address := fun henabled => (h .address).resolve_left (by simp [henabled])
        filter := Filter.check_eq_ok_iff.mpr (h .filter) }

/-- A problem is listed for its own rule only. -/
theorem mem_problems_iff_problem? :
    problem ∈ config.problems ↔ problem.rule.problem? config = some problem := by
  rw [problems_eq_filterMap, List.mem_filterMap]
  constructor
  · rintro ⟨rule, _, hproblem⟩
    rwa [(reportedBy_of_problem? hproblem).rule_eq]
  · intro hproblem
    exact ⟨problem.rule, problem.rule.mem_all, hproblem⟩

/-- Whether a problem is listed is in the fields under its rule. -/
theorem mem_problems_congr
    (h : ∀ f : FieldName, f.rule? = some problem.rule → f.get other = f.get config) :
    problem ∈ other.problems ↔ problem ∈ config.problems := by
  rw [mem_problems_iff_problem?, mem_problems_iff_problem?, problem?_congr h]

end

section

variable {α β : Type} {list : List α}

/-- What is gathered of a list stands in the order of the elements it comes from. -/
theorem forall₂_filter_filterMap {R : α → β → Prop} {keep : α → Bool} {gather : α → Option β}
    (hkeep : ∀ a, gather a = none ↔ keep a = false) (h : ∀ a b, gather a = some b → R a b) :
    List.Forall₂ R (list.filter keep) (list.filterMap gather) := by
  induction list with
  | nil => exact .nil
  | cons a rest ih =>
    cases hgather : gather a with
    | none =>
      rw [List.filterMap_cons_none hgather, List.filter_cons_of_neg (by simp [(hkeep a).mp hgather])]
      exact ih
    | some b =>
      have hkept : keep a = true := by
        cases hk : keep a with
        | true => rfl
        | false =>
          rw [(hkeep a).mpr hk] at hgather
          cases hgather
      rw [List.filterMap_cons_some hgather, List.filter_cons_of_pos hkept]
      exact .cons (h a b hgather) ih

/-- If one element gives nothing any more and all others what they gave, one place goes from what is
gathered. -/
theorem filterMap_remove (hnodup : list.Nodup) {a : α} (ha : a ∈ list) {gather gather' : α → Option β}
    {b : β} (hold : gather a = some b) (hnew : gather' a = none)
    (hothers : ∀ c, c ≠ a → gather' c = gather c) :
    ∃ before after, list.filterMap gather = before ++ b :: after ∧
      list.filterMap gather' = before ++ after := by
  obtain ⟨before, after, rfl⟩ := List.append_of_mem ha
  have hbefore : ∀ c ∈ before, gather' c = gather c := by
    intro c hc
    refine hothers c ?_
    rintro rfl
    exact (List.nodup_append.mp hnodup).2.2 c hc c List.mem_cons_self rfl
  have hafter : ∀ c ∈ after, gather' c = gather c := by
    intro c hc
    refine hothers c ?_
    rintro rfl
    exact (List.nodup_cons.mp (List.nodup_append.mp hnodup).2.1).1 hc
  refine ⟨before.filterMap gather, after.filterMap gather, ?_, ?_⟩
  · rw [List.filterMap_append, List.filterMap_cons_some hold]
  · rw [List.filterMap_append, List.filterMap_cons_none hnew, List.filterMap_congr hbefore,
      List.filterMap_congr hafter]

end

/-- A repair of one field takes the problem of its rule from the list, and changes nothing else in it. -/
theorem problems_of_repair {config repaired : Config} {f : FieldName} {rule : Rule}
    (hrule : f.rule? = some rule) (hbroken : ¬ rule.Kept config) (hkept : rule.Kept repaired)
    (hothers : ∀ g : FieldName, g ≠ f → g.get repaired = g.get config) :
    ∃ before problem after, config.problems = before ++ problem :: after ∧ problem.rule = rule ∧
      repaired.problems = before ++ after := by
  obtain ⟨problem, hproblem⟩ : ∃ problem, rule.problem? config = some problem := by
    rw [← Option.ne_none_iff_exists']
    exact fun hnone => hbroken (problem?_eq_none_iff.mp hnone)
  have hcongr : ∀ own, own ≠ rule → own.problem? repaired = own.problem? config := by
    intro own hown
    refine problem?_congr fun g hg => hothers g ?_
    rintro rfl
    exact hown (Option.some.inj (hg.symm.trans hrule))
  obtain ⟨before, after, hbefore, hafter⟩ :=
    filterMap_remove Rule.nodup_all rule.mem_all hproblem (problem?_eq_none_iff.mpr hkept) hcongr
  rw [← problems_eq_filterMap] at hbefore hafter
  exact ⟨before, problem, after, hbefore, (reportedBy_of_problem? hproblem).rule_eq, hafter⟩

/-- **Every problem, and nothing else.**  A configuration passes if it keeps every rule.  Otherwise it is
refused with one problem for each rule it breaks, in the order of the rules, and each tells how its rule is
broken.  Whether a problem is there depends on the fields under its rule alone, and a repair of one field
takes away the problem of its rule and leaves the rest of the list.  A document that describes the
configuration is read as it is, or refused with this list. -/
theorem problems_rule_by_rule (config : Config) :
    (checked config = .ok config ↔ ∀ rule : Rule, rule.Kept config) ∧
      ((∃ rule : Rule, ¬ rule.Kept config) → checked config = .error (.invalid config.problems)) ∧
      List.Forall₂ (Rule.ReportedBy config) (Rule.all.filter fun rule => ¬ rule.Kept config)
        config.problems ∧
      (∀ other problem,
        (∀ f : FieldName, f.rule? = some (Problem.rule problem) → f.get other = f.get config) →
        (problem ∈ other.problems ↔ problem ∈ config.problems)) ∧
      (∀ (f : FieldName) rule repaired, f.rule? = some rule → ¬ rule.Kept config →
        rule.Kept repaired → (∀ g : FieldName, g ≠ f → g.get repaired = g.get config) →
        ∃ before problem after, config.problems = before ++ problem :: after ∧
          Problem.rule problem = rule ∧ repaired.problems = before ++ after) ∧
      ∀ text root, Toml.parse? text.toList = some root → decode root = .ok config →
        ((∀ rule : Rule, rule.Kept config) → parse text = .ok config) ∧
        ((∃ rule : Rule, ¬ rule.Kept config) →
          parse text = .error (.invalid config.problems)) := by
  have hpass : checked config = .ok config ↔ ∀ rule : Rule, rule.Kept config := by
    rw [checked_eq_ok_iff, problems_eq_nil_iff, and_iff_left rfl]
  have hrefused : (∃ rule : Rule, ¬ rule.Kept config) →
      checked config = .error (.invalid config.problems) := by
    rintro ⟨rule, hbroken⟩
    exact checked_of_problems fun hnone => hbroken (problems_eq_nil_iff.mp hnone rule)
  refine ⟨hpass, hrefused, ?_, ?_, ?_, ?_⟩
  · rw [problems_eq_filterMap]
    refine forall₂_filter_filterMap (fun rule => ?_) fun rule problem => reportedBy_of_problem?
    simp [problem?_eq_none_iff]
  · exact fun other problem hfields => mem_problems_congr hfields
  · exact fun f rule repaired hrule hbroken hkept hothers =>
      problems_of_repair hrule hbroken hkept hothers
  · intro text root htext hdecode
    rw [parse_of_decode htext hdecode]
    exact ⟨hpass.mpr, hrefused⟩

/-- A document that breaks three rules. -/
def brokenText : String :=
  "[tracing]\ntracer_name = \"\"\n[metrics]\nenabled = true\naddress = \"host:80\"\n" ++
  "[logging]\nfilter = \"info,,a=b\"\n"

/-- The tree of the document. -/
def brokenTree : Toml.Entries :=
  [ (⟨"tracing", 102, 95⟩, .table (some ⟨103, 77⟩) .header
      [ (⟨"tracer_name", 93, 82⟩, .scalar ⟨79, 77⟩ (.string "")) ]),
    (⟨"metrics", 75, 68⟩, .table (some ⟨76, 32⟩) .header
      [ (⟨"enabled", 66, 59⟩, .scalar ⟨56, 52⟩ (.boolean true)),
        (⟨"address", 51, 44⟩, .scalar ⟨41, 32⟩ (.string "host:80")) ]),
    (⟨"logging", 30, 23⟩, .table (some ⟨31, 1⟩) .header
      [ (⟨"filter", 21, 15⟩, .scalar ⟨12, 1⟩ (.string "info,,a=b")) ]) ]

def brokenConfig : Config :=
  { logging := { filter := "info,,a=b" }
    tracing := { tracerName := "" }
    metrics := { enabled := true, address := "host:80" } }

/-- The configuration with a name for the tracer. -/
def namedConfig : Config := { brokenConfig with tracing := { tracerName := "t" } }

theorem parse?_broken : Toml.parse? brokenText.toList = some brokenTree := by rfl

theorem problems_rule_by_rule_broken :
    parse brokenText = .error (.invalid
        [.emptyTracerName, .invalidMetricsAddress "host:80", .invalidFilter "info,,a=b" .level]) ∧
      ∃ problem, brokenConfig.problems = problem :: namedConfig.problems ∧
        Problem.rule problem = .tracerName := by
  have hproblems : brokenConfig.problems =
      [.emptyTracerName, .invalidMetricsAddress "host:80", .invalidFilter "info,,a=b" .level] := by
    decide +kernel
  have hbroken : ¬ Rule.tracerName.Kept brokenConfig := by decide +kernel
  have hkept : Rule.tracerName.Kept namedConfig := by decide +kernel
  have hothers : ∀ g : FieldName, g ≠ .tracerName → g.get namedConfig = g.get brokenConfig := by
    intro g hg
    cases g with
    | tracerName => exact absurd rfl hg
    | _ => rfl
  obtain ⟨-, -, -, -, hrepair, hparse⟩ := problems_rule_by_rule brokenConfig
  obtain ⟨before, problem, after, hall, hrule, hrest⟩ :=
    hrepair .tracerName .tracerName namedConfig rfl hbroken hkept hothers
  refine ⟨?_, problem, ?_, hrule⟩
  · rw [← hproblems]
    exact (hparse brokenText brokenTree parse?_broken rfl).2 ⟨_, hbroken⟩
  · cases before with
    | nil => rw [hall, hrest, List.nil_append, List.nil_append]
    | cons first before =>
      -- the problems behind the first are under other rules
      rw [hproblems] at hall
      have hmem : problem ∈
          [Problem.invalidMetricsAddress "host:80", .invalidFilter "info,,a=b" .level] := by
        rw [(List.cons.inj hall).2]
        exact List.mem_append_right before List.mem_cons_self
      rcases List.mem_pair.mp hmem with rfl | rfl <;> cases hrule

end Config

end Observability
