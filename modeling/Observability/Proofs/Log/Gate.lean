import Mathlib.Data.List.Forall2
import Observability.Proofs.Keeps
import Observability.Proofs.Log.LineMembers
import Observability.Proofs.Log.ReadBack
import Observability.Startup.Logger

/-!
# The gate of a composite logger

A composite logger asks its sinks before it writes an ordinary line, and the sinks ask again, each in its
own way, when they are handed it.  The two agree: either all put the line out, or none does.

* `Sink.hears` says whether a sink puts the line of a call out, and `Sink.emit` is what it does then.
* `runOn_forM_deliver`: to hand a call to sinks is to have those emit it that hear it.
* `Open` says of sinks that they all want lines of a verbosity.  It is what they answer when they are
  asked (`runOn_allM_enabled`), and it is kept by lower verbosities (`Open.of_le`).
* `Sink.IsLine` says of an observation that it is the line of a sink for a call.

`AllOrNothing` says what this comes to for a logger, and `composite_all_or_nothing` proves it of every
logger derived from a composite one; the configured one is such a logger.
-/

namespace Observability

/-! ## Which sinks put a line out -/

/-- The fields of the event of a call. -/
def EventSink.fields (sink : EventSink) (level : UInt32) : LoggerCall → Fields
  | .info message pairs => sink.infoFields level message pairs
  | .error cause message pairs => sink.errorFields cause message pairs

theorem EventSink.deliver_eq (sink : EventSink) (level : UInt32) (call : LoggerCall) :
    call.deliver level sink = Act.emit (call.severity level) none (sink.fields level call) := by
  cases call with
  | info message pairs =>
    rw [LoggerCall.severity, ← Severity.ofVerbosity_eq]
    rfl
  | error cause message pairs => rfl

instance (level limit : UInt32) (call : LoggerCall) : Decidable (call.Within level limit) :=
  match call with
  | .info _ _ => inferInstanceAs (Decidable (level ≤ limit))
  | .error _ _ _ => .isTrue trivial

theorem JsonSink.writeLine_keeps_threshold (sink : JsonSink)
    (members : Binary64 → List (String × Json)) :
    Act.Keeps Collector.threshold (sink.writeLine members) := by
  refine .bind (.step fun c => ?_) fun crashed => ?_
  · cases c.writers[sink.writer]? <;> rfl
  · split
    · exact fun _ => rfl
    · exact .pure _

namespace Sink

/-- Whether the sink puts the line of the call out when it is handed it. -/
def hears (threshold : Threshold) (level : UInt32) (call : LoggerCall) : Sink → Bool
  | .events _ => threshold.admits (call.severity level)
  | .json sink => decide (call.Within level sink.maxVerbosity)
  | .recording _ => false

/-- Puts the line of the call out. -/
def emit (level : UInt32) (call : LoggerCall) : Sink → Act Unit
  | .events sink => Act.observe (.event (call.severity level) none (sink.fields level call))
  | .json sink => sink.writeLine fun time => sink.members time level call
  | .recording _ => return ()

/-- To hand the call to a sink is to have it put the line out, if it hears it. -/
theorem runOn_deliver {sink : Sink} (writes : sink.Writes) (level : UInt32) (call : LoggerCall)
    (c : Collector) :
    Act.runOn (call.deliver level sink) c =
      if sink.hears c.threshold level call then Act.runOn (sink.emit level call) c else (.ok (), c) := by
  cases sink with
  | events sink =>
    have hdeliver : (call.deliver level (Sink.events sink) : Act Unit) = call.deliver level sink := by
      cases call <;> rfl
    rw [hdeliver, sink.deliver_eq, Act.emit, Act.runOn_step, hears]
    split <;> rfl
  | json sink =>
    have hdeliver : (call.deliver level (Sink.json sink) : Act Unit) = call.deliver level sink := by
      cases call <;> rfl
    rw [hdeliver, hears, emit]
    by_cases within : call.Within level sink.maxVerbosity
    · rw [if_pos (decide_eq_true within), JsonSink.deliver_eq within]
    · rw [if_neg (by simpa using within), JsonSink.deliver_eq_of_not within, Act.runOn_pure]
  | recording sink => exact writes.elim

theorem emit_keeps_threshold (level : UInt32) (call : LoggerCall) (sink : Sink) :
    Act.Keeps Collector.threshold (sink.emit level call) := by
  cases sink with
  | events sink =>
    rw [emit]
    exact .step fun _ => rfl
  | json sink =>
    rw [emit]
    exact sink.writeLine_keeps_threshold _
  | recording sink =>
    rw [emit]
    exact .pure _

end Sink

/-- To hand the call to sinks is to have those put the line out that hear it. -/
theorem runOn_forM_deliver {sinks : List Sink} (writes : ∀ sink ∈ sinks, sink.Writes) (level : UInt32)
    (call : LoggerCall) (c : Collector) :
    Act.runOn (forM sinks fun sink => call.deliver level sink) c =
      Act.runOn (forM (sinks.filter (Sink.hears c.threshold level call)) (Sink.emit level call)) c := by
  induction sinks generalizing c with
  | nil => rfl
  | cons sink rest ih =>
    obtain ⟨hsink, hrest⟩ := List.forall_mem_cons.mp writes
    rw [List.forM_cons, Act.runOn_bind, Sink.runOn_deliver hsink, List.filter_cons]
    by_cases hhears : sink.hears c.threshold level call = true
    · rw [if_pos hhears, if_pos hhears, List.forM_cons, Act.runOn_bind]
      rcases hrun : Act.runOn (sink.emit level call) c with ⟨crash | _, after⟩
      · rfl
      · have hkept : after.threshold = c.threshold := (sink.emit_keeps_threshold level call).after hrun
        simp only [ih hrest, hkept]
    · rw [if_neg hhears, if_neg hhears]
      exact ih hrest c

/-! ## Which sinks want a line -/

namespace Sink

/-- The highest verbosity that the sink takes. -/
def limit : Sink → UInt32
  | .events sink => sink.maxVerbosity
  | .json sink => sink.maxVerbosity
  | .recording sink => sink.maxLevel.getD 0xFFFFFFFF

/-- What the sink answers when it is asked whether it wants a line. -/
def wants (threshold : Threshold) (level : UInt32) : Sink → Bool
  | .events sink => decide (level ≤ sink.maxVerbosity) && threshold.admits (lineSeverity level)
  | .json sink => decide (level ≤ sink.maxVerbosity)
  | .recording sink => sink.admits level

theorem runOn_enabled {sink : Sink} (writes : sink.Writes) (level : UInt32) (c : Collector) :
    Act.runOn (LogSink.enabled sink level) c = (.ok (sink.wants c.threshold level), c) := by
  cases sink with
  | events sink =>
    show Act.runOn (if level ≤ sink.maxVerbosity then Act.enabled (.ofVerbosity level)
      else return false) c = _
    rw [Severity.ofVerbosity_eq]
    by_cases within : level ≤ sink.maxVerbosity
    · rw [if_pos within, wants, decide_eq_true within, Bool.true_and]
      rfl
    · rw [if_neg within, wants, decide_eq_false within, Bool.false_and]
      rfl
  | json sink => rfl
  | recording sink => exact writes.elim

end Sink

/-- Sinks are asked without effects. -/
theorem runOn_allM_enabled {sinks : List Sink} (writes : ∀ sink ∈ sinks, sink.Writes) (level : UInt32)
    (c : Collector) :
    Act.runOn (sinks.allM fun sink => LogSink.enabled sink level) c =
      (.ok (sinks.all (Sink.wants c.threshold level)), c) := by
  induction sinks with
  | nil => rfl
  | cons sink rest ih =>
    obtain ⟨hsink, hrest⟩ := List.forall_mem_cons.mp writes
    rw [List.allM_cons, Act.runOn_bind, Sink.runOn_enabled hsink, List.all_cons]
    cases sink.wants c.threshold level with
    | false => rfl
    | true => exact ih hrest

/-- The verbosity is within the limit of each sink, and if one of them writes events, the subscriber takes
those of the verbosity. -/
structure Open (threshold : Threshold) (sinks : List Sink) (level : UInt32) : Prop where
  within : ∀ sink ∈ sinks, level ≤ sink.limit
  heard : ∀ sink, Sink.events sink ∈ sinks → threshold.admits (lineSeverity level) = true

theorem Sink.wants_iff {sink : Sink} (writes : sink.Writes) {threshold : Threshold} {level : UInt32} :
    sink.wants threshold level = true ↔ level ≤ sink.limit ∧
      ∀ inner, sink = .events inner → threshold.admits (lineSeverity level) = true := by
  cases sink with
  | events sink => simp [wants, limit]
  | json sink => simp [wants, limit]
  | recording sink => exact writes.elim

theorem all_wants_iff {sinks : List Sink} (writes : ∀ sink ∈ sinks, sink.Writes) {threshold : Threshold}
    {level : UInt32} :
    sinks.all (Sink.wants threshold level) = true ↔ Open threshold sinks level := by
  rw [List.all_eq_true]
  constructor
  · intro hwants
    refine ⟨fun sink hsink => ?_, fun inner hinner => ?_⟩
    · exact ((Sink.wants_iff (writes sink hsink)).mp (hwants sink hsink)).1
    · exact ((Sink.wants_iff (writes _ hinner)).mp (hwants _ hinner)).2 inner rfl
  · intro hopen sink hsink
    refine (Sink.wants_iff (writes sink hsink)).mpr ⟨hopen.within sink hsink, ?_⟩
    rintro inner rfl
    exact hopen.heard inner hsink

/-- A line of lower verbosity is at least as grave. -/
theorem rank_lineSeverity_le {level level' : UInt32} (h : level' ≤ level) :
    (lineSeverity level').rank ≤ (lineSeverity level).rank := by
  rw [UInt32.le_iff_toNat_le] at h
  simp only [lineSeverity]
  split <;> split <;> simp only [Severity.rank] <;> omega

/-- What is at least as grave as something that is let through is let through. -/
theorem Threshold.admits_of_rank_le {threshold : Threshold} {severity grave : Severity}
    (h : grave.rank ≤ severity.rank) (hadmits : threshold.admits severity = true) :
    threshold.admits grave = true := by
  cases threshold with
  | off => cases hadmits
  | upTo limit =>
    simp only [admits, decide_eq_true_eq] at hadmits ⊢
    exact Nat.le_trans h hadmits

/-- Sinks that want lines of a verbosity want those of lower ones. -/
theorem Open.of_le {threshold : Threshold} {sinks : List Sink} {level level' : UInt32}
    (h : Open threshold sinks level) (hle : level' ≤ level) : Open threshold sinks level' where
  within sink hsink := UInt32.le_trans hle (h.within sink hsink)
  heard sink hsink :=
    Threshold.admits_of_rank_le (rank_lineSeverity_le hle) (h.heard sink hsink)

/-- Sinks that want an ordinary line put it out. -/
theorem Open.filter_hears {threshold : Threshold} {sinks : List Sink} {level : UInt32}
    (h : Open threshold sinks level) (writes : ∀ sink ∈ sinks, sink.Writes) (message : String)
    (pairs : List KeyValue) :
    sinks.filter (Sink.hears threshold level (.info message pairs)) = sinks := by
  refine List.filter_eq_self.mpr fun sink hsink => ?_
  cases sink with
  | events sink => exact h.heard sink hsink
  | json sink => exact decide_eq_true (h.within _ hsink)
  | recording sink => exact (writes _ hsink).elim

/-! ## One line for each sink -/

namespace Sink

/-- The observation is the line of the sink for the call. -/
inductive IsLine (c : Collector) (level : UInt32) (call : LoggerCall) : Sink → Observation → Prop where
  | event (sink : EventSink) :
    IsLine c level call (.events sink) (.event (call.severity level) none (sink.fields level call))
  | line {sink : JsonSink} {writer : Writer} (h : c.writers[sink.writer]? = some writer) :
    IsLine c level call (.json sink)
      (.line writer.destination (Json.object (sink.members c.clock level call)).print)

/-- If the sink writes JSON lines, its writer is ready. -/
def Ready (c : Collector) : Sink → Prop
  | .json sink => ∃ writer, c.writers[sink.writer]? = some writer ∧ writer.Ready
  | .events _ | .recording _ => True

end Sink

/-- Nothing happened to the writers but that some were called, and no time went by. -/
structure WritersKept (c c' : Collector) : Prop where
  clock : c'.clock = c.clock
  writers {index : Nat} {writer : Writer} (h : c.writers[index]? = some writer) :
    ∃ calls, c'.writers[index]? = some { writer with calls }

/-- A sink with a ready writer puts one line out. -/
theorem Sink.exists_runOn_emit {sink : Sink} (writes : sink.Writes) {c₀ c : Collector}
    (ready : sink.Ready c₀) (kept : WritersKept c₀ c) (level : UInt32) (call : LoggerCall) :
    ∃ line c', Act.runOn (sink.emit level call) c = (.ok (), c') ∧ c'.journal = c.journal ++ [line] ∧
      sink.IsLine c₀ level call line ∧ WritersKept c₀ c' := by
  cases sink with
  | events sink => exact ⟨_, _, rfl, rfl, .event sink, kept.clock, kept.writers⟩
  | json sink =>
    obtain ⟨writer, hwriter, hready⟩ := ready
    obtain ⟨called, hcalled⟩ := kept.writers hwriter
    obtain ⟨calls, hrun⟩ := JsonSink.runOn_writeLine hcalled ⟨hready.1, hready.2, hready.3⟩
      fun time => sink.members time level call
    have hline : IsLine c₀ level call (.json sink)
        (.line writer.destination (Json.object (sink.members c.clock level call)).print) := by
      rw [kept.clock]
      exact .line hwriter
    refine ⟨_, _, hrun, rfl, hline, kept.clock, fun {index other} hother => ?_⟩
    by_cases hindex : sink.writer = index
    · subst hindex
      obtain rfl := Option.some.inj (hwriter.symm.trans hother)
      exact ⟨calls, List.getElem?_set_self (List.getElem?_eq_some_iff.mp hcalled).1⟩
    · obtain ⟨others, hothers⟩ := kept.writers hother
      exact ⟨others, (List.getElem?_set_ne hindex).trans hothers⟩
  | recording sink => exact writes.elim

/-- Sinks with ready writers put one line out each, in order. -/
theorem exists_lines {sinks : List Sink} (writes : ∀ sink ∈ sinks, sink.Writes) {c₀ c : Collector}
    (ready : ∀ sink ∈ sinks, sink.Ready c₀) (kept : WritersKept c₀ c) (level : UInt32)
    (call : LoggerCall) :
    ∃ lines c', Act.runOn (forM sinks (Sink.emit level call)) c = (.ok (), c') ∧
      c'.journal = c.journal ++ lines ∧ List.Forall₂ (Sink.IsLine c₀ level call) sinks lines := by
  induction sinks generalizing c with
  | nil => exact ⟨[], c, rfl, (List.append_nil _).symm, .nil⟩
  | cons sink rest ih =>
    obtain ⟨hwrites, hrestWrites⟩ := List.forall_mem_cons.mp writes
    obtain ⟨hready, hrestReady⟩ := List.forall_mem_cons.mp ready
    obtain ⟨line, c₁, hrun, hjournal, hline, hkept⟩ :=
      Sink.exists_runOn_emit hwrites hready kept level call
    obtain ⟨lines, c', hrest, hjournal', hlines⟩ := ih hrestWrites hrestReady hkept
    refine ⟨line :: lines, c', ?_, ?_, .cons hline hlines⟩
    · rw [List.forM_cons, Act.runOn_bind, hrun]
      exact hrest
    · rw [hjournal', hjournal, List.append_assoc, List.singleton_append]

/-- The action has the sinks put the line of the call out, whatever becomes of the lines; with ready
writers that is one line each, in order, and nothing else shows. -/
def EmitsLines (level : UInt32) (call : LoggerCall) (sinks : List Sink) (action : Act Unit)
    (c : Collector) : Prop :=
  Act.runOn action c = Act.runOn (forM sinks (Sink.emit level call)) c ∧
    ((∀ sink ∈ sinks, sink.Ready c) →
      ∃ lines c', Act.runOn action c = (.ok (), c') ∧ c'.journal = c.journal ++ lines ∧
        List.Forall₂ (Sink.IsLine c level call) sinks lines)

theorem emitsLines_of_runOn_eq {sinks : List Sink} (writes : ∀ sink ∈ sinks, sink.Writes)
    {level : UInt32} {call : LoggerCall} {action : Act Unit} {c : Collector}
    (h : Act.runOn action c = Act.runOn (forM sinks (Sink.emit level call)) c) :
    EmitsLines level call sinks action c := by
  refine ⟨h, fun ready => ?_⟩
  rw [h]
  exact exists_lines writes ready ⟨rfl, fun hwriter => ⟨_, hwriter⟩⟩ level call

namespace Sink

theorem Writes.labelled {sink : Sink} (writes : sink.Writes) (label : Label) :
    (sink.labelled label).Writes := by
  cases sink with
  | events sink => exact writes
  | json sink => exact writes
  | recording sink => exact writes

/-- What was attached does not matter to the writer of a sink. -/
@[simp] theorem ready_labelled (sink : Sink) (label : Label) (c : Collector) :
    (sink.labelled label).Ready c ↔ sink.Ready c := by
  cases sink <;> exact Iff.rfl

/-- What was attached does not matter when a sink is asked. -/
@[simp] theorem wants_labelled (sink : Sink) (label : Label) (threshold : Threshold) (level : UInt32) :
    (sink.labelled label).wants threshold level = sink.wants threshold level := by
  cases sink <;> rfl

/-- The leaf is the sink behind a composite logger, with something attached. -/
def LeafOf (leaf sink : Sink) : Prop := leaf = (sink.atDepth 3).labelled leaf.label

theorem LeafOf.writes {leaf sink : Sink} (h : leaf.LeafOf sink) (writes : sink.Writes) : leaf.Writes := by
  rw [h]
  exact (writes.atDepth 3).labelled leaf.label

theorem LeafOf.ready {leaf sink : Sink} {c : Collector} (h : leaf.LeafOf sink) (ready : sink.Ready c) :
    leaf.Ready c := by
  rw [h, ready_labelled]
  cases sink <;> exact ready

theorem LeafOf.wants_eq {leaf sink : Sink} (h : leaf.LeafOf sink) (threshold : Threshold)
    (level : UInt32) : leaf.wants threshold level = sink.wants threshold level := by
  rw [h, wants_labelled]
  cases sink <;> rfl

/-- Whether the sink writes JSON lines. -/
def isJson : Sink → Bool
  | .json _ => true
  | .events _ | .recording _ => false

/-- A line on an error is heard at every verbosity, but by event sinks only if the subscriber takes it. -/
theorem hears_error {sink : Sink} (writes : sink.Writes) (threshold : Threshold) (level : UInt32)
    (cause : Option String) (message : String) (pairs : List KeyValue) :
    sink.hears threshold level (.error cause message pairs) = (threshold.admits .error || sink.isJson) := by
  cases sink with
  | events sink => exact (Bool.or_false _).symm
  | json sink => exact (Bool.or_true _).symm
  | recording sink => exact writes.elim

end Sink

/-- Loggers over the tree, whose leaves are the sinks with something attached, write to all of them or to
none. -/
structure AllOrNothing (sinks : List Sink) (tree : SinkTree Sink) : Prop where
  leaves : List.Forall₂ Sink.LeafOf tree.leaves sinks
  /-- an ordinary line that they all want is put out by each -/
  info_open {c : Collector} {level : UInt32} (h : Open c.threshold sinks level) (message : String)
    (pairs : List KeyValue) :
    EmitsLines level (.info message pairs) tree.leaves (Logger.info ⟨tree, level⟩ message pairs) c
  /-- an ordinary line that one of them does not want is put out by none -/
  info_closed {c : Collector} {level : UInt32} (h : ¬ Open c.threshold sinks level) (message : String)
    (pairs : List KeyValue) :
    Act.runOn (Logger.info ⟨tree, level⟩ message pairs) c = (.ok (), c)
  /-- if some ordinary line of a verbosity shows, then all those of lower ones show -/
  downward {c : Collector} (ready : ∀ leaf ∈ tree.leaves, leaf.Ready c) {level level' : UInt32}
    (hle : level' ≤ level) {message : String} {pairs : List KeyValue}
    (shows : (Act.runOn (Logger.info ⟨tree, level⟩ message pairs) c).2.journal ≠ c.journal)
    (message' : String) (pairs' : List KeyValue) :
    (Act.runOn (Logger.info ⟨tree, level'⟩ message' pairs') c).2.journal ≠ c.journal
  /-- a line on an error is put out at every verbosity by each, event sinks apart if the subscriber does
  not take it -/
  error (c : Collector) (level : UInt32) (cause : Option String) (message : String)
    (pairs : List KeyValue) :
    EmitsLines level (.error cause message pairs)
      (if c.threshold.admits .error then tree.leaves else tree.leaves.filter Sink.isJson)
      (Logger.error ⟨tree, level⟩ cause message pairs) c

section

variable {sinks : List Sink} {tree : SinkTree Sink}

theorem all_wants_eq {leaves : List Sink} (h : List.Forall₂ Sink.LeafOf leaves sinks)
    (threshold : Threshold) (level : UInt32) :
    leaves.all (Sink.wants threshold level) = sinks.all (Sink.wants threshold level) := by
  induction h with
  | nil => rfl
  | cons hleaf _ ih => rw [List.all_cons, List.all_cons, hleaf.wants_eq, ih]

/-- What each leaf has from its sink, all leaves have from all sinks. -/
theorem forall_leaves {leaves : List Sink} (h : List.Forall₂ Sink.LeafOf leaves sinks) {P : Sink → Prop}
    (of_sink : ∀ {leaf sink : Sink}, leaf.LeafOf sink → P sink → P leaf) (hsinks : ∀ sink ∈ sinks, P sink) :
    ∀ leaf ∈ leaves, P leaf := by
  induction h with
  | nil => exact hsinks
  | cons hleaf _ ih =>
    obtain ⟨hsink, hrest⟩ := List.forall_mem_cons.mp hsinks
    exact List.forall_mem_cons.mpr ⟨of_sink hleaf hsink, ih hrest⟩

/-- An ordinary line is put out by the sinks that hear it, if they all want it. -/
theorem runOn_info (writes : ∀ leaf ∈ tree.leaves, leaf.Writes) (level : UInt32) (message : String)
    (pairs : List KeyValue) (c : Collector) :
    Act.runOn (Logger.info ⟨tree, level⟩ message pairs) c =
      if tree.leaves.all (Sink.wants c.threshold level) then
        Act.runOn (forM (tree.leaves.filter (Sink.hears c.threshold level (.info message pairs)))
          (Sink.emit level (.info message pairs))) c
      else (.ok (), c) := by
  have hspread : Logger.info ⟨tree, level⟩ message pairs =
      LoggerCall.spread (m := Act) level tree.leaves (.info message pairs) :=
    SinkTree.make_eq_spread tree level (.info message pairs)
  rw [hspread, LoggerCall.spread, Act.runOn_bind, LoggerCall.wanted, runOn_allM_enabled writes]
  cases tree.leaves.all (Sink.wants c.threshold level) with
  | false => rfl
  | true => exact runOn_forM_deliver writes level (.info message pairs) c

/-- A line on an error is put out by the sinks that hear it. -/
theorem runOn_error (writes : ∀ leaf ∈ tree.leaves, leaf.Writes) (level : UInt32)
    (cause : Option String) (message : String) (pairs : List KeyValue) (c : Collector) :
    Act.runOn (Logger.error ⟨tree, level⟩ cause message pairs) c =
      Act.runOn (forM (if c.threshold.admits .error then tree.leaves else tree.leaves.filter Sink.isJson)
        (Sink.emit level (.error cause message pairs))) c := by
  have hbroadcast : Logger.error ⟨tree, level⟩ cause message pairs =
      forM (m := Act) tree.leaves fun leaf => LoggerCall.deliver level leaf (.error cause message pairs) :=
    SinkTree.broadcast_eq_forM _ tree
  have hhears : tree.leaves.filter (Sink.hears c.threshold level (.error cause message pairs)) =
      if c.threshold.admits .error then tree.leaves else tree.leaves.filter Sink.isJson := by
    rw [List.filter_congr fun leaf hleaf => Sink.hears_error (writes leaf hleaf) _ _ _ _ _]
    cases c.threshold.admits .error <;> simp
  rw [hbroadcast, runOn_forM_deliver writes, hhears]

/-- A composite logger writes to all of its sinks or to none. -/
theorem allOrNothing_of_leaves (writes : ∀ sink ∈ sinks, sink.Writes)
    (hleaves : List.Forall₂ Sink.LeafOf tree.leaves sinks) : AllOrNothing sinks tree := by
  have hwrites := forall_leaves hleaves Sink.LeafOf.writes writes
  have hopen {c : Collector} {level : UInt32} :
      tree.leaves.all (Sink.wants c.threshold level) = true ↔ Open c.threshold sinks level := by
    rw [all_wants_eq hleaves, all_wants_iff writes]
  have info_open {c : Collector} {level : UInt32} (h : Open c.threshold sinks level) (message : String)
      (pairs : List KeyValue) :
      EmitsLines level (.info message pairs) tree.leaves (Logger.info ⟨tree, level⟩ message pairs) c := by
    have hall := hopen.mpr h
    refine emitsLines_of_runOn_eq hwrites ?_
    rw [runOn_info hwrites, if_pos hall,
      Open.filter_hears ((all_wants_iff hwrites).mp hall) hwrites]
  have info_closed {c : Collector} {level : UInt32} (h : ¬ Open c.threshold sinks level)
      (message : String) (pairs : List KeyValue) :
      Act.runOn (Logger.info ⟨tree, level⟩ message pairs) c = (.ok (), c) := by
    rw [runOn_info hwrites, if_neg fun hall => h (hopen.mp hall)]
  refine ⟨hleaves, info_open, info_closed, ?_, fun c level cause message pairs => ?_⟩
  · intro c ready level level' hle message pairs shows message' pairs'
    have h : Open c.threshold sinks level := by
      refine Classical.byContradiction fun hclosed => shows ?_
      rw [info_closed hclosed]
    obtain ⟨lines, c', hrun, hjournal, hlines⟩ := (info_open h message pairs).2 ready
    obtain ⟨lines', c'', hrun', hjournal', hlines'⟩ :=
      (info_open (h.of_le hle) message' pairs').2 ready
    have hlength : lines'.length = lines.length := by rw [← hlines'.length_eq, hlines.length_eq]
    rw [hrun, hjournal, ne_eq, List.append_right_eq_self, ← List.length_eq_zero_iff] at shows
    rw [hrun', hjournal', ne_eq, List.append_right_eq_self, ← List.length_eq_zero_iff, hlength]
    exact shows
  · refine emitsLines_of_runOn_eq ?_ (runOn_error hwrites level cause message pairs c)
    split
    · exact hwrites
    · exact fun leaf hleaf => hwrites leaf (List.mem_of_mem_filter hleaf)

end

/-! ## Composite loggers -/

theorem placed_leaves (sinks : List Sink) :
    (SinkTree.fanout (sinks.map .leaf)).placed = sinks.map fun sink => (sink, 1) := by
  rw [SinkTree.placed]
  induction sinks with
  | nil => rfl
  | cons sink rest ih => rw [List.map_cons, SinkTree.placedAll, List.map_append, ih]; rfl

theorem Sink.leafOf_labelled (sink : Sink) (label : Label) :
    LeafOf ((sink.atDepth 3).labelled label) sink := by
  rw [LeafOf, label_labelled]

/-- Every logger derived from a composite one has the sinks as leaves, with something attached. -/
theorem exists_composite {sinks : List Sink} (writes : ∀ sink ∈ sinks, sink.Writes) (c : Collector) :
    ∃ root, Act.runOn (Logger.composite (sinks.map .leaf)) c = (.ok root, c) ∧ root.level = 0 ∧
      ∀ steps, ∃ logger, (∀ c, Act.runOn (root.derive steps) c = (.ok logger, c)) ∧
        List.Forall₂ Sink.LeafOf logger.sink.leaves sinks := by
  have hleaves : (SinkTree.fanout (sinks.map .leaf)).leaves = sinks := SinkTree.leavesAll_map_leaf sinks
  obtain ⟨root, hroot, hlevel, -, hinit⟩ :=
    Logger.exists_create (fun sink hsink => writes sink (hleaves ▸ hsink)) c
  rw [placed_leaves, List.map_map] at hinit
  have hwrites : ∀ sink ∈ root.sink.leaves, sink.Writes := by
    intro leaf hleaf
    rw [hinit] at hleaf
    obtain ⟨sink, hsink, rfl⟩ := List.mem_map.mp hleaf
    exact (writes sink hsink).atDepth 3
  refine ⟨root, hroot, hlevel, fun steps => ⟨root.derived steps, fun c => ?_, ?_⟩⟩
  · rw [Logger.derive_eq hwrites, Act.runOn_pure]
  · rw [Logger.derived, SinkTree.leaves_map, hinit, List.map_map, List.forall₂_map_left_iff]
    exact List.forall₂_same.mpr fun sink _ => sink.leafOf_labelled _

namespace Startup

/-- The sink is of the configured kind, with a writer of its own kind if it needs one. -/
inductive IsConfigured (c : Collector) (verbosity : UInt32) : SinkKind → Sink → Prop where
  | tracing : IsConfigured c verbosity .tracing (.events { maxVerbosity := verbosity })
  | jsonStdout {index : Nat}
    (h : c.writers[index]? = some { destination := .stdout, behaviour := .accepting }) :
    IsConfigured c verbosity .jsonStdout (.json { writer := index, maxVerbosity := verbosity })
  | jsonStderr {index : Nat}
    (h : c.writers[index]? = some { destination := .stderr, behaviour := .accepting }) :
    IsConfigured c verbosity .jsonStderr (.json { writer := index, maxVerbosity := verbosity })

theorem IsConfigured.writes {c : Collector} {verbosity : UInt32} {kind : SinkKind} {sink : Sink}
    (h : IsConfigured c verbosity kind sink) : sink.Writes := by
  cases h <;> trivial

theorem IsConfigured.ready {c : Collector} {verbosity : UInt32} {kind : SinkKind} {sink : Sink}
    (h : IsConfigured c verbosity kind sink) : sink.Ready c := by
  cases h with
  | tracing => trivial
  | jsonStdout h => exact ⟨_, h, trivial, rfl, rfl⟩
  | jsonStderr h => exact ⟨_, h, trivial, rfl, rfl⟩

/-- A sink stays as it is configured when further writers are made. -/
theorem IsConfigured.of_writers {c c' : Collector} {verbosity : UInt32} {kind : SinkKind} {sink : Sink}
    (h : IsConfigured c verbosity kind sink) {more : List Writer} (hmore : c'.writers = c.writers ++ more) :
    IsConfigured c' verbosity kind sink := by
  have hkept {index : Nat} {writer : Writer} (hwriter : c.writers[index]? = some writer) :
      c'.writers[index]? = some writer := by
    rw [hmore, List.getElem?_append_left (List.getElem?_eq_some_iff.mp hwriter).1, hwriter]
  cases h with
  | tracing => exact .tracing
  | jsonStdout h => exact .jsonStdout (hkept h)
  | jsonStderr h => exact .jsonStderr (hkept h)

/-- A sink is made as it is configured, and nothing happens but that a writer may be added. -/
theorem exists_createSink (verbosity : UInt32) (kind : SinkKind) (c : Collector) :
    ∃ sink more, let c' := { c with writers := c.writers ++ more }
      Act.runOn (createSink verbosity kind) c = (.ok sink, c') ∧ IsConfigured c' verbosity kind sink := by
  cases kind with
  | tracing =>
    refine ⟨.events { maxVerbosity := verbosity }, [], ?_, .tracing⟩
    rw [List.append_nil]
    rfl
  | jsonStdout => exact ⟨_, _, rfl, .jsonStdout List.getElem?_concat_length⟩
  | jsonStderr => exact ⟨_, _, rfl, .jsonStderr List.getElem?_concat_length⟩

theorem exists_createSinks (verbosity : UInt32) (kinds : List SinkKind) (c : Collector) :
    ∃ sinks more, let c' := { c with writers := c.writers ++ more }
      Act.runOn (kinds.mapM (createSink verbosity)) c = (.ok sinks, c') ∧
        List.Forall₂ (IsConfigured c' verbosity) kinds sinks := by
  induction kinds generalizing c with
  | nil =>
    refine ⟨[], [], ?_, .nil⟩
    rw [List.append_nil]
    rfl
  | cons kind rest ih =>
    obtain ⟨sink, first, hsink, hconfigured⟩ := exists_createSink verbosity kind c
    obtain ⟨sinks, others, hsinks, hrest⟩ := ih { c with writers := c.writers ++ first }
    refine ⟨sink :: sinks, first ++ others, ?_, .cons ?_ ?_⟩
    · simp only [List.mapM_cons, Act.runOn_bind, hsink, hsinks, Act.runOn_pure, List.append_assoc]
    · exact hconfigured.of_writers (List.append_assoc ..).symm
    · simpa only [List.append_assoc] using hrest

theorem writes_and_ready {c : Collector} {verbosity : UInt32} {kinds : List SinkKind} {sinks : List Sink}
    (h : List.Forall₂ (IsConfigured c verbosity) kinds sinks) :
    ∀ sink ∈ sinks, sink.Writes ∧ sink.Ready c := by
  induction h with
  | nil => exact fun _ hsink => absurd hsink List.not_mem_nil
  | cons hsink _ ih => exact List.forall_mem_cons.mpr ⟨⟨hsink.writes, hsink.ready⟩, ih⟩

end Startup

/-- **All or nothing.**  Whatever is derived from a composite logger over event sinks and JSON sinks puts
an ordinary line out by each of them if they all want it and by none otherwise, and a line on an error by
each.  The configured logger is composed of the configured sinks, and their writers are ready. -/
theorem composite_all_or_nothing :
    (∀ {sinks : List Sink}, (∀ sink ∈ sinks, sink.Writes) → ∀ c : Collector,
      ∃ root, Act.runOn (Logger.composite (sinks.map .leaf)) c = (.ok root, c) ∧ root.level = 0 ∧
        ∀ steps, ∃ logger, (∀ c, Act.runOn (root.derive steps) c = (.ok logger, c)) ∧
          AllOrNothing sinks logger.sink) ∧
    ∀ (config : Config.Logging) (c : Collector), ∃ sinks more root,
      let c' := { c with writers := c.writers ++ more }
      Act.runOn (Startup.buildLogger config) c = (.ok root, c') ∧ root.level = 0 ∧
        List.Forall₂ (Startup.IsConfigured c' config.verbosity) config.sinks sinks ∧
        ∀ steps, ∃ logger, (∀ c, Act.runOn (root.derive steps) c = (.ok logger, c)) ∧
          AllOrNothing sinks logger.sink ∧ ∀ leaf ∈ logger.sink.leaves, leaf.Ready c' := by
  refine ⟨fun {sinks} writes c => ?_, fun config c => ?_⟩
  · obtain ⟨root, hroot, hlevel, hderived⟩ := exists_composite writes c
    refine ⟨root, hroot, hlevel, fun steps => ?_⟩
    obtain ⟨logger, hlogger, hleaves⟩ := hderived steps
    exact ⟨logger, hlogger, allOrNothing_of_leaves writes hleaves⟩
  · obtain ⟨sinks, more, hsinks, hconfigured⟩ :=
      Startup.exists_createSinks config.verbosity config.sinks c
    have hwritesReady := Startup.writes_and_ready hconfigured
    have writes (sink : Sink) (hsink : sink ∈ sinks) : sink.Writes := (hwritesReady sink hsink).1
    have ready (sink : Sink) (hsink : sink ∈ sinks) := (hwritesReady sink hsink).2
    obtain ⟨root, hroot, hlevel, hderived⟩ :=
      exists_composite writes { c with writers := c.writers ++ more }
    refine ⟨sinks, more, root, ?_, hlevel, hconfigured, fun steps => ?_⟩
    · rw [Startup.buildLogger, Act.runOn_bind, hsinks]
      exact hroot
    · obtain ⟨logger, hlogger, hleaves⟩ := hderived steps
      exact ⟨logger, hlogger, allOrNothing_of_leaves writes hleaves,
        forall_leaves hleaves Sink.LeafOf.ready ready⟩

/-- A JSON sink that takes less than the event sink beside it. -/
def mixedSinks : List Sink :=
  [.json { writer := 0, maxVerbosity := 2 }, .events { maxVerbosity := 7 }]

/-- The writer of the JSON sink is ready, and the subscriber takes all but the finest events. -/
def mixedCollector : Collector where
  threshold := .upTo .debug
  idText _ := ""
  writers := [{ destination := .stdout, behaviour := .accepting }]

/-- Both sinks put a line of the verbosity out where the subscriber takes nothing finer than `finest`, and
the event is of the severity. -/
def BothTell (logger : Logger (SinkTree Sink)) (finest : Severity) (level : UInt32)
    (severity : Severity) : Prop :=
  ∃ line fields c', Act.runOn (Logger.info ⟨logger.sink, level⟩ "told" [])
      { mixedCollector with threshold := .upTo finest } = (.ok (), c') ∧
    c'.journal = [.line .stdout line, .event severity none fields]

/-- Neither does, and nothing changes. -/
def NeitherTells (logger : Logger (SinkTree Sink)) (finest : Severity) (level : UInt32) : Prop :=
  Act.runOn (Logger.info ⟨logger.sink, level⟩ "told" [])
      { mixedCollector with threshold := .upTo finest } =
    (.ok (), { mixedCollector with threshold := .upTo finest })

/-- A line that is too fine for the subscriber is put out by neither sink, and a coarser one by both; where
the subscriber takes everything, the limit of the JSON sink counts for both of them. -/
theorem composite_all_or_nothing_mixed :
    (∀ sink ∈ mixedSinks, sink.Writes) ∧
    ∃ root logger, Act.runOn (Logger.composite (mixedSinks.map .leaf)) mixedCollector =
        (.ok root, mixedCollector) ∧
      Act.runOn (root.derive [.attach (.withName "a"), .verbose 1]) mixedCollector =
        (.ok logger, mixedCollector) ∧
      NeitherTells logger .warn 0 ∧
      BothTell logger .info 0 .info ∧ NeitherTells logger .info 1 ∧
      BothTell logger .debug 1 .debug ∧ NeitherTells logger .debug 2 ∧
      BothTell logger .trace 2 .trace ∧ NeitherTells logger .trace 3 := by
  have writes : ∀ sink ∈ mixedSinks, sink.Writes := by
    simp [mixedSinks, Sink.Writes]
  obtain ⟨root, hroot, -, hderived⟩ :=
    composite_all_or_nothing.1 writes mixedCollector
  obtain ⟨logger, hlogger, hall⟩ := hderived [.attach (.withName "a"), .verbose 1]
  have hboth {finest : Severity} {level : UInt32} (hopen : Open (.upTo finest) mixedSinks level) :
      BothTell logger finest level (lineSeverity level) := by
    let c : Collector := { mixedCollector with threshold := .upTo finest }
    have ready : ∀ sink ∈ mixedSinks, sink.Ready c :=
      List.forall_mem_cons.mpr ⟨⟨_, rfl, trivial, rfl, rfl⟩, List.forall_mem_singleton.mpr trivial⟩
    obtain ⟨lines, c', hrun, hjournal, hlines⟩ :=
      (hall.info_open (c := c) hopen "told" []).2 (forall_leaves hall.leaves Sink.LeafOf.ready ready)
    have hleaves := hall.leaves
    generalize logger.sink.leaves = leaves at hlines hleaves
    -- two leaves, and the line of each of them
    obtain _ | ⟨hjson, _ | ⟨hevents, _ | _⟩⟩ := hleaves
    obtain ⟨json, hjson, hwriter⟩ : ∃ json, _ = Sink.json json ∧ json.writer = 0 := ⟨_, hjson, rfl⟩
    obtain ⟨events, hevents⟩ : ∃ events, _ = Sink.events events := ⟨_, hevents⟩
    subst hjson hevents
    obtain _ | ⟨hline, _ | ⟨hevent, _ | _⟩⟩ := hlines
    obtain _ | hready := hline
    cases hevent
    rw [hwriter] at hready
    obtain rfl := Option.some.inj hready
    exact ⟨_, _, c', hrun, hjournal⟩
  have hneither {finest : Severity} {level : UInt32} (hclosed : ¬ Open (.upTo finest) mixedSinks level) :
      NeitherTells logger finest level := hall.info_closed hclosed "told" []
  have hopen {finest : Severity} {level : UInt32} (hwithin : level ≤ 2)
      (hheard : (Threshold.upTo finest).admits (lineSeverity level) = true) :
      Open (.upTo finest) mixedSinks level := by
    refine ⟨List.forall_mem_cons.mpr ⟨hwithin, List.forall_mem_singleton.mpr ?_⟩, fun _ _ => hheard⟩
    exact UInt32.le_trans hwithin (by decide)
  have hunheard {finest : Severity} {level : UInt32}
      (h : (Threshold.upTo finest).admits (lineSeverity level) = false) :
      ¬ Open (.upTo finest) mixedSinks level := by
    intro hopen
    have hheard := hopen.heard { maxVerbosity := 7 } (by simp [mixedSinks])
    rw [h] at hheard
    cases hheard
  have habove : ¬ Open (.upTo .trace) mixedSinks 3 := fun h =>
    absurd (h.within (.json { writer := 0, maxVerbosity := 2 }) (by simp [mixedSinks])) (by decide)
  exact ⟨writes, root, logger, hroot, hlogger _, hneither (hunheard rfl),
    hboth (hopen (by decide) rfl), hneither (hunheard rfl), hboth (hopen (by decide) rfl),
    hneither (hunheard rfl), hboth (hopen (by decide) rfl), hneither habove⟩

end Observability
