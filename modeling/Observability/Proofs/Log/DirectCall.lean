import Observability.Proofs.Log.Gate

/-!
# Ordinary lines without a logger

A logger asks before it writes an ordinary line.  Whoever hands the line to a sink directly, or to a
fan-out, relies on each sink to hold back what it would not want.  JSON sinks do so.  Event sinks look at
the subscriber only, and so put out a line above their own limit if the subscriber takes its severity.

* `Sink.overlooks` says of a sink that it puts out an ordinary line that it does not want.
* `Sink.hears_info`: a sink puts an ordinary line out exactly if it wants it or overlooks that it does not.
* `Sink.shows_iff` says the same of what shows in the journal.
* `SinkTree.emitsLines_info` says of a fan-out which of its leaves put the line out.

`direct_line_put_out` puts this together for every sink that was derived by attaching something, and for
every tree of such sinks.  `unwanted_line_put_out` is a line that a sink puts out though it is not enabled.
-/

namespace Observability

namespace Sink

/-- Whether the sink puts out an ordinary line that it says it does not want: an event sink does so with a
line above its limit whose severity the subscriber takes. -/
def overlooks (threshold : Threshold) (level : UInt32) : Sink → Bool
  | .events sink => decide (sink.maxVerbosity < level) && threshold.admits (lineSeverity level)
  | .json _ | .recording _ => false

/-! ## What attachments leave alone -/

/-- To attach things to a sink gives one with the label that they add up to. -/
theorem attachAll_eq {sink : Sink} (writes : sink.Writes) (attachments : List Attachment) :
    (LogSink.attachAll sink attachments : Act Sink) =
      pure (sink.labelled (sink.label.attachAll attachments)) := by
  have hattached := (Sink.followsLabel writes).attachAll sink.label attachments
  rwa [labelled_label] at hattached

@[simp] theorem overlooks_labelled (sink : Sink) (label : Label) (threshold : Threshold)
    (level : UInt32) : (sink.labelled label).overlooks threshold level = sink.overlooks threshold level := by
  cases sink <;> rfl

/-! ## One sink -/

section

variable {sink : Sink} {threshold : Threshold} {level : UInt32}

theorem wants_of_overlooks (h : sink.overlooks threshold level = true) :
    sink.wants threshold level = false := by
  cases sink with
  | events sink =>
    simp only [overlooks, Bool.and_eq_true, decide_eq_true_eq] at h
    have habove : ¬ level ≤ sink.maxVerbosity := UInt32.not_le.mpr h.1
    simp [wants, habove]
  | json sink => cases h
  | recording sink => cases h

/-- A sink puts an ordinary line out if it wants it, or if it overlooks that it does not. -/
theorem hears_info (writes : sink.Writes) (message : String) (pairs : List KeyValue) :
    sink.hears threshold level (.info message pairs) =
      (sink.wants threshold level || sink.overlooks threshold level) := by
  cases sink with
  | events sink =>
    have hhears : hears threshold level (.info message pairs) (.events sink) =
        threshold.admits (lineSeverity level) := rfl
    rw [hhears, wants, overlooks]
    by_cases hwithin : level ≤ sink.maxVerbosity
    · have hnot : ¬ sink.maxVerbosity < level := UInt32.not_lt.mpr hwithin
      simp [hwithin, hnot]
    · have habove : sink.maxVerbosity < level := UInt32.not_le.mp hwithin
      simp [hwithin, habove]
  | json sink =>
    rw [hears, wants, overlooks, Bool.or_false]
    rfl
  | recording sink => exact writes.elim

/-- An ordinary line that is handed to a sink is put out, or nothing happens. -/
theorem emitsLines_info (writes : sink.Writes) (level : UInt32) (message : String)
    (pairs : List KeyValue) (c : Collector) :
    EmitsLines level (.info message pairs)
      (if sink.wants c.threshold level || sink.overlooks c.threshold level then [sink] else [])
      (LogSink.info sink level message pairs) c := by
  have hrun := runOn_deliver writes level (.info message pairs) c
  rw [hears_info writes] at hrun
  refine emitsLines_of_runOn_eq ?_ ?_
  · intro other hother
    split at hother
    · rw [List.mem_singleton.mp hother]
      exact writes
    · cases hother
  · rw [show Act.runOn (LogSink.info sink level message pairs) c = _ from hrun]
    split
    · rw [List.forM_cons, Act.runOn_bind]
      rcases Act.runOn (sink.emit level (.info message pairs)) c with ⟨crash | _, after⟩ <;> rfl
    · rfl

variable {c : Collector}

/-- With a ready writer, an ordinary line shows if the sink wants it, or overlooks that it does not. -/
theorem shows_iff (writes : sink.Writes) (ready : sink.Ready c) (level : UInt32) (message : String)
    (pairs : List KeyValue) :
    (Act.runOn (LogSink.info sink level message pairs) c).2.journal ≠ c.journal ↔
      sink.wants c.threshold level = true ∨ sink.overlooks c.threshold level = true := by
  have hemits := (emitsLines_info writes level message pairs c).2
  rw [← Bool.or_eq_true]
  cases hput : sink.wants c.threshold level || sink.overlooks c.threshold level with
  | false =>
    rw [hput] at hemits
    obtain ⟨lines, c', hrun, hjournal, hlines⟩ := hemits (by simp)
    cases hlines
    simp [hrun, hjournal]
  | true =>
    rw [hput] at hemits
    obtain ⟨lines, c', hrun, hjournal, hlines⟩ := hemits (by simpa using ready)
    cases hlines with
    | cons _ hrest =>
      cases hrest
      simp [hrun, hjournal]

/-- What shows agrees with what the sink says of itself exactly where it does not overlook its limit. -/
theorem shows_iff_wants_iff (writes : sink.Writes) (ready : sink.Ready c) (level : UInt32)
    (message : String) (pairs : List KeyValue) :
    ((Act.runOn (LogSink.info sink level message pairs) c).2.journal ≠ c.journal ↔
        sink.wants c.threshold level = true) ↔
      sink.overlooks c.threshold level = false := by
  rw [shows_iff writes ready level]
  cases hover : sink.overlooks c.threshold level with
  | false => simp
  | true => simp [wants_of_overlooks hover]

end

end Sink

/-! ## Trees of sinks -/

/-- An ordinary line that is handed to a tree is put out by the leaves that want it and by those that
overlook that they do not, in order. -/
theorem SinkTree.emitsLines_info {tree : SinkTree Sink} (writes : ∀ leaf ∈ tree.leaves, leaf.Writes)
    (level : UInt32) (message : String) (pairs : List KeyValue) (c : Collector) :
    EmitsLines level (.info message pairs)
      (tree.leaves.filter fun leaf => leaf.wants c.threshold level || leaf.overlooks c.threshold level)
      (LogSink.info tree level message pairs) c := by
  have hbroadcast : LogSink.info tree level message pairs =
      forM (m := Act) tree.leaves fun leaf => LoggerCall.deliver level leaf (.info message pairs) :=
    SinkTree.broadcast_eq_forM _ tree
  have hhears : tree.leaves.filter (Sink.hears c.threshold level (.info message pairs)) =
      tree.leaves.filter fun leaf => leaf.wants c.threshold level || leaf.overlooks c.threshold level :=
    List.filter_congr fun leaf hleaf => Sink.hears_info (writes leaf hleaf) message pairs
  refine emitsLines_of_runOn_eq (fun leaf hleaf => writes leaf (List.mem_of_mem_filter hleaf)) ?_
  rw [hbroadcast, runOn_forM_deliver writes, hhears]

/-- **Lines handed over directly.**  A sink that was derived by attaching anything says of a verbosity what
the one it comes from says.  It puts an ordinary line out if it wants it, or if it overlooks that it does
not; so, with a ready writer, a line shows exactly if the sink is enabled, lines apart that event sinks
overlook.  A tree puts it out by those of its leaves that do. -/
theorem direct_line_put_out (level : UInt32) (message : String) (pairs : List KeyValue) (c : Collector) :
    (∀ {sink : Sink}, sink.Writes → ∀ attachments : List Attachment,
      let derived := sink.labelled (sink.label.attachAll attachments)
      let wanted := sink.wants c.threshold level
      let overlooked := sink.overlooks c.threshold level
      (LogSink.attachAll sink attachments : Act Sink) = pure derived ∧
      Act.runOn (LogSink.enabled derived level) c = (.ok wanted, c) ∧
      EmitsLines level (.info message pairs) (if wanted || overlooked then [derived] else [])
        (LogSink.info derived level message pairs) c ∧
      (sink.Ready c →
        (((Act.runOn (LogSink.info derived level message pairs) c).2.journal ≠ c.journal ↔
            wanted = true) ↔ overlooked = false))) ∧
    ∀ {tree : SinkTree Sink}, (∀ leaf ∈ tree.leaves, leaf.Writes) →
      EmitsLines level (.info message pairs)
        (tree.leaves.filter fun leaf =>
          leaf.wants c.threshold level || leaf.overlooks c.threshold level)
        (LogSink.info tree level message pairs) c := by
  refine ⟨?_, fun writes => SinkTree.emitsLines_info writes level message pairs c⟩
  intro sink writes attachments derived wanted overlooked
  have hwrites : derived.Writes := writes.labelled _
  have hwanted : derived.wants c.threshold level = wanted := sink.wants_labelled _ _ _
  have hoverlooked : derived.overlooks c.threshold level = overlooked := sink.overlooks_labelled _ _ _
  have hasked := Sink.runOn_enabled hwrites level c
  have hemits := Sink.emitsLines_info hwrites level message pairs c
  rw [hwanted] at hasked hemits
  rw [hoverlooked] at hemits
  refine ⟨Sink.attachAll_eq writes attachments, hasked, hemits, ?_⟩
  intro ready
  have hready : derived.Ready c := (sink.ready_labelled _ c).mpr ready
  rw [← hwanted, ← hoverlooked]
  exact Sink.shows_iff_wants_iff hwrites hready level message pairs

/-- An event sink and a JSON sink of one limit. -/
def evenSinks : List Sink :=
  [.events { maxVerbosity := 0 }, .json { writer := 0, maxVerbosity := 0 }]

/-- The writer of the JSON sink is ready, and the subscriber takes every event. -/
def evenCollector : Collector where
  idText _ := ""
  writers := [{ destination := .stdout, behaviour := .accepting }]

/-- Above its limit a named JSON sink holds a line back and a named event sink does not.  In a fan-out the
event sink puts it out alone; within the limit both put it out. -/
theorem direct_line_put_out_even :
    (∀ sink ∈ evenSinks, sink.Writes ∧ sink.Ready evenCollector) ∧
    (∀ sink ∈ evenSinks, let derived := sink.labelled (sink.label.attachAll [.withName "a"])
      Act.runOn (LogSink.enabled derived 1) evenCollector = (.ok false, evenCollector) ∧
      ((Act.runOn (LogSink.info derived 1 "told" []) evenCollector).2.journal ≠ [] ↔
        sink.isJson = false)) ∧
    EmitsLines 1 (.info "told" []) [.events { maxVerbosity := 0 }]
      (LogSink.info (SinkTree.fanout (evenSinks.map .leaf)) 1 "told" []) evenCollector ∧
    EmitsLines 0 (.info "told" []) evenSinks
      (LogSink.info (SinkTree.fanout (evenSinks.map .leaf)) 0 "told" []) evenCollector := by
  have heven : ∀ sink ∈ evenSinks, sink.Writes ∧ sink.Ready evenCollector ∧
      sink.wants evenCollector.threshold 1 = false ∧
      sink.overlooks evenCollector.threshold 1 = !sink.isJson :=
    List.forall_mem_cons.mpr ⟨⟨trivial, trivial, rfl, rfl⟩,
      List.forall_mem_singleton.mpr ⟨trivial, ⟨_, rfl, trivial, rfl, rfl⟩, rfl, rfl⟩⟩
  have htree : ∀ leaf ∈ (SinkTree.fanout (evenSinks.map .leaf)).leaves, leaf.Writes :=
    fun leaf hleaf => (heven leaf hleaf).1
  refine ⟨fun sink hsink => ⟨(heven sink hsink).1, (heven sink hsink).2.1⟩, fun sink hsink => ?_,
    (direct_line_put_out 1 "told" [] evenCollector).2 htree,
    (direct_line_put_out 0 "told" [] evenCollector).2 htree⟩
  obtain ⟨writes, ready, hwants, hoverlooks⟩ := heven sink hsink
  obtain ⟨-, hasked, -, hshows⟩ :=
    (direct_line_put_out 1 "told" [] evenCollector).1 writes [.withName "a"]
  have hagree := hshows ready
  have hsilent : evenCollector.journal = [] := rfl
  rw [hwants] at hasked hagree
  rw [hoverlooks, hsilent] at hagree
  refine ⟨hasked, ?_⟩
  cases hjson : sink.isJson <;> simpa [hjson] using hagree

/-- Not every line that shows is wanted: above its limit an event sink is not enabled, and puts out what it
is handed, in a fan-out too. -/
theorem unwanted_line_put_out :
    let sink : Sink := .events { maxVerbosity := 0 }
    let line := Observation.event .debug none
      [("message", .text "told"), ("logger", .text ""), ("v", .number 1), ("fields", .text "\x7b\x7d")]
    Act.runOn (LogSink.enabled sink 1) evenCollector = (.ok false, evenCollector) ∧
    (Act.runOn (LogSink.info sink 1 "told" []) evenCollector).2.journal = [line] ∧
    (Act.runOn (LogSink.info (SinkTree.fanout [.leaf sink]) 1 "told" []) evenCollector).2.journal =
      [line] := by
  intro sink line
  exact ⟨rfl, rfl, rfl⟩

end Observability
