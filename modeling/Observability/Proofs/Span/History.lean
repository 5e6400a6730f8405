import Observability.Proofs.Span.Reports
import Observability.Tracing.Facility

/-!
# Many spans side by side

Spans live in one collector and write into one journal.  What is told there about one of them depends on
the calls on that one alone.

* `SpanLedger` is what a collector holds about spans: the cells, and what the journal says about spans.
* `SpanEvent` is what can happen to it: a span opens, or is called.
* `SpanLedger.Numbered` says that no two spans have the same number.
* `callsOn` picks the calls on one span out of what happens to all.

Every operation on spans is an event of the ledger (`ledger_call`, `exists_runOn_start` and their like),
and `applyAll_of_exported` says that after any events a span is as if only the calls on itself had
been made, and that the journal tells of it what these calls report.
-/

namespace Observability

/-- Whether the observation is about the span with the number. -/
def Observation.isOn (number : Nat) : Observation → Bool
  | .spanCreated other _ _ _ _ => other = number
  | .spanRecorded other _ => other = number
  | .event _ (some other) _ => other = number
  | _ => false

/-- Whether the observation is about a span known to the subscriber. -/
def Observation.isOnSpan : Observation → Bool
  | .spanCreated .. => true
  | .spanRecorded .. => true
  | .event _ (some _) _ => true
  | _ => false

theorem Observation.isOnSpan_of_isOn {number : Nat} {observation : Observation}
    (h : observation.isOn number = true) : observation.isOnSpan = true := by
  cases observation with
  | event severity span fields =>
    cases span with
    | none => exact h
    | some other => rfl
  | spanCreated => rfl
  | spanRecorded => rfl
  | _ => exact h

/-- The number of an exported span that is known to the subscriber. -/
def SpanCell.number? : SpanCell → Option Nat
  | .exported span => span.number
  | .silent | .recording .. => none

/-- What a collector holds about spans. -/
structure SpanLedger where
  threshold : Threshold
  created : Nat
  spans : List SpanCell
  /-- what the journal says about spans -/
  journal : List Observation

/-- What the collector holds about spans. -/
def Collector.ledger (c : Collector) : SpanLedger :=
  ⟨c.threshold, c.createdCount, c.spans, c.journal.filter Observation.isOnSpan⟩

/-- Something that happens to spans. -/
inductive SpanEvent where
  /-- an exported span opens -/
  | opened (attributes : List Attribute) (parent : Option Nat) (fields : Fields)
  /-- a span opens that is not recorded -/
  | silent
  | called (index : Nat) (call : SpanCall)

/-- The calls on the span at the index. -/
def callsOn (index : Nat) (events : List SpanEvent) : List SpanCall :=
  events.filterMap fun
    | .called other call => if other = index then some call else none
    | .opened .. | .silent => none

theorem callsOn_append (index : Nat) (before after : List SpanEvent) :
    callsOn index (before ++ after) = callsOn index before ++ callsOn index after :=
  List.filterMap_append

/-- Calls on one span are all of its own. -/
theorem callsOn_called (index other : Nat) (calls : List SpanCall) :
    callsOn index (calls.map (.called other)) = if other = index then calls else [] := by
  induction calls with
  | nil => simp [callsOn]
  | cons call rest ih =>
    rw [callsOn] at ih
    by_cases hsame : other = index <;> simp_all [callsOn]

namespace SpanLedger

/-- The number that the next exported span gets. -/
def nextNumber (ledger : SpanLedger) : Option Nat :=
  if ledger.threshold.admits .info then some (ledger.created + 1) else none

/-- The ledger after an event. -/
def apply (ledger : SpanLedger) : SpanEvent → SpanLedger
  | .opened attributes parent fields => { ledger with
      created := ledger.nextNumber.getD ledger.created
      spans := ledger.spans ++ [.exported { number := ledger.nextNumber, attributes }]
      journal := ledger.journal ++
        ledger.nextNumber.toList.map fun number => .spanCreated number "span" .info parent fields }
  | .silent => { ledger with spans := ledger.spans ++ [.silent] }
  | .called index call =>
    match ledger.spans[index]? with
    | none => ledger
    | some cell => { ledger with
        spans := ledger.spans.set index (SpanHandle.callCell ledger.threshold call cell).1
        journal := ledger.journal ++
          (SpanHandle.callCell ledger.threshold call cell).2.filter Observation.isOnSpan }

/-- The ledger after events. -/
def applyAll (ledger : SpanLedger) (events : List SpanEvent) : SpanLedger :=
  events.foldl apply ledger

theorem applyAll_cons (ledger : SpanLedger) (event : SpanEvent) (rest : List SpanEvent) :
    ledger.applyAll (event :: rest) = (ledger.apply event).applyAll rest := rfl

theorem applyAll_append (ledger : SpanLedger) (before after : List SpanEvent) :
    ledger.applyAll (before ++ after) = (ledger.applyAll before).applyAll after :=
  List.foldl_append

/-- The number of the span at the index, if it has one. -/
def numberAt (ledger : SpanLedger) (index : Nat) : Option Nat :=
  ledger.spans[index]?.bind SpanCell.number?

/-- Numbers were handed out, and no two spans have the same one. -/
structure Numbered (ledger : SpanLedger) : Prop where
  le_created : ∀ {index number}, ledger.numberAt index = some number → number ≤ ledger.created
  unique : ∀ {i j number}, ledger.numberAt i = some number → ledger.numberAt j = some number → i = j

/-- Where there are no spans, no number is used twice. -/
theorem numbered_of_no_spans {ledger : SpanLedger} (h : ledger.spans = []) : ledger.Numbered where
  le_created := by simp [numberAt, h]
  unique := by simp [numberAt, h]

/-! ## One event -/

theorem threshold_apply (ledger : SpanLedger) (event : SpanEvent) :
    (ledger.apply event).threshold = ledger.threshold := by
  cases event with
  | called index call => rw [apply]; split <;> rfl
  | _ => rfl

theorem threshold_applyAll (ledger : SpanLedger) (events : List SpanEvent) :
    (ledger.applyAll events).threshold = ledger.threshold := by
  induction events generalizing ledger with
  | nil => rfl
  | cons event rest ih => rw [applyAll_cons, ih, threshold_apply]

theorem length_apply_called (ledger : SpanLedger) (index : Nat) (call : SpanCall) :
    (ledger.apply (.called index call)).spans.length = ledger.spans.length := by
  rw [apply]
  split
  · rfl
  · exact List.length_set

/-- Spans are never taken away. -/
theorem length_le_apply (ledger : SpanLedger) (event : SpanEvent) :
    ledger.spans.length ≤ (ledger.apply event).spans.length := by
  cases event with
  | opened attributes parent fields => simp [apply]
  | silent => simp [apply]
  | called index call => rw [length_apply_called]

theorem length_le_applyAll (ledger : SpanLedger) (events : List SpanEvent) :
    ledger.spans.length ≤ (ledger.applyAll events).spans.length := by
  induction events generalizing ledger with
  | nil => exact Nat.le_refl _
  | cons event rest ih => exact Nat.le_trans (ledger.length_le_apply event) (ih _)

theorem created_apply_called (ledger : SpanLedger) (index : Nat) (call : SpanCall) :
    (ledger.apply (.called index call)).created = ledger.created := by
  rw [apply]
  split <;> rfl

/-- Numbers are never taken back. -/
theorem created_le_apply (ledger : SpanLedger) (event : SpanEvent) :
    ledger.created ≤ (ledger.apply event).created := by
  cases event with
  | called index call => rw [created_apply_called]
  | silent => exact Nat.le_refl _
  | opened attributes parent fields =>
    show ledger.created ≤ ledger.nextNumber.getD ledger.created
    rw [nextNumber]
    split
    · exact Nat.le_succ _
    · exact Nat.le_refl _

theorem created_le_applyAll (ledger : SpanLedger) (events : List SpanEvent) :
    ledger.created ≤ (ledger.applyAll events).created := by
  induction events generalizing ledger with
  | nil => exact Nat.le_refl _
  | cons event rest ih => exact Nat.le_trans (ledger.created_le_apply event) (ih _)

/-- A call leaves the number of the span alone. -/
theorem number?_callCell (threshold : Threshold) (call : SpanCall) (cell : SpanCell) :
    (SpanHandle.callCell threshold call cell).1.number? = cell.number? := by
  cases cell with
  | silent => rfl
  | exported span => exact span.number_call call
  | recording number ended => rfl

/-- A call leaves all numbers alone. -/
theorem numberAt_apply_called (ledger : SpanLedger) (index : Nat) (call : SpanCall) (i : Nat) :
    (ledger.apply (.called index call)).numberAt i = ledger.numberAt i := by
  rw [apply]
  split
  · rfl
  · next cell hcell =>
    have hlt := (List.getElem?_eq_some_iff.mp hcell).1
    by_cases heq : index = i
    · subst heq
      rw [numberAt, numberAt, List.getElem?_set_self hlt, hcell, Option.bind_some, Option.bind_some,
        number?_callCell]
    · rw [numberAt, numberAt, List.getElem?_set_ne heq]

/-- An opened span comes after the others. -/
theorem numberAt_concat (ledger : SpanLedger) (cell : SpanCell) (created : Nat)
    (journal : List Observation) {i number : Nat}
    (h : (SpanLedger.mk ledger.threshold created (ledger.spans ++ [cell]) journal).numberAt i =
      some number) :
    ledger.numberAt i = some number ∨ (i = ledger.spans.length ∧ cell.number? = some number) := by
  rcases Nat.lt_trichotomy i ledger.spans.length with hlt | heq | hgt
  · left
    simpa [numberAt, List.getElem?_append_left hlt] using h
  · right
    subst heq
    simpa [numberAt] using h
  · rw [numberAt, List.getElem?_eq_none (by simp; omega)] at h
    cases h

/-- A new span gets a number that no other has. -/
theorem Numbered.apply {ledger : SpanLedger} (h : ledger.Numbered) (event : SpanEvent) :
    (ledger.apply event).Numbered := by
  cases event with
  | called index call =>
    constructor
    · intro i number hi
      rw [numberAt_apply_called] at hi
      rw [created_apply_called]
      exact h.le_created hi
    · intro i j number hi hj
      rw [numberAt_apply_called] at hi hj
      exact h.unique hi hj
  | silent =>
    have hold : ∀ {i number}, (ledger.apply .silent).numberAt i = some number →
        ledger.numberAt i = some number := by
      intro i number hi
      rcases ledger.numberAt_concat .silent _ _ hi with hi | ⟨-, hnew⟩
      · exact hi
      · cases hnew
    exact ⟨fun hi => h.le_created (hold hi), fun hi hj => h.unique (hold hi) (hold hj)⟩
  | opened attributes parent fields =>
    have hnext : ∀ {number}, ledger.nextNumber = some number → number = ledger.created + 1 := by
      intro number hnumber
      rw [nextNumber] at hnumber
      split at hnumber
      · exact (Option.some.inj hnumber).symm
      · cases hnumber
    constructor
    · intro i number hi
      rcases ledger.numberAt_concat _ _ _ hi with hi | ⟨-, hnew⟩
      · exact Nat.le_trans (h.le_created hi) (ledger.created_le_apply _)
      · show number ≤ ledger.nextNumber.getD ledger.created
        rw [show ledger.nextNumber = some number from hnew]
        exact Nat.le_refl _
    · intro i j number hi hj
      rcases ledger.numberAt_concat _ _ _ hi with hi | ⟨rfl, hnew⟩ <;>
        rcases ledger.numberAt_concat _ _ _ hj with hj | ⟨rfl, hnew'⟩
      · exact h.unique hi hj
      · have := hnext hnew'
        have := h.le_created hi
        omega
      · have := hnext hnew
        have := h.le_created hj
        omega
      · rfl

theorem Numbered.applyAll {ledger : SpanLedger} (h : ledger.Numbered) (events : List SpanEvent) :
    (ledger.applyAll events).Numbered := by
  induction events generalizing ledger with
  | nil => exact h
  | cons event rest ih => exact ih (h.apply event)

/-! ## One span among many -/

/-- What a span reports is about its own number. -/
theorem isOn_of_mem_observe {threshold : Threshold} {number : Nat} {report : SpanReport}
    {observation : Observation}
    (h : observation ∈ SpanHandle.observe threshold (some number) report) :
    observation.isOn number = true := by
  cases report with
  | fields fields =>
    rw [List.mem_singleton.mp h]
    simp [Observation.isOn]
  | ended =>
    rw [SpanHandle.observe] at h
    split at h
    · rw [List.mem_singleton.mp h]
      simp [Observation.isOn]
    · cases h

/-- A call on a cell shows only under the number of that cell. -/
theorem number?_of_mem_callCell {threshold : Threshold} {call : SpanCall} {cell : SpanCell}
    {number : Nat} {observation : Observation}
    (hmem : observation ∈ (SpanHandle.callCell threshold call cell).2)
    (hon : observation.isOn number = true) : cell.number? = some number := by
  cases cell with
  | silent => cases hmem
  | recording other ended =>
    rw [List.mem_singleton.mp hmem] at hon
    cases hon
  | exported span =>
    obtain ⟨report, -, hreport⟩ := List.mem_flatMap.mp hmem
    show span.number = some number
    cases hnumber : span.number with
    | none =>
      -- a span without a number records nothing, and its end is an event under no span
      rw [hnumber] at hreport
      cases report with
      | fields fields => cases hreport
      | ended =>
        rw [SpanHandle.observe] at hreport
        split at hreport
        · rw [List.mem_singleton.mp hreport] at hon
          cases hon
        · cases hreport
    | some other =>
      rw [hnumber] at hreport
      have hother := isOn_of_mem_observe hreport
      cases observation with
      | spanCreated =>
        simp only [Observation.isOn, decide_eq_true_eq] at hon hother
        rw [← hon, ← hother]
      | spanRecorded =>
        simp only [Observation.isOn, decide_eq_true_eq] at hon hother
        rw [← hon, ← hother]
      | event severity under fields =>
        cases under with
        | none => cases hon
        | some under =>
          simp only [Observation.isOn, decide_eq_true_eq] at hon hother
          rw [← hon, ← hother]
      | _ => cases hon

/-- Of a list about spans, those about one span are picked at once. -/
theorem filter_isOn_filter (number : Nat) (observations : List Observation) :
    (observations.filter Observation.isOnSpan).filter (Observation.isOn number) =
      observations.filter (Observation.isOn number) := by
  rw [List.filter_filter]
  refine List.filter_congr fun observation _ => ?_
  by_cases hon : observation.isOn number = true
  · simp [hon, Observation.isOnSpan_of_isOn hon]
  · simp [hon]

/-- A call on the span itself. -/
theorem apply_called_self {ledger : SpanLedger} {index : Nat} {span : ExportedSpan}
    (hcell : ledger.spans[index]? = some (.exported span)) (call : SpanCall) :
    (ledger.apply (.called index call)).spans[index]? = some (.exported (span.call call).1) ∧
      ∀ number, span.number = some number →
        (ledger.apply (.called index call)).journal.filter (Observation.isOn number) =
          ledger.journal.filter (Observation.isOn number) ++
            (span.call call).2.flatMap (SpanHandle.observe ledger.threshold (some number)) := by
  have hlt := (List.getElem?_eq_some_iff.mp hcell).1
  simp only [apply, hcell, SpanHandle.callCell]
  refine ⟨List.getElem?_set_self hlt, fun number hnumber => ?_⟩
  rw [List.filter_append, filter_isOn_filter, hnumber]
  congr 1
  refine List.filter_eq_self.mpr fun observation hmem => ?_
  obtain ⟨report, -, hreport⟩ := List.mem_flatMap.mp hmem
  exact isOn_of_mem_observe hreport

/-- A call on a span says nothing about a number that is not its own. -/
theorem filter_isOn_apply_called {ledger : SpanLedger} {index number : Nat}
    (h : ledger.numberAt index ≠ some number) (call : SpanCall) :
    (ledger.apply (.called index call)).journal.filter (Observation.isOn number) =
      ledger.journal.filter (Observation.isOn number) := by
  rw [apply]
  split
  · rfl
  · next cell hcell =>
    rw [List.filter_append, filter_isOn_filter]
    refine List.append_right_eq_self.mpr (List.filter_eq_nil_iff.mpr fun observation hmem hon => h ?_)
    rw [numberAt, hcell]
    exact number?_of_mem_callCell hmem hon

/-- A call on a span touches no other. -/
theorem getElem?_apply_called {ledger : SpanLedger} {index i : Nat} (h : index ≠ i)
    (call : SpanCall) : (ledger.apply (.called index call)).spans[i]? = ledger.spans[i]? := by
  rw [apply]
  split
  · rfl
  · exact List.getElem?_set_ne h

/-- What happens elsewhere leaves the span as it is, and says nothing about it. -/
theorem apply_of_elsewhere {ledger : SpanLedger} (hnumbered : ledger.Numbered) {index : Nat}
    {span : ExportedSpan} (hcell : ledger.spans[index]? = some (.exported span)) {event : SpanEvent}
    (helsewhere : ∀ call, event ≠ .called index call) :
    (ledger.apply event).spans[index]? = some (.exported span) ∧
      ∀ number, span.number = some number →
        (ledger.apply event).journal.filter (Observation.isOn number) =
          ledger.journal.filter (Observation.isOn number) := by
  have hlt := (List.getElem?_eq_some_iff.mp hcell).1
  have hat : ledger.numberAt index = span.number := by rw [numberAt, hcell]; rfl
  cases event with
  | opened attributes parent fields =>
    refine ⟨by simp [apply, List.getElem?_append_left hlt, hcell], fun number hnumber => ?_⟩
    have hle := hnumbered.le_created (hat.trans hnumber)
    rw [apply, List.filter_append]
    refine List.append_right_eq_self.mpr (List.filter_eq_nil_iff.mpr fun observation hmem => ?_)
    obtain ⟨next, hnext, rfl⟩ := List.mem_map.mp hmem
    rw [nextNumber] at hnext
    split at hnext
    · rw [Option.mem_toList.mp hnext |> Option.some.inj |> Eq.symm]
      simp only [Observation.isOn, decide_eq_true_eq]
      omega
    · cases hnext
  | silent => exact ⟨by simp [apply, List.getElem?_append_left hlt, hcell], fun _ _ => rfl⟩
  | called other call =>
    have hne : other ≠ index := fun heq => helsewhere call (heq ▸ rfl)
    refine ⟨(getElem?_apply_called hne call).trans hcell, fun number hnumber => ?_⟩
    exact filter_isOn_apply_called
      (fun hsame => hne (hnumbered.unique hsame (hat.trans hnumber))) call

/-- **A span among others.**  After any events a span is as the calls on itself leave it, and the journal
tells of it what these calls report. -/
theorem applyAll_of_exported {ledger : SpanLedger} (hnumbered : ledger.Numbered) {index : Nat}
    {span : ExportedSpan} (hcell : ledger.spans[index]? = some (.exported span))
    (events : List SpanEvent) :
    (ledger.applyAll events).spans[index]? =
        some (.exported (span.calls (callsOn index events)).1) ∧
      ∀ number, span.number = some number →
        (ledger.applyAll events).journal.filter (Observation.isOn number) =
          ledger.journal.filter (Observation.isOn number) ++
            (span.calls (callsOn index events)).2.flatMap
              (SpanHandle.observe ledger.threshold (some number)) := by
  induction events generalizing ledger span with
  | nil => exact ⟨hcell, fun number _ => by simp [applyAll, callsOn]⟩
  | cons event rest ih =>
    rw [applyAll_cons]
    by_cases hself : ∃ call, event = .called index call
    · obtain ⟨call, rfl⟩ := hself
      obtain ⟨hcell', htold⟩ := apply_called_self hcell call
      obtain ⟨hlast, hrest⟩ := ih (hnumbered.apply _) hcell'
      have hcalls : callsOn index (.called index call :: rest) = call :: callsOn index rest := by
        simp [callsOn]
      rw [hcalls, ExportedSpan.calls_cons]
      refine ⟨hlast, fun number hnumber => ?_⟩
      have hnumber' : (span.call call).1.number = some number := by
        rw [span.number_call, hnumber]
      rw [hrest number hnumber', htold number hnumber, threshold_apply, List.flatMap_append,
        List.append_assoc]
    · have helsewhere : ∀ call, event ≠ .called index call := fun call heq => hself ⟨call, heq⟩
      obtain ⟨hcell', htold⟩ := apply_of_elsewhere hnumbered hcell helsewhere
      obtain ⟨hlast, hrest⟩ := ih (hnumbered.apply _) hcell'
      have hcalls : callsOn index (event :: rest) = callsOn index rest := by
        cases event with
        | called other call =>
          have hne : other ≠ index := fun heq => helsewhere call (heq ▸ rfl)
          simp [callsOn, hne]
        | _ => simp [callsOn]
      rw [hcalls]
      refine ⟨hlast, fun number hnumber => ?_⟩
      rw [hrest number hnumber, htold number hnumber, threshold_apply]

/-- A span that is not recorded stays so. -/
theorem applyAll_of_silent {ledger : SpanLedger} {index : Nat}
    (hcell : ledger.spans[index]? = some .silent) (events : List SpanEvent) :
    (ledger.applyAll events).spans[index]? = some .silent := by
  have hlt := (List.getElem?_eq_some_iff.mp hcell).1
  induction events generalizing ledger with
  | nil => exact hcell
  | cons event rest ih =>
    have hnext : (ledger.apply event).spans[index]? = some .silent := by
      cases event with
      | opened attributes parent fields => simp [apply, List.getElem?_append_left hlt, hcell]
      | silent => simp [apply, List.getElem?_append_left hlt, hcell]
      | called other call =>
        by_cases heq : other = index
        · subst heq
          simp only [apply, hcell, SpanHandle.callCell]
          exact List.getElem?_set_self hlt
        · exact (getElem?_apply_called heq call).trans hcell
    exact ih hnext (List.getElem?_eq_some_iff.mp hnext).1

end SpanLedger

/-! ## What operations do to the ledger -/

/-- What the journal tells of a span can be read off the ledger. -/
theorem Collector.filter_isOn (c : Collector) (number : Nat) :
    c.ledger.journal.filter (Observation.isOn number) =
      c.journal.filter (Observation.isOn number) :=
  SpanLedger.filter_isOn_filter number c.journal

/-- A call on a span shows in the spans and the journal only. -/
theorem SpanHandle.exists_runOn_call (span : SpanHandle) (call : SpanCall) (c : Collector) :
    ∃ c', Act.runOn (span.call call) c = (.ok (), c') ∧ c'.switches = c.switches := by
  rw [SpanHandle.call, Act.runOn_step]
  cases c.spans[span.index]? with
  | none => exact ⟨c, rfl, rfl⟩
  | some cell => exact ⟨_, rfl, rfl⟩

theorem SpanHandle.ledger_call (span : SpanHandle) (call : SpanCall) (c : Collector) :
    (Act.runOn (span.call call) c).2.ledger = c.ledger.apply (.called span.index call) := by
  rw [SpanHandle.call, Act.runOn_step, SpanLedger.apply]
  show _ = match c.spans[span.index]? with
    | none => c.ledger
    | some cell => _
  cases c.spans[span.index]? with
  | none => rfl
  | some cell => simp [Collector.ledger]

/-- An event under no span is not about spans. -/
theorem Act.ledger_emit_none (severity : Severity) (fields : Fields) (c : Collector) :
    (Act.runOn (Act.emit severity none fields) c).2.ledger = c.ledger := by
  rw [Act.emit, Act.runOn_step]
  split
  · simp [Collector.ledger, Observation.isOnSpan]
  · rfl

namespace ExportingTracer

/-- What happens to spans when one is started. -/
def starting (tracer : ExportingTracer) (c : Collector) (ctx : Context) (name : String)
    (options : List StartOption) : SpanEvent :=
  if tracer.records c then
    .opened (SpanSettings.ofOptions options).attributes (ctx.get .parent).join
      (tracer.fields name (SpanSettings.ofOptions options).kind)
  else .silent

/-- A started span has one place more. -/
theorem length_starting (tracer : ExportingTracer) (c : Collector) (ctx : Context) (name : String)
    (options : List StartOption) :
    (c.ledger.apply (tracer.starting c ctx name options)).spans.length = c.spans.length + 1 := by
  rw [starting]
  split <;> exact List.length_append

/-- A span that is announced shows in the journal, if it gets a number. -/
theorem announced_eq (parent : Option Nat) (fields : Fields) (c : Collector) :
    announced parent fields c = { c with
      createdCount := (nextNumber c).getD c.createdCount
      journal := c.journal ++
        (nextNumber c).toList.map fun number => .spanCreated number "span" .info parent fields } := by
  rw [announced]
  cases nextNumber c with
  | none => simp
  | some number => rfl

/-- A start gives the new span, and a context that carries it.  If the span is not recorded the journal
is as before. -/
theorem exists_runOn_start (tracer : ExportingTracer) (ctx : Context) (name : String)
    (options : List StartOption) (c : Collector) :
    ∃ ctx' c', Act.runOn (tracer.start ctx name options) c = (.ok (ctx', ⟨c.spans.length⟩), c') ∧
      ctx'.span? = some ⟨c.spans.length⟩ ∧ c'.switches = c.switches ∧
      c'.ledger = c.ledger.apply (tracer.starting c ctx name options) ∧
      (tracer.records c = false → c'.journal = c.journal) := by
  rw [starting]
  cases hrecords : tracer.records c with
  | false =>
    rw [tracer.runOn_start_of_not_records hrecords]
    exact ⟨_, _, rfl, Context.get_insert_self _ _ .span _, rfl, rfl, fun _ => rfl⟩
  | true =>
    have hnext : c.ledger.nextNumber = nextNumber c := rfl
    have htold : ∀ observation ∈ (nextNumber c).toList.map fun number =>
        Observation.spanCreated number "span" .info (ctx.get .parent).join
          (tracer.fields name (SpanSettings.ofOptions options).kind),
        observation.isOnSpan = true := by
      intro observation hmem
      obtain ⟨number, -, rfl⟩ := List.mem_map.mp hmem
      rfl
    simp only [tracer.runOn_start_of_records hrecords, announced_eq]
    refine ⟨_, _, rfl, Context.get_insert_self _ _ .span _, rfl, ?_, fun h => by cases h⟩
    rw [if_pos trivial, SpanLedger.apply, hnext]
    simp only [Collector.ledger, List.filter_append, List.filter_eq_self.mpr htold]

end ExportingTracer

end Observability
