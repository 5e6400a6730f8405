import Observability.Proofs.Span.History

/-!
# Spans that do not record

A span says whether it records.  One that does not is past changing: calls leave it as it is, and it never
records again.  Nor is anything told of it, with one exception, the errors that are recorded on a span
after its end.

* `SpanCell.toldLate` is what calls on a span that does not record still tell.
* `ExportingTracer.numberFor` is the number that a span started now has, if it is known to the subscriber.

`callCell_of_not_recording` says what one call does, and `runOn_calls_of_not_recording` what any calls do.
`told_once_not_recording` says it of the spans that a tracer starts.
-/

namespace Observability

open SpanCall

/-! ## Calls on a span that does not record -/

/-- What calls on a span that does not record still tell: the errors, if it was exported under a number. -/
def SpanCell.toldLate (calls : List SpanCall) : SpanCell → List Observation
  | .silent => []
  | .exported span => span.number.elim [] fun number => errorRecords number (errorsOf calls)
  | .recording number _ => calls.map (.spanCalled number)

@[simp] theorem SpanCell.toldLate_nil (cell : SpanCell) : cell.toldLate [] = [] := by
  cases cell with
  | silent => rfl
  | recording number ended => rfl
  | exported span => cases hnumber : span.number <;> simp [toldLate, hnumber, errorRecords, errorsOf]

theorem SpanCell.toldLate_cons (call : SpanCall) (rest : List SpanCall) (cell : SpanCell) :
    cell.toldLate (call :: rest) = cell.toldLate [call] ++ cell.toldLate rest := by
  cases cell with
  | silent => rfl
  | recording number ended => rfl
  | exported span =>
    have herrors : errorsOf (call :: rest) = errorsOf [call] ++ errorsOf rest := by
      rw [errorsOf, errorsOf, errorsOf, ← List.filterMap_append, List.singleton_append]
    cases hnumber : span.number with
    | none => simp [toldLate, hnumber]
    | some number => simp [toldLate, hnumber, herrors, errorRecords]

namespace SpanHandle

/-- A call leaves a span that does not record as it is. -/
theorem callCell_of_not_recording {cell : SpanCell} (h : isRecordingCell cell = false)
    (threshold : Threshold) (call : SpanCall) :
    callCell threshold call cell = (cell, cell.toldLate [call]) := by
  cases cell with
  | silent => rfl
  | recording number ended =>
    have hended : ended = true := by simpa [isRecordingCell] using h
    simp [callCell, SpanCell.toldLate, hended]
  | exported span =>
    have hended : span.ended = true := by
      simpa [isRecordingCell, ExportedSpan.isRecording] using h
    rcases hnumber : span.number with _ | number <;> cases call <;>
      simp [callCell, ExportedSpan.call, SpanCell.toldLate, observe, errorRecords, errorsOf, error?,
        hended, hnumber]

/-- Calls on a span that does not record change neither the span nor anything else. -/
theorem runOn_calls_of_not_recording {span : SpanHandle} {cell : SpanCell} {c : Collector}
    (hcell : c.spans[span.index]? = some cell) (h : isRecordingCell cell = false)
    (calls : List SpanCall) :
    Act.runOn (forM calls span.call) c =
      (.ok (), { c with journal := c.journal ++ cell.toldLate calls }) := by
  induction calls generalizing c with
  | nil => simp
  | cons call rest ih =>
    let next : Collector := { c with journal := c.journal ++ cell.toldLate [call] }
    have hsame : c.spans.set span.index cell = c.spans := by
      obtain ⟨hlt, rfl⟩ := List.getElem?_eq_some_iff.mp hcell
      exact List.set_getElem_self hlt
    have hcall : Act.runOn (span.call call) c = (.ok (), next) := by
      rw [SpanHandle.call, Act.runOn_step]
      simp only [hcell, callCell_of_not_recording h, hsame, next]
    have hnext : next.spans[span.index]? = some cell := hcell
    rw [List.forM_cons, Act.runOn_bind, hcall]
    simp only
    rw [ih hnext, SpanCell.toldLate_cons call rest, ← List.append_assoc]

end SpanHandle

/-! ## Spans that a tracer starts -/

namespace ExportingTracer

/-- The number that a span started now has; a span that is not recorded has none, nor has one that the
subscriber does not take. -/
def numberFor (tracer : ExportingTracer) (c : Collector) : Option Nat :=
  if tracer.records c then nextNumber c else none

/-- A new span, as the tracer hands it out. -/
def opening (tracer : ExportingTracer) (c : Collector) (options : List StartOption) : SpanCell :=
  if tracer.records c then
    .exported { number := nextNumber c, attributes := (SpanSettings.ofOptions options).attributes }
  else .silent

/-- A started span is found under its handle. -/
theorem exists_runOn_start_opening (tracer : ExportingTracer) (ctx : Context) (name : String)
    (options : List StartOption) (c : Collector) :
    ∃ ctx' span started, Act.runOn (tracer.start ctx name options) c = (.ok (ctx', span), started) ∧
      started.spans[span.index]? = some (tracer.opening c options) := by
  obtain ⟨ctx', started, hrun, -, -, hledger, -⟩ := tracer.exists_runOn_start ctx name options c
  refine ⟨ctx', _, started, hrun, ?_⟩
  show started.ledger.spans[c.spans.length]? = _
  rw [hledger, starting, opening]
  split <;> exact List.getElem?_concat_length

/-- What calls make of a span that a tracer handed out: it records until it is called to end, and what is
told late of it stands under its number. -/
theorem exists_runOn_calls_opening {tracer : ExportingTracer} {c started : Collector}
    {options : List StartOption} {span : SpanHandle}
    (hcell : started.spans[span.index]? = some (tracer.opening c options)) (calls : List SpanCall) :
    ∃ ended cell, Act.runOn (forM calls span.call) started = (.ok (), ended) ∧
      ended.spans[span.index]? = some cell ∧
      (SpanHandle.isRecordingCell cell = true ↔ tracer.records c = true ∧ SpanCall.finish ∉ calls) ∧
      ∀ later, cell.toldLate later =
        (tracer.numberFor c).elim [] fun number => errorRecords number (errorsOf later) := by
  cases hrecords : tracer.records c with
  | false =>
    have hsilent : tracer.opening c options = .silent := by simp [opening, hrecords]
    rw [hsilent] at hcell
    refine ⟨_, .silent, SpanHandle.runOn_calls_of_not_recording hcell rfl calls, hcell, ?_, ?_⟩
    · simp [SpanHandle.isRecordingCell]
    · simp [SpanCell.toldLate, numberFor, hrecords]
  | true =>
    have hopened : tracer.opening c options = .exported
        { number := nextNumber c, attributes := (SpanSettings.ofOptions options).attributes } := by
      simp [opening, hrecords]
    rw [hopened] at hcell
    have hlt := (List.getElem?_eq_some_iff.mp hcell).1
    refine ⟨_, _, SpanHandle.runOn_calls hcell calls, List.getElem?_set_self hlt, ?_, ?_⟩
    · simp [SpanHandle.isRecordingCell, ExportedSpan.isRecording, ExportedSpan.ended_calls]
    · simp [SpanCell.toldLate, ExportedSpan.number_calls, numberFor, hrecords]

end ExportingTracer

/-- **What is told once a span does not record.**  A tracer starts a span, and calls are made on it.  It
records as long as the tracer recorded it and it was not called to end.  From then on no call changes it
or makes it record again, and all that is still told are the errors recorded on it, if it is known to the
subscriber: so the span is silent exactly if there are none. -/
theorem told_once_not_recording (tracer : ExportingTracer) (ctx : Context) (name : String)
    (options : List StartOption) (c : Collector) (before : List SpanCall) :
    ∃ ctx' span started ended recording,
      Act.runOn (tracer.start ctx name options) c = (.ok (ctx', span), started) ∧
      Act.runOn (forM before span.call) started = (.ok (), ended) ∧
      Act.runOn span.isRecording ended = (.ok recording, ended) ∧
      (recording = true ↔ tracer.records c = true ∧ SpanCall.finish ∉ before) ∧
      (recording = false → ∀ after,
        let late := (tracer.numberFor c).elim [] fun number => errorRecords number (errorsOf after)
        let last := { ended with journal := ended.journal ++ late }
        Act.runOn (forM after span.call) ended = (.ok (), last) ∧
        Act.runOn span.isRecording last = (.ok false, last) ∧
        (last.journal = ended.journal ↔ tracer.numberFor c = none ∨ errorsOf after = [])) := by
  obtain ⟨ctx', span, started, hstart, hopened⟩ :=
    tracer.exists_runOn_start_opening ctx name options c
  obtain ⟨ended, cell, hcalls, hcell, hrecording, hlate⟩ :=
    ExportingTracer.exists_runOn_calls_opening hopened before
  refine ⟨ctx', span, started, ended, _, hstart, hcalls, SpanHandle.runOn_isRecording_of_cell hcell,
    hrecording, fun hnot after => ?_⟩
  intro late last
  refine ⟨?_, ?_, ?_⟩
  · have hafter := SpanHandle.runOn_calls_of_not_recording hcell hnot after
    rwa [hlate after] at hafter
  · have hstill : last.spans[span.index]? = some cell := hcell
    rw [SpanHandle.runOn_isRecording_of_cell hstill, hnot]
  · show ended.journal ++ late = ended.journal ↔ _
    rw [List.append_right_eq_self]
    cases hnumber : tracer.numberFor c <;> simp [late, hnumber, errorRecords]

/-- An ended span is called again in every way.  Without an error nothing is told; with one, the error. -/
theorem told_once_not_recording_ended :
    let tracer : ExportingTracer := ⟨"scope", "service", .alwaysOn, 0⟩
    let c : Collector := { idText := fun _ => "", switches := [false] }
    let quiet : List SpanCall := [.setAttribute ⟨"a", .int 1⟩, .setStatus .ok, .finish]
    ∃ ctx span started ended quieter last,
      Act.runOn (tracer.start (.empty 0) "op" []) c = (.ok (ctx, span), started) ∧
      Act.runOn (forM [SpanCall.finish] span.call) started = (.ok (), ended) ∧
      Act.runOn span.isRecording ended = (.ok false, ended) ∧
      Act.runOn (forM quiet span.call) ended = (.ok (), quieter) ∧ quieter.journal = ended.journal ∧
      Act.runOn (forM (.recordError "late" :: quiet) span.call) ended = (.ok (), last) ∧
      last.journal = ended.journal ++ [.spanRecorded 1 [("error", .text "late")]] := by
  intro tracer c quiet
  obtain ⟨ctx, span, started, ended, recording, hstart, hcalls, hasked, hrecording, hafter⟩ :=
    told_once_not_recording tracer (.empty 0) "op" [] c [.finish]
  have hnot : recording = false :=
    Bool.eq_false_iff.mpr fun h => (hrecording.mp h).2 (List.mem_singleton.mpr rfl)
  obtain ⟨hquiet, -, hsilent⟩ := hafter hnot quiet
  obtain ⟨hlast, -⟩ := hafter hnot (.recordError "late" :: quiet)
  exact ⟨ctx, span, started, ended, _, _, hstart, hcalls, hnot ▸ hasked, hquiet,
    hsilent.mpr (Or.inr rfl), hlast, rfl⟩

/-- A span is not silent once it does not record: the error is told after the end. -/
theorem late_error_told :
    let tracer : ExportingTracer := ⟨"scope", "service", .alwaysOn, 0⟩
    let c : Collector := { idText := fun _ => "", switches := [false] }
    ∃ ctx span started ended last,
      Act.runOn (tracer.start (.empty 0) "op" []) c = (.ok (ctx, span), started) ∧
      Act.runOn (forM [SpanCall.finish] span.call) started = (.ok (), ended) ∧
      Act.runOn span.isRecording ended = (.ok false, ended) ∧
      Act.runOn (forM [SpanCall.recordError "late"] span.call) ended = (.ok (), last) ∧
      last.journal = ended.journal ++ [.spanRecorded 1 [("error", .text "late")]] := by
  intro tracer c
  obtain ⟨ctx, span, started, hstart, hopened⟩ :=
    tracer.exists_runOn_start_opening (.empty 0) "op" [] c
  obtain ⟨ended, cell, hcalls, hcell, hrecording, hlate⟩ :=
    ExportingTracer.exists_runOn_calls_opening hopened [.finish]
  have hnot : SpanHandle.isRecordingCell cell = false :=
    Bool.eq_false_iff.mpr fun h => (hrecording.mp h).2 (List.mem_singleton.mpr rfl)
  have hasked := SpanHandle.runOn_isRecording_of_cell hcell
  have hrun := SpanHandle.runOn_calls_of_not_recording hcell hnot [.recordError "late"]
  rw [hnot] at hasked
  rw [hlate] at hrun
  exact ⟨ctx, span, started, ended, _, hstart, hcalls, hasked, hrun, rfl⟩

end Observability
