import Observability.Proofs.Lineage.Identifiers
import Observability.Proofs.Span.History

/-!
# The outcome of a span

A facility over exporting tracers starts spans that carry the correlation id of their context, and ends
them with a status and perhaps an error.

* `SpanEnd` is an end that a facility is asked for, and `SpanEnd.calls` what it calls on the span.
* `SpanEnd.settled` is what becomes of a span that was ended so, any number of times, and
  `SpanEnd.records` is all that is told of it.
* `Act.OnSpans` says of an action that it does to the spans what a list of events says, and nothing else
  but to write into the journal.
* `TouchesOnly` says that a single span was touched.

The first end settles both (`calls_ends`, `spanRecords_ends`).
-/

namespace Observability

/-- An end that a facility is asked for: the status, and the error if there is one. -/
structure SpanEnd where
  status : HttpStatus
  error : Option String
  deriving DecidableEq, Repr

namespace SpanEnd

open SpanCall

/-- What an end calls on the span. -/
def calls (last : SpanEnd) : List SpanCall :=
  setAttribute ⟨statusCodeKey, .int (Int64.ofNat last.status.toNat)⟩ ::
    (last.error.toList.map recordError ++ [setStatus (.ofOutcome last.status last.error), finish])

/-- Whether the span failed: there is an error, or the status is 400 or above. -/
def failed (last : SpanEnd) : Bool := last.error.isSome || decide (400 ≤ last.status)

/-- What a failure is described by. -/
def description (last : SpanEnd) : String := last.error.getD s!"HTTP status {last.status.toNat}"

/-- The attributes of a span that was started under the id and ended with the status. -/
def attributes (id : CorrelationId) (last : SpanEnd) : List Attribute :=
  [⟨correlationKey, .string id.text⟩, ⟨statusCodeKey, .int (Int64.ofNat last.status.toNat)⟩]

/-- A span as it was started under the id, and ended so. -/
def settled (number? : Option Nat) (id : CorrelationId) : List SpanEnd → ExportedSpan
  | [] => { number := number?, attributes := [⟨correlationKey, .string id.text⟩] }
  | first :: _ =>
    { number := number?
      attributes := first.attributes id
      status := if first.failed then .error first.description else .ok
      ended := true }

/-- All that is told of a span that was started under the id and ended so. -/
def records (threshold : Threshold) (number : Nat) (id : CorrelationId) :
    List SpanEnd → List Observation
  | [] => []
  | first :: later =>
    errorRecords number first.error.toList ++
    [ .spanRecorded number
        [("attributes", .text (Attribute.listJson (first.attributes id)).print)],
      .spanRecorded number
        [("otel.status_code", .text (if first.failed then "error" else "ok"))] ] ++
    (if first.failed then
      [.spanRecorded number [("otel.status_description", .text first.description)]]
    else []) ++
    endEvent threshold number ++ errorRecords number (later.filterMap (·.error))

theorem ofOutcome_eq (last : SpanEnd) :
    SpanStatus.ofOutcome last.status last.error =
      if last.failed then .error last.description else .ok := by
  rcases last with ⟨status, _ | error⟩
  · simp [SpanStatus.ofOutcome, failed, description]
  · simp [SpanStatus.ofOutcome, failed, description]

/-! ## The first end settles the span -/

/-- What an end calls before it ends the span. -/
def beforeFinish (last : SpanEnd) : List SpanCall :=
  setAttribute ⟨statusCodeKey, .int (Int64.ofNat last.status.toNat)⟩ ::
    (last.error.toList.map recordError ++ [setStatus (.ofOutcome last.status last.error)])

theorem calls_eq (last : SpanEnd) : last.calls = last.beforeFinish ++ [finish] := by
  simp [calls, beforeFinish]

theorem finish_notMem_beforeFinish (last : SpanEnd) : finish ∉ last.beforeFinish := by
  simp [beforeFinish]

theorem errorsOf_beforeFinish (last : SpanEnd) :
    errorsOf last.beforeFinish = last.error.toList := by
  rcases last with ⟨status, _ | error⟩ <;> rfl

theorem attributesOf_beforeFinish (last : SpanEnd) :
    attributesOf last.beforeFinish =
      [⟨statusCodeKey, .int (Int64.ofNat last.status.toNat)⟩] := by
  rcases last with ⟨status, _ | error⟩ <;> rfl

theorem lastStatus_beforeFinish (last : SpanEnd) :
    lastStatus last.beforeFinish = SpanStatus.ofOutcome last.status last.error := by
  rcases last with ⟨status, _ | error⟩ <;> rfl

theorem errorsOf_calls (last : SpanEnd) : errorsOf last.calls = last.error.toList := by
  rw [calls_eq, errorsOf, List.filterMap_append, ← errorsOf, errorsOf_beforeFinish]
  simp [error?]

/-- Of many ends, what they call on the span are errors and what the first of them settles. -/
theorem errorsOf_flatMap_calls (ends : List SpanEnd) :
    errorsOf (ends.flatMap calls) = ends.filterMap (·.error) := by
  induction ends with
  | nil => rfl
  | cons first later ih =>
    rw [List.flatMap_cons, errorsOf, List.filterMap_append, ← errorsOf, ← errorsOf, ih,
      errorsOf_calls]
    cases herror : first.error <;> simp [herror]

/-- The two attributes have different keys, so both stay, in this order. -/
theorem merged_attributes (id : CorrelationId) (last : SpanEnd) :
    Attribute.merged ([⟨correlationKey, .string id.text⟩] ++ attributesOf last.beforeFinish) =
      last.attributes id := by
  have hkeys : correlationKey ≠ statusCodeKey := by decide
  rw [attributesOf_beforeFinish, attributes]
  simp [Attribute.merged, Attribute.last?, List.eraseDups_cons, hkeys.symm]

theorem flatMap_calls_cons (first : SpanEnd) (later : List SpanEnd) :
    (first :: later).flatMap calls = first.beforeFinish ++ finish :: later.flatMap calls := by
  rw [List.flatMap_cons, calls_eq, List.append_assoc, List.singleton_append]

/-- A span as it was started. -/
theorem settled_nil (number? : Option Nat) (id : CorrelationId) :
    settled number? id [] =
      { number := number?
        attributes := Attribute.merged [⟨correlationKey, .string id.text⟩] } := by
  simp [settled, Attribute.merged, Attribute.last?, List.eraseDups_cons]

/-- What becomes of the span. -/
theorem calls_ends (number? : Option Nat) (id : CorrelationId) (ends : List SpanEnd) :
    ((settled number? id []).calls (ends.flatMap calls)).1 = settled number? id ends := by
  cases ends with
  | nil => rfl
  | cons first later =>
    rw [flatMap_calls_cons, ExportedSpan.calls_past_end rfl (finish_notMem_beforeFinish first),
      ExportedSpan.calls_until_end rfl (finish_notMem_beforeFinish first), settled_nil]
    have hstatus := lastStatus_beforeFinish first
    rw [lastStatus, ofOutcome_eq] at hstatus
    simp only [Attribute.putAll_merged, merged_attributes, hstatus]
    rfl

/-- What is told of the span. -/
theorem spanRecords_ends (threshold : Threshold) (number : Nat) (id : CorrelationId)
    (ends : List SpanEnd) :
    spanRecords threshold number [⟨correlationKey, .string id.text⟩] (ends.flatMap calls) =
      records threshold number id ends := by
  cases ends with
  | nil => rfl
  | cons first later =>
    rw [flatMap_calls_cons, spanRecords_past_end (finish_notMem_beforeFinish first), records,
      errorsOf_beforeFinish, merged_attributes, lastStatus_beforeFinish, errorsOf_flatMap_calls,
      ofOutcome_eq]
    cases first.failed <;> simp [outcomeRecords, statusCode]

end SpanEnd

/-! ## What facilities do to spans -/

namespace Act

/-- The action succeeds.  It does to the spans what the events say, and the rest of the collector is as
before. -/
def OnSpans (action : Act Unit) (events : List SpanEvent) : Prop :=
  ∀ c, ∃ spans journal, runOn action c = (.ok (), { c with spans, journal }) ∧
    Collector.ledger { c with spans, journal } = c.ledger.applyAll events

/-- Actions in sequence. -/
theorem OnSpans.seq {first : Act Unit} {next : Unit → Act Unit} {before after : List SpanEvent}
    (hfirst : OnSpans first before) (hnext : OnSpans (next ()) after) :
    OnSpans (first >>= next) (before ++ after) := by
  intro c
  obtain ⟨spans, journal, hrun, hledger⟩ := hfirst c
  obtain ⟨spans', journal', hrun', hledger'⟩ := hnext { c with spans, journal }
  refine ⟨spans', journal', ?_, ?_⟩
  · rw [runOn_bind, hrun]
    exact hrun'
  · rw [SpanLedger.applyAll_append, ← hledger, ← hledger']

theorem OnSpans.call (span : SpanHandle) (call : SpanCall) :
    OnSpans (span.call call) [.called span.index call] := by
  intro c
  have hledger := span.ledger_call call c
  rw [SpanHandle.call, runOn_step] at hledger ⊢
  cases hcell : c.spans[span.index]? with
  | none =>
    rw [hcell] at hledger
    exact ⟨c.spans, c.journal, rfl, hledger⟩
  | some cell =>
    rw [hcell] at hledger
    exact ⟨_, _, rfl, hledger⟩

/-- A counter is not about spans. -/
theorem OnSpans.count (name : String) (labels : List (String × String)) :
    OnSpans (Act.count name labels) [] := by
  refine fun c => ⟨c.spans, c.journal ++ [.counter name labels 1], rfl, ?_⟩
  simp [Collector.ledger, SpanLedger.applyAll, Observation.isOnSpan]

theorem OnSpans.emit_none (severity : Severity) (fields : Fields) :
    OnSpans (Act.emit severity none fields) [] := by
  intro c
  have hledger := Act.ledger_emit_none severity fields c
  rw [Act.emit, runOn_step] at hledger ⊢
  by_cases htaken : c.threshold.admits severity = true
  · simp only [htaken, if_true] at hledger ⊢
    exact ⟨c.spans, _, rfl, hledger⟩
  · simp only [htaken] at hledger ⊢
    exact ⟨c.spans, c.journal, rfl, hledger⟩

end Act

namespace SpanFacility

/-- An end of a span is what it calls on the span; that it is counted does not matter to spans. -/
theorem finish_onSpans (span : SpanHandle) (last : SpanEnd) :
    Act.OnSpans (finish span last.status last.error) (last.calls.map (.called span.index)) := by
  have houtcome (outcome : SpanStatus) : Act.OnSpans (do
      Act.count "telemetry_spans_ended_total" [("status", outcome.name)]
      span.call (.setStatus outcome)
      span.call .finish)
      [.called span.index (.setStatus outcome), .called span.index .finish] :=
    .seq (.count _ _) (.seq (.call span _) (.call span _))
  rcases last with ⟨status, _ | error⟩
  · exact .seq (.call span _) (houtcome _)
  · exact .seq (.call span _) (.seq (.call span (.recordError error)) (houtcome _))

/-- An end is one of the span that the context carries; without one it does nothing to spans. -/
theorem endSpan_onSpans (ctx : Context) (last : SpanEnd) :
    Act.OnSpans (endSpan ctx last.status last.error) (match ctx.span? with
      | some span => last.calls.map (.called span.index)
      | none => []) := by
  rw [endSpan]
  cases ctx.span? with
  | some span => exact finish_onSpans span last
  | none => exact .emit_none _ _

/-- A facility over an exporting tracer. -/
def exporting (tracer : ExportingTracer) : SpanFacility Backend :=
  ⟨.correlated (.backend (.exporting tracer))⟩

/-- A start under a recording tracer opens a span that carries the id of its context. -/
theorem exists_runOn_startSpan {tracer : ExportingTracer} {c : Collector}
    (hrecords : tracer.records c = true) (ctx : Context) (name : String) :
    ∃ ctx' c' id parent fields,
      Act.runOn ((exporting tracer).startSpan ctx name) c = (.ok ctx', c') ∧
      ctx'.span? = some ⟨c.spans.length⟩ ∧ ctx'.correlationId? = some id ∧
      c'.switches = c.switches ∧
      c'.ledger = c.ledger.apply (.opened [⟨correlationKey, .string id.text⟩] parent fields) := by
  obtain ⟨mid, id, _, hensure, hensured⟩ := ctx.exists_ensured c
  obtain ⟨idCount, storageCount, rfl⟩ := hensured.rest
  obtain ⟨ctx', c₁, hstart, hspan, hswitches, hledger, -⟩ := tracer.exists_runOn_start mid name
    ([] ++ Tracer.correlationOptions id) { c with idCount, storageCount }
  obtain ⟨_, _, _, hstart', -, hfate⟩ := tracer.start_fate mid name
    ([] ++ Tracer.correlationOptions id) { c with idCount, storageCount }
  rw [hstart] at hstart'
  cases hstart'
  obtain ⟨spans, journal, hcount, htold⟩ :=
    Act.OnSpans.count "telemetry_spans_started_total" [] c₁
  have hrun : Act.runOn ((exporting tracer).startSpan ctx name) c =
      (.ok ctx', { c₁ with spans, journal }) := by
    show Act.runOn (do
      let started ← (do
        let ensured ← ctx.ensureCorrelationId
        tracer.start ensured.1 name ([] ++ Tracer.correlationOptions ensured.2))
      Act.count "telemetry_spans_started_total" []
      return started.1) c = _
    simp only [Act.runOn_bind, hensure, hstart, hcount, Act.runOn_pure]
  have hopens : tracer.starting { c with idCount, storageCount } mid name
      ([] ++ Tracer.correlationOptions id) =
      .opened [⟨correlationKey, .string id.text⟩] (mid.get .parent).join
        (tracer.fields name .client) := if_pos hrecords
  refine ⟨ctx', _, id, (mid.get .parent).join, tracer.fields name .client, hrun, hspan,
    hfate.id_kept hensured.carries, hswitches, ?_⟩
  rw [htold, ← hopens]
  exact hledger

end SpanFacility

/-! ## One span is touched -/

/-- Only the span at the index was touched: every other span, what the journal tells of it, and the rest
of the collector are as before. -/
structure TouchesOnly (index : Nat) (c c' : Collector) : Prop where
  rest : c' = { c with spans := c'.spans, journal := c'.journal }
  spans : ∀ i, i ≠ index → c'.spans[i]? = c.spans[i]?
  told : ∀ number, c.ledger.numberAt index ≠ some number →
    c'.journal.filter (Observation.isOn number) = c.journal.filter (Observation.isOn number)

/-- Calls on one span touch no other. -/
theorem SpanLedger.applyAll_called_of_ne {ledger : SpanLedger} {index : Nat} (calls : List SpanCall) :
    (∀ i, i ≠ index → (ledger.applyAll (calls.map (.called index))).spans[i]? = ledger.spans[i]?) ∧
      ∀ number, ledger.numberAt index ≠ some number →
        (ledger.applyAll (calls.map (.called index))).journal.filter (Observation.isOn number) =
          ledger.journal.filter (Observation.isOn number) := by
  induction calls generalizing ledger with
  | nil => exact ⟨fun _ _ => rfl, fun _ _ => rfl⟩
  | cons call rest ih =>
    obtain ⟨hspans, hjournal⟩ := @ih (ledger.apply (.called index call))
    rw [List.map_cons, applyAll_cons]
    refine ⟨fun i hne => (hspans i hne).trans ?_, fun number hnumber => ?_⟩
    · exact getElem?_apply_called hne.symm call
    · rw [hjournal number (by rwa [numberAt_apply_called]), filter_isOn_apply_called hnumber]

theorem SpanFacility.finish_touchesOnly (span : SpanHandle) (last : SpanEnd) (c : Collector) :
    ∃ c', Act.runOn (finish span last.status last.error) c = (.ok (), c') ∧
      TouchesOnly span.index c c' := by
  obtain ⟨spans, journal, hrun, hledger⟩ := finish_onSpans span last c
  obtain ⟨hspans, hjournal⟩ :=
    @SpanLedger.applyAll_called_of_ne c.ledger span.index last.calls
  rw [← hledger] at hspans hjournal
  refine ⟨_, hrun, rfl, hspans, fun number hnumber => ?_⟩
  have htold := hjournal number hnumber
  rwa [Collector.filter_isOn, Collector.filter_isOn] at htold

end Observability
