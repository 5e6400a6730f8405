import Mathlib.Data.List.TakeWhile
import Observability.Proofs.Span.Attributes
import Observability.Tracing.Tracer

/-!
# What an exported span reports

Calls come in any order and go on after the end.

* `ExportedSpan.calls` makes calls in order: the span afterwards, and all that it reported.
* `errorsOf`, `attributesOf` and `lastStatus` are what a list of calls says of errors, attributes and
  status.
* `spanRecords` is all that shows outside of a span that was called so.

`calls_until_end` and `calls_past_end` say what is reported before, at and after the first end, and
`observe_calls` how it shows.  `span_reports_once` says it of a span that a tracer starts.
-/

namespace Observability

namespace SpanCall

/-- The text of the error that the call records. -/
def error? : SpanCall → Option String
  | .recordError error => some error
  | _ => none

/-- The attribute that the call sets. -/
def attribute? : SpanCall → Option Attribute
  | .setAttribute new => some new
  | _ => none

/-- The status that the call sets. -/
def status? : SpanCall → Option SpanStatus
  | .setStatus status => some status
  | _ => none

/-- The errors recorded, in call order. -/
def errorsOf (calls : List SpanCall) : List String := calls.filterMap error?

/-- The attributes set, in call order. -/
def attributesOf (calls : List SpanCall) : List Attribute := calls.filterMap attribute?

/-- The status set last; unset if none was set. -/
def lastStatus (calls : List SpanCall) : SpanStatus :=
  (calls.filterMap status?).getLast?.getD .unset

end SpanCall

namespace ExportedSpan

open SpanCall

/-- The calls in order: the span afterwards and all that it reported. -/
def calls (span : ExportedSpan) : List SpanCall → ExportedSpan × List SpanReport
  | [] => (span, [])
  | call :: rest =>
    let (after, reports) := span.call call
    let (last, more) := after.calls rest
    (last, reports ++ more)

/-- The reports of errors. -/
def errorReports (errors : List String) : List SpanReport :=
  errors.map fun error => .fields [("error", .text error)]

@[simp] theorem calls_nil (span : ExportedSpan) : span.calls [] = (span, []) := rfl

theorem calls_cons (span : ExportedSpan) (call : SpanCall) (rest : List SpanCall) :
    span.calls (call :: rest) =
      (((span.call call).1.calls rest).1, (span.call call).2 ++ ((span.call call).1.calls rest).2) :=
  rfl

/-- Calls after others go on where these left the span. -/
theorem calls_append (span : ExportedSpan) (before after : List SpanCall) :
    span.calls (before ++ after) =
      (((span.calls before).1.calls after).1,
        (span.calls before).2 ++ ((span.calls before).1.calls after).2) := by
  induction before generalizing span with
  | nil => rfl
  | cons call rest ih => rw [List.cons_append, calls_cons, ih, calls_cons, List.append_assoc]

/-- A call leaves the number alone. -/
theorem number_call (span : ExportedSpan) (call : SpanCall) :
    (span.call call).1.number = span.number := by
  cases call with
  | recordError error => rfl
  | setAttribute new => rw [ExportedSpan.call]; split <;> rfl
  | setStatus status => rw [ExportedSpan.call]; split <;> rfl
  | finish => rw [ExportedSpan.call]; split <;> rfl

theorem number_calls (span : ExportedSpan) (cs : List SpanCall) :
    (span.calls cs).1.number = span.number := by
  induction cs generalizing span with
  | nil => rfl
  | cons call rest ih => rw [calls_cons, ih, number_call]

/-- A span has ended once it was called to. -/
theorem ended_calls (span : ExportedSpan) (cs : List SpanCall) :
    (span.calls cs).1.ended = (span.ended || decide (SpanCall.finish ∈ cs)) := by
  induction cs generalizing span with
  | nil => simp
  | cons call rest ih =>
    have hstep : (span.call call).1.ended = (span.ended || decide (call = .finish)) := by
      cases call with
      | recordError error => simp [ExportedSpan.call]
      | setAttribute new => rw [ExportedSpan.call]; split <;> simp_all
      | setStatus status => rw [ExportedSpan.call]; split <;> simp_all
      | finish => rw [ExportedSpan.call]; split <;> simp_all
    rw [calls_cons, ih, hstep]
    simp [Bool.or_assoc, List.mem_cons, eq_comm]

/-! ## Before, at and after the first end -/

/-- Until the end attributes and status are gathered, and only errors are reported. -/
theorem calls_until_end {span : ExportedSpan} (hopen : span.ended = false) {cs : List SpanCall}
    (hcs : SpanCall.finish ∉ cs) :
    span.calls cs =
      ({ span with
          attributes := Attribute.putAll (attributesOf cs) span.attributes
          status := (cs.filterMap status?).getLast?.getD span.status },
        errorReports (errorsOf cs)) := by
  induction cs generalizing span with
  | nil => rfl
  | cons call rest ih =>
    have hrest : SpanCall.finish ∉ rest := fun h => hcs (List.mem_cons_of_mem _ h)
    rw [calls_cons]
    cases call with
    | setAttribute new =>
      have hstep : span.call (.setAttribute new) =
          ({ span with attributes := new.put span.attributes }, []) := by
        simp [ExportedSpan.call, hopen]
      simp only [hstep]
      rw [@ih { span with attributes := new.put span.attributes } hopen hrest]
      rfl
    | recordError error =>
      have hstep : span.call (.recordError error) = (span, [.fields [("error", .text error)]]) := rfl
      simp only [hstep]
      rw [ih hopen hrest]
      rfl
    | setStatus status =>
      have hstep : span.call (.setStatus status) = ({ span with status }, []) := by
        simp [ExportedSpan.call, hopen]
      have hlast : ((SpanCall.setStatus status :: rest).filterMap status?).getLast?.getD span.status =
          (rest.filterMap status?).getLast?.getD status := by
        show (status :: rest.filterMap status?).getLast?.getD span.status = _
        rw [List.getLast?_cons, Option.getD_some]
      simp only [hstep]
      rw [@ih { span with status } hopen hrest, hlast]
      rfl
    | finish => exact absurd List.mem_cons_self hcs

/-- After the end nothing changes, and only errors are reported. -/
theorem calls_of_ended {span : ExportedSpan} (hended : span.ended = true) (cs : List SpanCall) :
    span.calls cs = (span, errorReports (errorsOf cs)) := by
  induction cs with
  | nil => rfl
  | cons call rest ih =>
    have hstep : span.call call = (span, errorReports (errorsOf [call])) := by
      cases call <;> simp [ExportedSpan.call, hended, errorReports, errorsOf, error?]
    have herrors : errorsOf (call :: rest) = errorsOf [call] ++ errorsOf rest := by
      rw [errorsOf, errorsOf, errorsOf, ← List.filterMap_append, List.singleton_append]
    rw [calls_cons, hstep, ih, herrors, errorReports, errorReports, errorReports, List.map_append]

/-- The first end reports what the span has gathered by then.  What is called afterwards adds nothing to
it. -/
theorem calls_past_end {span : ExportedSpan} (hopen : span.ended = false) {before : List SpanCall}
    (hbefore : SpanCall.finish ∉ before) (after : List SpanCall) :
    span.calls (before ++ .finish :: after) =
      let last : ExportedSpan := { (span.calls before).1 with ended := true }
      (last, errorReports (errorsOf before) ++ last.summary ++ errorReports (errorsOf after)) := by
  have hgathered := calls_until_end hopen hbefore
  have hstill : (span.calls before).1.ended = false := by rw [hgathered]; exact hopen
  have hend : (span.calls before).1.call .finish =
      ({ (span.calls before).1 with ended := true }, (span.calls before).1.summary) := by
    simp [ExportedSpan.call, hstill]
  rw [calls_append, calls_cons, hend, calls_of_ended rfl]
  simp only [hgathered, List.append_assoc]
  rfl

end ExportedSpan

namespace SpanHandle

/-- Calls of an exported span: what it reports shows under its number. -/
theorem runOn_calls {span : SpanHandle} {exported : ExportedSpan} {c : Collector}
    (hcell : c.spans[span.index]? = some (.exported exported)) (cs : List SpanCall) :
    Act.runOn (forM cs span.call) c =
      (.ok (), { c with
        spans := c.spans.set span.index (.exported (exported.calls cs).1)
        journal := c.journal ++
          (exported.calls cs).2.flatMap (observe c.threshold exported.number) }) := by
  obtain ⟨hlt, hget⟩ := List.getElem?_eq_some_iff.mp hcell
  induction cs generalizing exported c with
  | nil => simp [← hget]
  | cons call rest ih =>
    have hstep : Act.runOn (span.call call) c =
        (.ok (), { c with
          spans := c.spans.set span.index (.exported (exported.call call).1)
          journal := c.journal ++
            (exported.call call).2.flatMap (observe c.threshold exported.number) }) := by
      simp [SpanHandle.call, hcell, callCell]
    have hnext : (c.spans.set span.index (.exported (exported.call call).1))[span.index]? =
        some (.exported (exported.call call).1) := List.getElem?_set_self hlt
    rw [List.forM_cons, Act.runOn_bind, hstep]
    simp only
    rw [ih hnext (by simpa using hlt) (by simp)]
    simp [ExportedSpan.calls_cons, ExportedSpan.number_call]

end SpanHandle

/-! ## What shows outside -/

open SpanCall

/-- The records of errors on the span with the number. -/
def errorRecords (number : Nat) (errors : List String) : List Observation :=
  errors.map fun error => .spanRecorded number [("error", .text error)]

/-- The text of a status in its record. -/
def statusCode : SpanStatus → String
  | .unset => "unset"
  | .ok => "ok"
  | .error _ => "error"

/-- The records of an outcome: the attributes, the status, and its description if it is an error. -/
def outcomeRecords (number : Nat) (attributes : List Attribute) (status : SpanStatus) :
    List Observation :=
  [ .spanRecorded number [("attributes", .text (Attribute.listJson attributes).print)],
    .spanRecorded number [("otel.status_code", .text (statusCode status))] ] ++
  match status with
  | .error description => [.spanRecorded number [("otel.status_description", .text description)]]
  | _ => []

/-- The event of the end, where it is taken. -/
def endEvent (threshold : Threshold) (number : Nat) : List Observation :=
  if threshold.admits .trace then [.event .trace (some number) [("message", .text "span ended")]]
  else []

/-- All that is told of a span that opened with the attributes and was called so: the errors until the
first end, then the outcome, and errors again. -/
def spanRecords (threshold : Threshold) (number : Nat) (attributes : List Attribute)
    (calls : List SpanCall) : List Observation :=
  let before := calls.takeWhile (· ≠ SpanCall.finish)
  errorRecords number (errorsOf before) ++
    match calls.dropWhile (· ≠ SpanCall.finish) with
    | [] => []
    | _ :: after =>
      outcomeRecords number (Attribute.merged (attributes ++ attributesOf before))
        (lastStatus before) ++
      endEvent threshold number ++ errorRecords number (errorsOf after)

/-- Calls before the first end. -/
theorem all_ne_finish {calls : List SpanCall} (h : SpanCall.finish ∉ calls) :
    ∀ call ∈ calls, decide (call ≠ SpanCall.finish) = true := by
  intro call hmem
  exact decide_eq_true fun heq => h (heq ▸ hmem)

theorem spanRecords_until_end {calls : List SpanCall} (hcalls : SpanCall.finish ∉ calls)
    (threshold : Threshold) (number : Nat) (attributes : List Attribute) :
    spanRecords threshold number attributes calls = errorRecords number (errorsOf calls) := by
  have htake : calls.takeWhile (· ≠ SpanCall.finish) = calls :=
    List.takeWhile_eq_self_iff.mpr (all_ne_finish hcalls)
  have hdrop : calls.dropWhile (· ≠ SpanCall.finish) = [] :=
    List.dropWhile_eq_nil_iff.mpr (all_ne_finish hcalls)
  rw [spanRecords, htake, hdrop, List.append_nil]

theorem spanRecords_past_end {before : List SpanCall} (hbefore : SpanCall.finish ∉ before)
    (threshold : Threshold) (number : Nat) (attributes : List Attribute) (after : List SpanCall) :
    spanRecords threshold number attributes (before ++ .finish :: after) =
      errorRecords number (errorsOf before) ++
        (outcomeRecords number (Attribute.merged (attributes ++ attributesOf before))
          (lastStatus before) ++
        endEvent threshold number ++ errorRecords number (errorsOf after)) := by
  have htake : (before ++ .finish :: after).takeWhile (· ≠ SpanCall.finish) = before := by
    rw [List.takeWhile_append_of_pos (all_ne_finish hbefore),
      List.takeWhile_cons_of_neg (by decide), List.append_nil]
  have hdrop : (before ++ .finish :: after).dropWhile (· ≠ SpanCall.finish) = .finish :: after := by
    rw [List.dropWhile_append_of_pos (all_ne_finish hbefore),
      List.dropWhile_cons_of_neg (by decide)]
  rw [spanRecords, htake, hdrop]

theorem observe_errorReports (threshold : Threshold) (number : Nat) (errors : List String) :
    (ExportedSpan.errorReports errors).flatMap (SpanHandle.observe threshold (some number)) =
      errorRecords number errors := by
  induction errors with
  | nil => rfl
  | cons error rest ih =>
    rw [ExportedSpan.errorReports, List.map_cons, List.flatMap_cons, errorRecords, List.map_cons]
    exact congrArg _ ih

/-- The end shows as the outcome and, where it is taken, the event of the end. -/
theorem observe_summary (threshold : Threshold) (number : Nat) (span : ExportedSpan) :
    span.summary.flatMap (SpanHandle.observe threshold (some number)) =
      outcomeRecords number span.attributes span.status ++ endEvent threshold number := by
  cases hstatus : span.status <;>
    simp [ExportedSpan.summary, ExportedSpan.describe, outcomeRecords, statusCode, SpanStatus.name,
      endEvent, SpanHandle.observe, hstatus]

/-- What the calls on a new span report shows as its records. -/
theorem observe_calls {number? : Option Nat} {attributes : List Attribute} {span : ExportedSpan}
    (hspan : span = { number := number?, attributes := Attribute.merged attributes })
    (threshold : Threshold) (number : Nat) (calls : List SpanCall) :
    (span.calls calls).2.flatMap (SpanHandle.observe threshold (some number)) =
      spanRecords threshold number attributes calls := by
  have hopen : span.ended = false := by rw [hspan]
  by_cases hend : SpanCall.finish ∈ calls
  · obtain ⟨before, after, rfl, hbefore⟩ := List.eq_append_cons_of_mem hend
    have hgathered := ExportedSpan.calls_until_end hopen hbefore
    have hattributes : (span.calls before).1.attributes =
        Attribute.merged (attributes ++ attributesOf before) := by
      rw [hgathered, hspan, Attribute.putAll_merged]
    have hstatus : (span.calls before).1.status = lastStatus before := by
      rw [hgathered, hspan]
      rfl
    rw [ExportedSpan.calls_past_end hopen hbefore, spanRecords_past_end hbefore]
    simp only [List.flatMap_append, observe_errorReports, observe_summary, hattributes, hstatus,
      List.append_assoc]
  · rw [ExportedSpan.calls_until_end hopen hend, observe_errorReports, spanRecords_until_end hend]

/-- **A span is reported once.**  A span is started with any options where every severity is taken, and
called in any way.  Up to the first end the only records are those of the errors.  The first end records
the attributes of the options and of the calls before it, merged; the status set last before it; its
description if that is an error; and the end.  From then on there are again only records of errors. -/
theorem span_reports_once {tracer : ExportingTracer} {c : Collector}
    (hrecords : tracer.records c = true) (hall : ∀ severity, c.threshold.admits severity = true)
    (ctx : Context) (name : String) (options : List StartOption) :
    ∃ ctx' span started, Act.runOn (tracer.start ctx name options) c = (.ok (ctx', span), started) ∧
      let number := c.createdCount + 1
      started.journal = c.journal ++ [.spanCreated number "span" .info (ctx.get .parent).join
        (tracer.fields name (SpanSettings.ofOptions options).kind)] ∧
      ∀ before, SpanCall.finish ∉ before →
        (∃ c', Act.runOn (forM before span.call) started = (.ok (), c') ∧
          c'.journal = started.journal ++ errorRecords number (errorsOf before)) ∧
        ∀ after, ∃ c',
          Act.runOn (forM (before ++ SpanCall.finish :: after) span.call) started = (.ok (), c') ∧
          c'.journal = started.journal ++ (errorRecords number (errorsOf before) ++
            (outcomeRecords number
              (Attribute.merged (SpanSettings.listed options ++ attributesOf before))
              (lastStatus before) ++
            [.event .trace (some number) [("message", .text "span ended")]] ++
            errorRecords number (errorsOf after))) := by
  let opened : ExportedSpan :=
    { number := some (c.createdCount + 1), attributes := (SpanSettings.ofOptions options).attributes }
  have hnumber : ExportingTracer.nextNumber c = some (c.createdCount + 1) := if_pos (hall .info)
  have hopened : opened = ⟨some (c.createdCount + 1),
      Attribute.merged (SpanSettings.listed options), .unset, false⟩ := by
    simp only [opened, SpanSettings.attributes_ofOptions]
  refine ⟨_, _, _, tracer.runOn_start_of_records hrecords ctx name options, ?_, ?_⟩
  · simp [ExportingTracer.announced, hnumber]
  · intro before hbefore
    simp only [ExportingTracer.announced, hnumber]
    have hcell : (c.spans ++ [.exported opened])[c.spans.length]? = some (.exported opened) :=
      List.getElem?_concat_length
    refine ⟨⟨_, SpanHandle.runOn_calls hcell before, ?_⟩,
      fun after => ⟨_, SpanHandle.runOn_calls hcell _, ?_⟩⟩
    · simp only [opened, observe_calls hopened, spanRecords_until_end hbefore]
    · simp only [opened, observe_calls hopened, spanRecords_past_end hbefore, endEvent,
        hall .trace, if_true]

/-- A key set again takes its first place with its last value; a second end, and what is called between
the two, leave the outcome as it is. -/
theorem span_reports_once_ended_twice :
    let tracer : ExportingTracer := ⟨"scope", "service", .alwaysOn, 0⟩
    let c : Collector := { idText := fun _ => "", switches := [false] }
    tracer.records c = true ∧ (∀ severity, c.threshold.admits severity = true) ∧
      ∃ ctx' span started c',
        Act.runOn (tracer.start (.empty 0) "op" [.attributes [⟨"a", .int 1⟩, ⟨"b", .bool true⟩]]) c =
          (.ok (ctx', span), started) ∧
        Act.runOn (forM [.setAttribute ⟨"a", .string "x"⟩, .recordError "lost",
          .setStatus (.error "broken"), .finish, .setStatus .ok, .recordError "late", .finish]
          span.call) started = (.ok (), c') ∧
        c'.journal =
          [ .spanCreated 1 "span" .info none (tracer.fields "op" .internal),
            .spanRecorded 1 [("error", .text "lost")],
            .spanRecorded 1 [("attributes", .text
              "[\x7b\"key\":\"a\",\"value\":\"x\"\x7d,\x7b\"key\":\"b\",\"value\":true\x7d]")],
            .spanRecorded 1 [("otel.status_code", .text "error")],
            .spanRecorded 1 [("otel.status_description", .text "broken")],
            .event .trace (some 1) [("message", .text "span ended")],
            .spanRecorded 1 [("error", .text "late")] ] := by
  intro tracer c
  have hall : ∀ severity, c.threshold.admits severity = true := by
    intro severity
    cases severity <;> rfl
  obtain ⟨ctx', span, started, hstart, hcreated, hcalls⟩ := @span_reports_once tracer c rfl hall
    (.empty 0) "op" [.attributes [⟨"a", .int 1⟩, ⟨"b", .bool true⟩]]
  obtain ⟨c', hrun, hjournal⟩ :=
    (hcalls [.setAttribute ⟨"a", .string "x"⟩, .recordError "lost", .setStatus (.error "broken")]
      (by decide)).2 [.setStatus .ok, .recordError "late", .finish]
  refine ⟨rfl, hall, ctx', span, started, c', hstart, hrun, ?_⟩
  rw [hjournal, hcreated]
  rfl

end Observability
