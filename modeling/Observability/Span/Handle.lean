import Observability.Collector

/-!
# Spans in use

A span lives in the collector, where everyone who holds its handle reaches it.  Calls on a span the
subscriber does not know change it all the same, but nothing is recorded on it, and its end is an event
under no span.
-/

namespace Observability.SpanHandle

/-- A new span. -/
def create (cell : SpanCell) : Act SpanHandle :=
  Act.step fun c => (⟨c.spans.length⟩, { c with spans := c.spans ++ [cell] })

@[simp] theorem runOn_create (cell : SpanCell) (c : Collector) :
    Act.runOn (create cell) c = (.ok ⟨c.spans.length⟩, { c with spans := c.spans ++ [cell] }) := rfl

/-- How a report of the span with the given number shows outside. -/
def observe (threshold : Threshold) (number : Option Nat) : SpanReport → List Observation
  | .fields fields =>
    match number with
    | some n => [.spanRecorded n fields]
    | none => []
  | .ended =>
    if threshold.admits .trace then [.event .trace number [("message", .text "span ended")]] else []

/-- One call on a span: the span afterwards and what shows outside. -/
def callCell (threshold : Threshold) (call : SpanCall) : SpanCell → SpanCell × List Observation
  | .silent => (.silent, [])
  | .exported span =>
    let (after, reports) := span.call call
    (.exported after, reports.flatMap (observe threshold span.number))
  | .recording number ended =>
    (.recording number (ended || call = .finish), [.spanCalled number call])

/-- Calls the span. -/
def call (span : SpanHandle) (call : SpanCall) : Act Unit :=
  Act.step fun c =>
    match c.spans[span.index]? with
    | none => ((), c)
    | some cell =>
      let (after, observations) := callCell c.threshold call cell
      ((), { c with
        spans := c.spans.set span.index after
        journal := c.journal ++ observations })

/-- Whether the span takes notice of calls. -/
def isRecordingCell : SpanCell → Bool
  | .silent => false
  | .exported span => span.isRecording
  | .recording _ ended => !ended

/-- Whether the span takes notice of calls. -/
def isRecording (span : SpanHandle) : Act Bool :=
  Act.step fun c => ((c.spans[span.index]?).any isRecordingCell, c)

theorem runOn_isRecording_of_cell {span : SpanHandle} {cell : SpanCell} {c : Collector}
    (h : c.spans[span.index]? = some cell) :
    Act.runOn span.isRecording c = (.ok (isRecordingCell cell), c) := by
  rw [isRecording, Act.runOn_step, h]
  rfl

end Observability.SpanHandle
