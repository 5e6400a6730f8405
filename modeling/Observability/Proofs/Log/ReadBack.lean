import Observability.Log.EventSink
import Observability.Proofs.Log.Framing
import Observability.Proofs.Span.Reports

/-!
# JSON output read back

Whatever this library writes as JSON is read as what it was written for: the lines of JSON sinks, the
pairs of events, and the attributes of spans.

* `LoggerCall.exists_runOn_events` is a call on an event sink.
* `Attribute.ofListJson?` makes attributes of what their text is read as; without doubles they are the
  same ones (`Attribute.ofListJson?_listJson`).
* `SpanHandle.attributesTexts_calls` finds the text of the attributes among what a span reports.

`json_output_read_back` puts the three together.
-/

namespace Observability

open Json (parse?)

/-! ## The pairs of events -/

/-- The severity of the event of an ordinary line: info at verbosity zero, debug at one, trace above. -/
def lineSeverity (level : UInt32) : Severity :=
  match level.toNat with
  | 0 => .info
  | 1 => .debug
  | _ + 2 => .trace

theorem Severity.ofVerbosity_eq (level : UInt32) : ofVerbosity level = lineSeverity level := by
  simp only [ofVerbosity, ← UInt32.toNat_inj, UInt32.toNat_zero, UInt32.toNat_one, lineSeverity]
  match level.toNat with
  | 0 => rfl
  | 1 => rfl
  | _ + 2 => simp

/-- The severity of the event of a call. -/
def LoggerCall.severity (level : UInt32) : LoggerCall → Severity
  | info _ _ => lineSeverity level
  | error _ _ _ => .error

/-- A call on an event sink emits an event with the pairs as text, where such events are taken. -/
theorem LoggerCall.exists_runOn_events (sink : EventSink) (level : UInt32) (call : LoggerCall)
    (c : Collector) :
    ∃ fields, Act.runOn (call.deliver level sink) c =
        (.ok (), if c.threshold.admits (call.severity level) then
            { c with journal := c.journal ++ [.event (call.severity level) none fields] }
          else c) ∧
      fields.lookup "fields" = some (.text (sink.fieldsText call.pairs)) := by
  cases call with
  | info message pairs =>
    refine ⟨sink.infoFields level message pairs, ?_, rfl⟩
    rw [severity, ← Severity.ofVerbosity_eq]
    rfl
  | error error message pairs => exact ⟨sink.errorFields error message pairs, rfl, rfl⟩

/-! ## The attributes of spans -/

/-- The value of an attribute that is written so, doubles apart. -/
def AttributeValue.ofJson? : Json → Option AttributeValue
  | .string s => some (.string s)
  | .int n => some (.int (.ofInt n.val))
  | .bool b => some (.bool b)
  | _ => none

theorem AttributeValue.ofJson?_toJson {value : AttributeValue} (h : ∀ x, value ≠ .double x) :
    ofJson? value.toJson = some value := by
  cases value with
  | string s => rfl
  | int n =>
    have hsame : Int64.ofInt (Json.Integer.ofInt64 n).val = n := Int64.ofInt_toInt n
    rw [toJson, ofJson?, hsame]
  | double x => exact absurd rfl (h x)
  | bool b => rfl

theorem AttributeValue.isExact_toJson {value : AttributeValue} (h : ∀ x, value ≠ .double x) :
    value.toJson.isExact = true := by
  cases value with
  | double x => exact absurd rfl (h x)
  | _ => rfl

theorem AttributeValue.canonical_toJson (value : AttributeValue) : value.toJson.Canonical := by
  cases value <;> constructor

namespace Attribute

/-- The attribute that is written so. -/
def ofJson? (json : Json) : Option Attribute := do
  let .string key ← json.field? "key" | none
  let value ← AttributeValue.ofJson? (← json.field? "value")
  return ⟨key, value⟩

/-- The attributes that are written so. -/
def ofListJson? : Json → Option (List Attribute)
  | .array items => items.mapM ofJson?
  | _ => none

theorem ofJson?_toJson {a : Attribute} (h : ∀ x, a.value ≠ .double x) : ofJson? a.toJson = some a := by
  have hkey : a.toJson.field? "key" = some (.string a.key) := rfl
  have hvalue : a.toJson.field? "value" = some a.value.toJson := rfl
  rw [ofJson?, hkey, hvalue]
  simp only [Option.bind_eq_bind, Option.bind_some, AttributeValue.ofJson?_toJson h]
  rfl

/-- Attributes without doubles are those that their list is written for. -/
theorem ofListJson?_listJson {list : List Attribute} (h : ∀ a ∈ list, ∀ x, a.value ≠ .double x) :
    ofListJson? (listJson list) = some list := by
  rw [listJson, ofListJson?]
  induction list with
  | nil => rfl
  | cons a rest ih =>
    obtain ⟨ha, hrest⟩ := List.forall_mem_cons.mp h
    rw [List.map_cons, List.mapM_cons, ofJson?_toJson ha, ih hrest]
    rfl

theorem canonical_listJson (list : List Attribute) : (listJson list).Canonical := by
  refine .array fun v hv => ?_
  obtain ⟨a, -, rfl⟩ := List.mem_map.mp hv
  have hkeys : "key" < "value" := by decide
  refine .object (List.pairwise_pair.mpr hkeys) fun m hm => ?_
  simp only [List.mem_cons, List.not_mem_nil, or_false] at hm
  rcases hm with rfl | rfl
  · exact .string _
  · exact a.value.canonical_toJson

theorem isExact_listJson {list : List Attribute} (h : ∀ a ∈ list, ∀ x, a.value ≠ .double x) :
    (listJson list).isExact = true := by
  rw [listJson, Json.isExact]
  induction list with
  | nil => rfl
  | cons a rest ih =>
    obtain ⟨ha, hrest⟩ := List.forall_mem_cons.mp h
    have hvalue := AttributeValue.isExact_toJson ha
    rw [List.map_cons, Json.isExactItems, ih hrest]
    simp [toJson, Json.isExact, Json.isExactMembers, hvalue]

end Attribute

/-- What was recorded as the attributes of the span with the number. -/
def attributesTexts (number : Nat) (journal : List Observation) : List FieldValue :=
  journal.filterMap fun
    | .spanRecorded n fields => if n = number then fields.lookup "attributes" else none
    | _ => none

theorem attributesTexts_append (number : Nat) (first second : List Observation) :
    attributesTexts number (first ++ second) =
      attributesTexts number first ++ attributesTexts number second :=
  List.filterMap_append

theorem attributesTexts_errorRecords (number : Nat) (errors : List String) :
    attributesTexts number (errorRecords number errors) = [] := by
  refine List.filterMap_eq_nil_iff.mpr fun observation hmem => ?_
  obtain ⟨error, -, rfl⟩ := List.mem_map.mp hmem
  exact ite_self none

theorem attributesTexts_outcome (threshold : Threshold) (number : Nat) (attributes : List Attribute)
    (status : SpanStatus) :
    attributesTexts number (outcomeRecords number attributes status ++ endEvent threshold number) =
      [.text (Attribute.listJson attributes).print] := by
  have hend : attributesTexts number (endEvent threshold number) = [] := by
    rw [endEvent]
    split <;> rfl
  rw [attributesTexts_append, hend, List.append_nil]
  cases status <;> simp [attributesTexts, outcomeRecords]

/-- Of a span that is called the attributes are recorded once, as gathered up to the first end. -/
theorem SpanHandle.attributesTexts_calls {span : SpanHandle} {exported : ExportedSpan} {c : Collector}
    (hcell : c.spans[span.index]? = some (.exported exported)) {number : Nat}
    (hnumber : exported.number = some number) (hopen : exported.ended = false)
    {before : List SpanCall} (hbefore : SpanCall.finish ∉ before) (after : List SpanCall) :
    ∃ c' more, Act.runOn (forM (before ++ .finish :: after) span.call) c = (.ok (), c') ∧
      c'.journal = c.journal ++ more ∧
      attributesTexts number more =
        [.text (Attribute.listJson
          (Attribute.putAll (SpanCall.attributesOf before) exported.attributes)).print] := by
  refine ⟨_, _, runOn_calls hcell _, rfl, ?_⟩
  rw [ExportedSpan.calls_past_end hopen hbefore, hnumber]
  simp only [List.flatMap_append, observe_errorReports, observe_summary]
  rw [attributesTexts_append, attributesTexts_append, attributesTexts_errorRecords,
    attributesTexts_errorRecords, attributesTexts_outcome, ExportedSpan.calls_until_end hopen hbefore]
  rfl

/-! ## All JSON output -/

/-- **JSON output read back.**  What JSON sinks with one writer are told comes out as one line for each
call that is not dropped, in the order of the calls and with no newline but the one at its end, and is
read as the object built for the call.  The pairs of an event are read as the object that they merge to,
and the attributes of a span as the same attributes in the same order.  Doubles are apart from this. -/
theorem json_output_read_back :
    (∀ {w : Nat} {sinks : List JsonSink} {c : Collector} {writer : Writer} {steps : List JsonSink.Step},
      (∀ sink ∈ sinks, sink.writer = w ∧ KeyValue.AllCanonical sink.values) →
      c.writers[w]? = some writer → writer.Ready →
      (∀ step ∈ steps, KeyValue.AllCanonical step.pairs) →
      let objects := JsonSink.objects sinks c.clock steps
      (∃ sinks' c' calls, Act.runOn (JsonSink.performAll sinks steps) c = (.ok sinks', c') ∧
        c'.writers = c.writers.set w { writer with calls } ∧
        c'.journal = c.journal ++ objects.map fun object =>
          .line writer.destination object.print) ∧
      ∀ object ∈ objects, '\n' ∉ object.print.toList ∧
        parse? object.print = some (object.mapDoubles Binary64.reread)) ∧
    (∀ {sink : EventSink} {call : LoggerCall} (level : UInt32) (c : Collector),
      KeyValue.AllCanonical sink.values → KeyValue.AllCanonical call.pairs →
      ∃ fields text, Act.runOn (call.deliver level sink) c =
          (.ok (), if c.threshold.admits (call.severity level) then
              { c with journal := c.journal ++ [.event (call.severity level) none fields] }
            else c) ∧
        fields.lookup "fields" = some (.text text) ∧
        parse? text = some ((Json.object (KeyValue.merge [sink.values, call.pairs])).mapDoubles
          Binary64.reread)) ∧
    ∀ {span : SpanHandle} {exported : ExportedSpan} {c : Collector} {number : Nat}
        {before : List SpanCall} (after : List SpanCall),
      c.spans[span.index]? = some (.exported exported) → exported.number = some number →
      exported.ended = false → SpanCall.finish ∉ before →
      let attributes := Attribute.putAll (SpanCall.attributesOf before) exported.attributes
      ∃ c' more text, Act.runOn (forM (before ++ .finish :: after) span.call) c = (.ok (), c') ∧
        c'.journal = c.journal ++ more ∧ attributesTexts number more = [.text text] ∧
        parse? text = some ((Attribute.listJson attributes).mapDoubles Binary64.reread) ∧
        ((∀ a ∈ attributes, ∀ x, a.value ≠ .double x) →
          (parse? text).bind Attribute.ofListJson? = some attributes) := by
  refine ⟨?_, ?_, ?_⟩
  · intro w sinks c writer steps hsinks hwriter hready hsteps
    refine ⟨JsonSink.runOn_performAll (fun sink h => (hsinks sink h).1) hwriter hready steps,
      fun object hobject => ⟨?_, ?_⟩⟩
    · rw [Json.print, String.toList_ofList]
      exact Json.newline_notMem_chars object
    · exact Json.parse?_print
        (JsonSink.canonical_of_mem_objects (fun sink h => (hsinks sink h).2) hsteps c.clock object hobject)
  · intro sink call level c hvalues hpairs
    obtain ⟨fields, hrun, hfields⟩ := call.exists_runOn_events sink level c
    exact ⟨fields, _, hrun, hfields,
      Json.parse?_print (KeyValue.canonical_merge hvalues hpairs)⟩
  · intro span exported c number before after hcell hnumber hopen hbefore attributes
    obtain ⟨c', more, hrun, hjournal, htexts⟩ :=
      SpanHandle.attributesTexts_calls hcell hnumber hopen hbefore after
    have hread := Json.parse?_print (Attribute.canonical_listJson attributes)
    refine ⟨c', more, _, hrun, hjournal, htexts, hread, fun hexact => ?_⟩
    rw [hread, Json.mapDoubles_of_isExact _ (Attribute.isExact_listJson hexact), Option.bind_some,
      Attribute.ofListJson?_listJson hexact]

/-- A sink is named and given values, and writes a line with a newline in its message; the sink that it
was derived from drops a line, and the one between the two writes a line on an error. -/
def quotingSteps : List JsonSink.Step :=
  [ .withName 0 "a\"b", .withValues 1 [⟨"k\n", .string "\\"⟩, ⟨"ts", .null⟩],
    .log 2 0 (.info "one\ntwo" [⟨"\x01", .array [.bool true, .string "é"]⟩]),
    .log 0 2 (.info "dropped" []), .log 1 9 (.error (some "\t") "three" []) ]

/-- A writer that takes seven characters a call, and a span with an attribute. -/
def quotingCollector : Collector :=
  { idText := fun _ => ""
    writers := [{ destination := .stdout, behaviour := .chunked 7 }]
    spans := [.exported { number := some 1, attributes := [⟨"k", .int (-1)⟩] }] }

/-- The lines that come of the steps. -/
def quotedLines : List String :=
  [ "\x7b\"\\u0001\":[true,\"é\"],\"k\\n\":\"\\\\\",\"level\":\"info\"," ++
      "\"logger\":\"a\\\"b\",\"msg\":\"one\\ntwo\",\"ts\":0.0,\"v\":0\x7d",
    "\x7b\"error\":\"\\t\",\"level\":\"error\",\"logger\":\"a\\\"b\",\"msg\":\"three\"," ++
      "\"ts\":0.0\x7d" ]

theorem json_output_read_back_quoted :
    (∃ sinks' c', Act.runOn (JsonSink.performAll [{ writer := 0, maxVerbosity := 1 }] quotingSteps)
        quotingCollector = (.ok sinks', c') ∧
      c'.journal = quotedLines.map (.line .stdout)) ∧
    (∃ fields text, Act.runOn (LoggerCall.deliver 0 (EventSink.mk "" [⟨"k", .null⟩] 0 0)
        (.error none "lost" [⟨"k", .string "\""⟩])) quotingCollector =
          (.ok (), { quotingCollector with journal := [.event .error none fields] }) ∧
      fields.lookup "fields" = some (.text text) ∧
      parse? text = some (.object [("k", .string "\"")])) ∧
    ∃ c' text, Act.runOn (forM [.setAttribute ⟨"\n", .bool true⟩, .setAttribute ⟨"k", .string "é"⟩,
        .finish, .finish] (SpanHandle.mk 0).call) quotingCollector = (.ok (), c') ∧
      attributesTexts 1 c'.journal = [.text text] ∧
      (parse? text).bind Attribute.ofListJson? = some [⟨"k", .string "é"⟩, ⟨"\n", .bool true⟩] := by
  have hsteps : ∀ step ∈ quotingSteps, KeyValue.AllCanonical step.pairs := by
    have hvalues : Json.Canonical (.array [.bool true, .string "é"]) := by
      refine .array ?_
      simp only [List.forall_mem_cons]
      exact ⟨.bool true, .string _, by simp⟩
    simp only [quotingSteps, List.forall_mem_cons, KeyValue.AllCanonical, JsonSink.Step.pairs,
      LoggerCall.pairs]
    simp [hvalues, Json.Canonical.null, Json.Canonical.string]
  have hready : Writer.Ready { destination := .stdout, behaviour := .chunked 7 } :=
    ⟨by simp [WriterBehaviour.Accepts], rfl, rfl⟩
  obtain ⟨hlines, hevents, hspans⟩ := json_output_read_back
  refine ⟨?_, ?_, ?_⟩
  · obtain ⟨⟨sinks', c', -, hrun, -, hjournal⟩, -⟩ :=
      @hlines 0 [{ writer := 0, maxVerbosity := 1 }] quotingCollector _ quotingSteps
        (by simp [KeyValue.AllCanonical]) rfl hready hsteps
    have htexts : (JsonSink.objects [{ writer := 0, maxVerbosity := 1 }] quotingCollector.clock
        quotingSteps).map Json.print = quotedLines := by decide +kernel
    refine ⟨sinks', c', hrun, hjournal.trans ?_⟩
    rw [← htexts, List.map_map]
    rfl
  · obtain ⟨fields, text, hrun, hfields, hread⟩ := @hevents ⟨"", [⟨"k", .null⟩], 0, 0⟩
      (.error none "lost" [⟨"k", .string "\""⟩]) 0 quotingCollector
      (by simp [KeyValue.AllCanonical, Json.Canonical.null])
      (by simp [KeyValue.AllCanonical, LoggerCall.pairs, Json.Canonical.string])
    exact ⟨fields, text, hrun, hfields, hread⟩
  · obtain ⟨c', more, text, hrun, hjournal, htexts, -, hread⟩ :=
      @hspans ⟨0⟩ { number := some 1, attributes := [⟨"k", .int (-1)⟩] } quotingCollector 1
        [.setAttribute ⟨"\n", .bool true⟩, .setAttribute ⟨"k", .string "é"⟩] [.finish]
        rfl rfl rfl (by decide)
    have hexact : ∀ a ∈ [(⟨"k", .string "é"⟩ : Attribute), ⟨"\n", .bool true⟩], ∀ x,
        a.value ≠ .double x := by simp
    exact ⟨c', text, hrun, hjournal ▸ htexts, hread hexact⟩

end Observability
