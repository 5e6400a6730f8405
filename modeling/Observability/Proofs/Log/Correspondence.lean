import Observability.Proofs.Log.Gate

/-!
# One story in two formats

An event sink and a JSON sink with the same name and values tell the same of a call.  The event always has
its fields, and the pairs apart in one of them; the line has members of its own, some of them only if there
is something to tell, and the pairs among them where they are not hidden.

* `SameStory` says what an event and a line have in common.
* `sameStory` is the law of sinks with the same label.

`same_story_told` carries this to what shows: whatever was attached to both sinks alike, a call that is not
held back makes such an event and such a line.
-/

namespace Observability

/-- The event with the fields and the line with the members are of the same call.  `own` are the members
that the line has of its own, whatever the pairs are. -/
structure SameStory (own : List (String × Json)) (pairs : List KeyValue) (call : LoggerCall)
    (fields : Fields) (members : List (String × Json)) : Prop where
  own_kept : ∀ member ∈ own, Json.lookup member.1 members = some member.2
  /-- the pairs stand in the event as an object, and what the line has beyond its own is that object -/
  agree : ∃ object, fields.lookup "fields" = some (.text (Json.object object).print) ∧
    (∀ key value, Json.lookup key object = some value ↔ KeyValue.IsLast pairs ⟨key, value⟩) ∧
    (∀ key, key ∈ members.map (·.1) ↔ key ∈ own.map (·.1) ∨ key ∈ object.map (·.1)) ∧
    ∀ key ∉ own.map (·.1), Json.lookup key members = Json.lookup key object
  /-- the line has the name of its own unless it is empty -/
  logger : ∃ text, fields.lookup "logger" = some (.text text) ∧
    Json.lookup "logger" own = if text = "" then none else some (.string text)
  message : ∃ text, fields.lookup "message" = some (.text text) ∧
    Json.lookup "msg" own = some (.string text)
  verbosity {message : String} {pairs : List KeyValue} (h : call = .info message pairs) :
    ∃ (level : Nat) (written : Json.Integer), fields.lookup "v" = some (.number level) ∧
      Json.lookup "v" own = some (.int written) ∧ written.val = level
  /-- the line has the error of its own if there is one; without one its text in the event is empty -/
  error {cause : Option String} {message : String} {pairs : List KeyValue}
    (h : call = .error cause message pairs) :
    ∃ text, fields.lookup "error" = some (.text text) ∧
      Json.lookup "error" own = cause.map .string ∧ (∀ told ∈ cause, told = text) ∧
      (text = "" ↔ cause = none ∨ cause = some "")

namespace LoggerCall

variable (time : Binary64) (level : UInt32) (name : String)

theorem lookup_logger_own (call : LoggerCall) :
    Json.lookup "logger" (call.own time level name) = if name = "" then none else some (.string name) := by
  have htold : Json.lookup "logger" (call.told time level) = none := by
    cases call with
    | info message pairs => rfl
    | error cause message pairs => cases cause <;> rfl
  rw [own, Json.lookup_append, htold, Option.none_or]
  split <;> rfl

theorem lookup_error_own (cause : Option String) (message : String) (pairs : List KeyValue) :
    Json.lookup "error" ((error cause message pairs).own time level name) = cause.map .string := by
  rw [own, Json.lookup_append]
  cases cause with
  | none =>
    split <;> rfl
  | some text => rfl

end LoggerCall

/-- Sinks with the same label tell the same of a call. -/
theorem sameStory {events : EventSink} {json : JsonSink} (same : events.label = json.label)
    (time : Binary64) (level : UInt32) (call : LoggerCall) :
    SameStory (call.own time level json.name) (json.values ++ call.pairs) call
      (events.fields level call) (json.members time level call) := by
  have hname : events.name = json.name := congrArg Label.name same
  have hvalues : events.values = json.values := congrArg Label.values same
  have hcompletes := json.completes_members time level call
  have hobject (key : String) (value : Json) :
      Json.lookup key (KeyValue.merge [events.values, call.pairs]) = some value ↔
        KeyValue.IsLast (json.values ++ call.pairs) ⟨key, value⟩ := by
    simp [KeyValue.lookup_merge, hvalues]
  have hkeys (key : String) : key ∈ (KeyValue.merge [events.values, call.pairs]).map (·.1) ↔
      key ∈ (json.values ++ call.pairs).map (·.key) := by
    rw [Json.mem_keys_iff, ← KeyValue.exists_isLast_iff]
    simp only [hobject]
  refine ⟨fun member hmember => hcompletes.lookup_own hmember,
    ⟨KeyValue.merge [events.values, call.pairs], ?_, hobject, fun key => ?_, fun key hkey => ?_⟩,
    ⟨json.name, ?_, call.lookup_logger_own time level json.name⟩, ?_,
    fun {message pairs} h => ?_, fun {cause message pairs} h => ?_⟩
  · cases call <;> rfl
  · rw [hcompletes.mem_keys, hkeys]
  · rw [JsonSink.lookup_members, Json.lookup_eq_none_iff.mpr hkey, Option.none_or, hvalues]
  · rw [← hname]
    cases call <;> rfl
  · cases call with
    | info message pairs => exact ⟨message, rfl, rfl⟩
    | error cause message pairs => exact ⟨message, rfl, rfl⟩
  · subst h
    exact ⟨level.toNat, .ofUInt32 level, rfl, rfl, rfl⟩
  · subst h
    refine ⟨cause.getD "", rfl, LoggerCall.lookup_error_own time level json.name cause message pairs, ?_, ?_⟩
    · rintro told rfl
      rfl
    · cases cause <;> simp

/-- A call that an event sink and a JSON sink both want is not held back, a line on an error apart that the
subscriber does not take. -/
theorem LoggerCall.heard_of_wanted {events : EventSink} {json : JsonSink} {level : UInt32}
    {call : LoggerCall} {c : Collector}
    (h : Act.runOn (call.wanted level [Sink.events events, Sink.json json]) c = (.ok true, c)) :
    call.Within level json.maxVerbosity ∧
      ∀ message pairs, call = .info message pairs → c.threshold.admits (call.severity level) = true := by
  cases call with
  | info message pairs =>
    have writes : ∀ sink ∈ [Sink.events events, Sink.json json], sink.Writes := by simp [Sink.Writes]
    rw [wanted, runOn_allM_enabled writes, Prod.mk.injEq, Except.ok.injEq] at h
    have hopen := (all_wants_iff writes).mp h.1
    exact ⟨hopen.within (.json json) (by simp), fun _ _ _ => hopen.heard events (by simp)⟩
  | error cause message pairs => exact ⟨trivial, fun _ _ h => by cases h⟩

/-- **The same story.**  Whatever is attached alike to an event sink and a JSON sink with the same label,
both then tell the same of a call that they want, the one in its event and the other in its line. -/
theorem same_story_told {events : EventSink} {json : JsonSink} (same : events.label = json.label)
    (attachments : List Attachment) :
    let label := json.label.attachAll attachments
    let events' := events.labelled label
    let json' := json.labelled label
    (LogSink.attachAll events attachments : Act EventSink) = pure events' ∧
    (LogSink.attachAll json attachments : Act JsonSink) = pure json' ∧
    ∀ {level : UInt32} {call : LoggerCall} {c : Collector},
      Act.runOn (call.wanted level [Sink.events events', Sink.json json']) c = (.ok true, c) →
      ∃ fields members,
        SameStory (call.own c.clock level label.name) (label.values ++ call.pairs) call fields members ∧
        (∀ message pairs, call = .info message pairs →
          c.threshold.admits (call.severity level) = true) ∧
        Act.runOn (call.deliver level events') c =
          (.ok (), if c.threshold.admits (call.severity level) then
              { c with journal := c.journal ++ [.event (call.severity level) none fields] }
            else c) ∧
        Act.runOn (call.deliver level json') c = Act.runOn (json'.writeLine fun _ => members) c ∧
        ∀ {writer : Writer}, c.writers[json'.writer]? = some writer → writer.Ready →
          ∃ calls, Act.runOn (call.deliver level json') c = (.ok (), { c with
            writers := c.writers.set json'.writer { writer with calls }
            journal := c.journal ++ [.line writer.destination (Json.object members).print] }) := by
  intro label events' json'
  refine ⟨?_, json.attachAll_eq attachments, fun {level call c} hwanted => ?_⟩
  · have hevents : LogSink.attachAll events attachments =
        (pure (events.labelled (events.label.attachAll attachments)) : Act EventSink) :=
      events.followsLabel.attachAll events.label attachments
    rw [hevents, same]
  · obtain ⟨within, hadmits⟩ := LoggerCall.heard_of_wanted hwanted
    have hstory : SameStory (call.own c.clock level label.name) (label.values ++ call.pairs) call
        (events'.fields level call) (json'.members c.clock level call) :=
      @sameStory events' json' rfl c.clock level call
    refine ⟨_, _, hstory, hadmits, ?_, JsonSink.runOn_deliver_within within c,
      JsonSink.exists_runOn_deliver_within within⟩
    rw [EventSink.deliver_eq, Act.emit, Act.runOn_step]

/-- What was attached to two sinks: values, one under the key of a name, and the empty name. -/
def hidingLabel : Label := Label.attachAll ⟨"", []⟩ collidingAttachments

/-- An ordinary call with a pair under a key that its line has for itself. -/
def hidingCall : LoggerCall :=
  .info "told" [⟨"v", .string "forged"⟩, ⟨"k", .bool true⟩]

theorem same_story_told_hidden :
    let events : EventSink := { maxVerbosity := 1 }
    let json : JsonSink := { writer := 0, maxVerbosity := 7 }
    events.label = json.label ∧
    Act.runOn (hidingCall.wanted 1 [Sink.events (events.labelled hidingLabel),
      Sink.json (json.labelled hidingLabel)]) mixedCollector = (.ok true, mixedCollector) ∧
    ∃ fields members object,
      Act.runOn (hidingCall.deliver 1 (events.labelled hidingLabel)) mixedCollector =
        (.ok (), { mixedCollector with journal := [.event .debug none fields] }) ∧
      (∃ c', Act.runOn (hidingCall.deliver 1 (json.labelled hidingLabel)) mixedCollector = (.ok (), c') ∧
        c'.journal = [.line .stdout (Json.object members).print]) ∧
      fields.lookup "fields" = some (.text (Json.object object).print) ∧
      Json.lookup "logger" members = some (.string "mine") ∧
      Json.lookup "logger" object = some (.string "mine") ∧
      Json.lookup "v" members = some (.int (.ofUInt32 1)) ∧
      Json.lookup "v" object = some (.string "forged") := by
  intro events json
  have hwanted : Act.runOn (hidingCall.wanted 1 [Sink.events (events.labelled hidingLabel),
      Sink.json (json.labelled hidingLabel)]) mixedCollector = (.ok true, mixedCollector) := rfl
  have hname : (json.label.attachAll collidingAttachments).name = "" := by decide +kernel
  have hown : hidingCall.own mixedCollector.clock 1 (json.label.attachAll collidingAttachments).name =
      [ ("ts", .double mixedCollector.clock), ("level", .string "info"), ("v", .int (.ofUInt32 1)),
        ("msg", .string "told") ] := by
    rw [hname]
    rfl
  obtain ⟨-, -, htold⟩ := @same_story_told events json rfl collidingAttachments
  obtain ⟨fields, members, hstory, -, hevent, -, hline⟩ := htold hwanted
  rw [hown] at hstory
  obtain ⟨calls, hwritten⟩ := hline rfl ⟨trivial, rfl, rfl⟩
  obtain ⟨object, hfields, hobject, -, hagree⟩ := hstory.agree
  have hlogger : Json.lookup "logger" object = some (.string "mine") :=
    (hobject _ _).mpr ⟨[], _, rfl, by decide⟩
  have hverbosity : Json.lookup "v" object = some (.string "forged") :=
    (hobject _ _).mpr ⟨collidingValues, _, rfl, by decide⟩
  refine ⟨rfl, hwanted, fields, members, object, hevent, ⟨_, hwritten, rfl⟩, hfields, ?_, hlogger, ?_,
    hverbosity⟩
  · rw [hagree "logger" (by simp), hlogger]
  · exact hstory.own_kept ("v", .int (.ofUInt32 1)) (by simp)

end Observability
