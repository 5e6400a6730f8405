import Observability.Proofs.Log.Derivation
import Observability.Proofs.Log.Framing
import Observability.Proofs.Text.Bytes

/-!
# The members of a line

A JSON line has members of its own and those that its pairs make.  The former always hold; of the latter
the last pair of a key counts.

* `KeyValue.IsLast` says that a pair is the last one of its key.
* `LoggerCall.own` are the members that the line of a call has of its own.
* `Completes own pairs members` says what becomes of them and the pairs.

`JsonSink.completes_members` proves this of what sinks build, and `line_completed` of what is written by
sinks that were derived by any attachments.
-/

namespace Observability

namespace Json

/-! ## Members looked up -/

theorem mem_keys_iff {members : List (String × Json)} {key : String} :
    key ∈ members.map (·.1) ↔ ∃ value, lookup key members = some value := by
  induction members with
  | nil => simp [lookup]
  | cons first rest ih =>
    rw [List.map_cons, List.mem_cons, ih, lookup]
    by_cases h : key = first.1 <;> simp [h]

/-- Where each key occurs once, a member is what is found under its key. -/
theorem lookup_eq_some_of_mem {members : List (String × Json)} (h : (members.map (·.1)).Nodup)
    {member : String × Json} (hmember : member ∈ members) :
    lookup member.1 members = some member.2 := by
  induction members with
  | nil => cases hmember
  | cons first rest ih =>
    obtain ⟨hfirst, hrest⟩ := List.nodup_cons.mp h
    rw [lookup]
    rcases List.mem_cons.mp hmember with rfl | hmember
    · rw [if_pos rfl]
    · have hne : member.1 ≠ first.1 := fun heq => hfirst (List.mem_map.mpr ⟨member, hmember, heq⟩)
      rw [if_neg hne, ih hrest hmember]

theorem lookup_append (first others : List (String × Json)) (key : String) :
    lookup key (first ++ others) = (lookup key first).or (lookup key others) := by
  induction first with
  | nil => simp [lookup]
  | cons member rest ih =>
    rw [List.cons_append, lookup, lookup, ih]
    by_cases hkey : key = member.1 <;> simp [hkey]

theorem lookup_eq_none_iff {members : List (String × Json)} {key : String} :
    lookup key members = none ↔ key ∉ members.map (·.1) := by
  rw [mem_keys_iff, Option.eq_none_iff_forall_ne_some, not_exists]

theorem membersOf_concat (pairs : List (String × Json)) (new : String × Json) :
    membersOf (pairs ++ [new]) = insert new.1 new.2 (membersOf pairs) :=
  List.foldl_append

/-- Where each key occurs once, the members are the pairs. -/
theorem lookup_membersOf_of_nodup {pairs : List (String × Json)} (h : (pairs.map (·.1)).Nodup)
    (key : String) : lookup key (membersOf pairs) = lookup key pairs := by
  induction pairs using List.reverseRecOn with
  | nil => rfl
  | append_singleton pairs new ih =>
    rw [List.map_append, List.nodup_append] at h
    obtain ⟨hpairs, -, hnew⟩ := h
    rw [membersOf_concat, lookup_append]
    by_cases hkey : key = new.1
    · have hnone : lookup key pairs = none :=
        lookup_eq_none_iff.mpr fun hmem => hnew key hmem new.1 (by simp) hkey
      rw [hnone, hkey, lookup_insert_self]
      simp [lookup]
    · rw [lookup_insert_of_ne hkey, ih hpairs]
      simp [lookup, hkey]

theorem ascending_membersOf (pairs : List (String × Json)) : Ascending (membersOf pairs) :=
  List.foldlRecOn pairs _ List.Pairwise.nil fun _ h pair _ => ascending_insert h pair.1 pair.2

theorem ascending_insertNew {members : List (String × Json)} (h : Ascending members) (key : String)
    (value : Json) : Ascending (insertNew key value members) := by
  rw [insertNew]
  split
  · exact h
  · exact ascending_insert h key value

theorem lookup_insertNew (new key : String) (value : Json) (members : List (String × Json)) :
    lookup key (insertNew new value members) =
      (lookup key members).or (if key = new then some value else none) := by
  rw [insertNew]
  by_cases hkey : key = new
  · subst hkey
    cases hold : lookup key members with
    | none => simp
    | some old => simp [hold]
  · rw [if_neg hkey, Option.or_none]
    cases lookup new members with
    | none => exact lookup_insert_of_ne hkey value members
    | some old => rfl

/-- New members are found behind those that are there. -/
theorem lookup_foldl_insertNew (news members : List (String × Json)) (key : String) :
    lookup key (news.foldl (fun members new => insertNew new.1 new.2 members) members) =
      (lookup key members).or (lookup key news) := by
  induction news generalizing members with
  | nil => simp [lookup]
  | cons new rest ih =>
    rw [List.foldl_cons, ih, lookup_insertNew, Option.or_assoc, lookup]
    by_cases hkey : key = new.1 <;> simp [hkey]

end Json

namespace KeyValue

/-! ## The last pair of a key -/

/-- The pair is the last one of its key. -/
def IsLast (pairs : List KeyValue) (pair : KeyValue) : Prop :=
  ∃ before after, pairs = before ++ pair :: after ∧ pair.key ∉ after.map (·.key)

/-- One more pair is the last one of its key; for other keys it makes no difference. -/
theorem isLast_concat {pairs : List KeyValue} {new pair : KeyValue} :
    IsLast (pairs ++ [new]) pair ↔ pair = new ∨ pair.key ≠ new.key ∧ IsLast pairs pair := by
  constructor
  · rintro ⟨before, after, hsplit, hafter⟩
    rcases List.eq_nil_or_concat after with rfl | ⟨after, last, rfl⟩
    · exact .inl (List.append_inj_right' hsplit rfl |> List.singleton_inj.mp |> Eq.symm)
    · rw [List.concat_eq_append, ← List.cons_append, ← List.append_assoc] at hsplit
      obtain ⟨rfl, hlast⟩ := List.append_inj' hsplit rfl
      obtain rfl := List.singleton_inj.mp hlast
      simp only [List.concat_eq_append, List.map_append, List.mem_append, not_or] at hafter
      exact .inr ⟨by simpa using hafter.2, before, after, rfl, hafter.1⟩
  · rintro (rfl | ⟨hne, before, after, rfl, hafter⟩)
    · exact ⟨pairs, [], rfl, by simp⟩
    · exact ⟨before, after ++ [new], by simp, by simpa using ⟨by simpa using hafter, hne⟩⟩

/-- Merged, pairs are found under the key that they are the last one of. -/
theorem lookup_merge {lists : List (List KeyValue)} {key : String} {value : Json} :
    Json.lookup key (merge lists) = some value ↔ IsLast lists.flatten ⟨key, value⟩ := by
  rw [merge]
  induction lists.flatten using List.reverseRecOn with
  | nil => simp [IsLast, Json.membersOf, Json.lookup]
  | append_singleton pairs new ih =>
    rw [List.map_append, List.map_singleton, Json.membersOf_concat, isLast_concat, ← ih]
    by_cases hkey : key = new.key
    · subst hkey
      rw [Json.lookup_insert_self]
      cases new
      simp [eq_comm]
    · have hne : (⟨key, value⟩ : KeyValue) ≠ new := fun heq => hkey (heq ▸ rfl)
      rw [Json.lookup_insert_of_ne hkey]
      simp [hkey, hne]

/-- A key that occurs has a last pair. -/
theorem exists_isLast_iff {pairs : List KeyValue} {key : String} :
    (∃ value, IsLast pairs ⟨key, value⟩) ↔ key ∈ pairs.map (·.key) := by
  constructor
  · rintro ⟨value, before, after, rfl, -⟩
    simp
  · intro hkey
    induction pairs using List.reverseRecOn with
    | nil => cases hkey
    | append_singleton pairs new ih =>
      by_cases hsame : key = new.key
      · exact ⟨new.value, isLast_concat.mpr (.inl (hsame ▸ rfl))⟩
      · have hold : key ∈ pairs.map (·.key) := by simpa [hsame] using hkey
        obtain ⟨value, hlast⟩ := ih hold
        exact ⟨value, isLast_concat.mpr (.inr ⟨hsame, hlast⟩)⟩

end KeyValue

/-! ## Own members and pairs -/

/-- The members are the own ones and those that the pairs make of the other keys: of each key its last
value.  Each key stands once, and the keys are in the order of their bytes. -/
structure Completes (own : List (String × Json)) (pairs : List KeyValue)
    (members : List (String × Json)) : Prop where
  mem_keys (key : String) :
    key ∈ members.map (·.1) ↔ key ∈ own.map (·.1) ∨ key ∈ pairs.map (·.key)
  lookup_own {member : String × Json} (h : member ∈ own) :
    Json.lookup member.1 members = some member.2
  lookup_other {key : String} (h : key ∉ own.map (·.1)) (value : Json) :
    Json.lookup key members = some value ↔ KeyValue.IsLast pairs ⟨key, value⟩
  ordered : (members.map fun member => member.1.toUTF8.toList).Pairwise (· < ·)

namespace LoggerCall

/-- Whether the call is not held back at the verbosity by a sink with that limit. -/
def Within (level limit : UInt32) : LoggerCall → Prop
  | info _ _ => level ≤ limit
  | error _ _ _ => True

/-- The members that the line of a call has for what was told by the call itself. -/
def told (time : Binary64) (level : UInt32) : LoggerCall → List (String × Json)
  | info message _ =>
    [ ("ts", .double time), ("level", .string "info"), ("v", .int (.ofUInt32 level)),
      ("msg", .string message) ]
  | error cause message _ =>
    [("ts", .double time), ("level", .string "error"), ("msg", .string message)] ++
      cause.toList.map fun text => ("error", .string text)

/-- The members that the line of a call has of its own, written by a sink of the name. -/
def own (time : Binary64) (level : UInt32) (name : String) (call : LoggerCall) :
    List (String × Json) :=
  call.told time level ++ if name = "" then [] else [("logger", .string name)]

theorem nodup_own (time : Binary64) (level : UInt32) (name : String) (call : LoggerCall) :
    ((call.own time level name).map (·.1)).Nodup := by
  rw [own]
  cases call with
  | info message pairs => split <;> simp [told]
  | error cause message pairs => cases cause <;> split <;> simp [told]

end LoggerCall

namespace JsonSink

/-- The members of the line of a call. -/
def members (sink : JsonSink) (time : Binary64) (level : UInt32) : LoggerCall → List (String × Json)
  | .info message pairs => sink.infoMembers time level message pairs
  | .error error message pairs => sink.errorMembers time error message pairs

/-- They are the own members, and behind them what the pairs merge to. -/
theorem members_eq (sink : JsonSink) (time : Binary64) (level : UInt32) (call : LoggerCall) :
    sink.members time level call =
      (KeyValue.merge [sink.values, call.pairs]).foldl
        (fun members pair => Json.insertNew pair.1 pair.2 members)
        (Json.membersOf (call.own time level sink.name)) := by
  have hcomplete : sink.members time level call = sink.complete (call.told time level) call.pairs := by
    cases call with
    | info message pairs => rfl
    | error cause message pairs => cases cause <;> rfl
  rw [hcomplete, complete, LoggerCall.own]
  by_cases hname : sink.name = "" <;> simp [hname]

/-- A key is looked up among the own members, and then among the pairs. -/
theorem lookup_members (sink : JsonSink) (time : Binary64) (level : UInt32) (call : LoggerCall)
    (key : String) :
    Json.lookup key (sink.members time level call) =
      (Json.lookup key (call.own time level sink.name)).or
        (Json.lookup key (KeyValue.merge [sink.values, call.pairs])) := by
  rw [members_eq, Json.lookup_foldl_insertNew,
    Json.lookup_membersOf_of_nodup (call.nodup_own time level sink.name)]

theorem ascending_members (sink : JsonSink) (time : Binary64) (level : UInt32) (call : LoggerCall) :
    Json.Ascending (sink.members time level call) := by
  rw [members_eq]
  exact List.foldlRecOn _ _ (Json.ascending_membersOf _) fun _ h pair _ =>
    Json.ascending_insertNew h pair.1 pair.2

/-- The members of a line complete its own ones. -/
theorem completes_members (sink : JsonSink) (time : Binary64) (level : UInt32) (call : LoggerCall) :
    Completes (call.own time level sink.name) (sink.values ++ call.pairs)
      (sink.members time level call) := by
  have hpairs : [sink.values, call.pairs].flatten = sink.values ++ call.pairs := by simp
  have hmerge (key : String) (value : Json) :
      Json.lookup key (KeyValue.merge [sink.values, call.pairs]) = some value ↔
        KeyValue.IsLast (sink.values ++ call.pairs) ⟨key, value⟩ := by
    rw [KeyValue.lookup_merge, hpairs]
  refine ⟨fun key => ?_, fun {member} hmember => ?_, fun {key} hkey value => ?_, ?_⟩
  · rw [Json.mem_keys_iff, Json.mem_keys_iff, ← KeyValue.exists_isLast_iff]
    simp only [lookup_members, ← hmerge]
    cases Json.lookup key (call.own time level sink.name) <;> simp
  · rw [lookup_members, Json.lookup_eq_some_of_mem (call.nodup_own time level sink.name) hmember]
    rfl
  · rw [lookup_members, Json.lookup_eq_none_iff.mpr hkey, Option.none_or, hmerge]
  · have hordered := sink.ascending_members time level call
    rw [Json.Ascending, List.pairwise_map] at hordered
    rw [List.pairwise_map]
    exact hordered.imp fun hlt => lt_iff_bytes_lt.mp hlt

/-! ## What is written -/

/-- A call that is not held back writes the line of its members, whatever becomes of it. -/
theorem deliver_eq {sink : JsonSink} {level : UInt32} {call : LoggerCall}
    (within : call.Within level sink.maxVerbosity) :
    call.deliver level sink = sink.writeLine fun time => sink.members time level call := by
  cases call with
  | info message pairs => exact if_pos within
  | error cause message pairs => rfl

theorem deliver_eq_of_not {sink : JsonSink} {level : UInt32} {call : LoggerCall}
    (beyond : ¬ call.Within level sink.maxVerbosity) : call.deliver level sink = (pure () : Act Unit) := by
  cases call with
  | info message pairs => exact if_neg beyond
  | error cause message pairs => exact (beyond trivial).elim

/-- The line is written at one time. -/
theorem runOn_writeLine_at (sink : JsonSink) (members : Binary64 → List (String × Json))
    (c : Collector) :
    Act.runOn (sink.writeLine members) c = Act.runOn (sink.writeLine fun _ => members c.clock) c := by
  rw [writeLine, writeLine, Act.runOn_bind, Act.runOn_bind, Act.runOn_step, Act.runOn_step]

theorem runOn_deliver_within {sink : JsonSink} {level : UInt32} {call : LoggerCall}
    (within : call.Within level sink.maxVerbosity) (c : Collector) :
    Act.runOn (call.deliver level sink) c =
      Act.runOn (sink.writeLine fun _ => sink.members c.clock level call) c := by
  rw [deliver_eq within, runOn_writeLine_at]

/-- A ready writer gives out the line of a call that is not held back. -/
theorem exists_runOn_deliver_within {sink : JsonSink} {level : UInt32} {call : LoggerCall}
    (within : call.Within level sink.maxVerbosity) {c : Collector} {writer : Writer}
    (hwriter : c.writers[sink.writer]? = some writer) (hready : writer.Ready) :
    ∃ calls, Act.runOn (call.deliver level sink) c = (.ok (), { c with
      writers := c.writers.set sink.writer { writer with calls }
      journal := c.journal ++
        [.line writer.destination (Json.object (sink.members c.clock level call)).print] }) := by
  rw [deliver_eq within]
  exact runOn_writeLine hwriter hready _

/-- To attach things to a sink gives one with the label that they add up to. -/
theorem attachAll_eq (sink : JsonSink) (attachments : List Attachment) :
    (LogSink.attachAll sink attachments : Act JsonSink) =
      pure (sink.labelled (sink.label.attachAll attachments)) :=
  sink.followsLabel.attachAll sink.label attachments

end JsonSink

/-- **The members of a line.**  A JSON sink that was derived from a new one by any attachments puts, for a
call that it does not hold back, one object into its writer: its members are those that the line has of
its own, and behind them those that the pairs make, of the sink and then of the call. -/
theorem line_completed (destination : Destination) (behaviour : WriterBehaviour) (limit : UInt32)
    (attachments : List Attachment) (c₀ : Collector) :
    ∃ sink c₁, Act.runOn (do
        LogSink.attachAll (← JsonSink.create destination behaviour limit) attachments) c₀ =
          (.ok sink, c₁) ∧
      c₁.writers[sink.writer]? = some { destination, behaviour } ∧
      ∀ {level : UInt32} {call : LoggerCall}, call.Within level limit → ∀ c : Collector,
        let name := joinedName (Attachment.names attachments)
        ∃ members, Completes (call.own c.clock level name)
            (Attachment.pairs attachments ++ call.pairs) members ∧
          Act.runOn (call.deliver level sink) c = Act.runOn (sink.writeLine fun _ => members) c ∧
          ∀ {writer : Writer}, c.writers[sink.writer]? = some writer → writer.Ready →
            ∃ calls, Act.runOn (call.deliver level sink) c = (.ok (), { c with
              writers := c.writers.set sink.writer { writer with calls }
              journal := c.journal ++ [.line writer.destination (Json.object members).print] }) := by
  let new : JsonSink := { writer := c₀.writers.length, maxVerbosity := limit }
  let sink := new.labelled (new.label.attachAll attachments)
  have hlabel : new.label.attachAll attachments =
      ⟨joinedName (Attachment.names attachments), Attachment.pairs attachments⟩ :=
    new.label.attachAll_eq attachments
  refine ⟨sink, { c₀ with writers := c₀.writers ++ [{ destination, behaviour }] }, ?_, ?_, ?_⟩
  · rw [Act.runOn_bind, JsonSink.create, Act.runOn_step]
    show Act.runOn (LogSink.attachAll new attachments) _ = _
    rw [JsonSink.attachAll_eq, Act.runOn_pure]
  · exact List.getElem?_concat_length
  · intro level call within c name
    have hcompletes := sink.completes_members c.clock level call
    have hname : sink.name = name := congrArg Label.name hlabel
    have hvalues : sink.values = Attachment.pairs attachments := congrArg Label.values hlabel
    rw [hname, hvalues] at hcompletes
    exact ⟨sink.members c.clock level call, hcompletes, JsonSink.runOn_deliver_within within c,
      JsonSink.exists_runOn_deliver_within within⟩

/-- Values, one of them under the key of a name. -/
def collidingValues : List KeyValue := [⟨"logger", .string "mine"⟩, ⟨"k", .null⟩]

/-- A sink is given the values and the empty name. -/
def collidingAttachments : List Attachment := [.withName "", .withValues collidingValues]

/-- A call on no error, with a pair under the key of an error and one under that of the message. -/
def collidingCall : LoggerCall :=
  .error none "told" [⟨"error", .string "none"⟩, ⟨"k", .bool true⟩, ⟨"msg", .string "forged"⟩]

/-- An ordinary call with pairs under the keys of the verbosity and of the time. -/
def collidingInfo : LoggerCall :=
  .info "told" [⟨"v", .string "mine"⟩, ⟨"k", .bool false⟩, ⟨"ts", .null⟩]

/-- The line on an error is written at every verbosity, and the ordinary one within the limit; what a line
has of its own is not overwritten.  Beyond the limit nothing is written. -/
theorem line_completed_collided :
    collidingCall.Within 9 0 ∧ collidingInfo.Within 0 0 ∧ ¬ collidingInfo.Within 1 0 ∧
    ∃ sink c₁, Act.runOn (do
        LogSink.attachAll (← JsonSink.create .stdout .accepting 0) collidingAttachments)
          { idText := fun _ => "" } = (.ok sink, c₁) ∧
      (∃ members calls, Act.runOn (collidingCall.deliver 9 sink) c₁ = (.ok (), { c₁ with
          writers := c₁.writers.set sink.writer { destination := .stdout, behaviour := .accepting, calls }
          journal := c₁.journal ++ [.line .stdout (Json.object members).print] }) ∧
        Json.lookup "msg" members = some (.string "told") ∧
        Json.lookup "logger" members = some (.string "mine") ∧
        Json.lookup "error" members = some (.string "none") ∧
        Json.lookup "k" members = some (.bool true) ∧ Json.lookup "v" members = none) ∧
      (∃ members calls, Act.runOn (collidingInfo.deliver 0 sink) c₁ = (.ok (), { c₁ with
          writers := c₁.writers.set sink.writer { destination := .stdout, behaviour := .accepting, calls }
          journal := c₁.journal ++ [.line .stdout (Json.object members).print] }) ∧
        Json.lookup "v" members = some (.int (.ofUInt32 0)) ∧
        Json.lookup "ts" members = some (.double c₁.clock) ∧
        Json.lookup "logger" members = some (.string "mine") ∧
        Json.lookup "k" members = some (.bool false) ∧ Json.lookup "error" members = none) ∧
      Act.runOn (collidingInfo.deliver 1 sink) c₁ = (.ok (), c₁) := by
  obtain ⟨sink, c₁, hsink, hwriter, hline⟩ :=
    line_completed .stdout .accepting 0 collidingAttachments { idText := fun _ => "" }
  have hname : joinedName (Attachment.names collidingAttachments) = "" := by decide +kernel
  have hbeyond : ¬ collidingInfo.Within 1 0 := (by decide : ¬ (1 : UInt32) ≤ 0)
  refine ⟨trivial, UInt32.le_refl 0, hbeyond, sink, c₁, hsink, ?_, ?_, ?_⟩
  · obtain ⟨members, hmembers, -, hwritten⟩ := @hline 9 collidingCall trivial c₁
    obtain ⟨calls, hrun⟩ := hwritten hwriter ⟨trivial, rfl, rfl⟩
    have hown : collidingCall.own c₁.clock 9 "" =
        [("ts", .double c₁.clock), ("level", .string "error"), ("msg", .string "told")] := rfl
    rw [hname, hown] at hmembers
    refine ⟨members, calls, hrun, ?_, ?_, ?_, ?_, ?_⟩
    · exact @Completes.lookup_own _ _ _ hmembers ("msg", .string "told") (by simp)
    · exact (hmembers.lookup_other (by simp) _).mpr ⟨[], _, rfl, by decide⟩
    · exact (hmembers.lookup_other (by simp) _).mpr ⟨collidingValues, _, rfl, by decide⟩
    · exact (hmembers.lookup_other (by simp) _).mpr
        ⟨collidingValues ++ [⟨"error", .string "none"⟩], _, rfl, by decide⟩
    · rw [Json.lookup_eq_none_iff, hmembers.mem_keys]
      simp [collidingAttachments, collidingValues, collidingCall, Attachment.pairs, LoggerCall.pairs]
  · obtain ⟨members, hmembers, -, hwritten⟩ := @hline 0 collidingInfo (UInt32.le_refl 0) c₁
    obtain ⟨calls, hrun⟩ := hwritten hwriter ⟨trivial, rfl, rfl⟩
    have hown : collidingInfo.own c₁.clock 0 "" =
        [ ("ts", .double c₁.clock), ("level", .string "info"), ("v", .int (.ofUInt32 0)),
          ("msg", .string "told") ] := rfl
    rw [hname, hown] at hmembers
    refine ⟨members, calls, hrun, ?_, ?_, ?_, ?_, ?_⟩
    · exact @Completes.lookup_own _ _ _ hmembers ("v", .int (.ofUInt32 0)) (by simp)
    · exact @Completes.lookup_own _ _ _ hmembers ("ts", .double c₁.clock) (by simp)
    · exact (hmembers.lookup_other (by simp) _).mpr ⟨[], _, rfl, by decide⟩
    · exact (hmembers.lookup_other (by simp) _).mpr
        ⟨collidingValues ++ [⟨"v", .string "mine"⟩], _, rfl, by decide⟩
    · rw [Json.lookup_eq_none_iff, hmembers.mem_keys]
      simp [collidingAttachments, collidingValues, collidingInfo, Attachment.pairs, LoggerCall.pairs]
  · obtain rfl := Except.ok.inj (Prod.mk.inj hsink).1
    rw [JsonSink.deliver_eq_of_not hbeyond, Act.runOn_pure]

end Observability
