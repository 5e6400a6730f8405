import Observability.Lifecycle.Shutdown
import Observability.Log.Backend
import Observability.Proofs.Keeps
import Observability.Proofs.Log.Flattening
import Observability.Tracing.Provider

/-!
# What happens in shutdown channels

Coordinators and receivers see two things of a channel.  `sendersAt` says how many handles can still send
over it, and `entryAt` says of a receiver what it has not read and how much was sent.

* `Act.runOn_onChannel` and the laws after it say what an operation does to them.
* `QuietComponents` says that providers and sinks leave the channels alone.

`quietComponents` proves this of the components of this library.
-/

namespace Observability

variable {π τ σ α γ κ : Type}

/-! ## Operations on one channel -/

/-- How many handles can send over the channel. -/
def sendersAt (channels : List Channel) (index : Nat) : Option Nat :=
  channels[index]?.map (·.senders)

/-- The first signal that the receiver has not read, if it is held, and how many were sent. -/
def entryAt (channels : List Channel) (receiver : ShutdownReceiver) : Option (Option Nat × Nat) :=
  channels[receiver.channel]?.bind fun channel =>
    channel.receivers[receiver.place]?.map fun next => (next, channel.sent)

theorem Act.runOn_onChannel {index : Nat} {channel : Channel} {c : Collector}
    (h : c.channels[index]? = some channel) (fallback : α) (f : Channel → α × Channel) :
    Act.runOn (Act.onChannel index fallback f) c =
      (.ok (f channel).1, { c with channels := c.channels.set index (f channel).2 }) := by
  rw [Act.onChannel, Act.runOn_step, h]

theorem sendersAt_set {channels : List Channel} {index : Nat} {channel : Channel}
    (h : channels[index]? = some channel) (channel' : Channel) (i : Nat) :
    sendersAt (channels.set index channel') i =
      if i = index then some channel'.senders else sendersAt channels i := by
  have hlt := (List.getElem?_eq_some_iff.mp h).1
  by_cases hsame : i = index
  · rw [if_pos hsame, hsame, sendersAt, List.getElem?_set_self hlt]
    rfl
  · rw [if_neg hsame, sendersAt, List.getElem?_set_ne (Ne.symm hsame), sendersAt]

theorem entryAt_set {channels : List Channel} {index : Nat} {channel : Channel}
    (h : channels[index]? = some channel) (channel' : Channel) (receiver : ShutdownReceiver) :
    entryAt (channels.set index channel') receiver =
      if receiver.channel = index then
        channel'.receivers[receiver.place]?.map fun next => (next, channel'.sent)
      else entryAt channels receiver := by
  have hlt := (List.getElem?_eq_some_iff.mp h).1
  by_cases hsame : receiver.channel = index
  · rw [if_pos hsame, entryAt, hsame, List.getElem?_set_self hlt]
    rfl
  · rw [if_neg hsame, entryAt, List.getElem?_set_ne (Ne.symm hsame), entryAt]

/-- An operation that leaves the handles of a channel leaves those of all. -/
theorem sendersAt_set_of_eq {channels : List Channel} {index : Nat} {channel channel' : Channel}
    (h : channels[index]? = some channel) (hsenders : channel'.senders = channel.senders) (i : Nat) :
    sendersAt (channels.set index channel') i = sendersAt channels i := by
  rw [sendersAt_set h]
  split
  · next hsame => rw [hsame, sendersAt, h, Option.map_some, hsenders]
  · rfl

/-- An operation that leaves the receivers of a channel, and what was sent, leaves those of all. -/
theorem entryAt_set_of_eq {channels : List Channel} {index : Nat} {channel : Channel}
    (h : channels[index]? = some channel) (channel' : Channel)
    (hreceivers : channel'.receivers = channel.receivers) (hsent : channel'.sent = channel.sent)
    (receiver : ShutdownReceiver) :
    entryAt (channels.set index channel') receiver = entryAt channels receiver := by
  rw [entryAt_set h]
  split
  · next hsame => rw [entryAt, hsame, h, Option.bind_some, hreceivers, hsent]
  · rfl

/-- A new channel has one handle. -/
theorem sendersAt_concat (channels : List Channel) (i : Nat) :
    sendersAt (channels ++ [({} : Channel)]) i =
      if i = channels.length then some 1 else sendersAt channels i := by
  rw [sendersAt, sendersAt]
  split
  · next hnew => rw [hnew, List.getElem?_concat_length]; rfl
  · next hold =>
    rcases Nat.lt_or_gt_of_ne hold with hlt | hgt
    · rw [List.getElem?_append_left hlt]
    · rw [List.getElem?_eq_none (by simp; omega), List.getElem?_eq_none (by omega)]

/-- A new channel has no receiver. -/
theorem entryAt_concat (channels : List Channel) (receiver : ShutdownReceiver) :
    entryAt (channels ++ [({} : Channel)]) receiver = entryAt channels receiver := by
  rw [entryAt, entryAt]
  rcases Nat.lt_trichotomy receiver.channel channels.length with hlt | hnew | hgt
  · rw [List.getElem?_append_left hlt]
  · rw [hnew, List.getElem?_concat_length, List.getElem?_eq_none (Nat.le_refl _)]
    rfl
  · rw [List.getElem?_eq_none (by simp; omega), List.getElem?_eq_none (by omega)]

section

variable {channels : List Channel} {index : Nat} {channel : Channel}

theorem sendersAt_addSender (h : channels[index]? = some channel) (i : Nat) :
    (sendersAt (channels.set index channel.addSender) i).getD 0 =
      (sendersAt channels i).getD 0 + if i = index then 1 else 0 := by
  rw [sendersAt_set h]
  split
  · next hsame => rw [hsame, sendersAt, h]; rfl
  · rfl

theorem sendersAt_dropSender (h : channels[index]? = some channel) (i : Nat) :
    (sendersAt (channels.set index channel.dropSender) i).getD 0 =
      (sendersAt channels i).getD 0 - if i = index then 1 else 0 := by
  rw [sendersAt_set h]
  split
  · next hsame => rw [hsame, sendersAt, h]; rfl
  · rfl

theorem entryAt_addSender (h : channels[index]? = some channel) (receiver : ShutdownReceiver) :
    entryAt (channels.set index channel.addSender) receiver = entryAt channels receiver :=
  entryAt_set_of_eq h channel.addSender rfl rfl receiver

theorem entryAt_dropSender (h : channels[index]? = some channel) (receiver : ShutdownReceiver) :
    entryAt (channels.set index channel.dropSender) receiver = entryAt channels receiver :=
  entryAt_set_of_eq h channel.dropSender rfl rfl receiver

/-- One more signal was sent to the receivers of the channel. -/
theorem entryAt_send (h : channels[index]? = some channel) (receiver : ShutdownReceiver) :
    entryAt (channels.set index channel.send) receiver =
      (entryAt channels receiver).map fun entry =>
        (entry.1, entry.2 + if receiver.channel = index then 1 else 0) := by
  rw [entryAt_set h]
  split
  · next hsame => rw [entryAt, hsame, h, Option.bind_some, Option.map_map]; rfl
  · exact Option.map_id'.symm

/-- A receiver that is known hears of no other one. -/
theorem entryAt_subscribe_of_isSome (h : channels[index]? = some channel)
    {receiver : ShutdownReceiver} (hknown : (entryAt channels receiver).isSome) :
    entryAt (channels.set index channel.subscribe.1) receiver = entryAt channels receiver := by
  rw [entryAt_set h]
  split
  · next hsame =>
    rw [entryAt, hsame, h, Option.bind_some, Option.isSome_map] at hknown
    rw [entryAt, hsame, h, Option.bind_some, Channel.subscribe,
      List.getElem?_append_left (by simpa using hknown)]
  · rfl

/-- A new receiver was not known before. -/
theorem entryAt_new (h : channels[index]? = some channel) :
    entryAt channels ⟨index, channel.receivers.length⟩ = none := by
  rw [entryAt, h, Option.bind_some, List.getElem?_eq_none (Nat.le_refl _), Option.map_none]

/-- A new receiver reads only what is sent from now on. -/
theorem entryAt_subscribe_new (h : channels[index]? = some channel) :
    entryAt (channels.set index channel.subscribe.1) ⟨index, channel.receivers.length⟩ =
      some (some channel.sent, channel.sent) := by
  rw [entryAt_set h, if_pos rfl, Channel.subscribe, List.getElem?_concat_length, Option.map_some]

/-- A receiver that is given up is not held any more. -/
theorem entryAt_unsubscribe {receiver : ShutdownReceiver}
    (h : channels[receiver.channel]? = some channel) (other : ShutdownReceiver) :
    entryAt (channels.set receiver.channel (channel.unsubscribe receiver.place)) other =
      (entryAt channels other).map fun entry =>
        (if other = receiver then none else entry.1, entry.2) := by
  rw [entryAt_set h]
  obtain ⟨index, place⟩ := receiver
  obtain ⟨index', place'⟩ := other
  split
  · next hsame =>
    obtain rfl : index' = index := hsame
    rw [entryAt, h, Option.bind_some, Option.map_map, Channel.unsubscribe, List.getElem?_set]
    by_cases hplace : place = place'
    · subst hplace
      rcases hentry : channel.receivers[place]? with _ | next
      · rw [List.getElem?_eq_none_iff] at hentry
        simp [Nat.not_lt.mpr hentry]
      · simp [(List.getElem?_eq_some_iff.mp hentry).1]
    · rw [if_neg hplace]
      exact congrArg (Option.map · _) (by funext next; simp [Ne.symm hplace])
  · next hother =>
    have hne : ({ channel := index', place := place' } : ShutdownReceiver) ≠ ⟨index, place⟩ :=
      fun hsame => hother (congrArg ShutdownReceiver.channel hsame)
    simp only [if_neg hne]
    exact Option.map_id'.symm

end

/-! ## Reading -/

/-- A receiver that has read everything waits while somebody can send. -/
theorem Channel.receive_of_all_read {channel : Channel} {place : Nat}
    (h : channel.receivers[place]? = some (some channel.sent)) (hsenders : channel.senders ≠ 0) :
    channel.receive place = (.empty, channel) := by
  rw [receive, h]
  simp only [read, Nat.sub_self, if_true, if_neg hsenders]
  obtain ⟨hlt, hnext⟩ := List.getElem?_eq_some_iff.mp h
  rw [← hnext, List.set_getElem_self]

/-- A receiver is woken by what it has not read, and by a channel that nobody can send over; it is held
still. -/
theorem Channel.exists_receive_of_due {channel : Channel} {place next : Nat}
    (h : channel.receivers[place]? = some (some next))
    (hdue : next < channel.sent ∨ channel.senders = 0) :
    ∃ reception next', reception ≠ .empty ∧ channel.receive place =
      (reception, { channel with receivers := channel.receivers.set place (some next') }) := by
  rw [receive, h]
  refine ⟨(channel.read next).1, (channel.read next).2, ?_, rfl⟩
  rw [read]
  split
  · next hread =>
    rw [if_pos (hdue.resolve_left (by omega))]
    exact Reception.noConfusion
  · split <;> exact Reception.noConfusion

/-! ## What leaves the channels alone -/

namespace Act

/-- The action leaves the channels alone. -/
abbrev Quiet (action : Act α) : Prop := Keeps Collector.channels action

theorem Keeps.emit (severity : Severity) (span : Option Nat) (fields : Fields) :
    Quiet (Act.emit severity span fields) := by
  refine .step fun c => ?_
  by_cases h : c.threshold.admits severity <;> simp [h]

theorem Keeps.observe (observation : Observation) : Quiet (Act.observe observation) :=
  .step fun _ => rfl

end Act

open Act (Quiet)

/-- What is asked of providers and sinks: none touches the channels. -/
structure QuietComponents (π σ : Type) {τ : Type} [TracerProvider π τ] [LogSink Act σ] : Prop where
  tracer (provider : π) (name : String) : Quiet (TracerProvider.tracer provider name : Act (Tracer τ))
  shutdown (provider : π) : Quiet (TracerProvider.shutdown provider)
  enabled (sink : σ) (level : UInt32) : Quiet (LogSink.enabled sink level : Act Bool)
  info (sink : σ) (level : UInt32) (message : String) (pairs : List KeyValue) :
    Quiet (LogSink.info sink level message pairs : Act Unit)
  error (sink : σ) (error : Option String) (message : String) (pairs : List KeyValue) :
    Quiet (LogSink.error sink error message pairs : Act Unit)

section

variable [TracerProvider π τ] [LogSink Act σ] (quiet : QuietComponents π σ)
include quiet

theorem QuietComponents.loggerInfo (logger : Logger σ) (message : String) (pairs : List KeyValue) :
    Quiet (logger.info message pairs) := by
  refine .bind (quiet.enabled logger.sink logger.level) fun wanted => ?_
  split
  · exact quiet.info logger.sink logger.level message pairs
  · exact .pure _

theorem QuietComponents.loggerError (logger : Logger σ) (error : Option String) (message : String)
    (pairs : List KeyValue) : Quiet (logger.error error message pairs) :=
  quiet.error logger.sink error message pairs

end

/-! ## The components of this library -/

theorem RecordingSink.note_quiet (sink : RecordingSink) (call : LogCall) :
    Quiet (sink.note call) := by
  refine .bind (.observe _) fun _ => ?_
  split
  · exact fun _ => rfl
  · exact .pure _

theorem JsonSink.writeLine_quiet (sink : JsonSink) (members : Binary64 → List (String × Json)) :
    Quiet (sink.writeLine members) := by
  refine .bind (.step fun c => ?_) fun crashed => ?_
  · cases c.writers[sink.writer]? <;> rfl
  · split
    · exact fun _ => rfl
    · exact .pure _

theorem Sink.enabled_quiet (sink : Sink) (level : UInt32) :
    Quiet (LogSink.enabled sink level : Act Bool) := by
  cases sink with
  | events sink =>
    show Quiet (if level ≤ sink.maxVerbosity then Act.enabled _ else return false)
    split
    · exact .step fun _ => rfl
    · exact .pure _
  | json sink => exact .pure _
  | recording sink => exact .bind (sink.note_quiet _) fun _ => .pure _

theorem Sink.info_quiet (sink : Sink) (level : UInt32) (message : String) (pairs : List KeyValue) :
    Quiet (LogSink.info sink level message pairs : Act Unit) := by
  cases sink with
  | events sink => exact .emit _ _ _
  | json sink =>
    show Quiet (if level ≤ sink.maxVerbosity then sink.writeLine _ else return ())
    split
    · exact sink.writeLine_quiet _
    · exact .pure _
  | recording sink => exact sink.note_quiet _

theorem Sink.error_quiet (sink : Sink) (error : Option String) (message : String)
    (pairs : List KeyValue) : Quiet (LogSink.error sink error message pairs : Act Unit) := by
  cases sink with
  | events sink => exact .emit _ _ _
  | json sink => exact sink.writeLine_quiet _
  | recording sink => exact sink.note_quiet _

theorem ExportingProvider.shutdown_quiet (provider : ExportingProvider) :
    Quiet provider.shutdown := by
  refine .bind (.step fun _ => rfl) fun thrown => ?_
  split
  · exact .pure _
  · exact .bind (.emit _ _ _) fun _ => .pure _

theorem ScriptedProvider.shutdown_quiet (provider : ScriptedProvider) :
    Quiet provider.shutdown := by
  rw [ScriptedProvider.shutdown]
  cases provider.script with
  | hangs => exact .pure _
  | succeeds => exact .bind (.observe _) fun _ => .pure _
  | fails error => exact .bind (.observe _) fun _ => .pure _
  | crashes => exact .bind (.observe _) fun _ => fun _ => rfl

/-- The providers and sinks of this library leave the channels alone. -/
theorem quietComponents : QuietComponents Provider (SinkTree Sink) where
  tracer provider name := by
    cases provider with
    | exporting provider => exact .pure _
    | scripted provider =>
      exact .bind (.bind (.observe _) fun _ => .pure _) fun _ => .pure _
  shutdown provider := by
    cases provider with
    | exporting provider => exact .bind provider.shutdown_quiet fun _ => .pure _
    | scripted provider => exact provider.shutdown_quiet
  enabled tree level := by
    show Quiet (SinkTree.enabled tree level)
    rw [SinkTree.enabled_eq_allM]
    exact .allM (fun sink => sink.enabled_quiet level) tree.leaves
  info tree level message pairs := by
    show Quiet (SinkTree.broadcast _ tree)
    rw [SinkTree.broadcast_eq_forM]
    exact .forM (fun sink => sink.info_quiet level message pairs) tree.leaves
  error tree error message pairs := by
    show Quiet (SinkTree.broadcast _ tree)
    rw [SinkTree.broadcast_eq_forM]
    exact .forM (fun sink => sink.error_quiet error message pairs) tree.leaves

end Observability
