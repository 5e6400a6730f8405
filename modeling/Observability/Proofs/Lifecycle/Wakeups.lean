import Observability.Proofs.Lifecycle.Channels

/-!
# Who is woken by a trigger

A history of one coordinator: handles are copied and given up, receivers subscribe, read and are given up,
and any handle triggers, in any order.

* `WakeCommand.perform` does one of these, and notes triggers, subscriptions and what was read.
* `triggers events place` counts the triggers since the receiver at a place subscribed, and
  `consumed events place` those of them that it was told of, as a value or as missed.  The others are
  `unread`.
* `Reception.due unread canSend` is what a receiver is to read: nothing, one value, or first that it missed
  all but one.

`Wakeups.Sound` relates the channel to what was noted, and every step keeps it.  `triggers_wake` says of
every history what each receiver reads next, and what it reads until it waits again.
-/

namespace Observability

/-! ## What is to be read -/

namespace Reception

/-- How many signals the receiver is told of. -/
def consumed : Reception → Nat
  | .woken => 1
  | .lagged missed => missed
  | .empty | .closed => 0

/-- What is read of so many unread signals, if more can be sent or not. -/
def due (unread : Nat) (canSend : Bool) : Reception :=
  match unread with
  | 0 => if canSend then .empty else .closed
  | 1 => .woken
  | missed + 2 => .lagged (missed + 1)

theorem consumed_due_le (unread : Nat) (canSend : Bool) : (due unread canSend).consumed ≤ unread := by
  match unread with
  | 0 => cases canSend <;> exact Nat.le_refl 0
  | 1 => exact Nat.le_refl 1
  | missed + 2 => exact Nat.le_succ _

/-- A receiver waits exactly if there is nothing to read, but there may be. -/
theorem due_ne_empty_iff (unread : Nat) (canSend : Bool) :
    due unread canSend ≠ .empty ↔ 0 < unread ∨ canSend = false := by
  match unread with
  | 0 => cases canSend <;> simp [due]
  | 1 => simp [due]
  | missed + 2 => simp [due]

/-- So many readings in a row: first that all but one were missed, if there were more, then the one that is
left, and from then on that there is nothing. -/
def inTurn (unread : Nat) (canSend : Bool) (count : Nat) : List Reception :=
  ((if 1 < unread then [lagged (unread - 1)] else []) ++ (if 0 < unread then [woken] else []) ++
    List.replicate count (due 0 canSend)).take count

/-- The first of several readings gives what is due, and leaves what it did not tell of to the others. -/
theorem inTurn_succ (unread : Nat) (canSend : Bool) (count : Nat) :
    inTurn unread canSend (count + 1) =
      due unread canSend :: inTurn (unread - (due unread canSend).consumed) canSend count := by
  match unread with
  | 0 => simp [inTurn, List.replicate_succ]
  | 1 => simp [inTurn, due, consumed]
  | missed + 2 =>
    cases count with
    | zero => simp [inTurn, due, consumed]
    | succ count =>
      have hshort : min count (count + 1 + 1) = count := by omega
      simp [inTurn, due, consumed, hshort]

example : inTurn 3 true 4 = [.lagged 2, .woken, .empty, .empty] := by decide

end Reception

/-- A reading gives what is due, and goes on by as much as was told. -/
theorem Channel.read_eq {channel : Channel} {next unread : Nat} (h : next + unread = channel.sent) :
    channel.read next = (.due unread (decide (channel.senders ≠ 0)),
      next + (Reception.due unread (decide (channel.senders ≠ 0))).consumed) := by
  have hwaiting : channel.sent - next = unread := by omega
  rw [read, hwaiting]
  rcases unread with _ | _ | missed
  · by_cases hsenders : channel.senders = 0 <;> simp [hsenders, Reception.due, Reception.consumed]
  · simp [Reception.due, Reception.consumed, h]
  · have hnext : channel.sent - 1 = next + (missed + 1) := by omega
    simp [Reception.due, Reception.consumed, hnext]

/-! ## Histories -/

/-- What a history notes; receivers are known by the order in which they subscribed. -/
inductive WakeEvent where
  | triggered
  | subscribed (place : Nat)
  | received (place : Nat) (reception : Reception)
  deriving DecidableEq, Repr

/-- How many signals the event tells the receiver at the place of. -/
def WakeEvent.consumedAt (place : Nat) : WakeEvent → Nat
  | .received other reception => if other = place then reception.consumed else 0
  | .triggered | .subscribed _ => 0

/-- What a history has come to: the handles and the receivers, those that were given up left out, and the
events. -/
structure Wakeups where
  handles : List (Option Shutdown) := []
  receivers : List (Option ShutdownReceiver) := []
  events : List WakeEvent := []

/-- A step of a history, by the place of the handle or of the receiver that takes it. -/
inductive WakeCommand where
  | copy (handle : Nat)
  | dropHandle (handle : Nat)
  | trigger (handle : Nat)
  | subscribe (handle : Nat)
  | receive (receiver : Nat)
  | dropReceiver (receiver : Nat)
  deriving DecidableEq, Repr

namespace WakeCommand

/-- Takes the step; what is no longer held does nothing. -/
def perform (w : Wakeups) : WakeCommand → Act Wakeups
  | .copy place => do
    let some (some shutdown) := w.handles[place]? | return w
    return { w with handles := w.handles ++ [some (← shutdown.copy)] }
  | .dropHandle place => do
    let some (some shutdown) := w.handles[place]? | return w
    shutdown.drop
    return { w with handles := w.handles.set place none }
  | .trigger place => do
    let some (some shutdown) := w.handles[place]? | return w
    shutdown.trigger
    return { w with events := w.events ++ [.triggered] }
  | .subscribe place => do
    let some (some shutdown) := w.handles[place]? | return w
    let receiver ← shutdown.subscribe
    return { w with
      receivers := w.receivers ++ [some receiver]
      events := w.events ++ [.subscribed w.receivers.length] }
  | .receive place => do
    let some (some receiver) := w.receivers[place]? | return w
    let reception ← receiver.receive
    return { w with events := w.events ++ [.received place reception] }
  | .dropReceiver place => do
    let some (some receiver) := w.receivers[place]? | return w
    receiver.drop
    return { w with receivers := w.receivers.set place none }

/-- A history that begins with a new coordinator. -/
def performAll (commands : List WakeCommand) : Act Wakeups := do
  let shutdown ← Shutdown.create
  commands.foldlM perform { handles := [some shutdown] }

end WakeCommand

namespace Wakeups

/-! ## Counting signals -/

/-- The events since the receiver at the place subscribed, the latest first. -/
def since (events : List WakeEvent) (place : Nat) : List WakeEvent :=
  events.reverse.takeWhile (· ≠ .subscribed place)

def triggers (events : List WakeEvent) (place : Nat) : Nat := (since events place).count .triggered

def consumed (events : List WakeEvent) (place : Nat) : Nat :=
  (since events place).foldr (fun event total => event.consumedAt place + total) 0

def unread (events : List WakeEvent) (place : Nat) : Nat :=
  triggers events place - consumed events place

theorem since_concat (events : List WakeEvent) (event : WakeEvent) (place : Nat) :
    since (events ++ [event]) place =
      if event = .subscribed place then [] else event :: since events place := by
  rw [since, List.reverse_concat, List.takeWhile_cons]
  by_cases hsubscribed : event = .subscribed place
  · simp [hsubscribed]
  · simp [hsubscribed, since]

theorem triggers_concat (events : List WakeEvent) (event : WakeEvent) (place : Nat) :
    triggers (events ++ [event]) place = if event = .subscribed place then 0
      else triggers events place + if event = .triggered then 1 else 0 := by
  rw [triggers, since_concat]
  split
  · rfl
  · simp [triggers, List.count_cons]

theorem consumed_concat (events : List WakeEvent) (event : WakeEvent) (place : Nat) :
    consumed (events ++ [event]) place = if event = .subscribed place then 0
      else consumed events place + event.consumedAt place := by
  rw [consumed, since_concat]
  split
  · rfl
  · simp [consumed, Nat.add_comm]

/-- Who subscribes has nothing to read of what was triggered before. -/
theorem unread_subscribed (events : List WakeEvent) (place : Nat) :
    unread (events ++ [.subscribed place]) place = 0 := by
  simp [unread, triggers_concat, consumed_concat]

/-! ## The channel of a history -/

/-- The receiver has read as many of the signals since its subscription as it was told of. -/
def Reads (channel : Channel) (events : List WakeEvent) (place : Nat) : Prop :=
  ∃ next, channel.receivers[place]? = some (some next) ∧ next ≤ channel.sent ∧
    next + triggers events place = channel.sent + consumed events place

/-- The channel knows how many handles are held, which receivers are, and what each of them has read. -/
structure Sound (index : Nat) (channel : Channel) (w : Wakeups) (c : Collector) : Prop where
  found : c.channels[index]? = some channel
  handles : ∀ shutdown, some shutdown ∈ w.handles → shutdown = ⟨index⟩
  senders : channel.senders = w.handles.countP Option.isSome
  held : channel.receivers.map Option.isSome = w.receivers.map Option.isSome
  reads : ∀ place receiver, w.receivers[place]? = some (some receiver) →
    receiver = ⟨index, place⟩ ∧ Reads channel w.events place

/-- The collector after a step on the channel. -/
def moved (c : Collector) (index : Nat) (channel : Channel) : Collector :=
  { c with channels := c.channels.set index channel }

namespace Sound

variable {index : Nat} {channel : Channel} {w : Wakeups} {c : Collector}

theorem found_moved (h : Sound index channel w c) (channel' : Channel) :
    (moved c index channel').channels[index]? = some channel' :=
  List.getElem?_set_self (List.getElem?_eq_some_iff.mp h.found).1

theorem length_receivers (h : Sound index channel w c) :
    channel.receivers.length = w.receivers.length := by
  simpa using congrArg List.length h.held

theorem receiverCount_eq (h : Sound index channel w c) :
    channel.receiverCount = w.receivers.countP Option.isSome := by
  have hcount := congrArg (List.countP id) h.held
  simpa [List.countP_map, Channel.receiverCount] using hcount

/-- Signals can be sent as long as a handle is held. -/
theorem canSend_eq (h : Sound index channel w c) :
    decide (channel.senders ≠ 0) = w.handles.any Option.isSome := by
  rw [h.senders, Bool.eq_iff_iff, decide_eq_true_eq, List.any_eq_true, ← Nat.pos_iff_ne_zero,
    List.countP_pos_iff]

/-- A receiver is told of signals since its subscription only, and of no more than there were. -/
theorem consumed_add_unread (h : Sound index channel w c) {place : Nat} {receiver : ShutdownReceiver}
    (hheld : w.receivers[place]? = some (some receiver)) :
    consumed w.events place + unread w.events place = triggers w.events place := by
  obtain ⟨-, next, -, hle, hsum⟩ := h.reads place receiver hheld
  rw [unread]
  omega

theorem copy (h : Sound index channel w c) :
    Sound index channel.addSender { w with handles := w.handles ++ [some ⟨index⟩] }
      (moved c index channel.addSender) where
  found := h.found_moved _
  handles shutdown hmem := by
    rcases List.mem_append.mp hmem with hold | hnew
    · exact h.handles shutdown hold
    · exact Option.some.inj (List.mem_singleton.mp hnew)
  senders := by
    rw [Channel.addSender, List.countP_append, ← h.senders]
    rfl
  held := h.held
  reads := h.reads

theorem dropHandle (h : Sound index channel w c) {place : Nat} {shutdown : Shutdown}
    (hheld : w.handles[place]? = some (some shutdown)) :
    Sound index channel.dropSender { w with handles := w.handles.set place none }
      (moved c index channel.dropSender) where
  found := h.found_moved _
  handles other hmem := by
    rcases List.mem_or_eq_of_mem_set hmem with hold | hnew
    · exact h.handles other hold
    · cases hnew
  senders := by
    obtain ⟨hlt, hplace⟩ := List.getElem?_eq_some_iff.mp hheld
    simp [Channel.dropSender, List.countP_set hlt, hplace, h.senders]
  held := h.held
  reads := h.reads

theorem trigger (h : Sound index channel w c) :
    Sound index channel.send { w with events := w.events ++ [.triggered] }
      (moved c index channel.send) where
  found := h.found_moved _
  handles := h.handles
  senders := h.senders
  held := h.held
  reads place receiver hheld := by
    obtain ⟨hreceiver, next, hnext, hle, hsum⟩ := h.reads place receiver hheld
    refine ⟨hreceiver, next, hnext, Nat.le_succ_of_le hle, ?_⟩
    simp only [triggers_concat, consumed_concat, Channel.send, WakeEvent.consumedAt, reduceCtorEq,
      if_false, if_true]
    omega

theorem subscribe (h : Sound index channel w c) :
    Sound index channel.subscribe.1
      { w with
        receivers := w.receivers ++ [some ⟨index, channel.receivers.length⟩]
        events := w.events ++ [.subscribed w.receivers.length] }
      (moved c index channel.subscribe.1) where
  found := h.found_moved _
  handles := h.handles
  senders := h.senders
  held := by simp [Channel.subscribe, h.held]
  reads place receiver hheld := by
    have hlength := h.length_receivers
    rcases Nat.lt_trichotomy place w.receivers.length with hlt | rfl | hgt
    · rw [List.getElem?_append_left hlt] at hheld
      obtain ⟨hreceiver, next, hnext, hle, hsum⟩ := h.reads place receiver hheld
      refine ⟨hreceiver, next, ?_, hle, ?_⟩
      · rw [Channel.subscribe, List.getElem?_append_left (by omega)]
        exact hnext
      · have hother : WakeEvent.subscribed w.receivers.length ≠ .subscribed place := by
          simp only [ne_eq, WakeEvent.subscribed.injEq]
          omega
        simpa [triggers_concat, consumed_concat, hother, WakeEvent.consumedAt, Channel.subscribe]
          using hsum
    · rw [List.getElem?_concat_length] at hheld
      obtain rfl := Option.some.inj (Option.some.inj hheld)
      refine ⟨by rw [hlength], channel.sent, ?_, Nat.le_refl _, ?_⟩
      · rw [Channel.subscribe, ← hlength, List.getElem?_concat_length]
      · simp [triggers_concat, consumed_concat, Channel.subscribe]
    · rw [List.getElem?_eq_none (by simp; omega)] at hheld
      cases hheld

theorem dropReceiver (h : Sound index channel w c) (place : Nat) :
    Sound index (channel.unsubscribe place) { w with receivers := w.receivers.set place none }
      (moved c index (channel.unsubscribe place)) where
  found := h.found_moved _
  handles := h.handles
  senders := h.senders
  held := by simp [Channel.unsubscribe, List.map_set, h.held]
  reads other receiver hheld := by
    have hne : place ≠ other := by
      rintro rfl
      rw [List.getElem?_set_self'] at hheld
      cases hfound : w.receivers[place]? <;> simp [hfound] at hheld
    rw [List.getElem?_set_ne hne] at hheld
    obtain ⟨hreceiver, next, hnext, hle, hsum⟩ := h.reads other receiver hheld
    exact ⟨hreceiver, next, by rwa [Channel.unsubscribe, List.getElem?_set_ne hne], hle, hsum⟩

/-- A receiver reads what is due. -/
theorem receive (h : Sound index channel w c) {place : Nat} {receiver : ShutdownReceiver}
    (hheld : w.receivers[place]? = some (some receiver)) :
    let reception := Reception.due (unread w.events place) (w.handles.any Option.isSome)
    ∃ channel', channel.receive place = (reception, channel') ∧
      Sound index channel' { w with events := w.events ++ [.received place reception] }
        (moved c index channel') := by
  intro reception
  obtain ⟨-, next, hnext, hle, hsum⟩ := h.reads place receiver hheld
  have hread : channel.read next = (reception, next + reception.consumed) := by
    have hunread : next + unread w.events place = channel.sent := by
      rw [unread]
      omega
    rw [Channel.read_eq hunread, h.canSend_eq]
  have htold : next + reception.consumed ≤ channel.sent := by
    have hdue : reception.consumed ≤ unread w.events place := Reception.consumed_due_le _ _
    rw [unread] at hdue
    omega
  refine ⟨{ channel with receivers := channel.receivers.set place (some (next + reception.consumed)) },
    ?_, ?_⟩
  · rw [Channel.receive, hnext]
    simp only [hread]
  have hlt := (List.getElem?_eq_some_iff.mp hnext).1
  refine ⟨h.found_moved _, h.handles, h.senders, ?_, ?_⟩
  · rw [← h.held, List.map_set]
    refine List.ext_getElem? fun i => ?_
    by_cases hsame : place = i
    · subst hsame
      rw [List.getElem?_set_self (by simpa using hlt), List.getElem?_map, hnext]
      rfl
    · rw [List.getElem?_set_ne hsame]
  · intro other receiver' hheld'
    obtain ⟨hreceiver, next', hnext', hle', hsum'⟩ := h.reads other receiver' hheld'
    refine ⟨hreceiver, ?_⟩
    by_cases hsame : place = other
    · subst hsame
      rw [hnext] at hnext'
      obtain rfl := Option.some.inj (Option.some.inj hnext')
      refine ⟨next + reception.consumed, List.getElem?_set_self hlt, htold, ?_⟩
      simp only [triggers_concat, consumed_concat, WakeEvent.consumedAt, reduceCtorEq, if_false, if_true]
      omega
    · refine ⟨next', ?_, hle', ?_⟩
      · rw [List.getElem?_set_ne hsame]
        exact hnext'
      · simpa [triggers_concat, consumed_concat, WakeEvent.consumedAt, hsame] using hsum'

end Sound

/-! ## One step -/

section

variable {index : Nat} {channel : Channel} {w : Wakeups} {c : Collector}

open WakeCommand (perform)

theorem exists_perform_trigger (h : Sound index channel w c) {place : Nat} {shutdown : Shutdown}
    (hheld : w.handles[place]? = some (some shutdown)) :
    ∃ channel' c', Act.runOn (perform w (.trigger place)) c =
        (.ok { w with events := w.events ++ [.triggered] }, c') ∧
      Sound index channel' { w with events := w.events ++ [.triggered] } c' := by
  obtain rfl := h.handles shutdown (List.mem_of_getElem? hheld)
  refine ⟨_, _, ?_, h.trigger⟩
  simp only [perform, hheld]
  rw [Act.runOn_bind, Shutdown.trigger, Act.runOn_onChannel h.found]
  rfl

theorem exists_perform_subscribe (h : Sound index channel w c) {place : Nat} {shutdown : Shutdown}
    (hheld : w.handles[place]? = some (some shutdown)) :
    ∃ receiver channel' c', Act.runOn (perform w (.subscribe place)) c =
        (.ok { w with
          receivers := w.receivers ++ [some receiver]
          events := w.events ++ [.subscribed w.receivers.length] }, c') ∧
      Sound index channel' { w with
        receivers := w.receivers ++ [some receiver]
        events := w.events ++ [.subscribed w.receivers.length] } c' := by
  obtain rfl := h.handles shutdown (List.mem_of_getElem? hheld)
  refine ⟨_, _, _, ?_, h.subscribe⟩
  simp only [perform, hheld]
  rw [Act.runOn_bind, Shutdown.subscribe, Act.runOn_onChannel h.found]
  rfl

theorem exists_runOn_receive (h : Sound index channel w c) {place : Nat} {receiver : ShutdownReceiver}
    (hheld : w.receivers[place]? = some (some receiver)) :
    let reception := Reception.due (unread w.events place) (w.handles.any Option.isSome)
    ∃ channel' c', Act.runOn receiver.receive c = (.ok reception, c') ∧
      Sound index channel' { w with events := w.events ++ [.received place reception] } c' := by
  intro reception
  obtain ⟨rfl, -⟩ := h.reads place receiver hheld
  obtain ⟨channel', hreceive, hsound⟩ := h.receive hheld
  refine ⟨channel', _, ?_, hsound⟩
  rw [ShutdownReceiver.receive, Act.runOn_onChannel h.found, hreceive]
  rfl

theorem exists_perform_receive (h : Sound index channel w c) {place : Nat} {receiver : ShutdownReceiver}
    (hheld : w.receivers[place]? = some (some receiver)) :
    let reception := Reception.due (unread w.events place) (w.handles.any Option.isSome)
    ∃ channel' c', Act.runOn (perform w (.receive place)) c =
        (.ok { w with events := w.events ++ [.received place reception] }, c') ∧
      Sound index channel' { w with events := w.events ++ [.received place reception] } c' := by
  intro reception
  obtain ⟨channel', c', hreceive, hsound⟩ := exists_runOn_receive h hheld
  refine ⟨channel', c', ?_, hsound⟩
  simp only [perform, hheld]
  rw [Act.runOn_bind, hreceive]
  rfl

/-- A step never fails, and keeps the channel right. -/
theorem exists_perform (h : Sound index channel w c) (command : WakeCommand) :
    ∃ w' channel' c', Act.runOn (perform w command) c = (.ok w', c') ∧
      Sound index channel' w' c' := by
  have hskip : ∃ w' channel' c', Act.runOn (return w : Act Wakeups) c = (.ok w', c') ∧
      Sound index channel' w' c' := ⟨w, channel, c, rfl, h⟩
  cases command with
  | copy place =>
    match hheld : w.handles[place]? with
    | none | some none => simpa only [perform, hheld] using hskip
    | some (some shutdown) =>
      obtain rfl := h.handles shutdown (List.mem_of_getElem? hheld)
      refine ⟨_, _, _, ?_, h.copy⟩
      simp only [perform, hheld]
      rw [Act.runOn_bind, Shutdown.copy, Act.runOn_onChannel h.found]
      rfl
  | dropHandle place =>
    match hheld : w.handles[place]? with
    | none | some none => simpa only [perform, hheld] using hskip
    | some (some shutdown) =>
      obtain rfl := h.handles shutdown (List.mem_of_getElem? hheld)
      refine ⟨_, _, _, ?_, h.dropHandle hheld⟩
      simp only [perform, hheld]
      rw [Act.runOn_bind, Shutdown.drop, Act.runOn_onChannel h.found]
      rfl
  | trigger place =>
    match hheld : w.handles[place]? with
    | none | some none => simpa only [perform, hheld] using hskip
    | some (some shutdown) =>
      obtain ⟨channel', c', hrun, hsound⟩ := exists_perform_trigger h hheld
      exact ⟨_, channel', c', hrun, hsound⟩
  | subscribe place =>
    match hheld : w.handles[place]? with
    | none | some none => simpa only [perform, hheld] using hskip
    | some (some shutdown) =>
      obtain ⟨receiver, channel', c', hrun, hsound⟩ := exists_perform_subscribe h hheld
      exact ⟨_, channel', c', hrun, hsound⟩
  | receive place =>
    match hheld : w.receivers[place]? with
    | none | some none => simpa only [perform, hheld] using hskip
    | some (some receiver) =>
      obtain ⟨channel', c', hrun, hsound⟩ := exists_perform_receive h hheld
      exact ⟨_, channel', c', hrun, hsound⟩
  | dropReceiver place =>
    match hheld : w.receivers[place]? with
    | none | some none => simpa only [perform, hheld] using hskip
    | some (some receiver) =>
      obtain ⟨rfl, -⟩ := h.reads place receiver hheld
      refine ⟨_, _, _, ?_, h.dropReceiver place⟩
      simp only [perform, hheld]
      rw [Act.runOn_bind, ShutdownReceiver.drop, Act.runOn_onChannel h.found]
      rfl

/-! ## Runs -/

theorem exists_foldlM_perform (h : Sound index channel w c) (commands : List WakeCommand) :
    ∃ w' channel' c', Act.runOn (commands.foldlM perform w) c = (.ok w', c') ∧
      Sound index channel' w' c' := by
  induction commands generalizing w channel c with
  | nil => exact ⟨w, channel, c, rfl, h⟩
  | cons command rest ih =>
    obtain ⟨w₁, channel₁, c₁, hrun, hsound⟩ := exists_perform h command
    obtain ⟨w', channel', c', hrest, hsound'⟩ := ih hsound
    refine ⟨w', channel', c', ?_, hsound'⟩
    rw [List.foldlM_cons, Act.runOn_bind, hrun]
    exact hrest

/-- A new coordinator holds the only handle of its channel, and nobody has subscribed. -/
theorem sound_create (c : Collector) :
    Sound c.channels.length {} { handles := [some ⟨c.channels.length⟩] }
      { c with channels := c.channels ++ [{}] } where
  found := List.getElem?_concat_length
  handles shutdown hmem := Option.some.inj (List.mem_singleton.mp hmem)
  senders := rfl
  held := rfl
  reads := by simp

/-- Several readings in a row give what is due in turn. -/
theorem exists_receive_inTurn (h : Sound index channel w c) {place : Nat} {receiver : ShutdownReceiver}
    (hheld : w.receivers[place]? = some (some receiver)) (count : Nat) :
    let receptions := Reception.inTurn (unread w.events place) (w.handles.any Option.isSome) count
    ∃ c', Act.runOn ((List.replicate count (.receive place)).foldlM perform w) c =
      (.ok { w with events := w.events ++ receptions.map (.received place) }, c') := by
  induction count generalizing w channel c with
  | zero => exact ⟨c, by simp [Reception.inTurn]⟩
  | succ count ih =>
    obtain ⟨channel₁, c₁, hrun, hsound⟩ := exists_perform_receive h hheld
    obtain ⟨c', hrest⟩ := ih hsound hheld
    refine ⟨c', ?_⟩
    have hleft : unread (w.events ++ [.received place
        (.due (unread w.events place) (w.handles.any Option.isSome))]) place =
        unread w.events place -
          (Reception.due (unread w.events place) (w.handles.any Option.isSome)).consumed := by
      rw [unread, triggers_concat, consumed_concat, unread]
      simp only [WakeEvent.consumedAt, reduceCtorEq, if_false, if_true]
      omega
    rw [List.replicate_succ, List.foldlM_cons, Act.runOn_bind, hrun]
    simp only
    rw [hrest, hleft, Reception.inTurn_succ]
    simp

end

/-- **Triggers and wake-ups.**  In every history of a coordinator no step fails.  Every handle counts the
receivers that are held, and can trigger whether there are any or none; who subscribes waits, whatever was
triggered before.  Every receiver that is held was told of some of the triggers since its subscription, and
the others are unread: it is woken exactly if there are any, or if nobody can trigger any more.  However
often it reads, it is first told that it missed all but one, if there are more, then it gets the one, and
then it waits while a handle is held. -/
theorem triggers_wake (commands : List WakeCommand) (c : Collector) :
    ∃ w c', Act.runOn (WakeCommand.performAll commands) c = (.ok w, c') ∧
      (∀ (place : Nat) (shutdown : Shutdown), w.handles[place]? = some (some shutdown) →
        Act.runOn shutdown.receiverCount c' = (.ok (w.receivers.countP Option.isSome), c') ∧
        (∃ c'', Act.runOn (WakeCommand.perform w (.trigger place)) c' =
          (.ok { w with events := w.events ++ [.triggered] }, c'')) ∧
        ∃ receiver c₁ c₂, Act.runOn (WakeCommand.perform w (.subscribe place)) c' =
            (.ok { w with
              receivers := w.receivers ++ [some receiver]
              events := w.events ++ [.subscribed w.receivers.length] }, c₁) ∧
          Act.runOn receiver.receive c₁ = (.ok .empty, c₂)) ∧
      ∀ (place : Nat) (receiver : ShutdownReceiver), w.receivers[place]? = some (some receiver) →
        let left := unread w.events place
        let canSend := w.handles.any Option.isSome
        consumed w.events place + left = triggers w.events place ∧
        (∃ reception c'', Act.runOn receiver.receive c' = (.ok reception, c'') ∧
          (reception ≠ .empty ↔ 0 < left ∨ canSend = false)) ∧
        ∀ count, ∃ c'',
          Act.runOn ((List.replicate count (.receive place)).foldlM WakeCommand.perform w) c' =
            (.ok { w with
              events := w.events ++ (Reception.inTurn left canSend count).map (.received place) },
              c'') := by
  obtain ⟨w, channel, c', hrun, hsound⟩ := exists_foldlM_perform (sound_create c) commands
  refine ⟨w, c', hrun, ?_, ?_⟩
  · intro place shutdown hheld
    obtain rfl := hsound.handles shutdown (List.mem_of_getElem? hheld)
    refine ⟨?_, ?_, ?_⟩
    · rw [Shutdown.receiverCount, Act.runOn_onChannel hsound.found, hsound.receiverCount_eq]
      obtain ⟨hlt, hchannel⟩ := List.getElem?_eq_some_iff.mp hsound.found
      rw [← hchannel, List.set_getElem_self]
    · obtain ⟨-, c'', htriggered, -⟩ := exists_perform_trigger hsound hheld
      exact ⟨c'', htriggered⟩
    · obtain ⟨receiver, channel₁, c₁, hsubscribed, hsound₁⟩ := exists_perform_subscribe hsound hheld
      obtain ⟨-, c₂, hreceived, -⟩ := exists_runOn_receive hsound₁ List.getElem?_concat_length
      have hany : w.handles.any Option.isSome = true :=
        List.any_eq_true.mpr ⟨_, List.mem_of_getElem? hheld, rfl⟩
      rw [unread_subscribed, hany] at hreceived
      exact ⟨receiver, c₁, c₂, hsubscribed, hreceived⟩
  · intro place receiver hheld left canSend
    refine ⟨hsound.consumed_add_unread hheld, ?_, exists_receive_inTurn hsound hheld⟩
    obtain ⟨-, c'', hreceived, -⟩ := exists_runOn_receive hsound hheld
    exact ⟨_, c'', hreceived, Reception.due_ne_empty_iff left canSend⟩

end Wakeups

end Observability
