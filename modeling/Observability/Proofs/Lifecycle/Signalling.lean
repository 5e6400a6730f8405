import Mathlib.Data.List.Nodup
import Observability.Proofs.Lifecycle.FlushRun

/-!
# Who can wake whom

Of what a run comes to, the channels, the handles of coordinators and the receivers make up its
signalling.

* `Signalling.Step` lists what one command can do to it.
* `Counted` says that the channels of the run know how many handles they have.
* `Listening` says that a receiver that is held has not read what was triggered since it was subscribed.
* `Accounted` says that a task runs once at most, and only when there was something to wake for.

`Sound` puts these together, and every step keeps it (`Sound.step`).
-/

namespace Observability

variable {π σ : Type}

/-- The channels, the handles and the receivers of a run. -/
structure Signalling (π σ : Type) where
  channels : List Channel
  handles : List (Option Shutdown)
  subscriptions : List (Subscription π σ)

/-- Whether receivers hear of it. -/
def FlushEvent.isHeard : FlushEvent → Bool
  | .triggered _ | .subscribed _ => true
  | _ => false

/-! ## Events -/

theorem signals_concat (events : List FlushEvent) (event : FlushEvent) (receiver : ShutdownReceiver) :
    signals (events ++ [event]) receiver =
      if event = .subscribed receiver then 0
      else signals events receiver + if event = .triggered ⟨receiver.channel⟩ then 1 else 0 := by
  rw [signals, List.reverse_concat, List.takeWhile_cons]
  by_cases hsubscribed : event = .subscribed receiver
  · simp [hsubscribed]
  · simp [hsubscribed, signals, List.count_cons]

theorem signals_concat_of_unheard {event : FlushEvent} (unheard : event.isHeard = false)
    (events : List FlushEvent) (receiver : ShutdownReceiver) :
    signals (events ++ [event]) receiver = signals events receiver := by
  rw [signals_concat, if_neg (by rintro rfl; cases unheard), if_neg (by rintro rfl; cases unheard)]
  rfl

theorem count_ran_concat (events : List FlushEvent) (event : FlushEvent) (place : Nat) :
    (events ++ [event]).count (.ran place) =
      events.count (.ran place) + if event = .ran place then 1 else 0 := by
  rw [List.count_append, List.count_singleton]
  simp

namespace Signalling

/-- What a command can do. -/
inductive Step : FlushEvent → Signalling π σ → Signalling π σ → Prop
  /-- nothing that coordinators or receivers see -/
  | rest {w : Signalling π σ} {event : FlushEvent} (unheard : event.isHeard = false)
      (still : ∀ place, event ≠ .ran place) : Step event w w
  | create {w : Signalling π σ} :
      Step (.created ⟨w.channels.length⟩) w
        { w with
          channels := w.channels ++ [{}]
          handles := w.handles ++ [some ⟨w.channels.length⟩] }
  | copy {w : Signalling π σ} {shutdown : Shutdown} {channel : Channel}
      (held : some shutdown ∈ w.handles) (found : w.channels[shutdown.channel]? = some channel) :
      Step (.copied shutdown) w
        { w with
          channels := w.channels.set shutdown.channel channel.addSender
          handles := w.handles ++ [some shutdown] }
  | drop {w : Signalling π σ} {place : Nat} {shutdown : Shutdown} {channel : Channel}
      (held : w.handles[place]? = some (some shutdown))
      (found : w.channels[shutdown.channel]? = some channel) :
      Step (.dropped shutdown) w
        { w with
          channels := w.channels.set shutdown.channel channel.dropSender
          handles := w.handles.set place none }
  | trigger {w : Signalling π σ} {shutdown : Shutdown} {channel : Channel}
      (held : some shutdown ∈ w.handles) (found : w.channels[shutdown.channel]? = some channel) :
      Step (.triggered shutdown) w
        { w with channels := w.channels.set shutdown.channel channel.send }
  | subscribe {w : Signalling π σ} {shutdown : Shutdown} {channel : Channel}
      (held : some shutdown ∈ w.handles) (found : w.channels[shutdown.channel]? = some channel) :
      Step (.subscribed ⟨shutdown.channel, channel.receivers.length⟩) w
        { w with
          channels := w.channels.set shutdown.channel channel.subscribe.1
          subscriptions := w.subscriptions ++
            [{ receiver := ⟨shutdown.channel, channel.receivers.length⟩ }] }
  /-- the receiver is passed on to the task of a provider -/
  | register {w : Signalling π σ} {place : Nat} {receiver : ShutdownReceiver}
      {handle : TracingHandle π σ} (idle : w.subscriptions[place]? = some ⟨receiver, .idle⟩)
      (owned : handle.receiver = receiver) :
      Step (.registered place) w
        { w with subscriptions := w.subscriptions.set place ⟨receiver, .waiting handle⟩ }
  /-- its registration crashed -/
  | lose {w : Signalling π σ} {place : Nat} {receiver : ShutdownReceiver} {channel : Channel}
      {crash : Crash} (idle : w.subscriptions[place]? = some ⟨receiver, .idle⟩)
      (found : w.channels[receiver.channel]? = some channel) :
      Step (.crashed crash) w
        { w with
          channels := w.channels.set receiver.channel (channel.unsubscribe receiver.place)
          subscriptions := w.subscriptions.set place ⟨receiver, .lost⟩ }
  /-- the task wakes and ends -/
  | finish {w : Signalling π σ} {place next : Nat} {handle : TracingHandle π σ} {channel : Channel}
      (waiting : w.subscriptions[place]? = some ⟨handle.receiver, .waiting handle⟩)
      (found : w.channels[handle.receiver.channel]? = some channel)
      (unread : channel.receivers[handle.receiver.place]? = some (some next))
      (woken : next < channel.sent ∨ channel.senders = 0) :
      Step (.ran place) w
        { w with
          channels := w.channels.set handle.receiver.channel
            (channel.unsubscribe handle.receiver.place)
          subscriptions := w.subscriptions.set place ⟨handle.receiver, .finished handle⟩ }

theorem Step.of_eq {w w' : Signalling π σ} {event : FlushEvent} (h : w' = w)
    (unheard : event.isHeard = false) (still : ∀ place, event ≠ .ran place) : Step event w w' :=
  h ▸ .rest unheard still

/-! ## Handles -/

/-- The channels of the run, those from `base` on, know how many handles they have, and only they have
any. -/
structure Counted (base : Nat) (w : Signalling π σ) : Prop where
  base_le : base ≤ w.channels.length
  of_run : ∀ shutdown, some shutdown ∈ w.handles → base ≤ shutdown.channel
  senders : ∀ i, base ≤ i → (sendersAt w.channels i).getD 0 = w.handles.count (some ⟨i⟩)

namespace Counted

variable {base : Nat} {w w' : Signalling π σ} {event : FlushEvent}

/-- A handle that is held has a channel, which counts it. -/
theorem exists_channel (counted : Counted base w) {shutdown : Shutdown}
    (held : some shutdown ∈ w.handles) :
    ∃ channel, w.channels[shutdown.channel]? = some channel := by
  have hsenders := counted.senders _ (counted.of_run shutdown held)
  have hpos : 0 < w.handles.count (some shutdown) := List.count_pos_iff.mpr held
  rcases hfound : w.channels[shutdown.channel]? with _ | channel
  · rw [sendersAt, hfound] at hsenders
    exact absurd hsenders (Nat.ne_of_lt hpos)
  · exact ⟨channel, rfl⟩

/-- A step that leaves the handles, and how many the channels have. -/
theorem of_sendersAt (counted : Counted base w) (hlength : w'.channels.length = w.channels.length)
    (hhandles : w'.handles = w.handles)
    (hsenders : ∀ i, sendersAt w'.channels i = sendersAt w.channels i) : Counted base w' where
  base_le := hlength ▸ counted.base_le
  of_run := hhandles ▸ counted.of_run
  senders i hi := by rw [hsenders, hhandles, counted.senders i hi]

theorem step (counted : Counted base w) (h : Step event w w') : Counted base w' := by
  cases h with
  | rest => exact counted
  | create =>
    refine ⟨?_, ?_, fun i hi => ?_⟩
    · simp only [List.length_append, List.length_singleton]
      exact Nat.le_add_right_of_le counted.base_le
    · intro shutdown held
      rcases List.mem_append.mp held with held | held
      · exact counted.of_run shutdown held
      · obtain rfl : shutdown = ⟨w.channels.length⟩ := by simpa using held
        exact counted.base_le
    · have hsenders := counted.senders i hi
      rw [sendersAt_concat, List.count_append, List.count_singleton]
      split
      · next hnew =>
        rw [sendersAt, List.getElem?_eq_none (Nat.le_of_eq hnew.symm)] at hsenders
        rw [← hsenders, hnew]
        simp
      · next hold => simpa [Ne.symm hold] using hsenders
  | @copy _ shutdown channel held found =>
    refine ⟨?_, ?_, fun i hi => ?_⟩
    · simpa using counted.base_le
    · intro other hother
      rcases List.mem_append.mp hother with hother | hother
      · exact counted.of_run other hother
      · obtain rfl : other = shutdown := by simpa using hother
        exact counted.of_run other held
    · rw [sendersAt_addSender found, counted.senders i hi, List.count_append, List.count_singleton]
      obtain ⟨index⟩ := shutdown
      simp [eq_comm (a := index)]
  | @drop _ place shutdown channel held found =>
    have hmem : some shutdown ∈ w.handles := List.mem_of_getElem? held
    refine ⟨?_, ?_, fun i hi => ?_⟩
    · simpa using counted.base_le
    · intro other hother
      rcases List.mem_or_eq_of_mem_set hother with hother | hother
      · exact counted.of_run other hother
      · cases hother
    · obtain ⟨hlt, hat⟩ := List.getElem?_eq_some_iff.mp held
      rw [sendersAt_dropSender found, counted.senders i hi, List.count_set hlt, hat]
      obtain ⟨index⟩ := shutdown
      simp [eq_comm (a := index)]
  | trigger held found =>
    exact counted.of_sendersAt (List.length_set ..) rfl (sendersAt_set_of_eq found rfl)
  | subscribe held found =>
    exact counted.of_sendersAt (List.length_set ..) rfl (sendersAt_set_of_eq found rfl)
  | register => exact counted.of_sendersAt rfl rfl fun _ => rfl
  | lose idle found =>
    exact counted.of_sendersAt (List.length_set ..) rfl (sendersAt_set_of_eq found rfl)
  | finish waiting found =>
    exact counted.of_sendersAt (List.length_set ..) rfl (sendersAt_set_of_eq found rfl)

end Counted

/-! ## Receivers -/

/-- The channel knows the receiver.  While it is held, it has not read what was triggered since it was
subscribed. -/
def Hears (channels : List Channel) (events : List FlushEvent) (subscription : Subscription π σ) :
    Prop :=
  ∃ next, entryAt channels subscription.receiver =
    some (if subscription.stage.isHeld then some next else none,
      next + signals events subscription.receiver)

/-- The receivers of a run that `events` happened in. -/
structure Listening (base : Nat) (events : List FlushEvent) (w : Signalling π σ) : Prop where
  distinct : (w.subscriptions.map (·.receiver)).Nodup
  of_run : ∀ subscription ∈ w.subscriptions, base ≤ subscription.receiver.channel ∧
    .subscribed subscription.receiver ∈ events
  hears : ∀ subscription ∈ w.subscriptions, Hears w.channels events subscription
  owned : ∀ subscription ∈ w.subscriptions, ∀ handle, subscription.stage.handle? = some handle →
    handle.receiver = subscription.receiver

/-- A receiver that comes to another stage stays the same receiver. -/
theorem receivers_set {subscriptions : List (Subscription π σ)} {place : Nat}
    {receiver : ShutdownReceiver} {stage : Stage π σ}
    (hat : subscriptions[place]? = some ⟨receiver, stage⟩) (stage' : Stage π σ) :
    (subscriptions.set place ⟨receiver, stage'⟩).map (·.receiver) =
      subscriptions.map (·.receiver) := by
  refine List.ext_getElem? fun i => ?_
  rw [List.getElem?_map, List.getElem?_map, List.getElem?_set]
  split
  · next hsame =>
    rw [← hsame, hat, if_pos (List.getElem?_eq_some_iff.mp hat).1]
    rfl
  · rfl

theorem Hears.isSome {channels : List Channel} {events : List FlushEvent}
    {subscription : Subscription π σ} (h : Hears channels events subscription) :
    (entryAt channels subscription.receiver).isSome := by
  obtain ⟨next, hentry⟩ := h
  rw [hentry]
  rfl

/-- What neither the channels nor the events show to the receiver. -/
theorem Hears.of_entryAt {channels channels' : List Channel} {events events' : List FlushEvent}
    {subscription : Subscription π σ} (h : Hears channels events subscription)
    (hentry : entryAt channels' subscription.receiver = entryAt channels subscription.receiver)
    (hsignals : signals events' subscription.receiver = signals events subscription.receiver) :
    Hears channels' events' subscription := by
  obtain ⟨next, h⟩ := h
  exact ⟨next, by rw [hentry, hsignals, h]⟩

/-- A receiver that is given up by another is heard by it as before. -/
theorem Hears.unsubscribe_other {channels : List Channel} {channel : Channel}
    {receiver : ShutdownReceiver} (found : channels[receiver.channel]? = some channel)
    {events events' : List FlushEvent} {subscription : Subscription π σ}
    (hother : subscription.receiver ≠ receiver) (h : Hears channels events subscription)
    (hsignals : signals events' subscription.receiver = signals events subscription.receiver) :
    Hears (channels.set receiver.channel (channel.unsubscribe receiver.place)) events'
      subscription := by
  refine h.of_entryAt ?_ hsignals
  rw [entryAt_unsubscribe found]
  simp [hother]

/-- A receiver that is given up is known still. -/
theorem Hears.unsubscribe_self {channels : List Channel} {channel : Channel}
    {receiver : ShutdownReceiver} (found : channels[receiver.channel]? = some channel)
    {events events' : List FlushEvent} {stage stage' : Stage π σ} (hgone : stage'.isHeld = false)
    (h : Hears channels events ⟨receiver, stage⟩)
    (hsignals : signals events' receiver = signals events receiver) :
    Hears (channels.set receiver.channel (channel.unsubscribe receiver.place)) events'
      ⟨receiver, stage'⟩ := by
  obtain ⟨next, h⟩ := h
  refine ⟨next, ?_⟩
  rw [entryAt_unsubscribe found, h, hgone, hsignals]
  simp

namespace Listening

variable {base : Nat} {events : List FlushEvent} {event : FlushEvent} {w w' : Signalling π σ}

/-- A step that leaves the receivers as they are. -/
theorem of_hears (listening : Listening base events w)
    (hsubscriptions : w'.subscriptions = w.subscriptions)
    (hhears : ∀ subscription ∈ w.subscriptions, Hears w.channels events subscription →
      Hears w'.channels (events ++ [event]) subscription) :
    Listening base (events ++ [event]) w' where
  distinct := hsubscriptions ▸ listening.distinct
  of_run subscription hmem :=
    have h := listening.of_run subscription (hsubscriptions ▸ hmem)
    ⟨h.1, List.mem_append_left _ h.2⟩
  hears subscription hmem :=
    have hmem := hsubscriptions ▸ hmem
    hhears subscription hmem (listening.hears subscription hmem)
  owned subscription hmem := listening.owned subscription (hsubscriptions ▸ hmem)

/-- What stands in the list after a receiver came to another stage, besides it, is of another
receiver. -/
theorem mem_set (listening : Listening base events w) {place : Nat} {receiver : ShutdownReceiver}
    {stage stage' : Stage π σ} (hat : w.subscriptions[place]? = some ⟨receiver, stage⟩)
    {subscription : Subscription π σ}
    (hmem : subscription ∈ w.subscriptions.set place ⟨receiver, stage'⟩) :
    subscription = ⟨receiver, stage'⟩ ∨
      subscription ∈ w.subscriptions ∧ subscription.receiver ≠ receiver := by
  obtain ⟨i, hi⟩ := List.getElem?_of_mem hmem
  have hlt := (List.getElem?_eq_some_iff.mp hat).1
  by_cases hplace : place = i
  · subst hplace
    rw [List.getElem?_set_self hlt] at hi
    exact .inl (Option.some.inj hi).symm
  · rw [List.getElem?_set_ne hplace] at hi
    refine .inr ⟨List.mem_of_getElem? hi, fun hsame => hplace ?_⟩
    refine (List.getElem?_inj (by simpa using hlt) listening.distinct).mp ?_
    rw [List.getElem?_map, List.getElem?_map, hi, hat]
    exact congrArg some hsame.symm

/-- A step that takes one receiver to another stage. -/
theorem restage (listening : Listening base events w) {place : Nat} {receiver : ShutdownReceiver}
    {stage stage' : Stage π σ} (hat : w.subscriptions[place]? = some ⟨receiver, stage⟩)
    (hsubscriptions : w'.subscriptions = w.subscriptions.set place ⟨receiver, stage'⟩)
    (hself : Hears w.channels events ⟨receiver, stage⟩ →
      Hears w'.channels (events ++ [event]) ⟨receiver, stage'⟩)
    (hothers : ∀ subscription ∈ w.subscriptions, subscription.receiver ≠ receiver →
      Hears w.channels events subscription → Hears w'.channels (events ++ [event]) subscription)
    (howned : ∀ handle, stage'.handle? = some handle → handle.receiver = receiver) :
    Listening base (events ++ [event]) w' := by
  have hmem := List.mem_of_getElem? hat
  refine ⟨?_, fun subscription hsub => ?_, fun subscription hsub => ?_, fun subscription hsub => ?_⟩
  · rw [hsubscriptions, receivers_set hat]
    exact listening.distinct
  all_goals
    rw [hsubscriptions] at hsub
    rcases listening.mem_set hat hsub with rfl | ⟨hsub, hother⟩
  · have h := listening.of_run _ hmem
    exact ⟨h.1, List.mem_append_left _ h.2⟩
  · have h := listening.of_run subscription hsub
    exact ⟨h.1, List.mem_append_left _ h.2⟩
  · exact hself (listening.hears _ hmem)
  · exact hothers subscription hsub hother (listening.hears subscription hsub)
  · exact howned
  · exact listening.owned subscription hsub

/-- A new receiver is told apart from the others by its place in the channel. -/
theorem subscribe (listening : Listening base events w) {shutdown : Shutdown} {channel : Channel}
    (found : w.channels[shutdown.channel]? = some channel) (hbase : base ≤ shutdown.channel) :
    Listening base
      (events ++ [.subscribed ⟨shutdown.channel, channel.receivers.length⟩])
      { w with
        channels := w.channels.set shutdown.channel channel.subscribe.1
        subscriptions := w.subscriptions ++
          [{ receiver := ⟨shutdown.channel, channel.receivers.length⟩ }] } := by
  have hfresh : ∀ subscription ∈ w.subscriptions,
      subscription.receiver ≠ ⟨shutdown.channel, channel.receivers.length⟩ := by
    intro subscription hmem hsame
    have hknown := (listening.hears subscription hmem).isSome
    rw [hsame, entryAt_new found] at hknown
    cases hknown
  refine ⟨?_, ?_, ?_, ?_⟩
  · rw [List.map_append, List.nodup_append]
    refine ⟨listening.distinct, List.nodup_singleton _, fun receiver hold other hnew => ?_⟩
    obtain ⟨subscription, hmem, rfl⟩ := List.mem_map.mp hold
    rw [List.mem_singleton.mp hnew]
    exact hfresh subscription hmem
  all_goals
    intro subscription hmem
    rcases List.mem_append.mp hmem with hmem | hmem
  · have h := listening.of_run subscription hmem
    exact ⟨h.1, List.mem_append_left _ h.2⟩
  · obtain rfl := List.mem_singleton.mp hmem
    exact ⟨hbase, List.mem_append_right _ (List.mem_singleton_self _)⟩
  · have h := listening.hears subscription hmem
    refine h.of_entryAt (entryAt_subscribe_of_isSome found h.isSome) ?_
    rw [signals_concat, if_neg fun hsame => ?_]
    · rfl
    · exact hfresh subscription hmem (FlushEvent.subscribed.inj hsame).symm
  · obtain rfl := List.mem_singleton.mp hmem
    refine ⟨channel.sent, ?_⟩
    rw [entryAt_subscribe_new found, signals_concat, if_pos rfl]
    rfl
  · exact listening.owned subscription hmem
  · obtain rfl := List.mem_singleton.mp hmem
    exact nofun

theorem step (listening : Listening base events w) (counted : Counted base w)
    (h : Step event w w') : Listening base (events ++ [event]) w' := by
  have hsignals (unheard : event.isHeard = false) :=
    signals_concat_of_unheard unheard events
  cases h with
  | rest unheard =>
    exact listening.of_hears rfl fun subscription _ h => h.of_entryAt rfl (hsignals unheard _)
  | create =>
    exact listening.of_hears rfl fun subscription _ h =>
      h.of_entryAt (entryAt_concat _ _) (hsignals rfl _)
  | copy held found =>
    exact listening.of_hears rfl fun subscription _ h =>
      h.of_entryAt (entryAt_addSender found _) (hsignals rfl _)
  | drop held found =>
    exact listening.of_hears rfl fun subscription _ h =>
      h.of_entryAt (entryAt_dropSender found _) (hsignals rfl _)
  | @trigger _ shutdown channel held found =>
    refine listening.of_hears rfl fun subscription _ h => ?_
    obtain ⟨next, h⟩ := h
    refine ⟨next, ?_⟩
    obtain ⟨index⟩ := shutdown
    have hevent : FlushEvent.triggered ⟨index⟩ ≠ .subscribed subscription.receiver := nofun
    rw [entryAt_send found, h, signals_concat, if_neg hevent]
    simp [Nat.add_assoc, eq_comm (a := index)]
  | subscribe held found => exact listening.subscribe found (counted.of_run _ held)
  | register idle owned =>
    refine listening.restage idle rfl ?_ ?_ ?_
    · exact fun h => h.of_entryAt rfl (hsignals rfl _)
    · exact fun subscription _ _ h => h.of_entryAt rfl (hsignals rfl _)
    · rintro handle ⟨⟩
      exact owned
  | lose idle found =>
    refine listening.restage idle rfl ?_ ?_ nofun
    · exact fun h => h.unsubscribe_self found rfl (hsignals rfl _)
    · exact fun subscription _ hother h => h.unsubscribe_other found hother (hsignals rfl _)
  | finish waiting found =>
    refine listening.restage waiting rfl ?_ ?_ ?_
    · exact fun h => h.unsubscribe_self found rfl (hsignals rfl _)
    · exact fun subscription _ hother h => h.unsubscribe_other found hother (hsignals rfl _)
    · rintro handle ⟨⟩
      rfl

/-- What the channel of a receiver that is held says of it. -/
theorem exists_unread (listening : Listening base events w) {subscription : Subscription π σ}
    (hmem : subscription ∈ w.subscriptions) (held : subscription.stage.isHeld) :
    ∃ channel next, w.channels[subscription.receiver.channel]? = some channel ∧
      channel.receivers[subscription.receiver.place]? = some (some next) ∧
      channel.sent = next + signals events subscription.receiver := by
  obtain ⟨next, hentry⟩ := listening.hears subscription hmem
  rw [if_pos held, entryAt, Option.bind_eq_some_iff] at hentry
  obtain ⟨channel, found, hentry⟩ := hentry
  obtain ⟨unread, hunread, hentry⟩ := Option.map_eq_some_iff.mp hentry
  obtain ⟨rfl, hsent⟩ := Prod.mk.inj hentry
  exact ⟨channel, next, found, hunread, hsent⟩

/-- A receiver that is held is woken exactly if it is due. -/
theorem due_iff (listening : Listening base events w) (counted : Counted base w)
    {subscription : Subscription π σ} (hmem : subscription ∈ w.subscriptions) {channel : Channel}
    {next : Nat} (found : w.channels[subscription.receiver.channel]? = some channel)
    (hsent : channel.sent = next + signals events subscription.receiver) :
    Due events w.handles subscription.receiver ↔ next < channel.sent ∨ channel.senders = 0 := by
  have hsenders := counted.senders _ (listening.of_run subscription hmem).1
  rw [sendersAt, found, Option.map_some, Option.getD_some] at hsenders
  rw [Due, hsent, hsenders, List.count_eq_zero]
  exact or_congr (by omega) Iff.rfl

end Listening

/-! ## Tasks -/

section

variable {base : Nat} {events : List FlushEvent} {event : FlushEvent} {w w' : Signalling π σ}

/-- No step subscribes a receiver that is known. -/
theorem Step.event_ne (h : Step event w w') {receiver : ShutdownReceiver}
    (known : (entryAt w.channels receiver).isSome) : event ≠ .subscribed receiver := by
  rintro rfl
  cases h with
  | rest unheard => cases unheard
  | subscribe held found =>
    rw [entryAt_new found] at known
    cases known

/-- A channel without handles gets none. -/
theorem Step.not_mem_handles (h : Step event w w') {index : Nat} (hlt : index < w.channels.length)
    (gone : some ⟨index⟩ ∉ w.handles) : some ⟨index⟩ ∉ w'.handles := by
  cases h with
  | create =>
    simp only [List.mem_append, List.mem_singleton, Option.some.injEq, Shutdown.mk.injEq]
    rintro (held | rfl)
    · exact gone held
    · exact Nat.lt_irrefl _ hlt
  | copy held =>
    simp only [List.mem_append, List.mem_singleton]
    rintro (held' | hcopy)
    · exact gone held'
    · exact gone (hcopy ▸ held)
  | drop =>
    intro held
    exact gone ((List.mem_or_eq_of_mem_set held).resolve_right nofun)
  | rest | trigger | subscribe | register | lose | finish => exact gone

/-- What a receiver can wake for does not go away. -/
theorem Step.due (h : Step event w w') {receiver : ShutdownReceiver}
    (known : (entryAt w.channels receiver).isSome) (due : Due events w.handles receiver) :
    Due (events ++ [event]) w'.handles receiver := by
  rcases due with triggered | gone
  · left
    rw [signals_concat, if_neg (h.event_ne known)]
    exact Nat.add_pos_left triggered _
  · right
    refine h.not_mem_handles ?_ gone
    by_contra hle
    rw [entryAt, List.getElem?_eq_none (Nat.le_of_not_lt hle)] at known
    cases known

end

/-- How often the task with the receiver at the place has run. -/
def runs (w : Signalling π σ) (place : Nat) : Nat :=
  if w.subscriptions[place]?.any (·.stage.isFinished) then 1 else 0

/-- The tasks of a run that `events` happened in. -/
structure Accounted (events : List FlushEvent) (w : Signalling π σ) : Prop where
  tally : ∀ place, events.count (.ran place) = w.runs place
  due : ∀ subscription ∈ w.subscriptions, subscription.stage.isFinished →
    Due events w.handles subscription.receiver

section

variable {base : Nat} {events : List FlushEvent} {event : FlushEvent} {w w' : Signalling π σ}

/-- A receiver that comes to another stage. -/
theorem runs_of_restage {place : Nat} {receiver : ShutdownReceiver} {stage stage' : Stage π σ}
    (hat : w.subscriptions[place]? = some ⟨receiver, stage⟩)
    (hsubscriptions : w'.subscriptions = w.subscriptions.set place ⟨receiver, stage'⟩)
    (hstage : stage.isFinished = false) (i : Nat) :
    w'.runs i = w.runs i + if place = i ∧ stage'.isFinished then 1 else 0 := by
  rw [runs, runs, hsubscriptions]
  by_cases hplace : place = i
  · subst hplace
    rw [List.getElem?_set_self (List.getElem?_eq_some_iff.mp hat).1, hat]
    simp [hstage]
  · rw [List.getElem?_set_ne hplace]
    simp [hplace]

/-- A new receiver has no task. -/
theorem runs_concat (w : Signalling π σ) (receiver : ShutdownReceiver) (channels : List Channel)
    (i : Nat) :
    runs { w with channels, subscriptions := w.subscriptions ++ [{ receiver }] } i = w.runs i := by
  rw [runs, runs]
  simp only
  rcases Nat.lt_trichotomy i w.subscriptions.length with hlt | rfl | hgt
  · rw [List.getElem?_append_left hlt]
  · simp [Stage.isFinished]
  · rw [List.getElem?_eq_none (by simp; omega), List.getElem?_eq_none (by omega)]

/-- A step runs the task that it says, and no other. -/
theorem Step.runs_eq (h : Step event w w') (i : Nat) :
    w'.runs i = w.runs i + if event = .ran i then 1 else 0 := by
  cases h with
  | rest _ still => rw [if_neg (still i)]; rfl
  | create | copy | drop | trigger => rfl
  | subscribe => exact w.runs_concat _ _ i
  | register idle =>
    rw [runs_of_restage idle rfl rfl]
    simp [Stage.isFinished]
  | lose idle =>
    rw [runs_of_restage idle rfl rfl]
    simp [Stage.isFinished]
  | finish waiting =>
    rw [runs_of_restage waiting rfl rfl]
    simp [Stage.isFinished]

/-- A task that has ended had ended before, or ends in this step, which it was due for. -/
theorem Step.of_finished (h : Step event w w') (counted : Counted base w)
    (listening : Listening base events w) {subscription : Subscription π σ}
    (hmem : subscription ∈ w'.subscriptions) (finished : subscription.stage.isFinished) :
    subscription ∈ w.subscriptions ∨ Due events w.handles subscription.receiver ∧
      (entryAt w.channels subscription.receiver).isSome := by
  cases h with
  | rest | create | copy | drop | trigger => exact .inl hmem
  | subscribe =>
    rcases List.mem_append.mp hmem with hmem | hmem
    · exact .inl hmem
    · obtain rfl := List.mem_singleton.mp hmem
      cases finished
  | register idle =>
    rcases List.mem_or_eq_of_mem_set hmem with hmem | rfl
    · exact .inl hmem
    · cases finished
  | lose idle =>
    rcases List.mem_or_eq_of_mem_set hmem with hmem | rfl
    · exact .inl hmem
    · cases finished
  | @finish _ place next handle channel waiting found unread woken =>
    rcases List.mem_or_eq_of_mem_set hmem with hmem | rfl
    · exact .inl hmem
    · right
      have hwaiting := List.mem_of_getElem? waiting
      obtain ⟨channel', next', found', unread', hsent⟩ := listening.exists_unread hwaiting rfl
      obtain rfl : channel = channel' := Option.some.inj (found.symm.trans found')
      obtain rfl : next = next' :=
        Option.some.inj (Option.some.inj (unread.symm.trans unread'))
      exact ⟨(listening.due_iff counted hwaiting found hsent).mpr woken,
        (listening.hears _ hwaiting).isSome⟩

theorem Accounted.step (accounted : Accounted events w) (counted : Counted base w)
    (listening : Listening base events w) (h : Step event w w') :
    Accounted (events ++ [event]) w' where
  tally place := by rw [count_ran_concat, accounted.tally, h.runs_eq]
  due subscription hmem finished := by
    rcases h.of_finished counted listening hmem finished with hmem | ⟨due, known⟩
    · exact h.due (listening.hears _ hmem).isSome (accounted.due subscription hmem finished)
    · exact h.due known due

/-- The handles stay where they are if a receiver comes to a stage that keeps its own. -/
theorem handleAt_set {subscriptions : List (Subscription π σ)} {i place : Nat}
    {receiver : ShutdownReceiver} {stage stage' : Stage π σ} {handle : TracingHandle π σ}
    (hold : subscriptions[i]? = some ⟨receiver, stage⟩)
    (hkeeps : ∀ handle, stage.handle? = some handle → stage'.handle? = some handle)
    (hat : handleAt subscriptions place = some handle) :
    handleAt (subscriptions.set i ⟨receiver, stage'⟩) place = some handle := by
  rw [handleAt] at hat ⊢
  by_cases hplace : i = place
  · subst hplace
    rw [hold] at hat
    rw [List.getElem?_set_self (List.getElem?_eq_some_iff.mp hold).1]
    exact hkeeps handle hat
  · rw [List.getElem?_set_ne hplace]
    exact hat

/-- The task of a receiver keeps its provider. -/
theorem Step.handleAt (h : Step event w w') {place : Nat} {handle : TracingHandle π σ}
    (hat : handleAt w.subscriptions place = some handle) :
    handleAt w'.subscriptions place = some handle := by
  cases h with
  | rest | create | copy | drop | trigger => exact hat
  | subscribe =>
    obtain ⟨subscription, hsub, -⟩ := Option.bind_eq_some_iff.mp hat
    rw [Observability.handleAt, List.getElem?_append_left (List.getElem?_eq_some_iff.mp hsub).1]
    exact hat
  | register idle => exact handleAt_set idle nofun hat
  | lose idle => exact handleAt_set idle nofun hat
  | finish waiting => exact handleAt_set waiting (fun _ => id) hat

end

/-- All that is kept of the signalling of a run that `events` happened in. -/
structure Sound (base : Nat) (events : List FlushEvent) (w : Signalling π σ) : Prop where
  counted : Counted base w
  listening : Listening base events w
  accounted : Accounted events w

theorem Sound.step {base : Nat} {events : List FlushEvent} {event : FlushEvent}
    {w w' : Signalling π σ} (sound : Sound base events w) (h : Step event w w') :
    Sound base (events ++ [event]) w' where
  counted := sound.counted.step h
  listening := sound.listening.step sound.counted h
  accounted := sound.accounted.step sound.counted sound.listening h

/-- Before anything happened. -/
theorem Sound.start (channels : List Channel) :
    Sound channels.length [] (⟨channels, [], []⟩ : Signalling π σ) where
  counted := {
    base_le := Nat.le_refl _
    of_run := nofun
    senders i hi := by
      rw [sendersAt, List.getElem?_eq_none hi]
      rfl }
  listening := {
    distinct := List.nodup_nil
    of_run := nofun
    hears := nofun
    owned := nofun }
  accounted := {
    tally _ := rfl
    due := nofun }

namespace Sound

variable {base place : Nat} {events : List FlushEvent} {handle : TracingHandle π σ}
  {w : Signalling π σ}

/-- A task that has not run waits. -/
theorem waiting (sound : Sound base events w) (hat : handleAt w.subscriptions place = some handle)
    (hcount : events.count (.ran place) = 0) :
    w.subscriptions[place]? = some ⟨handle.receiver, .waiting handle⟩ := by
  obtain ⟨⟨receiver, stage⟩, hsub, hstage⟩ := Option.bind_eq_some_iff.mp hat
  obtain rfl := sound.listening.owned _ (List.mem_of_getElem? hsub) handle hstage
  rw [sound.accounted.tally, runs, hsub] at hcount
  cases stage with
  | idle | lost => cases hstage
  | waiting => rw [hsub, Option.some.inj hstage]
  | finished => cases hcount

/-- A task that has run was due, and is. -/
theorem due_of_ran (sound : Sound base events w)
    (hat : handleAt w.subscriptions place = some handle)
    (hcount : 0 < events.count (.ran place)) : Due events w.handles handle.receiver := by
  obtain ⟨⟨receiver, stage⟩, hsub, hstage⟩ := Option.bind_eq_some_iff.mp hat
  have hmem := List.mem_of_getElem? hsub
  obtain rfl := sound.listening.owned _ hmem handle hstage
  refine sound.accounted.due _ hmem ?_
  rw [sound.accounted.tally, runs, hsub] at hcount
  cases stage with
  | idle | lost | waiting => cases hcount
  | finished => rfl

theorem count_ran_le (sound : Sound base events w) (place : Nat) :
    events.count (.ran place) ≤ 1 := by
  rw [sound.accounted.tally, runs]
  split <;> decide

end Sound

end Signalling

end Observability
