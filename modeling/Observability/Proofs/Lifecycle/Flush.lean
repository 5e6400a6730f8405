import Observability.Proofs.Lifecycle.Signalling

/-!
# Every provider is flushed once

* `TracingHandle.flushed` is what a task does when it wakes: it calls its provider once, and its logger
  once.
* `FlushCommand.step_signalling` says that a command does to the signalling what `Signalling.Step`
  lists, so that every run keeps it sound (`FlushRun.sound_run`).
* `FlushRun.run_eq_of_agree` says that a run depends on how a provider is shut down only if the task of
  the provider ran in it.

`providers_flushed_once` puts this together for one registered provider among any others.
-/

namespace Observability

open Act (Quiet)

variable {π τ φ σ α : Type}

/-! ## What a task does -/

namespace TracingHandle

variable [TracerProvider π τ] [LogSink Act σ]

/-- The call of the logger after the provider was shut down, by what that gave in a task of the given
number. -/
def lastWord (handle : TracingHandle π σ) (task : Nat) :
    Except Crash (Option (Except ProviderError Unit)) → Act Unit
  | .ok (some (.ok _)) => handle.logger.info "Tracer provider shut down" []
  | .ok (some (.error error)) =>
    handle.logger.error (some error.message) "failed to shut down tracer provider" []
  | .ok none =>
    handle.logger.error (some "deadline has elapsed") "failed to shut down tracer provider"
      [.nat "timeout_secs" (UInt64.ofNat (handle.timeoutMs / 1000))]
  | .error crash =>
    handle.logger.error (some (crashedTaskText task crash)) "failed to shut down tracer provider" []

/-- What is left when the provider was shut down, once, in a task of its own, and the logger was called,
once.  A crash of the logger is told as an event. -/
def flushed (handle : TracingHandle π σ) (c : Collector) : Collector :=
  let (result, called) :=
    Act.runOn (TracerProvider.shutdown handle.provider) { c with taskCount := c.taskCount + 1 }
  match Act.runOn (handle.lastWord c.taskCount result) called with
  | (.ok _, told) => told
  | (.error crash, told) =>
    (Act.runOn (Act.emit .warn none
      [ ("message", .text "Tracer shutdown task failed"),
        ("error", .text (crashedTaskText handle.task crash)) ]) told).2

theorem runOn_shutDown (handle : TracingHandle π σ) (c : Collector) :
    Act.runOn handle.shutDown c =
      let (result, called) :=
        Act.runOn (TracerProvider.shutdown handle.provider) { c with taskCount := c.taskCount + 1 }
      Act.runOn (handle.lastWord c.taskCount result) called := by
  rw [shutDown, flush, Act.runOn_bind, Act.runOn_bind, Act.freshTask, Act.runOn_step]
  simp only [Act.runOn_tryCatch, Act.runOn_bind]
  rcases Act.runOn (TracerProvider.shutdown handle.provider) _ with ⟨crash | _ | _ | _, called⟩ <;> rfl

/-- Joining a task that was not woken only reads. -/
theorem runOn_join_of_empty (handle : TracingHandle π σ) {c after : Collector}
    (h : Act.runOn handle.receiver.receive c = (.ok .empty, after)) :
    Act.runOn handle.join c = (.ok false, after) := by
  rw [join, Act.runOn_bind, h]
  rfl

/-- Joining a task that has read everything does nothing while somebody can send. -/
theorem runOn_join_of_all_read (handle : TracingHandle π σ) {c : Collector} {channel : Channel}
    (found : c.channels[handle.receiver.channel]? = some channel)
    (unread : channel.receivers[handle.receiver.place]? = some (some channel.sent))
    (hsenders : channel.senders ≠ 0) : Act.runOn handle.join c = (.ok false, c) := by
  have hsame : c.channels.set handle.receiver.channel channel = c.channels := by
    obtain ⟨hlt, hchannel⟩ := List.getElem?_eq_some_iff.mp found
    rw [← hchannel, List.set_getElem_self]
  refine handle.runOn_join_of_empty ?_
  rw [ShutdownReceiver.receive, Act.runOn_onChannel found,
    Channel.receive_of_all_read unread hsenders, hsame]

/-- Joining a task that was woken runs it to its end. -/
theorem runOn_join_woken (handle : TracingHandle π σ) {c after : Collector} {reception : Reception}
    (h : Act.runOn handle.receiver.receive c = (.ok reception, after)) (hwoken : reception ≠ .empty) :
    Act.runOn handle.join c = (.ok true, (Act.runOn handle.receiver.drop (handle.flushed after)).2) := by
  have hflush : Act.runOn (tryCatch handle.shutDown fun crash => Act.emit .warn none
      [ ("message", .text "Tracer shutdown task failed"),
        ("error", .text (crashedTaskText handle.task crash)) ]) after =
      (.ok (), handle.flushed after) := by
    rw [Act.runOn_tryCatch, runOn_shutDown, flushed]
    simp only
    split <;> simp_all [Act.emit]
  obtain ⟨channels, hdrop⟩ := handle.receiver.exists_runOn_drop (handle.flushed after)
  rw [join, Act.runOn_bind, h]
  cases reception with
  | empty => exact absurd rfl hwoken
  | woken | lagged | closed =>
    simp only [Act.runOn_bind, hflush, hdrop]
    rfl

end TracingHandle

section

variable [P : TracerProvider π τ] [LogSink Act σ] (quiet : QuietComponents π σ)
include quiet

theorem TracingHandle.channels_flushed (handle : TracingHandle π σ) (c : Collector) :
    (handle.flushed c).channels = c.channels := by
  have hlast (task : Nat) (result : Except Crash (Option (Except ProviderError Unit))) :
      Quiet (handle.lastWord task result) := by
    rcases result with crash | _ | error | _
    · exact quiet.loggerError _ _ _ _
    · exact quiet.loggerError _ _ _ _
    · exact quiet.loggerError _ _ _ _
    · exact quiet.loggerInfo _ _ _
  rw [flushed]
  rcases hcall : Act.runOn (TracerProvider.shutdown handle.provider)
    { c with taskCount := c.taskCount + 1 } with ⟨result, called⟩
  have hcalled := (quiet.shutdown handle.provider).after hcall
  simp only
  rcases htell : Act.runOn (handle.lastWord c.taskCount result) called with ⟨crash | _, told⟩
  · have htold := (hlast c.taskCount result).after htell
    exact (Act.Keeps.emit _ _ _ told).trans (htold.trans hcalled)
  · exact ((hlast c.taskCount result).after htell).trans hcalled

/-- A registration gives a handle and leaves the channels alone, or crashes and gives the receiver up. -/
theorem Startup.registerProvider_cases (facility : Tracer τ → φ) (provider : π) (tracerName : String)
    (timeoutMs : Nat) (logger : Logger σ) (receiver : ShutdownReceiver) (registry : Registry φ)
    (c : Collector) :
    ∃ registry' told, told.channels = c.channels ∧
      ((∃ task, RegistryAct.runOn
          (registerProvider facility provider tracerName timeoutMs logger receiver) registry c =
        ((.ok { provider, logger, receiver, timeoutMs, task }, registry'), told)) ∨
      ∃ crash, RegistryAct.runOn
          (registerProvider facility provider tracerName timeoutMs logger receiver) registry c =
        ((.error crash, registry'), (Act.runOn receiver.drop told).2)) := by
  rcases hrun : Act.runOn (TracerProvider.tracer provider tracerName) c with ⟨crash | tracer, after⟩
  · exact ⟨registry, after, (quiet.tracer provider tracerName).after hrun, .inr ⟨crash,
      runOn_registerProvider_of_error hrun facility timeoutMs logger receiver registry⟩⟩
  · have hafter := (quiet.tracer provider tracerName).after hrun
    rw [registerProvider, RegistryAct.runOn_tryCatch, RegistryAct.runOn_bind, RegistryAct.runOn_lift,
      hrun]
    simp only [RegistryAct.runOn_bind, Registry.runOn_register, RegistryAct.runOn_lift]
    have hregister := Act.Keeps.emit .debug none [("message", .text (if registry.facility.isSome then
      "Tracing facility replaced" else "Tracing facility registered"))] after
    generalize (Act.runOn (Act.emit .debug none _) after).2 = registered at hregister ⊢
    rcases htell : Act.runOn (logger.info "Registered tracing facility" [.text "tracer" tracerName])
      registered with ⟨crash | _, told⟩
    all_goals
      have htold := ((quiet.loggerInfo logger _ _).after htell).trans (hregister.trans hafter)
    · refine ⟨⟨some (facility (.correlated tracer))⟩, told, htold, .inr ⟨crash, ?_⟩⟩
      obtain ⟨channels, hdrop⟩ := receiver.exists_runOn_drop told
      simp only [hdrop, RegistryAct.runOn_throw]
    · exact ⟨⟨some (facility (.correlated tracer))⟩, { told with taskCount := told.taskCount + 1 },
        htold, .inl ⟨told.taskCount, rfl⟩⟩

end

theorem ShutdownReceiver.channels_drop {receiver : ShutdownReceiver} {c : Collector}
    {channel : Channel} (found : c.channels[receiver.channel]? = some channel) :
    (Act.runOn receiver.drop c).2.channels =
      c.channels.set receiver.channel (channel.unsubscribe receiver.place) := by
  rw [drop, Act.runOn_onChannel found]

/-- Joining a task that is due shuts its provider down and gives its receiver up. -/
theorem TracingHandle.exists_runOn_join_of_due [TracerProvider π τ] [LogSink Act σ]
    (quiet : QuietComponents π σ) (handle : TracingHandle π σ) {c : Collector} {channel : Channel}
    {next : Nat} (found : c.channels[handle.receiver.channel]? = some channel)
    (unread : channel.receivers[handle.receiver.place]? = some (some next))
    (hdue : next < channel.sent ∨ channel.senders = 0) :
    ∃ read, Act.runOn handle.join c =
      (.ok true,
        { handle.flushed { c with channels := read } with
          channels := c.channels.set handle.receiver.channel
            (channel.unsubscribe handle.receiver.place) }) := by
  obtain ⟨reception, next', hreception, hreceive⟩ := Channel.exists_receive_of_due unread hdue
  obtain ⟨read, hread⟩ : ∃ read, read = c.channels.set handle.receiver.channel { channel with
    receivers := channel.receivers.set handle.receiver.place (some next') } := ⟨_, rfl⟩
  have hrun : Act.runOn handle.receiver.receive c = (.ok reception, { c with channels := read }) := by
    rw [ShutdownReceiver.receive, Act.runOn_onChannel found, hreceive, hread]
  have hchannels : (handle.flushed { c with channels := read }).channels = read :=
    handle.channels_flushed quiet _
  have hfound : (handle.flushed { c with channels := read }).channels[handle.receiver.channel]? =
      some { channel with
        receivers := channel.receivers.set handle.receiver.place (some next') } := by
    rw [hchannels, hread, List.getElem?_set_self (List.getElem?_eq_some_iff.mp found).1]
  refine ⟨read, ?_⟩
  rw [handle.runOn_join_woken hrun hreception, ShutdownReceiver.drop, Act.runOn_onChannel hfound,
    hchannels, hread]
  simp only [Channel.unsubscribe, List.set_set]

/-! ## One command -/

/-- The part of the run that says who can wake whom. -/
def FlushRun.signalling (s : FlushRun π φ σ) : Signalling π σ :=
  ⟨s.collector.channels, s.handles, s.subscriptions⟩

namespace FlushRun

theorem signalling_with (s : FlushRun π φ σ) (registries : List (Registry φ)) {c : Collector}
    (h : c.channels = s.collector.channels) :
    signalling { s with registries, collector := c } = s.signalling := by
  rw [signalling, signalling, h]

/-- What is done with a handle is done on the channel of one that is held, or nothing happens. -/
theorem withHandle_cases {base : Nat} {s : FlushRun π φ σ}
    (counted : Signalling.Counted base s.signalling) (place : Nat) (action : Shutdown → Act α)
    {fallback : Shutdown → α} {f : Shutdown → Channel → α × Channel}
    (haction : ∀ shutdown, action shutdown =
      Act.onChannel shutdown.channel (fallback shutdown) (f shutdown))
    (next : Shutdown → α → FlushEvent × FlushRun π φ σ) :
    s.withHandle place action next = (.nothing, s) ∨
      ∃ shutdown channel, s.handles[place]? = some (some shutdown) ∧
        s.collector.channels[shutdown.channel]? = some channel ∧
        s.withHandle place action next = s.settle (.ok (f shutdown channel).1, { s.collector with
          channels := s.collector.channels.set shutdown.channel (f shutdown channel).2 })
          (next shutdown) := by
  rcases hat : s.handles[place]? with _ | _ | shutdown
  · exact .inl (by rw [withHandle, hat])
  · exact .inl (by rw [withHandle, hat])
  · obtain ⟨channel, found⟩ := counted.exists_channel (List.mem_of_getElem? hat)
    refine .inr ⟨shutdown, channel, rfl, found, ?_⟩
    rw [withHandle, hat]
    simp only [haction]
    rw [Act.runOn_onChannel found]

section

variable [P : TracerProvider π τ] [LogSink Act σ] {base place : Nat} {events : List FlushEvent}
  {s : FlushRun π φ σ} {handle : TracingHandle π σ}

/-- A task that is not due waits, and nothing changes. -/
theorem step_progress_of_not_due (facility : Tracer τ → φ)
    (sound : Signalling.Sound base events s.signalling)
    (waiting : s.subscriptions[place]? = some ⟨handle.receiver, .waiting handle⟩)
    (hdue : ¬ Due events s.handles handle.receiver) :
    FlushCommand.step facility s (.progress place) = (.waits place, s) := by
  have hmem := List.mem_of_getElem? waiting
  obtain ⟨channel, next, found, unread, hsent⟩ := sound.listening.exists_unread hmem rfl
  have hdue := (not_congr (sound.listening.due_iff sound.counted hmem found hsent)).mp hdue
  rw [not_or] at hdue
  have hread : next = channel.sent := by omega
  have hjoin := handle.runOn_join_of_all_read found (hread ▸ unread) hdue.2
  rw [FlushCommand.step, waiting]
  simp only [settle, hjoin]
  rfl

/-- A task that is due runs to its end. -/
theorem step_progress_of_due (quiet : QuietComponents π σ) (facility : Tracer τ → φ)
    (sound : Signalling.Sound base events s.signalling)
    (waiting : s.subscriptions[place]? = some ⟨handle.receiver, .waiting handle⟩)
    (hdue : Due events s.handles handle.receiver) :
    ∃ channel next read,
      s.collector.channels[handle.receiver.channel]? = some channel ∧
      channel.receivers[handle.receiver.place]? = some (some next) ∧
      (next < channel.sent ∨ channel.senders = 0) ∧
      FlushCommand.step facility s (.progress place) =
        (.ran place, { s with
          collector := { handle.flushed { s.collector with channels := read } with
            channels := s.collector.channels.set handle.receiver.channel
              (channel.unsubscribe handle.receiver.place) }
          subscriptions := s.subscriptions.set place ⟨handle.receiver, .finished handle⟩ }) := by
  have hmem := List.mem_of_getElem? waiting
  obtain ⟨channel, next, found, unread, hsent⟩ := sound.listening.exists_unread hmem rfl
  have hwoken := (sound.listening.due_iff sound.counted hmem found hsent).mp hdue
  obtain ⟨read, hjoin⟩ := handle.exists_runOn_join_of_due quiet found unread hwoken
  refine ⟨channel, next, read, found, unread, hwoken, ?_⟩
  rw [FlushCommand.step, waiting]
  simp only [settle, hjoin]
  rfl

/-- A registration takes a receiver to the task of its provider, or crashes and gives it up. -/
theorem step_registerProvider_cases (quiet : QuietComponents π σ) (facility : Tracer τ → φ)
    (s : FlushRun π φ σ) (registry place : Nat) (provider : π) (tracerName : String)
    (timeoutMs : Nat) (logger : Logger σ) :
    FlushCommand.step facility s
        (.registerProvider registry place provider tracerName timeoutMs logger) = (.nothing, s) ∨
      ∃ receiver registries told, s.subscriptions[place]? = some ⟨receiver, .idle⟩ ∧
        told.channels = s.collector.channels ∧
        ((∃ task, FlushCommand.step facility s
            (.registerProvider registry place provider tracerName timeoutMs logger) =
          (.registered place, { s with
            registries
            collector := told
            subscriptions := s.subscriptions.set place
              ⟨receiver, .waiting { provider, logger, receiver, timeoutMs, task }⟩ })) ∨
        ∃ crash, FlushCommand.step facility s
            (.registerProvider registry place provider tracerName timeoutMs logger) =
          (.crashed crash, { s with
            registries
            collector := (Act.runOn receiver.drop told).2
            subscriptions := s.subscriptions.set place ⟨receiver, .lost⟩ })) := by
  rw [FlushCommand.step]
  rcases hregistry : s.registries[registry]? with _ | before
  · exact .inl rfl
  rcases hsub : s.subscriptions[place]? with _ | ⟨receiver, _ | _ | _ | _⟩
  · exact .inl rfl
  · right
    obtain ⟨after, told, htold, ⟨task, hrun⟩ | ⟨crash, hrun⟩⟩ := Startup.registerProvider_cases quiet
      facility provider tracerName timeoutMs logger receiver before s.collector
    · refine ⟨receiver, s.registries.set registry after, told, rfl, htold, .inl ⟨task, ?_⟩⟩
      simp only [hrun]
    · refine ⟨receiver, s.registries.set registry after, told, rfl, htold, .inr ⟨crash, ?_⟩⟩
      simp only [hrun]
  all_goals exact .inl rfl

end

end FlushRun

section

variable [P : TracerProvider π τ] [LogSink Act σ] {base : Nat} {events : List FlushEvent}
  {s : FlushRun π φ σ}

open Signalling (Sound Step)

/-- A command does to the signalling what `Signalling.Step` lists. -/
theorem FlushCommand.step_signalling (quiet : QuietComponents π σ) (facility : Tracer τ → φ)
    (sound : Sound base events s.signalling) (command : FlushCommand π φ σ) :
    Step (command.step facility s).1 s.signalling (command.step facility s).2.signalling := by
  cases command with
  | create => exact .create (w := s.signalling)
  | copy place =>
    rw [step]
    rcases FlushRun.withHandle_cases sound.counted place Shutdown.copy (fun _ => rfl) _ with
      hstep | ⟨shutdown, channel, held, found, hstep⟩ <;> rw [hstep]
    · exact .rest rfl nofun
    · exact .copy (List.mem_of_getElem? held) found
  | drop place =>
    rw [step]
    rcases FlushRun.withHandle_cases sound.counted place Shutdown.drop (fun _ => rfl) _ with
      hstep | ⟨shutdown, channel, held, found, hstep⟩ <;> rw [hstep]
    · exact .rest rfl nofun
    · exact .drop held found
  | trigger place =>
    rw [step]
    rcases FlushRun.withHandle_cases sound.counted place Shutdown.trigger (fun _ => rfl) _ with
      hstep | ⟨shutdown, channel, held, found, hstep⟩ <;> rw [hstep]
    · exact .rest rfl nofun
    · exact .trigger (List.mem_of_getElem? held) found
  | subscribe place =>
    rw [step]
    rcases FlushRun.withHandle_cases sound.counted place Shutdown.subscribe (fun _ => rfl) _ with
      hstep | ⟨shutdown, channel, held, found, hstep⟩ <;> rw [hstep]
    · exact .rest rfl nofun
    · exact .subscribe (List.mem_of_getElem? held) found
  | register place new =>
    rw [step]
    rcases s.registries[place]? with _ | registry
    · exact .rest rfl nofun
    · exact .of_eq (s.signalling_with _ (Act.Keeps.emit _ _ _ _)) rfl nofun
  | registerProvider registry place provider tracerName timeoutMs logger =>
    rcases s.step_registerProvider_cases quiet facility registry place provider tracerName timeoutMs
      logger with hstep | ⟨receiver, registries, told, idle, htold, ⟨task, hstep⟩ | ⟨crash, hstep⟩⟩ <;>
      rw [hstep]
    · exact .rest rfl nofun
    · simp only [FlushRun.signalling, htold]
      exact .register idle rfl
    · obtain ⟨channel, -, found, -⟩ := sound.listening.exists_unread (List.mem_of_getElem? idle) rfl
      have hdrop := receiver.channels_drop (c := told) (by rw [htold]; exact found)
      simp only [FlushRun.signalling, hdrop, htold]
      exact .lose idle found
  | progress place =>
    rcases hsub : s.subscriptions[place]? with _ | ⟨receiver, _ | _ | handle | handle⟩
    all_goals try
      rw [step, hsub]
      exact .rest rfl nofun
    obtain rfl := sound.listening.owned _ (List.mem_of_getElem? hsub) handle rfl
    by_cases hdue : Due events s.handles handle.receiver
    · obtain ⟨channel, next, read, found, unread, hwoken, hstep⟩ :=
        FlushRun.step_progress_of_due quiet facility sound hsub hdue
      rw [hstep]
      exact .finish hsub found unread hwoken
    · rw [FlushRun.step_progress_of_not_due facility sound hsub hdue]
      exact .rest rfl nofun

/-! ## Runs -/

namespace FlushRun

theorem run_append (facility : Tracer τ → φ) (first last : List (FlushCommand π φ σ))
    (s : FlushRun π φ σ) :
    run facility (first ++ last) s =
      ((run facility first s).1 ++ (run facility last (run facility first s).2).1,
        (run facility last (run facility first s).2).2) := by
  induction first generalizing s with
  | nil => rfl
  | cons command first ih =>
    simp only [List.cons_append, run, ih]

/-- What a run keeps. -/
theorem sound_run (quiet : QuietComponents π σ) (facility : Tracer τ → φ)
    (sound : Sound base events s.signalling) (commands : List (FlushCommand π φ σ)) :
    Sound base (events ++ (run facility commands s).1) (run facility commands s).2.signalling := by
  induction commands generalizing events s with
  | nil =>
    rw [run, List.append_nil]
    exact sound
  | cons command rest ih =>
    have hrest := ih (sound.step (command.step_signalling quiet facility sound))
    rw [List.append_assoc] at hrest
    exact hrest

/-- The task of a receiver keeps its provider in a run. -/
theorem handleAt_run (quiet : QuietComponents π σ) (facility : Tracer τ → φ)
    (sound : Sound base events s.signalling) (commands : List (FlushCommand π φ σ)) {place : Nat}
    {handle : TracingHandle π σ} (hat : handleAt s.subscriptions place = some handle) :
    handleAt (run facility commands s).2.subscriptions place = some handle := by
  induction commands generalizing events s with
  | nil => exact hat
  | cons command rest ih =>
    have hstep := command.step_signalling quiet facility sound
    exact ih (sound.step hstep) (hstep.handleAt hat)

end FlushRun

/-! ### Other ways of shutting down -/

theorem TracingHandle.join_eq_of_agree (handle : TracingHandle π σ)
    {shutdown : π → Act (Option (Except ProviderError Unit))}
    (hagree : shutdown handle.provider = P.shutdown handle.provider) :
    @join π τ σ { P with shutdown } _ handle = handle.join := by
  unfold join shutDown flush
  dsimp only
  rw [hagree]

/-- A command depends on how a provider is shut down only if it runs the task of the provider. -/
theorem FlushCommand.step_eq_of_agree (facility : Tracer τ → φ) (command : FlushCommand π φ σ)
    {shutdown : π → Act (Option (Except ProviderError Unit))}
    (hagree : ∀ place handle, (command.step facility s).1 = .ran place →
      handleAt (command.step facility s).2.subscriptions place = some handle →
      shutdown handle.provider = P.shutdown handle.provider) :
    command.step (P := { P with shutdown }) facility s = command.step facility s := by
  cases command with
  | create | copy | drop | trigger | subscribe | register | registerProvider => rfl
  | progress place =>
    rcases hsub : s.subscriptions[place]? with _ | ⟨receiver, _ | _ | handle | handle⟩
    all_goals try
      simp only [step, hsub]
    simp only [step, hsub] at hagree ⊢
    have hlt := (List.getElem?_eq_some_iff.mp hsub).1
    rcases hreceive : Act.runOn handle.receiver.receive s.collector with ⟨crash | reception, after⟩
    · cases hreceive
    · by_cases hempty : reception = .empty
      · subst hempty
        rw [handle.runOn_join_of_empty hreceive,
          @TracingHandle.runOn_join_of_empty π τ σ { P with shutdown } _ handle _ _ hreceive]
      · have hran := handle.runOn_join_woken hreceive hempty
        rw [handle.join_eq_of_agree (hagree place handle ?_ ?_)]
        · rw [hran]
          rfl
        · rw [hran]
          simp only [FlushRun.settle, if_true]
          rw [handleAt, List.getElem?_set_self hlt]
          rfl

/-- A run depends on how a provider is shut down only if the task of the provider runs in it. -/
theorem FlushRun.run_eq_of_agree (quiet : QuietComponents π σ) (facility : Tracer τ → φ)
    (sound : Sound base events s.signalling) (commands : List (FlushCommand π φ σ))
    {shutdown : π → Act (Option (Except ProviderError Unit))}
    (hagree : ∀ place handle, .ran place ∈ (run facility commands s).1 →
      handleAt (run facility commands s).2.subscriptions place = some handle →
      shutdown handle.provider = P.shutdown handle.provider) :
    run (P := { P with shutdown }) facility commands s = run facility commands s := by
  induction commands generalizing events s with
  | nil => rfl
  | cons command rest ih =>
    have hafter := sound.step (command.step_signalling quiet facility sound)
    have hstep := command.step_eq_of_agree facility (s := s) fun place handle hran hat =>
      hagree place handle (hran ▸ List.mem_cons_self)
        (handleAt_run quiet facility hafter rest hat)
    have hrest := ih hafter fun place handle hran hat =>
      hagree place handle (List.mem_cons_of_mem _ hran) hat
    simp only [run, hstep, hrest]

/-! ## Registered providers -/

/-- A task that is joined when it is due has run, and does not run again. -/
theorem FlushRun.count_ran_of_due (quiet : QuietComponents π σ) (facility : Tracer τ → φ)
    (sound : Sound base events s.signalling) {place : Nat} {handle : TracingHandle π σ}
    (hat : handleAt s.subscriptions place = some handle)
    (hdue : Due events s.handles handle.receiver) (more : List (FlushCommand π φ σ)) :
    (events ++ (run facility (.progress place :: more) s).1).count (.ran place) = 1 := by
  have hle := (sound_run quiet facility sound (.progress place :: more)).count_ran_le place
  refine Nat.le_antisymm hle ?_
  rw [List.count_append]
  rcases Nat.eq_zero_or_pos (events.count (.ran place)) with hcount | hcount
  · obtain ⟨channel, next, read, -, -, -, hstep⟩ :=
      step_progress_of_due quiet facility sound (sound.waiting hat hcount) hdue
    rw [run, hstep]
    exact Nat.le_trans (by simp) (Nat.le_add_left _ _)
  · exact Nat.le_add_right_of_le hcount

/-- A registration that succeeded gave the idle receiver at the place to the task of the provider. -/
theorem FlushRun.exists_handle_of_registered (quiet : QuietComponents π σ) (facility : Tracer τ → φ)
    {registry place : Nat} {provider : π} {tracerName : String} {timeoutMs : Nat} {logger : Logger σ}
    (registered : (FlushCommand.step facility s
      (.registerProvider registry place provider tracerName timeoutMs logger)).1 = .registered place) :
    ∃ handle : TracingHandle π σ,
      handle.provider = provider ∧ handle.logger = logger ∧ handle.timeoutMs = timeoutMs ∧
      s.subscriptions[place]? = some ⟨handle.receiver, .idle⟩ ∧
      handleAt (FlushCommand.step facility s
        (.registerProvider registry place provider tracerName timeoutMs logger)).2.subscriptions
        place = some handle := by
  rcases s.step_registerProvider_cases quiet facility registry place provider tracerName timeoutMs
    logger with hstep | ⟨receiver, registries, told, idle, -, ⟨task, hstep⟩ | ⟨crash, hstep⟩⟩ <;>
    rw [hstep] at registered ⊢
  · cases registered
  · refine ⟨{ provider, logger, receiver, timeoutMs, task }, rfl, rfl, rfl, idle, ?_⟩
    rw [handleAt, List.getElem?_set_self (List.getElem?_eq_some_iff.mp idle).1]
    rfl
  · cases registered

/-- No provider is forgotten or flushed twice.  However coordinators are made, copied, triggered and
dropped, facilities replaced and other providers registered, before the registration of a provider and
after it:

* its task runs once at most, and only when its receiver is due: a trigger since it was subscribed, or
  no handle left;
* joining the task before does nothing; joining it then, it shuts the provider down by one call and logs
  that by one call, and it has run exactly once whatever follows;
* nothing but the tasks of a provider shuts it down: a part of the run that none of them ran in goes the
  same way with any other shutdown in the place of its own. -/
theorem providers_flushed_once (quiet : QuietComponents π σ) (facility : Tracer τ → φ)
    (registries : List (Registry φ)) (collector : Collector) (before later : List (FlushCommand π φ σ))
    (registry place : Nat) (provider : π) (tracerName : String) (timeoutMs : Nat)
    (logger : Logger σ) :
    let start : FlushRun π φ σ := { registries, collector }
    let registration : FlushCommand π φ σ :=
      .registerProvider registry place provider tracerName timeoutMs logger
    let commands := before ++ registration :: later
    let events := (FlushRun.run facility commands start).1
    let s := (FlushRun.run facility commands start).2
    (registration.step facility (FlushRun.run facility before start).2).1 = .registered place →
    ∃ handle : TracingHandle π σ,
      (handle.provider = provider ∧ handle.logger = logger ∧ handle.timeoutMs = timeoutMs ∧
        (FlushRun.run facility before start).2.subscriptions[place]? =
          some ⟨handle.receiver, .idle⟩ ∧
        .subscribed handle.receiver ∈ (FlushRun.run facility before start).1 ∧
        handleAt s.subscriptions place = some handle) ∧
      events.count (.ran place) ≤ 1 ∧
      (0 < events.count (.ran place) → Due events s.handles handle.receiver) ∧
      (events.count (.ran place) = 0 → ¬ Due events s.handles handle.receiver →
        FlushCommand.step facility s (.progress place) = (.waits place, s)) ∧
      (events.count (.ran place) = 0 → Due events s.handles handle.receiver →
        (FlushCommand.step facility s (.progress place)).1 = .ran place ∧
        ∃ read freed, (FlushCommand.step facility s (.progress place)).2.collector =
          { handle.flushed { s.collector with channels := read } with channels := freed }) ∧
      (Due events s.handles handle.receiver → ∀ more : List (FlushCommand π φ σ),
        (FlushRun.run facility (commands ++ .progress place :: more) start).1.count (.ran place) = 1) ∧
      ∀ first last, commands = first ++ last →
        let halfway := (FlushRun.run facility first start).2
        let part := FlushRun.run facility last halfway
        ∀ shutdown : π → Act (Option (Except ProviderError Unit)),
          (∀ i other, .ran i ∈ part.1 → handleAt part.2.subscriptions i = some other →
            shutdown other.provider = P.shutdown other.provider) →
          FlushRun.run (P := { P with shutdown }) facility last halfway = part := by
  intro start registration commands events s registered
  have sound (part : List (FlushCommand π φ σ)) :=
    FlushRun.sound_run quiet facility (s := start) (Sound.start collector.channels) part
  simp only [List.nil_append] at sound
  have hsound : Sound collector.channels.length events s.signalling := sound commands
  obtain ⟨handle, hprovider, hlogger, htimeout, hidle, hgiven⟩ :=
    FlushRun.exists_handle_of_registered quiet facility registered
  have hsubscribed :=
    ((sound before).listening.of_run _ (List.mem_of_getElem? hidle)).2
  have hafter := (sound before).step (registration.step_signalling quiet facility (sound before))
  have hat : handleAt s.subscriptions place = some handle := by
    simp only [s, commands, FlushRun.run_append]
    exact FlushRun.handleAt_run quiet facility hafter later hgiven
  refine ⟨handle, ⟨hprovider, hlogger, htimeout, hidle, hsubscribed, hat⟩,
    hsound.count_ran_le place, hsound.due_of_ran hat, ?_, ?_, ?_, ?_⟩
  · intro hcount hdue
    exact FlushRun.step_progress_of_not_due facility hsound (hsound.waiting hat hcount) hdue
  · intro hcount hdue
    obtain ⟨channel, next, read, -, -, -, hstep⟩ :=
      FlushRun.step_progress_of_due quiet facility hsound (hsound.waiting hat hcount) hdue
    rw [hstep]
    exact ⟨rfl, read, _, rfl⟩
  · intro hdue more
    rw [FlushRun.run_append]
    exact FlushRun.count_ran_of_due quiet facility hsound hat hdue more
  · intro first last _ halfway part shutdown hagree
    exact FlushRun.run_eq_of_agree quiet facility (sound first) last hagree

end

/-- A provider whose facility was replaced is flushed by a copy of the coordinator, once, though it was
triggered twice and joined before, between and after. -/
theorem providers_flushed_once_replaced :
    let facility : Tracer Backend → Facility := fun tracer => .spans ⟨tracer⟩
    let logger : Logger (SinkTree Sink) := ⟨.leaf (.recording { id := 0 }), 0⟩
    let provider : Provider := .scripted ⟨"provider", .fails .alreadyShutDown⟩
    let start : FlushRun Provider Facility (SinkTree Sink) :=
      { registries := [{}], collector := { idText := fun _ => "" } }
    let before : List (FlushCommand Provider Facility (SinkTree Sink)) :=
      [.create, .copy 0, .subscribe 1]
    let registration : FlushCommand Provider Facility (SinkTree Sink) :=
      .registerProvider 0 0 provider "tracer" 10 logger
    let later : List (FlushCommand Provider Facility (SinkTree Sink)) :=
      [.progress 0, .register 0 (.recording ⟨"newer"⟩), .drop 0, .trigger 1, .trigger 1]
    let again : List (FlushCommand Provider Facility (SinkTree Sink)) := [.trigger 1, .progress 0]
    let commands := before ++ registration :: later
    (registration.step facility (FlushRun.run facility before start).2).1 = .registered 0 ∧
      (FlushRun.run facility commands start).1.count (.ran 0) = 0 ∧
      0 < signals (FlushRun.run facility commands start).1 ⟨0, 0⟩ ∧
      (FlushRun.run facility (commands ++ .progress 0 :: again) start).1.count (.ran 0) = 1 := by
  refine ⟨by decide +kernel, by decide +kernel, by decide +kernel, ?_⟩
  obtain ⟨handle, ⟨-, -, -, hidle, -⟩, -, -, -, -, hmore, -⟩ :=
    providers_flushed_once quietComponents (fun tracer => Facility.spans ⟨tracer⟩) [{}]
      { idText := fun _ => "" } [.create, .copy 0, .subscribe 1]
      [.progress 0, .register 0 (.recording ⟨"newer"⟩), .drop 0, .trigger 1, .trigger 1] 0 0
      (.scripted ⟨"provider", .fails .alreadyShutDown⟩) "tracer" 10
      ⟨.leaf (.recording { id := 0 }), 0⟩ (by decide +kernel)
  have hreceiver : some handle.receiver = some ⟨0, 0⟩ :=
    (congrArg (Option.map Subscription.receiver) hidle).symm.trans (by decide +kernel)
  rw [Option.some.inj hreceiver] at hmore
  exact hmore (.inl (by decide +kernel)) [.trigger 1, .progress 0]

end Observability
