import Observability.Proofs.Span.History
import Observability.Tracing.Provider

/-!
# The switch of a provider

A provider and the tracers that it hands out share one switch, which the first shutdown throws.  A run
hands out tracers, starts spans with any of them, calls the spans, and shuts the provider down, in any
order and as often as it likes.

* `ProviderCommand` is one thing that a run does, and `ProviderCommand.step` what comes of it.
* `wasShutDown` says whether a run shut the provider down, and `callsAt` picks out what it calls on one
  span.

`Serves` is what a run keeps: every tracer is one of the provider, the switch is as `wasShutDown` says,
and the handles of different places are of different spans.  `provider_switch` draws from it what a
shutdown and a start give after any run, and what becomes of a recorded span in any further run.
-/

namespace Observability

/-- Something done with a provider: with itself, with a tracer that it handed out, or with a span that
such a tracer started, each by its place. -/
inductive ProviderCommand where
  | tracer (scope : String)
  | start (tracer : Nat) (ctx : Context) (name : String) (options : List StartOption)
  | call (span : Nat) (call : SpanCall)
  | shutdown

/-- What is answered. -/
inductive ProviderAnswer where
  | tracer (made : ExportingTracer)
  | started (ctx : Context) (span : SpanHandle)
  | called
  | shutDown (outcome : Except ProviderError Unit)
  /-- there is nothing at the place -/
  | missing
  | crashed (crash : Crash)

/-- The tracers handed out and the spans started so far, and the collector. -/
structure ProviderRun where
  tracers : List ExportingTracer := []
  spans : List SpanHandle := []
  collector : Collector

namespace ProviderCommand

/-- Whether the command shuts the provider down. -/
def isShutdown : ProviderCommand → Bool
  | .shutdown => true
  | _ => false

/-- What is called on the span at the place. -/
def callAt? (place : Nat) : ProviderCommand → Option SpanCall
  | .call other spanCall => if other = place then some spanCall else none
  | _ => none

/-- What is answered if an action does `result`, and the run with the collector it leaves. -/
def settle {α : Type} (s : ProviderRun) (result : Except Crash α × Collector)
    (next : α → ProviderAnswer × ProviderRun) : ProviderAnswer × ProviderRun :=
  match result with
  | (.ok a, c) => ((next a).1, { (next a).2 with collector := c })
  | (.error crash, c) => (.crashed crash, { s with collector := c })

/-- What the command answers and leaves behind. -/
def step (provider : ExportingProvider) : ProviderCommand → ProviderRun → ProviderAnswer × ProviderRun
  | .tracer scope, s =>
    (.tracer (provider.tracer scope), { s with tracers := s.tracers ++ [provider.tracer scope] })
  | .start place ctx name options, s =>
    match s.tracers[place]? with
    | none => (.missing, s)
    | some made =>
      settle s (Act.runOn (made.start ctx name options) s.collector) fun (ctx, span) =>
        (.started ctx span, { s with spans := s.spans ++ [span] })
  | .call place spanCall, s =>
    match s.spans[place]? with
    | none => (.missing, s)
    | some span => settle s (Act.runOn (span.call spanCall) s.collector) fun _ => (.called, s)
  | .shutdown, s =>
    settle s (Act.runOn provider.shutdown s.collector) fun outcome => (.shutDown outcome, s)

/-- What the command does to the spans of the collector. -/
def events (s : ProviderRun) : ProviderCommand → List SpanEvent
  | .tracer _ | .shutdown => []
  | .start place ctx name options =>
    match s.tracers[place]? with
    | none => []
    | some made => [made.starting s.collector ctx name options]
  | .call place spanCall =>
    match s.spans[place]? with
    | none => []
    | some span => [.called span.index spanCall]

end ProviderCommand

open ProviderCommand

/-- Whether the commands shut the provider down. -/
def wasShutDown (commands : List ProviderCommand) : Bool := commands.any isShutdown

/-- What the commands call on the span at the place. -/
def callsAt (place : Nat) (commands : List ProviderCommand) : List SpanCall :=
  commands.filterMap (callAt? place)

/-- The run after the commands. -/
def ProviderRun.after (provider : ExportingProvider) (commands : List ProviderCommand)
    (s : ProviderRun) : ProviderRun :=
  commands.foldl (fun s command => (command.step provider s).2) s

/-! ## Shutting down -/

namespace ExportingProvider

variable {provider : ExportingProvider} {c : Collector}

/-- The first shutdown throws the switch. -/
theorem runOn_shutdown_first (h : c.switches[provider.switch]? = some false) :
    (Act.runOn provider.shutdown c).1 = .ok (.ok ()) ∧
      (Act.runOn provider.shutdown c).2.switches = c.switches.set provider.switch true := by
  rw [shutdown, Act.runOn_bind, throwSwitch, Act.runOn_step]
  simp only [h, Option.getD_some, Bool.false_eq_true, if_false, Act.runOn_bind, Act.emit,
    Act.runOn_step, Act.runOn_pure, true_and]
  split <;> rfl

/-- A later one finds it thrown. -/
theorem runOn_shutdown_again (h : c.switches[provider.switch]? = some true) :
    Act.runOn provider.shutdown c = (.ok (.error .alreadyShutDown), c) := by
  obtain ⟨hlt, hget⟩ := List.getElem?_eq_some_iff.mp h
  rw [shutdown, Act.runOn_bind, throwSwitch, Act.runOn_step]
  simp [h, ← hget]

/-- Whether it was thrown before, the switch is thrown afterwards. -/
theorem runOn_shutdown {down : Bool} (h : c.switches[provider.switch]? = some down) :
    ∃ after, Act.runOn provider.shutdown c =
        (.ok (if down then .error .alreadyShutDown else .ok ()), after) ∧
      after.switches[provider.switch]? = some true := by
  cases down with
  | true => exact ⟨c, runOn_shutdown_again h, h⟩
  | false =>
    obtain ⟨hanswer, hswitches⟩ := runOn_shutdown_first h
    have hlt := (List.getElem?_eq_some_iff.mp h).1
    exact ⟨_, Prod.ext hanswer rfl, hswitches ▸ List.getElem?_set_self hlt⟩

/-- A shutdown is not about spans. -/
theorem ledger_shutdown (provider : ExportingProvider) (c : Collector) :
    (Act.runOn provider.shutdown c).2.ledger = c.ledger := by
  rw [shutdown, Act.runOn_bind, throwSwitch, Act.runOn_step]
  cases c.switches[provider.switch]?.getD true with
  | true => rfl
  | false =>
    simp only [Bool.false_eq_true, if_false, Act.runOn_bind, Act.runOn_pure]
    exact Act.ledger_emit_none _ _ _

end ExportingProvider

/-! ## Single commands -/

namespace ProviderCommand

variable {provider : ExportingProvider} {s : ProviderRun}

/-- A start with a tracer that was handed out answers with the new span, which is stored in the context
that it gives back. -/
theorem step_start (provider : ExportingProvider) {place : Nat} {made : ExportingTracer}
    (h : s.tracers[place]? = some made) (ctx : Context) (name : String) (options : List StartOption) :
    ∃ ctx' c', (start place ctx name options).step provider s =
        (.started ctx' ⟨s.collector.spans.length⟩,
          { s with spans := s.spans ++ [⟨s.collector.spans.length⟩], collector := c' }) ∧
      ctx'.span? = some ⟨s.collector.spans.length⟩ ∧ c'.switches = s.collector.switches ∧
      c'.ledger = s.collector.ledger.apply (made.starting s.collector ctx name options) ∧
      (made.records s.collector = false → c'.journal = s.collector.journal) := by
  obtain ⟨ctx', c', hrun, hleft⟩ := made.exists_runOn_start ctx name options s.collector
  refine ⟨ctx', c', ?_, hleft⟩
  simp only [step, h, hrun, settle]

theorem step_call (provider : ExportingProvider) {place : Nat} {span : SpanHandle}
    (h : s.spans[place]? = some span) (spanCall : SpanCall) :
    ∃ c', (call place spanCall).step provider s = (.called, { s with collector := c' }) ∧
      c'.switches = s.collector.switches ∧
      c'.ledger = s.collector.ledger.apply (.called span.index spanCall) := by
  obtain ⟨c', hrun, hswitches⟩ := span.exists_runOn_call spanCall s.collector
  have hledger := span.ledger_call spanCall s.collector
  rw [hrun] at hledger
  refine ⟨c', ?_, hswitches, hledger⟩
  simp only [step, h, hrun, settle]

theorem step_shutdown {down : Bool} (h : s.collector.switches[provider.switch]? = some down) :
    ∃ c', shutdown.step provider s =
        (.shutDown (if down then .error .alreadyShutDown else .ok ()), { s with collector := c' }) ∧
      c'.switches[provider.switch]? = some true ∧ c'.ledger = s.collector.ledger := by
  obtain ⟨c', hrun, hswitch⟩ := ExportingProvider.runOn_shutdown h
  have hledger := provider.ledger_shutdown s.collector
  rw [hrun] at hledger
  refine ⟨c', ?_, hswitch, hledger⟩
  simp only [step, hrun, settle]

end ProviderCommand

/-! ## What a run keeps -/

/-- What holds all along a run: the tracers are those of the provider, the switch says whether it was
shut down, and the spans at different places are different and in use. -/
structure Serves (provider : ExportingProvider) (down : Bool) (s : ProviderRun) : Prop where
  tracers : ∀ made ∈ s.tracers, ∃ scope, made = provider.tracer scope
  switch : s.collector.switches[provider.switch]? = some down
  distinct : s.spans.Nodup
  inUse : ∀ span ∈ s.spans, span.index < s.collector.spans.length

namespace Serves

variable {provider : ExportingProvider} {down : Bool} {s : ProviderRun}

theorem step (h : Serves provider down s) (command : ProviderCommand) :
    Serves provider (down || command.isShutdown) (command.step provider s).2 := by
  cases command with
  | tracer scope =>
    rw [show ProviderCommand.isShutdown _ = false from rfl, Bool.or_false]
    refine ⟨?_, h.switch, h.distinct, h.inUse⟩
    intro made hmem
    rcases List.mem_append.mp hmem with hold | hnew
    · exact h.tracers made hold
    · exact ⟨scope, List.mem_singleton.mp hnew⟩
  | start place ctx name options =>
    rw [show ProviderCommand.isShutdown _ = false from rfl, Bool.or_false]
    cases hplace : s.tracers[place]? with
    | none => simpa only [ProviderCommand.step, hplace] using h
    | some made =>
      obtain ⟨ctx', c', hstep, -, hswitches, hledger, -⟩ :=
        step_start provider hplace ctx name options
      have hlength : c'.spans.length = s.collector.spans.length + 1 :=
        (congrArg (·.spans.length) hledger).trans (made.length_starting _ _ _ _)
      rw [hstep]
      refine ⟨h.tracers, hswitches ▸ h.switch, ?_, ?_⟩
      · refine List.nodup_append.mpr ⟨h.distinct, by simp, ?_⟩
        intro span hold other hnew heq
        have hlt := h.inUse span hold
        rw [heq, List.mem_singleton.mp hnew] at hlt
        exact Nat.lt_irrefl _ hlt
      · intro span hmem
        show span.index < c'.spans.length
        rw [hlength]
        rcases List.mem_append.mp hmem with hold | hnew
        · exact Nat.lt_succ_of_lt (h.inUse span hold)
        · rw [List.mem_singleton.mp hnew]
          exact Nat.lt_succ_self _
  | call place spanCall =>
    rw [show ProviderCommand.isShutdown _ = false from rfl, Bool.or_false]
    cases hplace : s.spans[place]? with
    | none => simpa only [ProviderCommand.step, hplace] using h
    | some span =>
      obtain ⟨c', hstep, hswitches, hledger⟩ :=
        step_call provider hplace spanCall
      have hlength : c'.spans.length = s.collector.spans.length :=
        (congrArg (·.spans.length) hledger).trans (SpanLedger.length_apply_called _ _ _)
      rw [hstep]
      exact ⟨h.tracers, hswitches ▸ h.switch, h.distinct,
        fun span hmem => hlength ▸ h.inUse span hmem⟩
  | shutdown =>
    obtain ⟨c', hstep, hswitch, hledger⟩ := step_shutdown h.switch
    have hlength : c'.spans.length = s.collector.spans.length :=
      congrArg (·.spans.length) hledger
    rw [hstep, isShutdown, Bool.or_true]
    exact ⟨h.tracers, hswitch, h.distinct, fun span hmem => hlength ▸ h.inUse span hmem⟩

theorem after (h : Serves provider down s) (commands : List ProviderCommand) :
    Serves provider (down || wasShutDown commands) (ProviderRun.after provider commands s) := by
  induction commands generalizing down s with
  | nil => simpa [wasShutDown, ProviderRun.after] using h
  | cons command rest ih =>
    have := ih (h.step command)
    rwa [Bool.or_assoc] at this

/-- What a command does to the spans of the collector; spans that were started keep their places. -/
theorem ledger_step (h : Serves provider down s) (command : ProviderCommand) :
    (command.step provider s).2.collector.ledger =
        s.collector.ledger.applyAll (command.events s) ∧
      ∃ more, (command.step provider s).2.spans = s.spans ++ more := by
  cases command with
  | tracer scope => exact ⟨rfl, [], (List.append_nil _).symm⟩
  | start place ctx name options =>
    cases hplace : s.tracers[place]? with
    | none => simp [ProviderCommand.step, events, hplace, SpanLedger.applyAll]
    | some made =>
      obtain ⟨ctx', c', hstep, -, -, hledger, -⟩ := step_start provider hplace ctx name options
      rw [hstep, events, hplace]
      exact ⟨hledger, _, rfl⟩
  | call place spanCall =>
    cases hplace : s.spans[place]? with
    | none => simp [ProviderCommand.step, events, hplace, SpanLedger.applyAll]
    | some span =>
      obtain ⟨c', hstep, -, hledger⟩ := step_call provider hplace spanCall
      rw [hstep, events, hplace]
      exact ⟨hledger, [], (List.append_nil _).symm⟩
  | shutdown =>
    obtain ⟨c', hstep, -, hledger⟩ := step_shutdown h.switch
    rw [hstep]
    exact ⟨hledger, [], (List.append_nil _).symm⟩

/-- Of what a command does, the calls on one span are those at its place. -/
theorem callsOn_events (h : Serves provider down s) {place : Nat} {span : SpanHandle}
    (hplace : s.spans[place]? = some span) (command : ProviderCommand) :
    callsOn span.index (command.events s) = (command.callAt? place).toList := by
  cases command with
  | tracer scope => rfl
  | shutdown => rfl
  | start other ctx name options =>
    rw [events]
    split
    · rfl
    · next made _ =>
      rw [ExportingTracer.starting]
      split <;> rfl
  | call other spanCall =>
    rw [events, callAt?]
    by_cases hsame : other = place
    · subst hsame
      simp [hplace, callsOn]
    · rw [if_neg hsame]
      cases hother : s.spans[other]? with
      | none => rfl
      | some otherSpan =>
        have hne : otherSpan.index ≠ span.index := by
          intro heq
          have hspan : otherSpan = span := congrArg SpanHandle.mk heq
          have hspans : s.spans[other]? = s.spans[place]? := by rw [hother, hplace, hspan]
          exact hsame ((List.getElem?_inj (List.getElem?_eq_some_iff.mp hother).1 h.distinct).mp
            hspans)
        simp [callsOn, hne]

/-- What commands do to the spans of the collector.  Of it, the calls on a span are those that the
commands make at its place. -/
theorem exists_history (h : Serves provider down s) (commands : List ProviderCommand) :
    ∃ history, (ProviderRun.after provider commands s).collector.ledger =
        s.collector.ledger.applyAll history ∧
      ∀ place span, s.spans[place]? = some span →
        callsOn span.index history = callsAt place commands := by
  induction commands generalizing down s with
  | nil => exact ⟨[], rfl, fun _ _ _ => rfl⟩
  | cons command rest ih =>
    obtain ⟨hledger, more, hspans⟩ := h.ledger_step command
    obtain ⟨history, hrest, hcalls⟩ := ih (h.step command)
    refine ⟨command.events s ++ history, ?_, fun place span hplace => ?_⟩
    · rw [SpanLedger.applyAll_append, ← hledger, ← hrest]
      rfl
    · have hkept : (command.step provider s).2.spans[place]? = some span := by
        rw [hspans, List.getElem?_append_left (List.getElem?_eq_some_iff.mp hplace).1, hplace]
      have hfirst := h.callsOn_events hplace command
      rw [callsOn] at hfirst
      rw [callsOn, List.filterMap_append, hfirst, ← callsOn, hcalls place span hkept, callsAt,
        callsAt, List.filterMap_cons]
      cases command.callAt? place <;> rfl

end Serves

/-! ## Starting -/

/-- What becomes of a span that records: it does so until it is called to end, and all that is told of it
is what its own calls say.  Shutdowns make no difference. -/
structure RecordsAlone (provider : ExportingProvider) (options : List StartOption) (place : Nat)
    (span : SpanHandle) (number? : Option Nat) (s : ProviderRun) : Prop where
  isRecording (later : List ProviderCommand) :
    let c := (ProviderRun.after provider later s).collector
    Act.runOn span.isRecording c = (.ok (SpanCall.finish ∉ callsAt place later), c)
  told (later : List ProviderCommand) (number : Nat) (hnumber : number? = some number) :
    (ProviderRun.after provider later s).collector.journal.filter (Observation.isOn number) =
      s.collector.journal.filter (Observation.isOn number) ++
        spanRecords s.collector.threshold number (SpanSettings.listed options) (callsAt place later)
  undisturbed (later : List ProviderCommand) :
    let c := (ProviderRun.after provider later s).collector
    let c' := (ProviderRun.after provider (later.filter (! ·.isShutdown)) s).collector
    c.spans[span.index]? = c'.spans[span.index]? ∧
      ∀ number, number? = some number → c.journal.filter (Observation.isOn number) =
        c'.journal.filter (Observation.isOn number)

/-- What becomes of a span that records nothing: it never does, and no span was created for it. -/
structure RecordsNothing (provider : ExportingProvider) (span : SpanHandle) (before s : ProviderRun) :
    Prop where
  isRecording (later : List ProviderCommand) :
    let c := (ProviderRun.after provider later s).collector
    Act.runOn span.isRecording c = (.ok false, c)
  created : s.collector.createdCount = before.collector.createdCount
  journal : s.collector.journal = before.collector.journal

/-- Shutdowns are no calls on spans. -/
theorem callsAt_filter (place : Nat) (commands : List ProviderCommand) :
    callsAt place (commands.filter (! ·.isShutdown)) = callsAt place commands := by
  rw [callsAt, callsAt, List.filterMap_filter]
  refine List.filterMap_congr fun command _ => ?_
  cases command with
  | shutdown => rfl
  | _ => rfl

namespace Serves

variable {provider : ExportingProvider} {down : Bool} {s : ProviderRun}

theorem recordsAlone (h : Serves provider down s) (hnumbered : s.collector.ledger.Numbered)
    {options : List StartOption} {place : Nat} {span : SpanHandle} {number? : Option Nat}
    (hplace : s.spans[place]? = some span)
    (hcell : s.collector.spans[span.index]? = some
      (.exported { number := number?, attributes := (SpanSettings.ofOptions options).attributes })) :
    RecordsAlone provider options place span number? s := by
  let opened : ExportedSpan :=
    { number := number?, attributes := (SpanSettings.ofOptions options).attributes }
  have hopened : opened =
      { number := number?, attributes := Attribute.merged (SpanSettings.listed options) } := by
    simp only [opened, SpanSettings.attributes_ofOptions]
  have hmain : ∀ later, let c := (ProviderRun.after provider later s).collector
      c.spans[span.index]? = some (.exported (opened.calls (callsAt place later)).1) ∧
        ∀ number, number? = some number → c.journal.filter (Observation.isOn number) =
          s.collector.journal.filter (Observation.isOn number) ++
            spanRecords s.collector.threshold number (SpanSettings.listed options)
              (callsAt place later) := by
    intro later c
    obtain ⟨history, hledger, hcalls⟩ := h.exists_history later
    have hspan := @SpanLedger.applyAll_of_exported _ hnumbered _ opened hcell history
    rw [← hledger, hcalls place span hplace] at hspan
    refine ⟨hspan.1, fun number hnumber => ?_⟩
    have htold := hspan.2 number hnumber
    rw [Collector.filter_isOn, Collector.filter_isOn] at htold
    exact htold.trans (congrArg _ (observe_calls hopened _ _ _))
  refine ⟨fun later => ?_, fun later number hnumber => (hmain later).2 number hnumber,
    fun later => ?_⟩
  · have hrecords :
        SpanHandle.isRecordingCell (.exported (opened.calls (callsAt place later)).1) =
          decide (SpanCall.finish ∉ callsAt place later) := by
      simp [SpanHandle.isRecordingCell, ExportedSpan.isRecording, ExportedSpan.ended_calls, opened]
    exact hrecords ▸ SpanHandle.runOn_isRecording_of_cell (hmain later).1
  · obtain ⟨hcell₁, htold₁⟩ := hmain later
    obtain ⟨hcell₂, htold₂⟩ := hmain (later.filter (! ·.isShutdown))
    rw [callsAt_filter] at hcell₂ htold₂
    exact ⟨hcell₁.trans hcell₂.symm, fun number hnumber =>
      (htold₁ number hnumber).trans (htold₂ number hnumber).symm⟩

theorem isRecording_of_silent (h : Serves provider down s) {span : SpanHandle}
    (hcell : s.collector.spans[span.index]? = some .silent) (later : List ProviderCommand) :
    let c := (ProviderRun.after provider later s).collector
    Act.runOn span.isRecording c = (.ok false, c) := by
  intro c
  obtain ⟨history, hledger, -⟩ := h.exists_history later
  have hsilent := @SpanLedger.applyAll_of_silent s.collector.ledger _ hcell history
  rw [← hledger] at hsilent
  exact SpanHandle.runOn_isRecording_of_cell hsilent

end Serves

/-- A provider that was made serves. -/
theorem serves_of_made {config : Config.Tracing} {provider : ExportingProvider} {c made : Collector}
    (hmade : Act.runOn (ExportingProvider.create config) c = (.ok (.ok provider), made)) :
    Serves provider false { collector := made } ∧ provider.sampler = config.sampler ∧
      made.ledger = c.ledger := by
  rw [ExportingProvider.runOn_create] at hmade
  split at hmade
  · cases hmade
  · cases hmade
    exact ⟨⟨by simp, by simp, List.nodup_nil, by simp⟩, rfl, rfl⟩

/-- **The switch of a provider.**  After any commands only the first shutdown succeeds.  A start with any
tracer gives a span that is stored in the context; it records if the sampler takes it and the provider
was not shut down yet, and then goes on alone until its end; otherwise it records nothing. -/
theorem provider_switch {config : Config.Tracing} {provider : ExportingProvider} {c made : Collector}
    (hmade : Act.runOn (ExportingProvider.create config) c = (.ok (.ok provider), made))
    (hnumbered : c.ledger.Numbered) (before : List ProviderCommand) :
    let s := ProviderRun.after provider before { collector := made }
    (∃ s', shutdown.step provider s =
      (.shutDown (if wasShutDown before then .error .alreadyShutDown else .ok ()), s')) ∧
    ∀ place tracer ctx name options, s.tracers[place]? = some tracer →
      ∃ ctx' span s', (start place ctx name options).step provider s = (.started ctx' span, s') ∧
        ctx'.span? = some span ∧
        if config.sampler = .alwaysOn ∧ wasShutDown before = false then
          RecordsAlone provider options s.spans.length span
            (ExportingTracer.nextNumber s.collector) s'
        else RecordsNothing provider span s s' := by
  intro s
  obtain ⟨hstart, hsampler, hledger⟩ := serves_of_made hmade
  have hserves : Serves provider (wasShutDown before) s := hstart.after before
  have hnumbered' : s.collector.ledger.Numbered := by
    obtain ⟨history, hhistory, -⟩ := hstart.exists_history before
    rw [hhistory]
    exact (hledger ▸ hnumbered : made.ledger.Numbered).applyAll history
  refine ⟨?_, fun place tracer ctx name options hplace => ?_⟩
  · obtain ⟨c', hstep, -⟩ := step_shutdown hserves.switch
    exact ⟨_, hstep⟩
  · obtain ⟨ctx', c', hstep, hspan, -, hopened, hjournal⟩ := step_start provider hplace ctx name options
    refine ⟨ctx', _, _, hstep, hspan, ?_⟩
    have hserves' := hserves.step (start place ctx name options)
    rw [hstep] at hserves'
    obtain ⟨scope, htracer⟩ := hserves.tracers tracer (List.mem_of_getElem? hplace)
    have hrecords : tracer.records s.collector = true ↔
        config.sampler = .alwaysOn ∧ wasShutDown before = false := by
      simp [htracer, ← hsampler, ExportingTracer.records, ExportingProvider.tracer, hserves.switch]
    rw [ExportingTracer.starting] at hopened
    split
    · next hon =>
      rw [if_pos (hrecords.mpr hon)] at hopened
      refine hserves'.recordsAlone ?_ List.getElem?_concat_length ?_
      · show c'.ledger.Numbered
        rw [hopened]
        exact hnumbered'.apply _
      · show c'.ledger.spans[s.collector.spans.length]? = _
        rw [hopened]
        exact List.getElem?_concat_length
    · next hoff =>
      rw [if_neg (fun h => hoff (hrecords.mp h))] at hopened
      refine ⟨hserves'.isRecording_of_silent ?_, congrArg (·.created) hopened, ?_⟩
      · show c'.ledger.spans[s.collector.spans.length]? = _
        rw [hopened]
        exact List.getElem?_concat_length
      · exact hjournal (Bool.eq_false_iff.mpr fun h => hoff (hrecords.mp h))

/-- A span that was started before the shutdown still records, and its end is told; one that is started
afterwards with the same tracer does not record, and a second shutdown fails. -/
theorem provider_switch_ended_late :
    let config : Config.Tracing := {}
    let provider : ExportingProvider := ⟨config.serviceName, .alwaysOn, 0⟩
    let c : Collector := { idText := fun _ => "" }
    let made : Collector := { c with switches := [false] }
    let first : ProviderCommand := .start 0 (.empty 0) "first" []
    let second : ProviderCommand := .start 0 (.empty 0) "second" []
    let s := ProviderRun.after provider [.tracer "scope", first] { collector := made }
    let late := ProviderRun.after provider [.shutdown, .call 0 (.setStatus .ok)] s
    Act.runOn (ExportingProvider.create config) c = (.ok (.ok provider), made) ∧ c.ledger.Numbered ∧
      (∃ s', ProviderCommand.shutdown.step provider late =
        (.shutDown (.error .alreadyShutDown), s')) ∧
      Act.runOn (SpanHandle.mk 0).isRecording late.collector = (.ok true, late.collector) ∧
      (ProviderRun.after provider [.call 0 .finish] late).collector.journal.filter
          (Observation.isOn 1) =
        s.collector.journal ++
          [ .spanRecorded 1 [("attributes", .text "[]")],
            .spanRecorded 1 [("otel.status_code", .text "ok")],
            .event .trace (some 1) [("message", .text "span ended")] ] ∧
      ∃ ctx span s', second.step provider late = (.started ctx span, s') ∧
        Act.runOn span.isRecording s'.collector = (.ok false, s'.collector) := by
  intro config provider c made first second s late
  have hmade : Act.runOn (ExportingProvider.create config) c = (.ok (.ok provider), made) := by
    rw [ExportingProvider.runOn_create, if_neg (by decide)]
    rfl
  have hnumbered : c.ledger.Numbered := SpanLedger.numbered_of_no_spans rfl
  obtain ⟨-, hfirst⟩ := provider_switch hmade hnumbered [.tracer "scope"]
  obtain ⟨hagain, hsecond⟩ := provider_switch hmade hnumbered
    [.tracer "scope", first, .shutdown, .call 0 (.setStatus .ok)]
  obtain ⟨ctx₁, span₁, s₁, hstep₁, -, hrecords⟩ :=
    hfirst 0 (provider.tracer "scope") (.empty 0) "first" [] rfl
  obtain ⟨ctx₂, span₂, s₂, hstep₂, -, hnothing⟩ :=
    hsecond 0 (provider.tracer "scope") (.empty 0) "second" [] rfl
  rw [if_pos (by decide)] at hrecords
  rw [if_neg (by decide)] at hnothing
  cases hstep₁
  refine ⟨hmade, hnumbered, hagain, hrecords.isRecording [.shutdown, .call 0 (.setStatus .ok)], ?_,
    ctx₂, span₂, s₂, hstep₂, hnothing.isRecording []⟩
  exact hrecords.told [.shutdown, .call 0 (.setStatus .ok), .call 0 .finish] 1 rfl

end Observability
