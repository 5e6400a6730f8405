import Observability.Log.Backend
import Observability.Proofs.Log.Flattening
import Observability.Startup.Tracing
import Observability.Tracing.ScriptedTransport

/-!
# Actions that do not look at the shutdown channels

Only shutdowns are sent over channels, so whatever logs, traces or sends a request does the same whoever
listens there.

* `Act.ChannelBlind` says this of an action, and `RegistryAct.ChannelBlind` of one that uses a registry.
* `BlindComponents` says it of all the components that a registry comes to call.

`blindComponents` proves it of the components of this library.
-/

namespace Observability

variable {φ β π τ σ : Type} {α γ : Type}

namespace Act

/-- With other channels the action gives the same, and what it leaves behind differs in the channels
only. -/
def ChannelBlind (action : Act α) : Prop :=
  ∀ (c : Collector) (channels : List Channel), ∃ channels',
    runOn action { c with channels } =
      ((runOn action c).1, { (runOn action c).2 with channels := channels' })

theorem ChannelBlind.pure (a : α) : ChannelBlind (Pure.pure a) := fun _ channels => ⟨channels, rfl⟩

/-- Actions in sequence. -/
theorem ChannelBlind.bind {action : Act α} {next : α → Act γ} (h : ChannelBlind action)
    (hnext : ∀ a, ChannelBlind (next a)) : ChannelBlind (action >>= next) := by
  intro c channels
  obtain ⟨channels', hrun⟩ := h c channels
  rw [runOn_bind, runOn_bind, hrun]
  rcases runOn action c with ⟨_ | a, after⟩
  · exact ⟨channels', rfl⟩
  · exact hnext a after channels'

theorem ChannelBlind.forM {call : γ → Act Unit} (h : ∀ a, ChannelBlind (call a)) (as : List γ) :
    ChannelBlind (ForM.forM as call) := by
  induction as with
  | nil => exact .pure _
  | cons a rest ih => exact .bind (h a) fun _ => ih

theorem ChannelBlind.allM {query : γ → Act Bool} (h : ∀ a, ChannelBlind (query a))
    (as : List γ) : ChannelBlind (as.allM query) := by
  induction as with
  | nil => exact .pure _
  | cons a rest ih =>
    refine .bind (h a) fun answer => ?_
    cases answer with
    | false => exact .pure _
    | true => exact ih

/-- A step that computes neither its answer nor the rest of the collector from the channels. -/
theorem ChannelBlind.step {f : Collector → α × Collector}
    (h : ∀ (c : Collector) (channels : List Channel), ∃ channels',
      f { c with channels } = ((f c).1, { (f c).2 with channels := channels' })) :
    ChannelBlind (Act.step f) := by
  intro c channels
  obtain ⟨channels', hf⟩ := h c channels
  refine ⟨channels', ?_⟩
  rw [runOn_step, runOn_step, hf]

theorem ChannelBlind.crash (message : String) : ChannelBlind (Act.crash message : Act α) :=
  fun _ channels => ⟨channels, rfl⟩

theorem ChannelBlind.observe (observation : Observation) : ChannelBlind (Act.observe observation) :=
  .step fun _ channels => ⟨channels, rfl⟩

theorem ChannelBlind.emit (severity : Severity) (span : Option Nat) (fields : Fields) :
    ChannelBlind (Act.emit severity span fields) := by
  refine .step fun c channels => ⟨channels, ?_⟩
  by_cases h : c.threshold.admits severity <;> simp [h]

end Act

namespace RegistryAct

/-- With other channels the action gives the same and leaves the same registry, and the collector differs
in the channels only. -/
def ChannelBlind (action : RegistryAct φ α) : Prop :=
  ∀ (registry : Registry φ) (c : Collector) (channels : List Channel), ∃ channels',
    runOn action registry { c with channels } =
      ((runOn action registry c).1, { (runOn action registry c).2 with channels := channels' })

theorem ChannelBlind.pure (a : α) : ChannelBlind (Pure.pure a : RegistryAct φ α) :=
  fun _ _ channels => ⟨channels, rfl⟩

theorem ChannelBlind.throw (crash : Crash) :
    ChannelBlind (MonadExcept.throw crash : RegistryAct φ α) :=
  fun _ _ channels => ⟨channels, rfl⟩

/-- Actions in sequence. -/
theorem ChannelBlind.bind {action : RegistryAct φ α} {next : α → RegistryAct φ γ}
    (h : ChannelBlind action) (hnext : ∀ a, ChannelBlind (next a)) :
    ChannelBlind (action >>= next) := by
  intro registry c channels
  obtain ⟨channels', hrun⟩ := h registry c channels
  rw [runOn_bind, runOn_bind, hrun]
  rcases runOn action registry c with ⟨⟨_ | a, registry'⟩, after⟩
  · exact ⟨channels', rfl⟩
  · exact hnext a registry' after channels'

theorem ChannelBlind.map {action : RegistryAct φ α} (f : α → γ) (h : ChannelBlind action) :
    ChannelBlind (f <$> action) := by
  rw [map_eq_pure_bind]
  exact .bind h fun _ => .pure _

/-- A crash that is handled. -/
theorem ChannelBlind.tryCatch {action : RegistryAct φ α} {handler : Crash → RegistryAct φ α}
    (h : ChannelBlind action) (hhandler : ∀ crash, ChannelBlind (handler crash)) :
    ChannelBlind (MonadExcept.tryCatch action handler) := by
  intro registry c channels
  obtain ⟨channels', hrun⟩ := h registry c channels
  rw [runOn_tryCatch, runOn_tryCatch, hrun]
  rcases runOn action registry c with ⟨⟨crash | _, registry'⟩, after⟩
  · exact hhandler crash registry' after channels'
  · exact ⟨channels', rfl⟩

/-- An action that does not use the registry. -/
theorem ChannelBlind.lift {action : Act α} (h : Act.ChannelBlind action) :
    ChannelBlind (liftM action : RegistryAct φ α) := by
  intro registry c channels
  obtain ⟨channels', hrun⟩ := h c channels
  refine ⟨channels', ?_⟩
  rw [runOn_lift, runOn_lift, hrun]

end RegistryAct

open Act (ChannelBlind)

/-! ## The components -/

theorem Context.create_blind : ChannelBlind Context.create :=
  .bind (.step fun _ channels => ⟨channels, rfl⟩) fun _ => .pure _

theorem Context.withValue_blind (ctx : Context) (slot : Slot) (value : slot.Value) :
    ChannelBlind (ctx.withValue slot value) :=
  .bind (.step fun _ channels => ⟨channels, rfl⟩) fun _ => .pure _

theorem Context.ensureCorrelationId_blind (ctx : Context) :
    ChannelBlind ctx.ensureCorrelationId := by
  rw [Context.ensureCorrelationId]
  split
  · exact .pure _
  · refine .bind (.step fun _ channels => ⟨channels, rfl⟩) fun id => ?_
    exact .bind (ctx.withValue_blind .correlation id) fun _ => .pure _

theorem Transport.parentContext_blind (request : Request) :
    ChannelBlind (Transport.parentContext request) := by
  rw [Transport.parentContext]
  split
  · exact .pure _
  · exact Context.create_blind

theorem ExportingProvider.create_blind (config : Config.Tracing) :
    ChannelBlind (ExportingProvider.create config) := by
  rw [ExportingProvider.create]
  split
  · exact .pure _
  · exact .bind (.step fun _ channels => ⟨channels, rfl⟩) fun _ => .pure _

theorem SpanHandle.create_blind (cell : SpanCell) : ChannelBlind (SpanHandle.create cell) :=
  .step fun _ channels => ⟨channels, rfl⟩

theorem SpanHandle.call_blind (span : SpanHandle) (call : SpanCall) :
    ChannelBlind (span.call call) := by
  refine .step fun c channels => ⟨channels, ?_⟩
  cases c.spans[span.index]? <;> simp

theorem ExportingTracer.start_blind (tracer : ExportingTracer) (ctx : Context) (name : String)
    (options : List StartOption) : ChannelBlind (tracer.start ctx name options) := by
  rw [ExportingTracer.start]
  refine .bind (.step fun _ channels => ⟨channels, rfl⟩) fun recording => ?_
  cases recording with
  | false =>
    rw [if_neg Bool.false_ne_true]
    refine .bind (SpanHandle.create_blind _) fun span => ?_
    exact .bind (ctx.withValue_blind .span span) fun _ => .pure _
  | true =>
    rw [if_pos rfl]
    refine .bind (.step fun c channels => ⟨channels, ?_⟩) fun number => ?_
    · by_cases h : c.threshold.admits .info <;> simp [h]
    · refine .bind (SpanHandle.create_blind _) fun span => ?_
      refine .bind (ctx.withValue_blind .parent number) fun ctx => ?_
      exact .bind (ctx.withValue_blind .span span) fun _ => .pure _

theorem RecordingTracer.start_blind (tracer : RecordingTracer) (ctx : Context) (name : String)
    (options : List StartOption) : ChannelBlind (tracer.start ctx name options) := by
  refine .bind (.step fun _ channels => ⟨channels, rfl⟩) fun number => ?_
  refine .bind (SpanHandle.create_blind _) fun span => ?_
  exact .bind (ctx.withValue_blind .span span) fun _ => .pure _

theorem Backend.start_blind (tracer : Backend) (ctx : Context) (name : String)
    (options : List StartOption) : ChannelBlind (SpanBackend.start tracer ctx name options) := by
  cases tracer with
  | exporting tracer => exact tracer.start_blind ctx name options
  | recording tracer => exact tracer.start_blind ctx name options

/-- Wrappers only see to the correlation id. -/
theorem Tracer.start_blind [SpanBackend τ]
    (hbackend : ∀ (tracer : τ) ctx name options,
      ChannelBlind (SpanBackend.start tracer ctx name options))
    (tracer : Tracer τ) (ctx : Context) (name : String) (options : List StartOption) :
    ChannelBlind (tracer.start ctx name options) := by
  induction tracer generalizing ctx options with
  | backend tracer => exact hbackend tracer ctx name options
  | correlated inner ih => exact .bind ctx.ensureCorrelationId_blind fun _ => ih _ _

theorem SpanFacility.finish_blind (span : SpanHandle) (status : HttpStatus)
    (error : Option String) : ChannelBlind (SpanFacility.finish span status error) := by
  have houtcome (outcome : SpanStatus) : ChannelBlind (do
      Act.count "telemetry_spans_ended_total" [("status", outcome.name)]
      span.call (.setStatus outcome)
      span.call .finish) := by
    refine .bind (.observe _) fun _ => ?_
    exact .bind (span.call_blind _) fun _ => span.call_blind _
  refine .bind (span.call_blind _) fun _ => ?_
  cases error with
  | none => exact houtcome _
  | some text => exact .bind (span.call_blind _) fun _ => houtcome _

theorem SpanFacility.endSpan_blind (ctx : Context) (status : HttpStatus) (error : Option String) :
    ChannelBlind (SpanFacility.endSpan ctx status error) := by
  rw [SpanFacility.endSpan]
  split
  · exact SpanFacility.finish_blind _ status error
  · exact .emit _ _ _

theorem Registry.current_blind : RegistryAct.ChannelBlind (Registry.current (φ := φ)) :=
  fun _ _ channels => ⟨channels, rfl⟩

theorem Registry.register_blind (facility : φ) :
    RegistryAct.ChannelBlind (Registry.register facility) := by
  intro registry c channels
  obtain ⟨channels', hrun⟩ := ChannelBlind.emit .debug none [("message", .text
    (if registry.facility.isSome then "Tracing facility replaced"
      else "Tracing facility registered"))] c channels
  refine ⟨channels', ?_⟩
  rw [runOn_register, runOn_register, hrun]

theorem RecordingSink.note_blind (sink : RecordingSink) (call : LogCall) :
    ChannelBlind (sink.note call) := by
  refine .bind (.observe _) fun _ => ?_
  split
  · exact .crash _
  · exact .pure _

theorem JsonSink.writeLine_blind (sink : JsonSink) (members : Binary64 → List (String × Json)) :
    ChannelBlind (sink.writeLine members) := by
  refine .bind (.step fun c channels => ⟨channels, ?_⟩) fun crashed => ?_
  · cases c.writers[sink.writer]? <;> simp
  · split
    · exact .crash _
    · exact .pure _

theorem Sink.enabled_blind (sink : Sink) (level : UInt32) :
    ChannelBlind (LogSink.enabled sink level : Act Bool) := by
  cases sink with
  | events sink =>
    show ChannelBlind (if level ≤ sink.maxVerbosity then Act.enabled _ else return false)
    split
    · exact .step fun _ channels => ⟨channels, rfl⟩
    · exact .pure _
  | json sink => exact .pure _
  | recording sink => exact .bind (sink.note_blind _) fun _ => .pure _

theorem Sink.info_blind (sink : Sink) (level : UInt32) (message : String) (pairs : List KeyValue) :
    ChannelBlind (LogSink.info sink level message pairs : Act Unit) := by
  cases sink with
  | events sink => exact .emit _ _ _
  | json sink =>
    show ChannelBlind (if level ≤ sink.maxVerbosity then sink.writeLine _ else return ())
    split
    · exact sink.writeLine_blind _
    · exact .pure _
  | recording sink => exact sink.note_blind _

theorem SinkTree.enabled_blind [LogSink Act σ]
    (hsink : ∀ (sink : σ) level, ChannelBlind (LogSink.enabled sink level : Act Bool))
    (tree : SinkTree σ) (level : UInt32) :
    ChannelBlind (LogSink.enabled tree level : Act Bool) := by
  show ChannelBlind (SinkTree.enabled tree level)
  rw [SinkTree.enabled_eq_allM]
  exact .allM (fun sink => hsink sink level) tree.leaves

theorem SinkTree.info_blind [LogSink Act σ]
    (hsink : ∀ (sink : σ) level message pairs,
      ChannelBlind (LogSink.info sink level message pairs : Act Unit))
    (tree : SinkTree σ) (level : UInt32) (message : String) (pairs : List KeyValue) :
    ChannelBlind (LogSink.info tree level message pairs : Act Unit) := by
  show ChannelBlind (SinkTree.broadcast _ tree)
  rw [SinkTree.broadcast_eq_forM]
  exact .forM (fun sink => hsink sink level message pairs) tree.leaves

/-- What is asked of the components: none looks at the channels. -/
structure BlindComponents (φ β π σ : Type) {τ : Type} [TracingFacility φ β] [BaseTransport β]
    [TracerProvider π τ] [LogSink Act σ] : Prop where
  newTransport (facility : φ) (transport : Transport φ β) :
    ChannelBlind (TracingFacility.newTransport facility transport)
  startSpan (facility : φ) (ctx : Context) (name : String) :
    ChannelBlind (TracingFacility.startSpan β facility ctx name)
  endSpan (facility : φ) (ctx : Context) (status : HttpStatus) (error : Option String) :
    ChannelBlind (TracingFacility.endSpan β facility ctx status error)
  ready (transport : β) : ChannelBlind (BaseTransport.ready transport)
  call (transport : β) (request : Request) : ChannelBlind (BaseTransport.call transport request)
  tracer (provider : π) (name : String) :
    ChannelBlind (TracerProvider.tracer provider name : Act (Tracer τ))
  enabled (sink : σ) (level : UInt32) : ChannelBlind (LogSink.enabled sink level : Act Bool)
  info (sink : σ) (level : UInt32) (message : String) (pairs : List KeyValue) :
    ChannelBlind (LogSink.info sink level message pairs : Act Unit)

/-! ## What is built of the components -/

theorem ShutdownReceiver.drop_blind (receiver : ShutdownReceiver) : ChannelBlind receiver.drop := by
  intro c channels
  obtain ⟨channels₁, hrun₁⟩ := receiver.exists_runOn_drop c
  obtain ⟨channels₂, hrun₂⟩ := receiver.exists_runOn_drop { c with channels }
  refine ⟨channels₂, ?_⟩
  rw [hrun₁, hrun₂]

section

variable [TracingFacility φ β] [BaseTransport β] [TracerProvider π τ] [LogSink Act σ]
  (blind : BlindComponents φ β π σ)
include blind

theorem BlindComponents.transportCall (transport : Transport φ β) (request : Request) :
    ChannelBlind (transport.call request) := by
  induction transport generalizing request with
  | base transport => exact blind.call transport request
  | traced facility inner ih =>
    rw [Transport.call, Transport.openSpan]
    refine .bind (.bind (Transport.parentContext_blind request) fun parent => ?_) fun opened => ?_
    · exact .bind (blind.startSpan facility parent _) fun _ => .pure _
    · refine .bind (ih opened.2) fun outcome => ?_
      refine .bind (.bind (.observe _) fun _ => ?_) fun _ => .pure _
      exact blind.endSpan facility opened.1 _ _

theorem BlindComponents.transportReady (transport : Transport φ β) :
    ChannelBlind transport.ready := by
  induction transport with
  | base transport => exact blind.ready transport
  | traced facility inner ih => exact ih

theorem BlindComponents.transportSend (transport : Transport φ β) (request : Request) :
    ChannelBlind (transport.send request) := by
  refine .bind (blind.transportReady transport) fun ready => ?_
  cases ready with
  | error error => exact .pure _
  | ok _ => exact blind.transportCall transport request

theorem BlindComponents.loggerInfo (logger : Logger σ) (message : String) (pairs : List KeyValue) :
    ChannelBlind (logger.info message pairs) := by
  refine .bind (blind.enabled logger.sink logger.level) fun wanted => ?_
  split
  · exact blind.info logger.sink logger.level message pairs
  · exact .pure _

theorem BlindComponents.registerProvider (facility : Tracer τ → φ) (provider : π)
    (tracerName : String) (timeoutMs : Nat) (logger : Logger σ) (receiver : ShutdownReceiver) :
    RegistryAct.ChannelBlind
      (Startup.registerProvider facility provider tracerName timeoutMs logger receiver) := by
  refine .tryCatch ?_ fun crash => ?_
  · refine .bind (.lift (blind.tracer provider tracerName)) fun tracer => ?_
    refine .bind (Registry.register_blind _) fun _ => ?_
    refine .bind (.lift (blind.loggerInfo logger _ _)) fun _ => ?_
    exact .bind (.lift (.step fun _ channels => ⟨channels, rfl⟩)) fun _ => .pure _
  · exact .bind (.lift receiver.drop_blind) fun _ => .throw crash

theorem BlindComponents.registerTracing (provider : ExportingProvider → π) (facility : Tracer τ → φ)
    (config : Config.Tracing) (logger : Logger σ) (receiver : ShutdownReceiver) :
    RegistryAct.ChannelBlind
      (Startup.registerTracing provider facility config logger receiver) := by
  refine .bind (.lift (ExportingProvider.create_blind config)) fun made => ?_
  cases made with
  | error cause => exact .bind (.lift receiver.drop_blind) fun _ => .pure _
  | ok made => exact .bind (blind.registerProvider facility _ _ _ logger receiver) fun _ => .pure _

end

/-! ## The components of this library -/

/-- The components of this library do not look at the channels. -/
theorem blindComponents : BlindComponents Facility ScriptedTransport Provider (SinkTree Sink) where
  newTransport facility transport := by
    cases facility with
    | spans facility => exact .pure _
    | recording facility => exact .bind (.observe _) fun _ => .pure _
  startSpan facility ctx name := by
    cases facility with
    | spans facility =>
      refine .bind (Tracer.start_blind Backend.start_blind facility.tracer ctx name []) fun _ => ?_
      exact .bind (.observe _) fun _ => .pure _
    | recording facility => exact .bind (.observe _) fun _ => ctx.withValue_blind .marker _
  endSpan facility ctx status error := by
    cases facility with
    | spans facility => exact SpanFacility.endSpan_blind ctx status error
    | recording facility => exact .observe _
  ready transport := by
    show ChannelBlind transport.ready
    rw [ScriptedTransport.ready]
    split <;> exact .pure _
  call transport request := by
    show ChannelBlind (transport.call request)
    refine .bind (.observe _) fun _ => ?_
    split <;> exact .pure _
  tracer provider name := by
    cases provider with
    | exporting provider => exact .pure _
    | scripted provider =>
      exact .bind (.bind (.observe _) fun _ => .pure _) fun _ => .pure _
  enabled := SinkTree.enabled_blind Sink.enabled_blind
  info := SinkTree.info_blind Sink.info_blind

end Observability
