import Observability.Proofs.Lifecycle.Channels
import Observability.Startup.Tracing

/-!
# Runs that flush providers

A run makes coordinators, copies, triggers and drops them, subscribes receivers, registers providers on
any of some registries, each with a receiver, and lets the tasks of the providers make progress, all in
any order.

* `FlushCommand` is one thing that a run does, `FlushRun` what it has come to, and `FlushCommand.step`
  what comes of one command.
* `FlushRun.run` gives what happened, and what it has come to.
* `Due` says that a receiver has something to wake for: a trigger since it was subscribed, or that no
  handle of its channel is left.
-/

namespace Observability

/-- What became of a receiver. -/
inductive Stage (π σ : Type) where
  | idle
  /-- its registration crashed -/
  | lost
  /-- the task of a provider holds it -/
  | waiting (handle : TracingHandle π σ)
  /-- the task of a provider held it and has ended -/
  | finished (handle : TracingHandle π σ)

namespace Stage

variable {π σ : Type}

/-- Whether the receiver is still held. -/
def isHeld : Stage π σ → Bool
  | .idle | .waiting _ => true
  | .lost | .finished _ => false

def isFinished : Stage π σ → Bool
  | .finished _ => true
  | .idle | .lost | .waiting _ => false

/-- The handle of the provider that the receiver was passed on for. -/
def handle? : Stage π σ → Option (TracingHandle π σ)
  | .waiting handle | .finished handle => some handle
  | .idle | .lost => none

end Stage

/-- A receiver and what became of it. -/
structure Subscription (π σ : Type) where
  receiver : ShutdownReceiver
  stage : Stage π σ := .idle

/-- The handle of the provider that the receiver at the place was passed on for. -/
def handleAt {π σ : Type} (subscriptions : List (Subscription π σ)) (place : Nat) :
    Option (TracingHandle π σ) :=
  subscriptions[place]?.bind (·.stage.handle?)

/-- Something done in a run.  Handles of coordinators, receivers and registries are known by their
places, and the task of a provider by the place of its receiver. -/
inductive FlushCommand (π φ σ : Type) where
  | create
  | copy (handle : Nat)
  | drop (handle : Nat)
  | trigger (handle : Nat)
  | subscribe (handle : Nat)
  | register (registry : Nat) (facility : φ)
  | registerProvider (registry receiver : Nat) (provider : π) (tracerName : String) (timeoutMs : Nat)
      (logger : Logger σ)
  /-- lets the task with the receiver go on, as joining it does -/
  | progress (receiver : Nat)

/-- What happened. -/
inductive FlushEvent where
  | created (shutdown : Shutdown)
  | copied (shutdown : Shutdown)
  | dropped (shutdown : Shutdown)
  | triggered (shutdown : Shutdown)
  | subscribed (receiver : ShutdownReceiver)
  | replaced
  /-- a provider was registered with the receiver at the place -/
  | registered (place : Nat)
  | crashed (crash : Crash)
  /-- the task with the receiver at the place ran to its end -/
  | ran (place : Nat)
  /-- it waits still -/
  | waits (place : Nat)
  /-- there was nothing to do it with -/
  | nothing
  deriving DecidableEq

/-- What a run has come to: the registries, the handles of coordinators that are not dropped, and the
receivers that were subscribed. -/
structure FlushRun (π φ σ : Type) where
  registries : List (Registry φ)
  collector : Collector
  handles : List (Option Shutdown) := []
  subscriptions : List (Subscription π σ) := []

namespace FlushRun

variable {π τ φ σ α : Type}

/-- What happened if an action did `result`, and the run with the collector it left. -/
def settle (s : FlushRun π φ σ) (result : Except Crash α × Collector)
    (next : α → FlushEvent × FlushRun π φ σ) : FlushEvent × FlushRun π φ σ :=
  match result with
  | (.ok a, collector) => ((next a).1, { (next a).2 with collector })
  | (.error crash, collector) => (.crashed crash, { s with collector })

/-- What happens to a coordinator, if there is a handle of it at the place. -/
def withHandle (s : FlushRun π φ σ) (place : Nat) (action : Shutdown → Act α)
    (next : Shutdown → α → FlushEvent × FlushRun π φ σ) : FlushEvent × FlushRun π φ σ :=
  match s.handles[place]? with
  | some (some shutdown) =>
    s.settle (Act.runOn (action shutdown) s.collector) (next shutdown)
  | _ => (.nothing, s)

end FlushRun

/-- What comes of the command.  `facility` makes the facility of a tracer. -/
def FlushCommand.step {π τ φ σ : Type} [P : TracerProvider π τ] [LogSink Act σ]
    (facility : Tracer τ → φ) (s : FlushRun π φ σ) :
    FlushCommand π φ σ → FlushEvent × FlushRun π φ σ
  | .create => s.settle (Act.runOn Shutdown.create s.collector) fun shutdown =>
    (.created shutdown, { s with handles := s.handles ++ [some shutdown] })
  | .copy place => s.withHandle place Shutdown.copy fun _ shutdown =>
    (.copied shutdown, { s with handles := s.handles ++ [some shutdown] })
  | .drop place => s.withHandle place Shutdown.drop fun shutdown _ =>
    (.dropped shutdown, { s with handles := s.handles.set place none })
  | .trigger place => s.withHandle place Shutdown.trigger fun shutdown _ => (.triggered shutdown, s)
  | .subscribe place => s.withHandle place Shutdown.subscribe fun _ receiver =>
    (.subscribed receiver, { s with subscriptions := s.subscriptions ++ [{ receiver }] })
  | .register place new =>
    match s.registries[place]? with
    | none => (.nothing, s)
    | some registry =>
      let ((_, registry), collector) :=
        RegistryAct.runOn (Registry.register new) registry s.collector
      (.replaced, { s with registries := s.registries.set place registry, collector })
  | .registerProvider registryPlace place provider tracerName timeoutMs logger =>
    match s.registries[registryPlace]?, s.subscriptions[place]? with
    | some registry, some ⟨receiver, .idle⟩ =>
      let ((answer, registry), collector) := RegistryAct.runOn
        (Startup.registerProvider facility provider tracerName timeoutMs logger receiver) registry
        s.collector
      let s := { s with registries := s.registries.set registryPlace registry, collector }
      match answer with
      | .ok handle =>
        (.registered place,
          { s with subscriptions := s.subscriptions.set place ⟨receiver, .waiting handle⟩ })
      | .error crash =>
        (.crashed crash, { s with subscriptions := s.subscriptions.set place ⟨receiver, .lost⟩ })
    | _, _ => (.nothing, s)
  | .progress place =>
    match s.subscriptions[place]? with
    | some ⟨receiver, .waiting handle⟩ =>
      s.settle (Act.runOn handle.join s.collector) fun woken =>
        if woken then
          (.ran place,
            { s with subscriptions := s.subscriptions.set place ⟨receiver, .finished handle⟩ })
        else (.waits place, s)
    | _ => (.nothing, s)

namespace FlushRun

variable {π τ φ σ : Type} [P : TracerProvider π τ] [LogSink Act σ]

/-- What happens in a run of the commands, and what it comes to. -/
def run (facility : Tracer τ → φ) :
    List (FlushCommand π φ σ) → FlushRun π φ σ → List FlushEvent × FlushRun π φ σ
  | [], s => ([], s)
  | command :: rest, s =>
    let (event, s) := command.step facility s
    let (events, s) := run facility rest s
    (event :: events, s)

end FlushRun

/-- The triggers of its channel since the receiver was subscribed. -/
def signals (events : List FlushEvent) (receiver : ShutdownReceiver) : Nat :=
  (events.reverse.takeWhile (· ≠ FlushEvent.subscribed receiver)).count (.triggered ⟨receiver.channel⟩)

/-- The receiver has something to wake for: its channel was triggered since it was subscribed, or has no
handle left. -/
def Due (events : List FlushEvent) (handles : List (Option Shutdown)) (receiver : ShutdownReceiver) :
    Prop :=
  0 < signals events receiver ∨ some ⟨receiver.channel⟩ ∉ handles

end Observability
