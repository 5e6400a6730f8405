import Mathlib.Data.List.Induction
import Observability.Log.Backend
import Observability.Proofs.Log.Flattening

/-!
# Derived loggers

A logger is derived from another one by raising its verbosity and by attaching names and values to its
sinks.  What comes of a sequence of such steps is said here of the whole sequence.

* `Label` is what was attached to a sink; `Label.attachAll_eq` says what attachments add up to.
* `FollowsLabel` says of sinks that they differ in their labels only and follow these.
* `Logger.derived` is the logger that steps lead to, without taking them.
* `LoggerCommand` is something done with loggers at hand: further ones are derived, or one writes.
  `LoggerCommand.alone` does it with a single logger, derived from the first one for this command.

`FollowsSteps` puts the laws together, and `derived_loggers_follow_steps` proves them of every tree of
event sinks and JSON sinks.
-/

namespace Observability

/-! ## Labels -/

/-- Something attached to a sink, which all its lines carry. -/
inductive Attachment where
  | withValues (pairs : List KeyValue)
  | withName (name : String)

namespace Attachment

/-- The pairs among the attachments, in order. -/
def pairs (attachments : List Attachment) : List KeyValue :=
  attachments.flatMap fun
    | .withValues pairs => pairs
    | .withName _ => []

/-- The names among the attachments, in order. -/
def names (attachments : List Attachment) : List String :=
  attachments.filterMap fun
    | .withValues _ => none
    | .withName name => some name

theorem pairs_append (first others : List Attachment) :
    pairs (first ++ others) = pairs first ++ pairs others :=
  List.flatMap_append

theorem names_append (first others : List Attachment) :
    names (first ++ others) = names first ++ names others :=
  List.filterMap_append

end Attachment

/-- The names with a slash between each two, those apart that are empty and have only empty ones before
them. -/
def joinedName (names : List String) : String := "/".intercalate (names.dropWhile String.isEmpty)

/-- Names that do not start with an empty one do not join to the empty name. -/
theorem intercalate_ne_empty {name : String} (h : name ≠ "") (names : List String) :
    "/".intercalate (name :: names) ≠ "" := by
  cases names with
  | nil => rwa [String.intercalate_singleton]
  | cons next rest =>
    rw [String.intercalate_cons_cons]
    simp [h]

/-- One more name goes inside those before it. -/
theorem joinedName_concat (names : List String) (name : String) :
    joinedName (names ++ [name]) = joinName (joinedName names) name := by
  rw [joinedName, joinedName, joinName, List.dropWhile_append]
  cases hrest : names.dropWhile String.isEmpty with
  | nil =>
    rw [if_pos List.isEmpty_nil, String.intercalate_nil, if_pos (show "".isEmpty = true from rfl)]
    by_cases hempty : name.isEmpty = true
    · rw [List.dropWhile_cons_of_pos hempty, List.dropWhile_nil, String.intercalate_nil,
        String.isEmpty_iff.mp hempty]
    · rw [List.dropWhile_cons_of_neg hempty, String.intercalate_singleton]
  | cons first rest =>
    have hfirst : first ≠ "" := by
      have hhead := List.head?_dropWhile_not String.isEmpty names
      rw [hrest] at hhead
      simpa using hhead
    rw [if_neg (by simp), if_neg (by simpa using intercalate_ne_empty hfirst rest),
      String.intercalate_append_of_ne_nil (by simp) (by simp), String.intercalate_singleton]

/-- What was attached to a sink. -/
structure Label where
  name : String
  values : List KeyValue

namespace Label

/-- The label with the attachment. -/
def attach (label : Label) : Attachment → Label
  | .withValues pairs => { label with values := label.values ++ pairs }
  | .withName name => { label with name := joinName label.name name }

/-- The label with the attachments. -/
def attachAll (label : Label) (attachments : List Attachment) : Label :=
  attachments.foldl attach label

theorem attachAll_concat (label : Label) (attachments : List Attachment) (what : Attachment) :
    label.attachAll (attachments ++ [what]) = (label.attachAll attachments).attach what :=
  List.foldl_append

/-- Attachments add up: their pairs are put together, and their names are joined. -/
theorem attachAll_eq (label : Label) (attachments : List Attachment) :
    label.attachAll attachments =
      { name := joinedName (label.name :: Attachment.names attachments)
        values := label.values ++ Attachment.pairs attachments } := by
  induction attachments using List.reverseRecOn with
  | nil =>
    have hname : joinedName [label.name] = label.name := joinedName_concat [] label.name
    simp [attachAll, Attachment.names, Attachment.pairs, hname]
  | append_singleton attachments what ih =>
    rw [attachAll_concat, ih, Attachment.names_append, Attachment.pairs_append]
    cases what with
    | withValues pairs => simp [attach, Attachment.names, Attachment.pairs]
    | withName name =>
      have hname := joinedName_concat (label.name :: Attachment.names attachments) name
      simpa [attach, Attachment.names, Attachment.pairs] using hname.symm

end Label

/-! ## Sinks that follow their labels -/

/-- The sink with the attachment. -/
def LogSink.attach {m : Type → Type} {σ : Type} [LogSink m σ] (sink : σ) : Attachment → m σ
  | .withValues pairs => LogSink.withValues sink pairs
  | .withName name => LogSink.withName sink name

/-- The sink with the attachments. -/
def LogSink.attachAll {m : Type → Type} {σ : Type} [Monad m] [LogSink m σ] (sink : σ)
    (attachments : List Attachment) : m σ :=
  attachments.foldlM LogSink.attach sink

/-- The sinks differ in their labels only, and to attach something to one does nothing else. -/
def FollowsLabel {σ : Type} [LogSink Act σ] (labelled : Label → σ) : Prop :=
  ∀ label what,
    (LogSink.attach (labelled label) what : Act σ) = pure (labelled (label.attach what))

theorem FollowsLabel.attachAll {σ : Type} [LogSink Act σ] {labelled : Label → σ}
    (h : FollowsLabel labelled) (label : Label) (attachments : List Attachment) :
    (LogSink.attachAll (labelled label) attachments : Act σ) =
      pure (labelled (label.attachAll attachments)) := by
  induction attachments generalizing label with
  | nil => rfl
  | cons what rest ih =>
    calc (LogSink.attachAll (labelled label) (what :: rest) : Act σ)
        = LogSink.attach (labelled label) what >>= fun sink => LogSink.attachAll sink rest := by
          rw [LogSink.attachAll, List.foldlM_cons]
          rfl
      _ = pure (labelled (label.attachAll (what :: rest))) := by
          rw [h label what, pure_bind, ih]
          rfl

namespace EventSink

def label (sink : EventSink) : Label := ⟨sink.name, sink.values⟩

/-- The sink with another label. -/
def labelled (sink : EventSink) (label : Label) : EventSink :=
  { sink with name := label.name, values := label.values }

theorem followsLabel (sink : EventSink) : FollowsLabel sink.labelled := by
  intro label what
  cases what <;> rfl

end EventSink

namespace JsonSink

def label (sink : JsonSink) : Label := ⟨sink.name, sink.values⟩

/-- The sink with another label. -/
def labelled (sink : JsonSink) (label : Label) : JsonSink :=
  { sink with name := label.name, values := label.values }

theorem followsLabel (sink : JsonSink) : FollowsLabel sink.labelled := by
  intro label what
  cases what <;> rfl

end JsonSink

namespace Sink

/-- Whether the sink writes events or JSON lines, and is not one that records its calls. -/
def Writes : Sink → Prop
  | .events _ | .json _ => True
  | .recording _ => False

def label : Sink → Label
  | .events sink => sink.label
  | .json sink => sink.label
  | .recording sink => ⟨sink.name, sink.values⟩

/-- The sink with another label. -/
def labelled : Sink → Label → Sink
  | .events sink, label => .events (sink.labelled label)
  | .json sink, label => .json (sink.labelled label)
  | .recording sink, label => .recording { sink with name := label.name, values := label.values }

theorem followsLabel {sink : Sink} (h : sink.Writes) : FollowsLabel sink.labelled := by
  intro label what
  cases sink with
  | events sink => cases what <;> rfl
  | json sink => cases what <;> rfl
  | recording sink => exact h.elim

@[simp] theorem labelled_label (sink : Sink) : sink.labelled sink.label = sink := by
  cases sink <;> rfl

@[simp] theorem label_labelled (sink : Sink) (label : Label) : (sink.labelled label).label = label := by
  cases sink <;> rfl

end Sink

namespace SinkTree

/-! ## Trees of derived sinks -/

section

variable {m : Type → Type} {σ τ : Type}

mutual

/-- The tree with each sink replaced. -/
def map (f : σ → τ) : SinkTree σ → SinkTree τ
  | .leaf sink => .leaf (f sink)
  | .fanout sinks => .fanout (mapAll f sinks)

/-- The trees with each sink replaced. -/
def mapAll (f : σ → τ) : List (SinkTree σ) → List (SinkTree τ)
  | [] => []
  | tree :: rest => map f tree :: mapAll f rest

end

mutual

theorem leaves_map (f : σ → τ) (tree : SinkTree σ) : (tree.map f).leaves = tree.leaves.map f := by
  cases tree with
  | leaf sink => rfl
  | fanout sinks => rw [map, leaves, leaves, leavesAll_mapAll f sinks]

theorem leavesAll_mapAll (f : σ → τ) (trees : List (SinkTree σ)) :
    leavesAll (mapAll f trees) = (leavesAll trees).map f := by
  cases trees with
  | nil => rfl
  | cons tree rest =>
    rw [mapAll, leavesAll, leavesAll, List.map_append, leaves_map f tree, leavesAll_mapAll f rest]

end

mutual

theorem shape_map (f : σ → τ) (tree : SinkTree σ) : (tree.map f).shape = tree.shape := by
  cases tree with
  | leaf sink => rfl
  | fanout sinks => rw [map, shape, shape, shapeAll_mapAll f sinks]

theorem shapeAll_mapAll (f : σ → τ) (trees : List (SinkTree σ)) :
    shapeAll (mapAll f trees) = shapeAll trees := by
  cases trees with
  | nil => rfl
  | cons tree rest => rw [mapAll, shapeAll, shapeAll, shape_map f tree, shapeAll_mapAll f rest]

end

/-- To replace each sink by itself changes nothing. -/
theorem map_eq_self {f : σ → σ} {tree : SinkTree σ} (h : ∀ sink ∈ tree.leaves, f sink = sink) :
    tree.map f = tree := by
  refine eq_of_shape_of_leaves _ _ (shape_map f tree) ?_
  rw [leaves_map, List.map_congr_left h, List.map_id']

variable [Monad m] [LawfulMonad m]

mutual

/-- A tree is derived without effects where its leaves are. -/
theorem derive_map {f : τ → m τ} {g g' : σ → τ} (tree : SinkTree σ)
    (h : ∀ sink ∈ tree.leaves, f (g sink) = pure (g' sink)) :
    derive f (tree.map g) = pure (tree.map g') := by
  cases tree with
  | leaf sink =>
    rw [map, derive, h sink (List.mem_singleton.mpr rfl), pure_bind, map]
  | fanout sinks =>
    rw [map, derive, deriveAll_mapAll sinks h, pure_bind, map]

theorem deriveAll_mapAll {f : τ → m τ} {g g' : σ → τ} (trees : List (SinkTree σ))
    (h : ∀ sink ∈ leavesAll trees, f (g sink) = pure (g' sink)) :
    deriveAll f (mapAll g trees) = pure (mapAll g' trees) := by
  cases trees with
  | nil => rfl
  | cons tree rest =>
    rw [leavesAll] at h
    rw [mapAll, deriveAll, derive_map tree fun sink hsink => h sink (List.mem_append_left _ hsink),
      pure_bind, deriveAll_mapAll rest fun sink hsink => h sink (List.mem_append_right _ hsink),
      pure_bind, mapAll]

end

end

end SinkTree

/-! ## Steps from a logger -/

/-- A step from one logger to another. -/
inductive LoggerStep where
  | verbose (steps : UInt32)
  | attach (what : Attachment)

namespace LoggerStep

variable {m : Type → Type} {σ : Type} [Monad m] [LogSink m σ]

/-- The logger that the step leads to. -/
def take (logger : Logger σ) : LoggerStep → m (Logger σ)
  | .verbose steps => return logger.verbose steps
  | .attach (.withValues pairs) => logger.withValues pairs
  | .attach (.withName name) => logger.withName name

/-- How much the steps raise the verbosity. -/
def raised : List LoggerStep → Nat
  | [] => 0
  | .verbose steps :: rest => steps.toNat + raised rest
  | .attach _ :: rest => raised rest

/-- What the steps attach, in order. -/
def attachments (steps : List LoggerStep) : List Attachment :=
  steps.filterMap fun
    | .verbose _ => none
    | .attach what => some what

theorem raised_append (first others : List LoggerStep) :
    raised (first ++ others) = raised first + raised others := by
  induction first with
  | nil => simp [raised]
  | cons step first ih => cases step <;> simp [raised, ih, Nat.add_assoc]

theorem attachments_append (first others : List LoggerStep) :
    attachments (first ++ others) = attachments first ++ attachments others :=
  List.filterMap_append

end LoggerStep

/-- The logger that the steps lead to, one after the other. -/
def Logger.derive {m : Type → Type} {σ : Type} [Monad m] [LogSink m σ] (logger : Logger σ)
    (steps : List LoggerStep) : m (Logger σ) :=
  steps.foldlM LoggerStep.take logger

/-- The verbosity raised so often, but no more than to the largest number. -/
def raisedVerbosity (level : UInt32) (steps : Nat) : UInt32 :=
  UInt32.ofNat (min (level.toNat + steps) 0xFFFFFFFF)

theorem toNat_raisedVerbosity (level : UInt32) (steps : Nat) :
    (raisedVerbosity level steps).toNat = min (level.toNat + steps) 0xFFFFFFFF := by
  rw [raisedVerbosity, UInt32.toNat_ofNat']
  exact Nat.mod_eq_of_lt (by omega)

theorem addVerbosity_raisedVerbosity (level more : UInt32) (steps : Nat) :
    addVerbosity (raisedVerbosity level steps) more =
      raisedVerbosity level (steps + more.toNat) := by
  rw [addVerbosity, toNat_raisedVerbosity, raisedVerbosity]
  congr 1
  omega

/-- The logger that the steps lead to: the verbosities are added, and each sink has what is attached. -/
def Logger.derived (logger : Logger (SinkTree Sink)) (steps : List LoggerStep) :
    Logger (SinkTree Sink) where
  sink := logger.sink.map fun sink =>
    sink.labelled (sink.label.attachAll (LoggerStep.attachments steps))
  level := raisedVerbosity logger.level (LoggerStep.raised steps)

namespace Logger

variable {root : Logger (SinkTree Sink)}

theorem derived_nil (root : Logger (SinkTree Sink)) : root.derived [] = root := by
  have hlevel : raisedVerbosity root.level 0 = root.level := by
    rw [← UInt32.toNat_inj, toNat_raisedVerbosity]
    have := root.level.toNat_lt
    omega
  have hsink : (root.sink.map fun sink => sink.labelled sink.label) = root.sink :=
    SinkTree.map_eq_self fun sink _ => sink.labelled_label
  rw [derived]
  simp only [LoggerStep.attachments, LoggerStep.raised, List.filterMap_nil, Label.attachAll,
    List.foldl_nil, hlevel, hsink]

/-- One more step. -/
theorem take_derived (writes : ∀ sink ∈ root.sink.leaves, sink.Writes) (steps : List LoggerStep)
    (step : LoggerStep) :
    (step.take (root.derived steps) : Act _) = pure (root.derived (steps ++ [step])) := by
  rw [derived, derived, LoggerStep.raised_append, LoggerStep.attachments_append]
  cases step with
  | verbose more =>
    have hraised : LoggerStep.raised [.verbose more] = more.toNat := by simp [LoggerStep.raised]
    have hattached : LoggerStep.attachments [.verbose more] = [] := rfl
    rw [hraised, hattached, List.append_nil, ← addVerbosity_raisedVerbosity]
    rfl
  | attach what =>
    have hraised : LoggerStep.raised [.attach what] = 0 := rfl
    have hattached : LoggerStep.attachments [.attach what] = [what] := rfl
    have htree := SinkTree.derive_map (f := fun sink => LogSink.attach sink what) root.sink
      fun sink hsink => Sink.followsLabel (writes sink hsink)
        (sink.label.attachAll (LoggerStep.attachments steps)) what
    simp only [hraised, hattached, Nat.add_zero, Label.attachAll_concat]
    cases what with
    | withValues pairs => exact congrArg (· >>= fun tree => pure (Logger.mk tree _)) htree
    | withName name => exact congrArg (· >>= fun tree => pure (Logger.mk tree _)) htree

/-- The steps lead to the logger without further effects. -/
theorem derive_eq (writes : ∀ sink ∈ root.sink.leaves, sink.Writes) (steps : List LoggerStep) :
    (root.derive steps : Act _) = pure (root.derived steps) := by
  induction steps using List.reverseRecOn with
  | nil => rw [derived_nil]; rfl
  | append_singleton steps step ih =>
    rw [derive, List.foldlM_append, ← derive, ih, pure_bind, List.foldlM_cons,
      take_derived writes steps step, pure_bind, List.foldlM_nil]

/-- Steps that raise the verbosity as much and attach as much lead to the same logger. -/
theorem derived_congr (root : Logger (SinkTree Sink)) {steps others : List LoggerStep}
    (hraised : LoggerStep.raised steps = LoggerStep.raised others)
    (hpairs : Attachment.pairs (LoggerStep.attachments steps) =
      Attachment.pairs (LoggerStep.attachments others))
    (hnames : Attachment.names (LoggerStep.attachments steps) =
      Attachment.names (LoggerStep.attachments others)) :
    root.derived steps = root.derived others := by
  simp only [derived, Label.attachAll_eq, hraised, hpairs, hnames]

end Logger

/-- Other steps in the place of these: two that commute are exchanged, or values that are attached one
after the other are attached at once. -/
inductive Rearranged : List LoggerStep → List LoggerStep → Prop where
  | verbose_attach (more : UInt32) (what : Attachment) :
    Rearranged [.verbose more, .attach what] [.attach what, .verbose more]
  | values_name (pairs : List KeyValue) (name : String) :
    Rearranged [.attach (.withValues pairs), .attach (.withName name)]
      [.attach (.withName name), .attach (.withValues pairs)]
  | values_values (first others : List KeyValue) :
    Rearranged [.attach (.withValues first), .attach (.withValues others)]
      [.attach (.withValues (first ++ others))]

theorem Rearranged.derived_eq {steps others : List LoggerStep} (h : Rearranged steps others)
    (root : Logger (SinkTree Sink)) (before after : List LoggerStep) :
    root.derived (before ++ steps ++ after) = root.derived (before ++ others ++ after) := by
  apply root.derived_congr
  · simp only [LoggerStep.raised_append]
    cases h <;> simp [LoggerStep.raised]
  · simp only [LoggerStep.attachments_append, Attachment.pairs_append]
    cases h <;> simp [LoggerStep.attachments, Attachment.pairs]
  · simp only [LoggerStep.attachments_append, Attachment.names_append]
    cases h <;> simp [LoggerStep.attachments, Attachment.names]

/-! ## Loggers side by side -/

/-- Makes the call.  If a sink crashes in it, the call ends there. -/
def LoggerCall.attempt (call : LoggerCall) (logger : Logger (SinkTree Sink)) : Act Unit :=
  tryCatch (call.make logger) fun _ => return ()

/-- Something done with the loggers at hand: another logger is derived from that at the index, that
logger writes, or time goes by. -/
inductive LoggerCommand where
  | derive (index : Nat) (step : LoggerStep)
  | log (index : Nat) (call : LoggerCall)
  | wait (time : Binary64)

namespace LoggerCommand

/-- Does it, and gives the loggers at hand afterwards. -/
def perform (loggers : List (Logger (SinkTree Sink))) :
    LoggerCommand → Act (List (Logger (SinkTree Sink)))
  | .derive index step =>
    match loggers[index]? with
    | some logger => return loggers ++ [← step.take logger]
    | none => return loggers
  | .log index call =>
    match loggers[index]? with
    | some logger => do
      call.attempt logger
      return loggers
    | none => return loggers
  | .wait time => do
    Act.step fun c => ((), { c with clock := time })
    return loggers

/-- Does all of it in order. -/
def performAll (loggers : List (Logger (SinkTree Sink))) (commands : List LoggerCommand) :
    Act (List (Logger (SinkTree Sink))) :=
  commands.foldlM perform loggers

/-- The steps that led to each logger at hand, with those of a logger that is derived. -/
def grown (histories : List (List LoggerStep)) : LoggerCommand → List (List LoggerStep)
  | .derive index step => histories ++ histories[index]?.toList.map (· ++ [step])
  | .log .. | .wait _ => histories

/-- Does it without other loggers: the one that writes is derived from the root for this, by its own
steps. -/
def alone (root : Logger (SinkTree Sink)) (histories : List (List LoggerStep)) :
    LoggerCommand → Act Unit
  | .derive .. => return ()
  | .log index call =>
    match histories[index]? with
    | some steps => do call.attempt (← root.derive steps)
    | none => return ()
  | .wait time => Act.step fun c => ((), { c with clock := time })

/-- Does all of it in order, each time without other loggers. -/
def aloneAll (root : Logger (SinkTree Sink)) : List (List LoggerStep) → List LoggerCommand → Act Unit
  | _, [] => return ()
  | histories, command :: rest => do
    command.alone root histories
    aloneAll root (command.grown histories) rest

variable {root : Logger (SinkTree Sink)}

theorem perform_derived (writes : ∀ sink ∈ root.sink.leaves, sink.Writes)
    (histories : List (List LoggerStep)) (command : LoggerCommand) :
    command.perform (histories.map root.derived) = do
      command.alone root histories
      return (command.grown histories).map root.derived := by
  cases command with
  | derive index step =>
    simp only [perform, alone, grown, List.getElem?_map]
    cases histories[index]? with
    | none => simp
    | some steps => simp [Logger.take_derived writes]
  | log index call =>
    simp only [perform, alone, grown, List.getElem?_map]
    cases histories[index]? with
    | none => simp
    | some steps => simp [Logger.derive_eq writes]
  | wait time => rfl

/-- What loggers side by side do is what each does alone. -/
theorem performAll_derived (writes : ∀ sink ∈ root.sink.leaves, sink.Writes)
    (histories : List (List LoggerStep)) (commands : List LoggerCommand) :
    performAll (histories.map root.derived) commands = do
      aloneAll root histories commands
      return (commands.foldl grown histories).map root.derived := by
  induction commands generalizing histories with
  | nil => simp [performAll, aloneAll]
  | cons command rest ih =>
    rw [performAll, List.foldlM_cons, perform_derived writes, bind_assoc]
    simp only [pure_bind, aloneAll, bind_assoc, List.foldl_cons]
    exact bind_congr fun _ => ih (command.grown histories)

end LoggerCommand

/-! ## The laws together -/

/-- What loggers derived from the root are, and what they write, is told by the steps to each. -/
structure FollowsSteps (root : Logger (SinkTree Sink)) : Prop where
  /-- the verbosities are added, and the sinks get what is attached -/
  derives (steps : List LoggerStep) (c : Collector) :
    ∃ logger, Act.runOn (root.derive steps) c = (.ok logger, c) ∧
      logger.level.toNat = min (root.level.toNat + LoggerStep.raised steps) 0xFFFFFFFF ∧
      logger.sink.shape = root.sink.shape ∧
      logger.sink.leaves = root.sink.leaves.map fun sink =>
        let attached := LoggerStep.attachments steps
        sink.labelled
          { name := joinedName (sink.label.name :: Attachment.names attached)
            values := sink.label.values ++ Attachment.pairs attached }
  /-- steps that commute may change places, and values may be attached together -/
  rearranged {steps others : List LoggerStep} (h : Rearranged steps others)
    (before after : List LoggerStep) :
    (root.derive (before ++ steps ++ after) : Act _) = root.derive (before ++ others ++ after)
  /-- loggers side by side are what their own steps make them, and each line is that of a logger derived
  for it, by its own steps and without the others -/
  sideBySide (commands : List LoggerCommand) :
    LoggerCommand.performAll [root] commands = do
      LoggerCommand.aloneAll root [[]] commands
      (commands.foldl LoggerCommand.grown [[]]).mapM root.derive

theorem Logger.followsSteps {root : Logger (SinkTree Sink)}
    (writes : ∀ sink ∈ root.sink.leaves, sink.Writes) : FollowsSteps root where
  derives steps c := by
    refine ⟨root.derived steps, ?_, toNat_raisedVerbosity _ _, SinkTree.shape_map _ _, ?_⟩
    · rw [Logger.derive_eq writes, Act.runOn_pure]
    · simp only [Logger.derived, SinkTree.leaves_map, Label.attachAll_eq]
  rearranged h before after := by
    rw [Logger.derive_eq writes, Logger.derive_eq writes, h.derived_eq]
  sideBySide commands := by
    have hroot : [root] = [[]].map root.derived := by simp [Logger.derived_nil]
    have hderive : root.derive = fun steps => (pure (root.derived steps) : Act _) :=
      funext (Logger.derive_eq writes)
    rw [hroot, LoggerCommand.performAll_derived writes, hderive]
    simp

/-! ## New loggers -/

/-- Making things without effects, one after the other. -/
theorem mapM_eq_pure {m : Type → Type} [Monad m] [LawfulMonad m] {α β : Type} {f : α → m β} {g : α → β}
    {as : List α} (h : ∀ a ∈ as, f a = pure (g a)) : as.mapM f = pure (as.map g) := by
  induction as with
  | nil => rfl
  | cons a rest ih =>
    obtain ⟨ha, hrest⟩ := List.forall_mem_cons.mp h
    simp [ha, ih hrest]

/-- The sink that was told how many frames lie before it. -/
def Sink.atDepth (depth : Nat) : Sink → Sink
  | .events sink => .events { sink with callDepth := depth }
  | .json sink => .json { sink with callDepth := depth }
  | .recording sink => .recording sink

theorem Sink.init_eq {sink : Sink} (h : sink.Writes) (depth : Nat) :
    (LogSink.init sink depth : Act Sink) = pure (sink.atDepth depth) := by
  cases sink with
  | events sink => rfl
  | json sink => rfl
  | recording sink => exact h.elim

theorem Sink.Writes.atDepth {sink : Sink} (h : sink.Writes) (depth : Nat) :
    (sink.atDepth depth).Writes := by
  cases sink with
  | events sink => exact h
  | json sink => exact h
  | recording sink => exact h

/-- A new logger has its sinks in the shape given, each told of its depth, and the least verbosity. -/
theorem Logger.exists_create {tree : SinkTree Sink} (writes : ∀ sink ∈ tree.leaves, sink.Writes)
    (c : Collector) :
    ∃ root, Act.runOn (Logger.create tree) c = (.ok root, c) ∧ root.level = 0 ∧
      root.sink.shape = tree.shape ∧
      root.sink.leaves = tree.placed.map fun place => place.1.atDepth (1 + 2 * place.2) := by
  have hplaced : ∀ place ∈ tree.placed,
      (LogSink.init place.1 (1 + 2 * place.2) : Act Sink) =
        pure (place.1.atDepth (1 + 2 * place.2)) := by
    intro place hplace
    refine Sink.init_eq (writes place.1 ?_) _
    rw [← SinkTree.map_fst_placed]
    exact List.mem_map_of_mem hplace
  have hcreate := (SinkTree.actsOnLeaves (m := Act) tree).create
  rw [mapM_eq_pure hplaced] at hcreate
  have hrun := congrArg (Act.runOn · c) hcreate
  simp only [Act.runOn_map, Act.runOn_pure] at hrun
  rcases hroot : Act.runOn (Logger.create tree) c with ⟨crash | root, after⟩
  · rw [hroot] at hrun
    cases hrun
  · rw [hroot] at hrun
    simp only [Prod.mk.injEq, Except.ok.injEq, SinkTree.parts] at hrun
    obtain ⟨⟨⟨hshape, hleaves⟩, hlevel⟩, rfl⟩ := hrun
    exact ⟨root, rfl, hlevel, hshape, hleaves⟩

/-- **Derived loggers follow their steps.**  A logger over any tree of event sinks and JSON sinks starts
at the least verbosity, and whatever is derived from it is told by the steps alone: verbosities add up to
the largest number at most, pairs are put together, and names are joined. -/
theorem derived_loggers_follow_steps {tree : SinkTree Sink}
    (writes : ∀ sink ∈ tree.leaves, sink.Writes) (c : Collector) :
    ∃ root, Act.runOn (Logger.create tree) c = (.ok root, c) ∧ root.level = 0 ∧
      root.sink.shape = tree.shape ∧
      root.sink.leaves = (tree.placed.map fun place => place.1.atDepth (1 + 2 * place.2)) ∧
      FollowsSteps root := by
  obtain ⟨root, hroot, hlevel, hshape, hleaves⟩ := Logger.exists_create writes c
  refine ⟨root, hroot, hlevel, hshape, hleaves, Logger.followsSteps fun sink hsink => ?_⟩
  rw [hleaves] at hsink
  obtain ⟨place, hplace, rfl⟩ := List.mem_map.mp hsink
  refine Sink.Writes.atDepth (writes place.1 ?_) _
  rw [← SinkTree.map_fst_placed]
  exact List.mem_map_of_mem hplace

/-- An event sink beside a fan-out with a JSON sink in it. -/
def unevenTree : SinkTree Sink :=
  .fanout [.leaf (.events { maxVerbosity := 2 }), .fanout [.leaf (.json { writer := 0, maxVerbosity := 1 })]]

/-- Verbosities beyond the largest number, and empty names before and between others. -/
def unevenSteps : List LoggerStep :=
  [ .attach (.withName ""), .verbose 0xFFFFFFFE, .attach (.withName "a"),
    .attach (.withValues [⟨"k", .null⟩]), .verbose 7, .attach (.withName ""),
    .attach (.withValues [⟨"k", .bool true⟩]), .attach (.withName "b") ]

theorem derived_loggers_follow_steps_uneven :
    (∀ sink ∈ unevenTree.leaves, sink.Writes) ∧
    ∃ root logger, Act.runOn (Logger.create unevenTree) { idText := fun _ => "" } =
        (.ok root, { idText := fun _ => "" }) ∧
      Act.runOn (root.derive unevenSteps) { idText := fun _ => "" } =
        (.ok logger, { idText := fun _ => "" }) ∧
      logger.level.toNat = 0xFFFFFFFF ∧ logger.sink.shape = unevenTree.shape ∧
      logger.sink.leaves.map Sink.label =
        List.replicate 2 ⟨"a//b", [⟨"k", .null⟩, ⟨"k", .bool true⟩]⟩ := by
  have writes : ∀ sink ∈ unevenTree.leaves, sink.Writes := by
    simp [unevenTree, SinkTree.leaves, SinkTree.leavesAll, Sink.Writes]
  obtain ⟨root, hroot, hlevel, hshape, hleaves, hsteps⟩ :=
    derived_loggers_follow_steps writes { idText := fun _ => "" }
  obtain ⟨logger, hlogger, hverbosity, hshape', hleaves'⟩ :=
    hsteps.derives unevenSteps { idText := fun _ => "" }
  refine ⟨writes, root, logger, hroot, hlogger, ?_, hshape'.trans hshape, ?_⟩
  · rw [hverbosity, hlevel]
    decide
  · have hname : joinedName ["", "", "a", "", "b"] = "a//b" := by decide +kernel
    rw [hleaves', hleaves]
    show [Label.mk (joinedName ["", "", "a", "", "b"]) _, Label.mk (joinedName ["", "", "a", "", "b"]) _] = _
    rw [hname]
    rfl

end Observability
