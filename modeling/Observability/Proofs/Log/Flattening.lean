import Observability.Log.Logger
import Observability.Log.RecordingSink

/-!
# A logger over a tree of sinks

A tree of fan-outs does to its leaves, from left to right, what one fan-out over them does.  The
equations between the two hold in any monad of calls, so they hold whatever the sinks do.

* `SinkTree.shape` is the tree without its sinks, and `SinkTree.parts` adds its leaves, so that nothing
  is lost (`eq_of_shape_of_leaves`).
* `SinkTree.placed` are the leaves with the number of fan-outs above each.
* `SinkTree.flat` is the single fan-out over the leaves.
* `LoggerCall` is a call that writes; `LoggerCall.wanted` are the queries before it, and
  `LoggerCall.deliver` is what one sink gets.

`ActsOnLeaves` says in these terms what a logger over a tree does, and `StopsAtCrash` what it does if a
sink crashes.  `logger_over_tree` proves both of every tree.
-/

namespace Observability

namespace SinkTree

variable {m : Type → Type} {σ : Type}

/-! ## Shape and leaves -/

mutual

/-- The tree without its sinks. -/
def shape : SinkTree σ → SinkTree Unit
  | .leaf _ => .leaf ()
  | .fanout sinks => .fanout (shapeAll sinks)

/-- The shapes of several trees. -/
def shapeAll : List (SinkTree σ) → List (SinkTree Unit)
  | [] => []
  | tree :: rest => shape tree :: shapeAll rest

end

mutual

/-- The leaves, each with the number of fan-outs above it. -/
def placed : SinkTree σ → List (σ × Nat)
  | .leaf sink => [(sink, 0)]
  | .fanout sinks => (placedAll sinks).map fun place => (place.1, place.2 + 1)

/-- The leaves of several trees, each with the number of fan-outs above it. -/
def placedAll : List (SinkTree σ) → List (σ × Nat)
  | [] => []
  | tree :: rest => placed tree ++ placedAll rest

end

/-- One fan-out over all the leaves. -/
def flat (tree : SinkTree σ) : SinkTree σ := .fanout (tree.leaves.map .leaf)

theorem leavesAll_map_leaf (sinks : List σ) : leavesAll (sinks.map .leaf) = sinks := by
  induction sinks with
  | nil => rfl
  | cons sink rest ih => rw [List.map_cons, leavesAll, ih, leaves, List.singleton_append]

@[simp] theorem leaves_flat (tree : SinkTree σ) : tree.flat.leaves = tree.leaves := by
  rw [flat, leaves, leavesAll_map_leaf]

mutual

/-- The places are those of the leaves. -/
theorem map_fst_placed (tree : SinkTree σ) : tree.placed.map Prod.fst = tree.leaves := by
  cases tree with
  | leaf sink => rfl
  | fanout sinks =>
    rw [placed, leaves, List.map_map, ← map_fst_placedAll sinks]
    rfl

theorem map_fst_placedAll (trees : List (SinkTree σ)) :
    (placedAll trees).map Prod.fst = leavesAll trees := by
  cases trees with
  | nil => rfl
  | cons tree rest =>
    rw [placedAll, leavesAll, List.map_append, map_fst_placed tree, map_fst_placedAll rest]

end

mutual

/-- How many leaves there are can be told from the shape. -/
theorem leaves_shape (tree : SinkTree σ) : tree.shape.leaves = tree.leaves.map fun _ => () := by
  cases tree with
  | leaf sink => rfl
  | fanout sinks => rw [shape, leaves, leaves, leavesAll_shapeAll sinks]

theorem leavesAll_shapeAll (trees : List (SinkTree σ)) :
    leavesAll (shapeAll trees) = (leavesAll trees).map fun _ => () := by
  cases trees with
  | nil => rfl
  | cons tree rest =>
    rw [shapeAll, leavesAll, leavesAll, List.map_append, leaves_shape tree,
      leavesAll_shapeAll rest]

end

theorem length_leaves_of_shape {a b : SinkTree σ} (h : a.shape = b.shape) :
    a.leaves.length = b.leaves.length := by
  have hleaves := congrArg (fun shape => shape.leaves.length) h
  simpa [leaves_shape] using hleaves

mutual

/-- A tree is determined by its shape and its leaves. -/
theorem eq_of_shape_of_leaves (a b : SinkTree σ) (hshape : a.shape = b.shape)
    (hleaves : a.leaves = b.leaves) : a = b := by
  cases a with
  | leaf sink =>
    cases b with
    | leaf other => rw [List.singleton_inj.mp hleaves]
    | fanout others => cases hshape
  | fanout sinks =>
    cases b with
    | leaf other => cases hshape
    | fanout others => rw [eq_of_shapeAll_of_leavesAll sinks others (fanout.inj hshape) hleaves]

theorem eq_of_shapeAll_of_leavesAll (as bs : List (SinkTree σ)) (hshape : shapeAll as = shapeAll bs)
    (hleaves : leavesAll as = leavesAll bs) : as = bs := by
  cases as with
  | nil =>
    cases bs with
    | nil => rfl
    | cons b bs => cases hshape
  | cons a as =>
    cases bs with
    | nil => cases hshape
    | cons b bs =>
      obtain ⟨hhead, htail⟩ := List.cons.inj hshape
      -- equal shapes have equally many leaves, so the leaves of the heads are told from the rest
      obtain ⟨hleaf, hrest⟩ := List.append_inj hleaves (length_leaves_of_shape hhead)
      rw [eq_of_shape_of_leaves a b hhead hleaf, eq_of_shapeAll_of_leavesAll as bs htail hrest]

end

/-! ## Calls on the leaves -/

variable [Monad m] [LawfulMonad m]

/-- Asking the first leaves and then, if all are enabled, the others is asking them all. -/
theorem allM_append (query : σ → m Bool) (first others : List σ) :
    (first ++ others).allM query = do
      if ← first.allM query then others.allM query else return false := by
  induction first with
  | nil => simp
  | cons sink first ih =>
    simp only [List.cons_append, List.allM_cons, ih, bind_assoc]
    refine bind_congr fun answer => ?_
    cases answer <;> simp

mutual

/-- A broadcast is the call on each leaf, from left to right. -/
theorem broadcast_eq_forM (call : σ → m Unit) (tree : SinkTree σ) :
    broadcast call tree = forM tree.leaves call := by
  cases tree with
  | leaf sink => simp [broadcast, leaves]
  | fanout sinks => rw [broadcast, leaves, broadcastAll_eq_forM call sinks]

theorem broadcastAll_eq_forM (call : σ → m Unit) (trees : List (SinkTree σ)) :
    broadcastAll call trees = forM (leavesAll trees) call := by
  cases trees with
  | nil => rfl
  | cons tree rest =>
    rw [broadcastAll, leavesAll, List.forM_append, broadcast_eq_forM call tree,
      broadcastAll_eq_forM call rest]

end

/-- What there is to see of a tree: its shape, and its leaves. -/
def parts (tree : SinkTree σ) : SinkTree Unit × List σ := (tree.shape, tree.leaves)

/-- The parts of several trees. -/
def partsAll (trees : List (SinkTree σ)) : List (SinkTree Unit) × List σ :=
  (shapeAll trees, leavesAll trees)

/-- Making trees for a fan-out, if making them comes to making their leaves. -/
theorem parts_fanout_map {makeTrees : m (List (SinkTree σ))} {makeLeaves : m (List σ)}
    {shapes : List (SinkTree Unit)}
    (h : partsAll <$> makeTrees = (fun sinks => (shapes, sinks)) <$> makeLeaves) :
    parts <$> (do return fanout (← makeTrees)) =
      (fun sinks => (fanout shapes, sinks)) <$> makeLeaves := by
  calc parts <$> (do return fanout (← makeTrees))
      = (fun seen => (fanout seen.1, seen.2)) <$> partsAll <$> makeTrees := by
        simp [parts, partsAll, shape, leaves]
    _ = (fun sinks => (fanout shapes, sinks)) <$> makeLeaves := by
        rw [h]
        simp

/-- Making a tree and then others, if making each comes to making its leaves. -/
theorem partsAll_cons_map {makeTree : m (SinkTree σ)} {makeRest : m (List (SinkTree σ))}
    {makeLeaves makeOthers : m (List σ)} {head : SinkTree Unit} {tail : List (SinkTree Unit)}
    (htree : parts <$> makeTree = (fun sinks => (head, sinks)) <$> makeLeaves)
    (hrest : partsAll <$> makeRest = (fun sinks => (tail, sinks)) <$> makeOthers) :
    partsAll <$> (do
        let tree ← makeTree
        return tree :: (← makeRest)) =
      (fun sinks => (head :: tail, sinks)) <$> (do
        let sinks ← makeLeaves
        return sinks ++ (← makeOthers)) := by
  calc partsAll <$> (do
        let tree ← makeTree
        return tree :: (← makeRest))
      = (do
        let seen ← parts <$> makeTree
        let others ← partsAll <$> makeRest
        return (seen.1 :: others.1, seen.2 ++ others.2)) := by
        simp [parts, partsAll, shapeAll, leavesAll]
    _ = (fun sinks => (head :: tail, sinks)) <$> (do
        let sinks ← makeLeaves
        return sinks ++ (← makeOthers)) := by
        rw [htree, hrest]
        simp

mutual

/-- Deriving a tree keeps its shape and derives each leaf, from left to right. -/
theorem parts_derive (f : σ → m σ) (tree : SinkTree σ) :
    parts <$> derive f tree = (fun sinks => (tree.shape, sinks)) <$> tree.leaves.mapM f := by
  cases tree with
  | leaf sink => simp [derive, parts, shape, leaves]
  | fanout sinks =>
    rw [derive, shape, leaves]
    exact parts_fanout_map (partsAll_deriveAll f sinks)

theorem partsAll_deriveAll (f : σ → m σ) (trees : List (SinkTree σ)) :
    partsAll <$> deriveAll f trees =
      (fun sinks => (shapeAll trees, sinks)) <$> (leavesAll trees).mapM f := by
  cases trees with
  | nil => simp [deriveAll, partsAll, shapeAll, leavesAll]
  | cons tree rest =>
    rw [deriveAll, shapeAll, leavesAll, List.mapM_append]
    exact partsAll_cons_map (parts_derive f tree) (partsAll_deriveAll f rest)

end

variable [LogSink m σ]

mutual

/-- A tree is asked leaf by leaf, up to the first that is not enabled. -/
theorem enabled_eq_allM (tree : SinkTree σ) (level : UInt32) :
    (enabled tree level : m Bool) =
      tree.leaves.allM fun sink => LogSink.enabled sink level := by
  cases tree with
  | leaf sink =>
    rw [enabled, leaves, List.allM_cons]
    conv => lhs; rw [← bind_pure (LogSink.enabled sink level : m Bool)]
    refine bind_congr fun answer => ?_
    cases answer <;> rfl
  | fanout sinks => rw [enabled, leaves, enabledAll_eq_allM sinks]

theorem enabledAll_eq_allM (trees : List (SinkTree σ)) (level : UInt32) :
    (enabledAll trees level : m Bool) =
      (leavesAll trees).allM fun sink => LogSink.enabled sink level := by
  cases trees with
  | nil => rw [enabledAll, leavesAll, List.allM_nil]
  | cons tree rest =>
    rw [enabledAll, leavesAll, allM_append, enabled_eq_allM tree, enabledAll_eq_allM rest]

end

mutual

/-- Initialising a tree keeps its shape and initialises each leaf, from left to right, with two frames
more for each fan-out above it. -/
theorem parts_init (tree : SinkTree σ) (depth : Nat) :
    parts <$> (init tree depth : m (SinkTree σ)) =
      (fun sinks => (tree.shape, sinks)) <$>
        tree.placed.mapM fun place => LogSink.init place.1 (depth + 2 * place.2) := by
  cases tree with
  | leaf sink => simp [init, parts, shape, leaves, placed]
  | fanout sinks =>
    have hdepth : ∀ above, depth + callDepthOffset + 2 * above = depth + 2 * (above + 1) := by
      intro above
      simp only [callDepthOffset]
      omega
    have hsinks := parts_fanout_map (m := m) (partsAll_initAll sinks (depth + callDepthOffset))
    rw [init, shape, placed, List.mapM_map]
    simpa only [hdepth, Function.comp_def] using hsinks

theorem partsAll_initAll (trees : List (SinkTree σ)) (depth : Nat) :
    partsAll <$> (initAll trees depth : m (List (SinkTree σ))) =
      (fun sinks => (shapeAll trees, sinks)) <$>
        (placedAll trees).mapM fun place => LogSink.init place.1 (depth + 2 * place.2) := by
  cases trees with
  | nil => simp [initAll, partsAll, shapeAll, leavesAll, placedAll]
  | cons tree rest =>
    rw [initAll, shapeAll, placedAll, List.mapM_append]
    exact partsAll_cons_map (parts_init tree depth) (partsAll_initAll rest depth)

end

end SinkTree

/-! ## Calls on a logger -/

/-- A call on a logger that writes a line. -/
inductive LoggerCall where
  | info (message : String) (pairs : List KeyValue)
  | error (error : Option String) (message : String) (pairs : List KeyValue)

namespace LoggerCall

variable {m : Type → Type} {σ : Type} [Monad m] [LogSink m σ]

/-- Makes the call. -/
def make (logger : Logger σ) : LoggerCall → m Unit
  | info message pairs => logger.info message pairs
  | error text message pairs => logger.error text message pairs

/-- Asks whether the line is wanted: the sinks in order for an ordinary line, nobody for an error. -/
def wanted (level : UInt32) (sinks : List σ) : LoggerCall → m Bool
  | info _ _ => sinks.allM fun sink => LogSink.enabled sink level
  | error _ _ _ => return true

/-- Hands the line to one sink. -/
def deliver (level : UInt32) (sink : σ) : LoggerCall → m Unit
  | info message pairs => LogSink.info sink level message pairs
  | error text message pairs => LogSink.error sink text message pairs

/-- Asks whether the line is wanted, and hands it to each sink in order if it is. -/
def spread (level : UInt32) (sinks : List σ) (call : LoggerCall) : m Unit := do
  if ← call.wanted level sinks then
    forM sinks fun sink => call.deliver level sink

end LoggerCall

open SinkTree (parts)

/-- A logger over the tree does to the leaves, from left to right, what a logger over a list of sinks
would do to them. -/
structure ActsOnLeaves (m : Type → Type) {σ : Type} [Monad m] [LogSink m σ] (tree : SinkTree σ) :
    Prop where
  /-- the parts are all there is to a tree -/
  determined (other : SinkTree σ) (same : parts other = parts tree) : other = tree
  places : tree.placed.map Prod.fst = tree.leaves
  create :
    (fun logger => (parts logger.sink, logger.level)) <$>
        (Logger.create tree : m (Logger (SinkTree σ))) =
      (fun sinks => ((tree.shape, sinks), 0)) <$>
        tree.placed.mapM fun place => LogSink.init place.1 (1 + 2 * place.2)
  enabled (level : UInt32) :
    (Logger.enabled ⟨tree, level⟩ : m Bool) =
      tree.leaves.allM fun sink => LogSink.enabled sink level
  info (level : UInt32) (message : String) (pairs : List KeyValue) :
    (Logger.info ⟨tree, level⟩ message pairs : m Unit) = do
      if ← tree.leaves.allM fun sink => LogSink.enabled sink level then
        forM tree.leaves fun sink => LogSink.info sink level message pairs
  error (level : UInt32) (error : Option String) (message : String) (pairs : List KeyValue) :
    (Logger.error ⟨tree, level⟩ error message pairs : m Unit) =
      forM tree.leaves fun sink => LogSink.error sink error message pairs
  withValues (level : UInt32) (pairs : List KeyValue) :
    (fun logger => (parts logger.sink, logger.level)) <$>
        (Logger.withValues ⟨tree, level⟩ pairs : m (Logger (SinkTree σ))) =
      (fun sinks => ((tree.shape, sinks), level)) <$>
        tree.leaves.mapM fun sink => LogSink.withValues sink pairs
  withName (level : UInt32) (name : String) :
    (fun logger => (parts logger.sink, logger.level)) <$>
        (Logger.withName ⟨tree, level⟩ name : m (Logger (SinkTree σ))) =
      (fun sinks => ((tree.shape, sinks), level)) <$>
        tree.leaves.mapM fun sink => LogSink.withName sink name
  /-- the single fan-out does the same -/
  flat (level : UInt32) (call : LoggerCall) :
    (call.make ⟨tree, level⟩ : m Unit) = call.make ⟨tree.flat, level⟩

/-- What a logger over the tree does if a sink crashes, the sinks having a state in `S`. -/
structure StopsAtCrash (ε S : Type) {σ : Type} [LogSink (ExceptT ε (StateM S)) σ]
    (tree : SinkTree σ) : Prop where
  /-- a call that crashes did so in a query, or while one leaf was handed the line: the leaves to the
  left had been handed it, and nothing was done with those to the right -/
  crash_iff (level : UInt32) (call : LoggerCall) (s s' : S) (e : ε) :
    runFrom (call.make ⟨tree, level⟩) s = (.error e, s') ↔
      runFrom (call.wanted level tree.leaves) s = (.error e, s') ∨
      ∃ s₀ before sink after s₁, tree.leaves = before ++ sink :: after ∧
        runFrom (ε := ε) (call.wanted level tree.leaves) s = (.ok true, s₀) ∧
        runFrom (ε := ε) (forM before fun sink => call.deliver level sink) s₀ = (.ok (), s₁) ∧
        runFrom (call.deliver level sink) s₁ = (.error e, s')
  /-- the next call is for all the leaves again -/
  next (level : UInt32) (call other : LoggerCall) (s s' : S) (e : ε)
    (crashed : runFrom (call.make ⟨tree, level⟩) s = (.error e, s')) :
    runFrom (ε := ε) (do
        tryCatch (call.make ⟨tree, level⟩) fun _ => return ()
        other.make ⟨tree, level⟩) s =
      runFrom (other.spread level tree.leaves) s'

namespace SinkTree

section

variable {m : Type → Type} {σ : Type} [Monad m] [LawfulMonad m]

/-- Making a logger keeps its level, and shows the parts of its tree. -/
theorem parts_logger_map {makeTree : m (SinkTree σ)} {makeLeaves : m (List σ)}
    {shape : SinkTree Unit} (level : UInt32)
    (h : parts <$> makeTree = (fun sinks => (shape, sinks)) <$> makeLeaves) :
    (fun logger => (parts logger.sink, logger.level)) <$>
        (do return Logger.mk (← makeTree) level) =
      (fun sinks => ((shape, sinks), level)) <$> makeLeaves := by
  calc (fun logger => (parts logger.sink, logger.level)) <$>
        (do return Logger.mk (← makeTree) level)
      = (fun seen => (seen, level)) <$> parts <$> makeTree := by simp
    _ = (fun sinks => ((shape, sinks), level)) <$> makeLeaves := by
        rw [h]
        simp

variable [LogSink m σ]

/-- A call on a logger is spread over the leaves. -/
theorem make_eq_spread (tree : SinkTree σ) (level : UInt32) (call : LoggerCall) :
    (call.make ⟨tree, level⟩ : m Unit) = call.spread level tree.leaves := by
  cases call with
  | info message pairs =>
    show (do if ← enabled tree level then broadcast _ tree : m Unit) = _
    rw [enabled_eq_allM, broadcast_eq_forM]
    rfl
  | error error message pairs =>
    show broadcast _ tree = _
    rw [broadcast_eq_forM, LoggerCall.spread, LoggerCall.wanted, pure_bind, if_pos rfl]
    rfl

theorem actsOnLeaves (tree : SinkTree σ) : ActsOnLeaves m tree where
  determined other same :=
    eq_of_shape_of_leaves other tree (Prod.mk.inj same).1 (Prod.mk.inj same).2
  places := map_fst_placed tree
  create := parts_logger_map 0 (parts_init tree 1)
  enabled level := enabled_eq_allM tree level
  info level message pairs := make_eq_spread tree level (.info message pairs)
  error level error message pairs := broadcast_eq_forM _ tree
  withValues level pairs := parts_logger_map level (parts_derive _ tree)
  withName level name := parts_logger_map level (parts_derive _ tree)
  flat level call := by rw [make_eq_spread, make_eq_spread, leaves_flat]

end

/-! ## Crashes -/

variable {ε S σ : Type}

/-- If one of the calls crashes and those before it returned, the calls after it are not made. -/
theorem runFrom_forM_of_crash {α : Type} {call : α → ExceptT ε (StateM S) Unit} {before : List α}
    {a : α} {s s₁ s' : S} {e : ε} (hbefore : runFrom (forM before call) s = (.ok (), s₁))
    (ha : runFrom (call a) s₁ = (.error e, s')) (after : List α) :
    runFrom (forM (before ++ a :: after) call) s = (.error e, s') := by
  rw [List.forM_append, runFrom_bind, hbefore]
  simp only
  rw [List.forM_cons, runFrom_bind, ha]

/-- If calls in order crash, one of them crashed and those before it returned. -/
theorem exists_crash_of_runFrom_forM {α : Type} {call : α → ExceptT ε (StateM S) Unit}
    {as : List α} {s s' : S} {e : ε} (h : runFrom (forM as call) s = (.error e, s')) :
    ∃ before a after s₁, as = before ++ a :: after ∧
      runFrom (forM before call) s = (.ok (), s₁) ∧ runFrom (call a) s₁ = (.error e, s') := by
  induction as generalizing s with
  | nil => cases h
  | cons first rest ih =>
    rw [List.forM_cons, runFrom_bind] at h
    rcases hfirst : runFrom (call first) s with ⟨_ | _, s₁⟩
    · rw [hfirst] at h
      refine ⟨[], first, rest, s, rfl, rfl, ?_⟩
      rw [hfirst]
      exact h
    · rw [hfirst] at h
      obtain ⟨before, a, after, s₂, rfl, hbefore, ha⟩ := ih h
      refine ⟨first :: before, a, after, s₂, rfl, ?_, ha⟩
      rw [List.forM_cons, runFrom_bind, hfirst]
      exact hbefore

variable [LogSink (ExceptT ε (StateM S)) σ]

/-- A call that is spread over sinks crashes in a query, or while the line is handed to the sinks. -/
theorem runFrom_spread_eq_error (level : UInt32) (sinks : List σ) (call : LoggerCall) (s s' : S)
    (e : ε) :
    runFrom (call.spread level sinks) s = (.error e, s') ↔
      runFrom (call.wanted level sinks) s = (.error e, s') ∨
      ∃ s₀, runFrom (ε := ε) (call.wanted level sinks) s = (.ok true, s₀) ∧
        runFrom (forM sinks fun sink => call.deliver level sink) s₀ = (.error e, s') := by
  rw [LoggerCall.spread, runFrom_bind]
  rcases runFrom (call.wanted level sinks) s with ⟨_ | wanted, s₀⟩
  · simp
  · cases wanted with
    | false =>
      have hdone : runFrom (pure () : ExceptT ε (StateM S) Unit) s₀ = (.ok (), s₀) := rfl
      simp [hdone]
    | true => simp

theorem stopsAtCrash (tree : SinkTree σ) : StopsAtCrash ε S tree where
  crash_iff level call s s' e := by
    rw [make_eq_spread, runFrom_spread_eq_error]
    refine or_congr_right ⟨?_, ?_⟩
    · rintro ⟨s₀, hwanted, hcrash⟩
      obtain ⟨before, sink, after, s₁, hsplit, hbefore, hsink⟩ :=
        exists_crash_of_runFrom_forM hcrash
      exact ⟨s₀, before, sink, after, s₁, hsplit, hwanted, hbefore, hsink⟩
    · rintro ⟨s₀, before, sink, after, s₁, hsplit, hwanted, hbefore, hsink⟩
      refine ⟨s₀, hwanted, ?_⟩
      rw [hsplit]
      exact runFrom_forM_of_crash hbefore hsink after
  next level call other s s' e crashed := by
    rw [runFrom_bind, runFrom_tryCatch, crashed]
    show runFrom (other.make ⟨tree, level⟩) s' = _
    rw [make_eq_spread]

end SinkTree

/-- **A logger over a tree of sinks.**  Whatever the sinks are, and whatever state they use, a logger
over a tree of them does to the leaves, in order, what a logger over a list of sinks would do; and a
crash of one leaf ends the call there, but not the logger. -/
theorem logger_over_tree {ε S σ : Type} [LogSink (ExceptT ε (StateM S)) σ] (tree : SinkTree σ) :
    ActsOnLeaves (ExceptT ε (StateM S)) tree ∧ StopsAtCrash ε S tree :=
  ⟨tree.actsOnLeaves, tree.stopsAtCrash⟩

/-- A sink in an inner fan-out crashes: the one before it has the line, the two after it have not. -/
example :
    let tree : SinkTree RecordingSink := .fanout [.leaf { id := 0 },
      .fanout [.leaf { id := 1, crashesIn := [.error] }, .leaf { id := 2 }], .leaf { id := 3 }]
    (Act.runOn (Logger.error ⟨tree, 0⟩ none "lost" []) { idText := fun _ => "" }).2.journal =
      [.sink 0 (.error none "lost" [] [] ""), .sink 1 (.error none "lost" [] [] "")] := by
  rfl

end Observability
