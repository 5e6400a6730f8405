import Observability.Log.Sink

/-!
# Fan-out

Several sinks behind one.  A fan-out is enabled if all its sinks are, and it writes to all of them in
order, whether they are enabled or not.  Fan-outs nest, so the type is a tree with sinks as leaves.

A sink that crashes ends the broadcast: the sinks behind it are not called.
-/

namespace Observability

/-- A sink, or a fan-out of such trees. -/
inductive SinkTree (σ : Type) where
  | leaf (sink : σ)
  | fanout (sinks : List (SinkTree σ))

namespace SinkTree

variable {m : Type → Type} {σ : Type}

mutual

/-- The leaves from left to right. -/
def leaves : SinkTree σ → List σ
  | .leaf sink => [sink]
  | .fanout sinks => leavesAll sinks

/-- The leaves of several trees. -/
def leavesAll : List (SinkTree σ) → List σ
  | [] => []
  | tree :: rest => leaves tree ++ leavesAll rest

end

variable [Monad m]

mutual

/-- Makes a call on the leaves from left to right. -/
def broadcast (call : σ → m Unit) : SinkTree σ → m Unit
  | .leaf sink => call sink
  | .fanout sinks => broadcastAll call sinks

/-- Makes a call on the leaves of trees in order. -/
def broadcastAll (call : σ → m Unit) : List (SinkTree σ) → m Unit
  | [] => return ()
  | tree :: rest => do
    broadcast call tree
    broadcastAll call rest

end

mutual

/-- The tree of the sinks that `f` derives, in the same shape. -/
def derive (f : σ → m σ) : SinkTree σ → m (SinkTree σ)
  | .leaf sink => return .leaf (← f sink)
  | .fanout sinks => return .fanout (← deriveAll f sinks)

/-- Derives trees in order. -/
def deriveAll (f : σ → m σ) : List (SinkTree σ) → m (List (SinkTree σ))
  | [] => return []
  | tree :: rest => do
    let tree ← derive f tree
    return tree :: (← deriveAll f rest)

end

variable [LogSink m σ]

mutual

def init : SinkTree σ → Nat → m (SinkTree σ)
  | .leaf sink, depth => return .leaf (← LogSink.init sink depth)
  | .fanout sinks, depth => return .fanout (← initAll sinks (depth + callDepthOffset))

/-- Initialises trees in order. -/
def initAll : List (SinkTree σ) → Nat → m (List (SinkTree σ))
  | [], _ => return []
  | tree :: rest, depth => do
    let tree ← init tree depth
    return tree :: (← initAll rest depth)

end

mutual

def enabled : SinkTree σ → UInt32 → m Bool
  | .leaf sink, level => LogSink.enabled sink level
  | .fanout sinks, level => enabledAll sinks level

/-- Asks trees in order, up to the first that is not enabled. -/
def enabledAll : List (SinkTree σ) → UInt32 → m Bool
  | [], _ => return true
  | tree :: rest, level => do
    if ← enabled tree level then enabledAll rest level else return false

end

instance : LogSink m (SinkTree σ) where
  init := init
  enabled := enabled
  info tree level message pairs :=
    broadcast (fun sink => LogSink.info sink level message pairs) tree
  error tree text message pairs :=
    broadcast (fun sink => LogSink.error sink text message pairs) tree
  withValues tree pairs := derive (fun sink => LogSink.withValues sink pairs) tree
  withName tree name := derive (fun sink => LogSink.withName sink name) tree

end SinkTree

end Observability
