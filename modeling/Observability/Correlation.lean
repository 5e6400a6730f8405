import Observability.Collector

/-!
# Deriving contexts

New contexts are made here, each with a storage of its own.  The correlation id of an operation is
written once: `ensure` and `adopt` give the very context back if it has an id.  `Ensured` says all that
`ensure` does.
-/

namespace Observability

namespace Context

/-- A context without values. -/
def create : Act Context := do return empty (← Act.freshStorage)

/-- A context that also carries `value`. -/
def withValue (ctx : Context) (slot : Slot) (value : slot.Value) : Act Context := do
  return ctx.insert (← Act.freshStorage) slot value

/-- A context that carries a correlation id, and the id; a new one is generated if there is none. -/
def ensureCorrelationId (ctx : Context) : Act (Context × CorrelationId) :=
  match ctx.correlationId? with
  | some id => return (ctx, id)
  | none => do
    let id ← Act.freshCorrelationId
    return (← ctx.withValue .correlation id, id)

/-- A context that carries the id received from elsewhere, unless it carries one already. -/
def adoptCorrelationId (ctx : Context) (id : CorrelationId) : Act Context :=
  match ctx.correlationId? with
  | some _ => return ctx
  | none => ctx.withValue .correlation id

/-- A context whose current span is the given one. -/
def withSpan (ctx : Context) (span : SpanHandle) : Act Context := ctx.withValue .span span

/-! ## Laws of deriving -/

@[simp] theorem runOn_create (c : Collector) :
    Act.runOn create c =
      (.ok (empty c.storageCount), { c with storageCount := c.storageCount + 1 }) := rfl

@[simp] theorem runOn_withValue (ctx : Context) (slot : Slot) (value : slot.Value) (c : Collector) :
    Act.runOn (ctx.withValue slot value) c =
      (.ok (ctx.insert c.storageCount slot value),
        { c with storageCount := c.storageCount + 1 }) := rfl

@[simp] theorem runOn_withSpan (ctx : Context) (span : SpanHandle) (c : Collector) :
    Act.runOn (ctx.withSpan span) c =
      (.ok (ctx.insert c.storageCount .span span),
        { c with storageCount := c.storageCount + 1 }) := rfl

/-- A context with an id is given back as it is. -/
theorem runOn_ensureCorrelationId_of_some {ctx : Context} {id : CorrelationId}
    (h : ctx.correlationId? = some id) (c : Collector) :
    Act.runOn ctx.ensureCorrelationId c = (.ok (ctx, id), c) := by
  simp [ensureCorrelationId, h]

/-- A context without an id gets the next one of the supply. -/
theorem runOn_ensureCorrelationId_of_none {ctx : Context} (h : ctx.correlationId? = none)
    (c : Collector) :
    Act.runOn ctx.ensureCorrelationId c =
      (.ok (ctx.insert c.storageCount .correlation ⟨c.idText c.idCount⟩, ⟨c.idText c.idCount⟩),
        { c with idCount := c.idCount + 1, storageCount := c.storageCount + 1 }) := by
  simp [ensureCorrelationId, h, Act.freshCorrelationId]

theorem runOn_adoptCorrelationId_of_some {ctx : Context} {id : CorrelationId}
    (h : ctx.correlationId? = some id) (offered : CorrelationId) (c : Collector) :
    Act.runOn (ctx.adoptCorrelationId offered) c = (.ok ctx, c) := by
  simp [adoptCorrelationId, h]

theorem runOn_adoptCorrelationId_of_none {ctx : Context} (h : ctx.correlationId? = none)
    (offered : CorrelationId) (c : Collector) :
    Act.runOn (ctx.adoptCorrelationId offered) c =
      (.ok (ctx.insert c.storageCount .correlation offered),
        { c with storageCount := c.storageCount + 1 }) := by
  simp [adoptCorrelationId, h]

/-- `mid` is `ctx` made sure to carry an id, which is `id`: the one that it has or else the next one of the
supply. -/
structure Ensured (ctx : Context) (c : Collector) (mid : Context) (id : CorrelationId)
    (c' : Collector) : Prop where
  given : id = ctx.correlationId?.getD ⟨c.idText c.idCount⟩
  carries : mid.correlationId? = some id
  others : ∀ slot, slot ≠ .correlation → mid.get slot = ctx.get slot
  unchanged : ctx.correlationId?.isSome = true → mid = ctx ∧ c' = c
  supplied : ctx.correlationId? = none → c'.idCount = c.idCount + 1
  rest : ∃ idCount storageCount, c' = { c with idCount, storageCount }

/-- A context can always be made sure to carry an id. -/
theorem exists_ensured (ctx : Context) (c : Collector) :
    ∃ mid id c', Act.runOn ctx.ensureCorrelationId c = (.ok (mid, id), c') ∧
      ctx.Ensured c mid id c' := by
  cases hid : ctx.correlationId? with
  | some id =>
    refine ⟨ctx, id, c, runOn_ensureCorrelationId_of_some hid c, ?_⟩
    exact ⟨by rw [hid]; rfl, hid, fun _ _ => rfl, fun _ => ⟨rfl, rfl⟩, fun h => by simp [hid] at h,
      _, _, rfl⟩
  | none =>
    refine ⟨_, _, _, runOn_ensureCorrelationId_of_none hid c, ?_⟩
    exact ⟨by rw [hid]; rfl, correlationId?_insert_correlation _ _ _,
      fun _ h => get_insert_of_ne _ _ _ h, fun h => by simp [hid] at h, fun _ => rfl, _, _, rfl⟩

end Context

end Observability
