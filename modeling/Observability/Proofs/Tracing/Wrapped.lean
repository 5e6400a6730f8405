import Observability.Proofs.Span.History

/-!
# Tracers in wrappers

A tracer is a backend in any number of wrappers.  However many there are, the backend is started once:
by then the context carries a correlation id, and the options of the wrappers stand behind those of the
caller (`Tracer.runOn_start_correlated`).

What is asked of a backend is said by laws, so that what follows from them holds of any backend:

* `CarriesSpans` says that a start gives a span and a context that carries it;
* `KeepsIds` says that a start leaves the correlation id of its context alone.

The backends of the library keep both.
-/

namespace Observability

/-- Actions that give the same everywhere are the same. -/
theorem Act.ext {α : Type} {a b : Act α} (h : ∀ c, runOn a c = runOn b c) : a = b :=
  funext h

/-! ## What the backend is asked for -/

namespace Tracer

variable {τ : Type}

/-- The backend inside the wrappers. -/
def root : Tracer τ → τ
  | .backend tracer => tracer
  | .correlated inner => inner.root

/-- How many wrappers there are. -/
def wrappers : Tracer τ → Nat
  | .backend _ => 0
  | .correlated inner => inner.wrappers + 1

/-- The options that so many wrappers add. -/
def wrapperOptions (count : Nat) (id : CorrelationId) : List StartOption :=
  (List.replicate count (correlationOptions id)).flatten

/-- Of several wrappers, the last adds the options of one. -/
theorem wrapperOptions_succ (count : Nat) (id : CorrelationId) :
    wrapperOptions (count + 1) id = wrapperOptions count id ++ correlationOptions id := by
  rw [wrapperOptions, List.replicate_succ', List.flatten_append, List.flatten_singleton,
    ← wrapperOptions]

/-- Behind the options of at least one wrapper, the id is the value of its attribute. -/
theorem valueOf?_wrapperOptions (options : List StartOption) (count : Nat) (id : CorrelationId) :
    (SpanSettings.ofOptions (options ++ wrapperOptions (count + 1) id)).valueOf? correlationKey =
      some (.string id.text) := by
  rw [wrapperOptions_succ, ← List.append_assoc, SpanSettings.ofOptions_append]
  exact Attribute.find?_put_self ⟨correlationKey, .string id.text⟩ _

variable [SpanBackend τ]

/-- Under an id that its context carries, a tracer starts its backend with the options of its wrappers
behind the caller's. -/
theorem start_of_carried {ctx : Context} {id : CorrelationId} (hid : ctx.correlationId? = some id)
    (tracer : Tracer τ) (name : String) (options : List StartOption) :
    tracer.start ctx name options =
      SpanBackend.start tracer.root ctx name (options ++ wrapperOptions tracer.wrappers id) := by
  induction tracer generalizing options with
  | backend tracer => simp [start, root, wrappers, wrapperOptions]
  | correlated inner ih =>
    have hoptions : (options ++ correlationOptions id) ++ wrapperOptions inner.wrappers id =
        options ++ wrapperOptions (inner.wrappers + 1) id := by
      rw [wrapperOptions, wrapperOptions, List.replicate_succ, List.flatten_cons, List.append_assoc]
    refine Act.ext fun c => ?_
    rw [start, Act.runOn_bind, Context.runOn_ensureCorrelationId_of_some hid]
    show Act.runOn (inner.start ctx name (options ++ correlationOptions id)) c = _
    rw [ih, hoptions]
    rfl

/-- A tracer in wrappers has the context carry an id, and starts its backend once. -/
theorem runOn_start_correlated {ctx mid : Context} {id : CorrelationId} {c c' : Collector}
    (hensure : Act.runOn ctx.ensureCorrelationId c = (.ok (mid, id), c'))
    (hmid : mid.correlationId? = some id) (inner : Tracer τ) (name : String)
    (options : List StartOption) :
    Act.runOn ((correlated inner).start ctx name options) c =
      Act.runOn (SpanBackend.start inner.root mid name
        (options ++ wrapperOptions (inner.wrappers + 1) id)) c' := by
  rw [start, Act.runOn_bind, hensure]
  show Act.runOn (inner.start mid name (options ++ correlationOptions id)) c' = _
  rw [start_of_carried hmid, List.append_assoc]
  rfl

end Tracer

/-! ## What is asked of a backend -/

/-- A start gives a span, and a context that carries it. -/
class CarriesSpans (τ : Type) [SpanBackend τ] : Prop where
  start : ∀ (tracer : τ) (ctx : Context) (name : String) (options : List StartOption) (c : Collector),
    ∃ ctx' span c', Act.runOn (SpanBackend.start tracer ctx name options) c = (.ok (ctx', span), c') ∧
      ctx'.span? = some span

/-- A start leaves the correlation id of its context alone. -/
class KeepsIds (τ : Type) [SpanBackend τ] : Prop where
  start : ∀ {tracer : τ} {ctx ctx' : Context} {name : String} {options : List StartOption}
    {span : SpanHandle} {c c' : Collector},
    Act.runOn (SpanBackend.start tracer ctx name options) c = (.ok (ctx', span), c') →
      ctx'.correlationId? = ctx.correlationId?

instance : CarriesSpans Backend where
  start tracer ctx name options c := by
    cases tracer with
    | exporting tracer =>
      obtain ⟨ctx', c', hrun, hspan, -⟩ := tracer.exists_runOn_start ctx name options c
      exact ⟨ctx', _, c', hrun, hspan⟩
    | recording tracer =>
      exact ⟨_, _, _, tracer.runOn_start ctx name options c, Context.get_insert_self _ _ .span _⟩

/-- A tracer in wrappers carries its spans if its backend does. -/
instance {τ : Type} [SpanBackend τ] [CarriesSpans τ] : CarriesSpans (Tracer τ) where
  start tracer ctx name options c := by
    cases tracer with
    | backend tracer => exact CarriesSpans.start tracer ctx name options c
    | correlated inner =>
      obtain ⟨mid, id, c₁, hensure, hensured⟩ := ctx.exists_ensured c
      obtain ⟨ctx', span, c', hrun, hspan⟩ := CarriesSpans.start inner.root mid name
        (options ++ Tracer.wrapperOptions (inner.wrappers + 1) id) c₁
      rw [← Tracer.runOn_start_correlated hensure hensured.carries inner name options] at hrun
      exact ⟨ctx', span, c', hrun, hspan⟩

instance : KeepsIds Backend where
  start {tracer ctx ctx' name options span c c'} h := by
    cases tracer with
    | recording tracer =>
      have hrun := tracer.runOn_start ctx name options c
      obtain ⟨rfl, -⟩ := Prod.mk.inj (Except.ok.inj (Prod.mk.inj (h.symm.trans hrun)).1)
      exact Context.correlationId?_insert_of_ne _ _ _ (by decide)
    | exporting tracer =>
      cases hrecords : tracer.records c with
      | false =>
        have hrun := tracer.runOn_start_of_not_records hrecords ctx name options
        obtain ⟨rfl, -⟩ := Prod.mk.inj (Except.ok.inj (Prod.mk.inj (h.symm.trans hrun)).1)
        exact Context.correlationId?_insert_of_ne _ _ _ (by decide)
      | true =>
        have hrun := tracer.runOn_start_of_records hrecords ctx name options
        obtain ⟨rfl, -⟩ := Prod.mk.inj (Except.ok.inj (Prod.mk.inj (h.symm.trans hrun)).1)
        rw [Context.correlationId?_insert_of_ne _ _ _ (by decide),
          Context.correlationId?_insert_of_ne _ _ _ (by decide)]

end Observability
