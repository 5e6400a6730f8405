import Observability.Proofs.Span.Outcome
import Observability.Proofs.Transport.Correlation
import Observability.Work

/-!
# How a unit of work is done

A service does a unit of work under one context: that of the request, in which the facility, if one is
registered, has started a span.

* `Work.context` gives this context, and `Work.finish` is what is left to do under it.
* `Work.idOf serving headers c` is the id of the work: the one that the request brings, or else the next
  of the supply if a facility is registered.
* `Handling β id serving logger headers c ctx c₁` says that a service which is asked with `headers` does
  its work under `id`: its span is started under it, its line carries it, and it is the answer.

`exists_handling` says that every request is handled under its id.  `serving` is what the registered
facility traces with, if one is registered.
-/

namespace Observability.Work

/-- The context that a unit of work is done under. -/
def context (β : Type) {φ : Type} [TracingFacility φ β] (headers : Headers) : RegistryAct φ Context := do
  let inbound ← (inboundContext headers : Act Context)
  Registry.startSpan β inbound "HandleWork"

/-- The work itself: it is logged, the span ends, and the id is the answer. -/
def finish (β : Type) {φ σ : Type} [TracingFacility φ β] [LogSink Act σ] (logger : Logger σ)
    (ctx : Context) : RegistryAct φ (Option String) := do
  let id := ctx.correlationId?.map (·.text)
  (logger.info "Handling work" [.text "correlation_id" (id.getD "")] : Act Unit)
  Registry.endSpan β ctx 200 none
  return id

/-- A registry with a facility over a wrapped tracer, or with none. -/
def registryOf {τ : Type} (serving : Option (Tracer τ)) : Registry (SpanFacility τ) :=
  ⟨serving.map SpanFacility.over⟩

@[simp] theorem facility_registryOf {τ : Type} (serving : Option (Tracer τ)) :
    (registryOf serving).facility = serving.map SpanFacility.over := rfl

/-- The id that the work is done under, if there is one. -/
def idOf {τ : Type} (serving : Option (Tracer τ)) (headers : Headers) (c : Collector) :
    Option CorrelationId :=
  match inboundId? headers with
  | some text => some ⟨text⟩
  | none => serving.map fun _ => ⟨c.idText c.idCount⟩

variable {β τ σ : Type} [SpanBackend τ] [LogSink Act σ]

theorem handle_eq {φ : Type} [TracingFacility φ β] (logger : Logger σ) (headers : Headers) :
    (handle β logger headers : RegistryAct φ (Option String)) =
      context β headers >>= finish β logger := by
  simp only [handle, context, bind_assoc]
  rfl

/-! ## The context of the work -/

/-- A request brings its context the id that it is asked to adopt. -/
theorem exists_inboundContext (headers : Headers) (c : Collector) :
    ∃ inbound c₀, Act.runOn (inboundContext headers) c = (.ok inbound, c₀) ∧
      inbound.correlationId? = (inboundId? headers).map CorrelationId.mk ∧
      c₀.idText = c.idText ∧ c₀.idCount = c.idCount := by
  rw [inboundContext, Act.runOn_bind, Context.runOn_create]
  cases inboundId? headers with
  | none => exact ⟨_, _, rfl, rfl, rfl, rfl⟩
  | some text =>
    simp only
    rw [Context.runOn_adoptCorrelationId_of_none (by rfl)]
    exact ⟨_, _, rfl, Context.correlationId?_insert_correlation _ _ _, rfl, rfl⟩

theorem correlationId?_of_inbound {headers : Headers} {inbound : Context} {c c₀ : Collector}
    (h : Act.runOn (inboundContext headers) c = (.ok inbound, c₀)) :
    inbound.correlationId? = (inboundId? headers).map CorrelationId.mk := by
  obtain ⟨made, c', hrun, hmade, -⟩ := exists_inboundContext headers c
  rw [h] at hrun
  obtain rfl := Except.ok.inj (Prod.mk.inj hrun).1
  exact hmade

/-- A single tracer starts a single span. -/
theorem startsUnder_singleton {id : CorrelationId} {name : String} {inner : Tracer τ} {parent : Context}
    {started : List (Context × SpanHandle)} {c c' : Collector}
    (h : Transport.StartsUnder id name [inner] parent c started c') :
    ∃ ctx span, started = [(ctx, span)] ∧
      Act.runOn ((SpanFacility.over inner).startSpan parent name) c = (.ok ctx, c') := by
  cases h with
  | cons carried start tagged given next =>
    cases next
    exact ⟨_, _, rfl, given⟩

/-- A facility that is registered starts the span under the id of the context, or else under the next of
the supply; without one the context stays as it is. -/
theorem exists_startSpan [CarriesSpans τ] [KeepsIds τ] (β : Type) (serving : Option (Tracer τ))
    (inbound : Context) (c₀ : Collector) :
    let id := inbound.correlationId?.or (serving.map fun _ => ⟨c₀.idText c₀.idCount⟩)
    ∃ started ctx c₁,
      Transport.StartsUnder (id.getD default) "HandleWork" serving.toList inbound c₀ started c₁ ∧
      ctx = (started.getLast?.map Prod.fst).getD inbound ∧ ctx.correlationId? = id ∧
      RegistryAct.runOn (Registry.startSpan β inbound "HandleWork") (registryOf serving) c₀ =
        ((.ok ctx, registryOf serving), c₁) := by
  intro id
  cases serving with
  | none =>
    have hid : inbound.correlationId? = id := Option.or_none.symm
    exact ⟨[], inbound, c₀, .nil inbound c₀, rfl, hid, Registry.runOn_startSpan_none rfl _ _ _⟩
  | some inner =>
    have hsome : id = some (inbound.correlationId?.getD ⟨c₀.idText c₀.idCount⟩) := by
      show inbound.correlationId?.or (some ⟨c₀.idText c₀.idCount⟩) = _
      cases inbound.correlationId? <;> rfl
    rw [hsome, Option.getD_some]
    obtain ⟨started, c₁, hstarts, hall⟩ := Transport.exists_startsUnder "HandleWork" [inner] rfl
    obtain ⟨ctx, span, rfl, hgiven⟩ := startsUnder_singleton hstarts
    have hanswer : Act.runOn (TracingFacility.startSpan β (SpanFacility.over inner) inbound
        "HandleWork") c₀ = (.ok ctx, c₁) := hgiven
    refine ⟨_, ctx, c₁, hstarts, rfl, (hall _ List.mem_cons_self).1, ?_⟩
    rw [Registry.runOn_startSpan_some (facility_registryOf (some inner)), hanswer]

/-! ## The work under its context -/

/-- The span of the context ends, whatever is registered. -/
theorem exists_endSpan (β : Type) (serving : Option (Tracer τ)) (ctx : Context) (c : Collector) :
    ∃ c', RegistryAct.runOn (Registry.endSpan β ctx 200 none) (registryOf serving) c =
      ((.ok (), registryOf serving), c') := by
  cases serving with
  | none => exact ⟨c, Registry.runOn_endSpan_none rfl _ _ _ _⟩
  | some inner =>
    obtain ⟨spans, journal, hrun, -⟩ := SpanFacility.endSpan_onSpans ctx ⟨200, none⟩ c
    have hasked : Act.runOn (TracingFacility.endSpan β (SpanFacility.over inner) ctx 200 none) c =
        (.ok (), { c with spans, journal }) := hrun
    refine ⟨{ c with spans, journal }, ?_⟩
    rw [Registry.runOn_endSpan_some (facility_registryOf (some inner)), hasked]

/-- Asked with `headers`, the service does its work under `ctx`, all of it under one id, if it has one. -/
structure Handling (β : Type) (id : Option CorrelationId) (serving : Option (Tracer τ))
    (logger : Logger σ) (headers : Headers) (c : Collector) (ctx : Context) (c₁ : Collector) : Prop where
  /-- the span is started under the id -/
  starts : ∃ inbound c₀ started, Act.runOn (inboundContext headers) c = (.ok inbound, c₀) ∧
    Transport.StartsUnder (id.getD default) "HandleWork" serving.toList inbound c₀ started c₁ ∧
    ctx = (started.getLast?.map Prod.fst).getD inbound
  context : RegistryAct.runOn (context β headers) (registryOf serving) c =
    ((.ok ctx, registryOf serving), c₁)
  carries : ctx.correlationId? = id
  /-- the line carries the id, the span that ends is the one of the context, and the id is the answer -/
  finishes : RegistryAct.runOn (handle β logger headers) (registryOf serving) c =
    RegistryAct.runOn (do
      (logger.info "Handling work" [.text "correlation_id" ((id.map (·.text)).getD "")] : Act Unit)
      Registry.endSpan β ctx 200 none
      return id.map (·.text)) (registryOf serving) c₁
  /-- the answer is given once the logger has taken the line -/
  answers : ∀ c₂,
    Act.runOn (logger.info "Handling work" [.text "correlation_id" ((id.map (·.text)).getD "")]) c₁ =
      (.ok (), c₂) →
    ∃ c₃, RegistryAct.runOn (handle β logger headers) (registryOf serving) c =
      ((.ok (id.map (·.text)), registryOf serving), c₃)

/-- **Units of work.**  A service works under the id that the request brings, if it brings one that is
readable; otherwise under one that its facility generates, or under none if there is no facility. -/
theorem exists_handling [CarriesSpans τ] [KeepsIds τ] (β : Type) (serving : Option (Tracer τ))
    (logger : Logger σ) (headers : Headers) (c : Collector) :
    ∃ ctx c₁, Handling β (idOf serving headers c) serving logger headers c ctx c₁ := by
  obtain ⟨inbound, c₀, hinbound, hadopted, htext, hcount⟩ := exists_inboundContext headers c
  have hid : inbound.correlationId?.or (serving.map fun _ => ⟨c₀.idText c₀.idCount⟩) =
      idOf serving headers c := by
    rw [hadopted, htext, hcount, idOf]
    cases inboundId? headers <;> rfl
  obtain ⟨started, ctx, c₁, hstarts, hctx, hcarries, hrun⟩ := exists_startSpan β serving inbound c₀
  rw [hid] at hstarts hcarries
  have hcontext : RegistryAct.runOn (context β headers) (registryOf serving) c =
      ((.ok ctx, registryOf serving), c₁) := by
    rw [context, RegistryAct.runOn_bind, RegistryAct.runOn_lift, hinbound]
    exact hrun
  have hfinishes : RegistryAct.runOn (handle β logger headers) (registryOf serving) c =
      RegistryAct.runOn (finish β logger ctx) (registryOf serving) c₁ := by
    rw [handle_eq, RegistryAct.runOn_bind, hcontext]
  simp only [finish, hcarries] at hfinishes
  refine ⟨ctx, c₁, ⟨inbound, c₀, started, hinbound, hstarts, hctx⟩, hcontext, hcarries, hfinishes, ?_⟩
  intro c₂ hlogged
  obtain ⟨c₃, hended⟩ := exists_endSpan β serving ctx c₂
  refine ⟨c₃, ?_⟩
  rw [hfinishes, RegistryAct.runOn_bind, RegistryAct.runOn_lift, hlogged]
  simp only [RegistryAct.runOn_bind, hended, RegistryAct.runOn_pure]

/-- A service that is asked with a readable id works under it. -/
theorem exists_handling_of_some [CarriesSpans τ] [KeepsIds τ] (β : Type) (serving : Option (Tracer τ))
    (logger : Logger σ) {headers : Headers} {text : String} (hread : inboundId? headers = some text)
    (c : Collector) : ∃ ctx c₁, Handling β (some ⟨text⟩) serving logger headers c ctx c₁ := by
  have handling := exists_handling β serving logger headers c
  rwa [idOf, hread] at handling

/-- A service that is asked with none works under the next of the supply if it has a facility. -/
theorem exists_handling_of_none [CarriesSpans τ] [KeepsIds τ] (β : Type) (serving : Option (Tracer τ))
    (logger : Logger σ) {headers : Headers} (hread : inboundId? headers = none) (c : Collector) :
    ∃ ctx c₁, Handling β (serving.map fun _ => ⟨c.idText c.idCount⟩) serving logger headers c ctx c₁ := by
  have handling := exists_handling β serving logger headers c
  rwa [idOf, hread] at handling

/-- If the service answers, then with the id. -/
theorem Handling.answer_eq {id : Option CorrelationId} {serving : Option (Tracer τ)} {logger : Logger σ}
    {headers : Headers} {c c₁ : Collector} {ctx : Context}
    (h : Handling β id serving logger headers c ctx c₁) {answer : Option String}
    {registry : Registry (SpanFacility τ)} {c₃ : Collector}
    (hanswer : RegistryAct.runOn (handle β logger headers) (registryOf serving) c =
      ((.ok answer, registry), c₃)) : answer = id.map (·.text) := by
  rw [h.finishes] at hanswer
  simp only [RegistryAct.runOn_bind, RegistryAct.runOn_lift, RegistryAct.runOn_pure] at hanswer
  split at hanswer
  · split at hanswer
    · exact (Except.ok.inj (Prod.mk.inj (Prod.mk.inj hanswer).1).1).symm
    · cases hanswer
  · cases hanswer

end Observability.Work
