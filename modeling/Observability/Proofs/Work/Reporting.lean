import Observability.Log.RecordingSink
import Observability.Proofs.Work.Handling
import Observability.Tracing.ScriptedTransport

/-!
# Where the id of a unit of work shows

A unit of work shows its id in its answer, in its line and in its span, and the id has three sources: the
request, the facility, or none.

* `GivesIds β φ` is asked of facilities: a start never fails and leaves the id of its context alone, except
  that some facilities give one to a context that has none; an end never fails.
* Span facilities over a wrapped tracer generate ids; those over a bare tracer and recording facilities
  do not.
* `idIn β registry headers c` is the id that the work is to be done under.
* `Reporting β registry logger headers id c inbound ctx c₀ c₁` follows the work call by call: the collector
  that one call leaves is the one that the next call finds, so that there is no other call.

`one_id_reported` says that every request, whatever its headers, is reported under that one id.
-/

namespace Observability

/-- What facilities do about correlation ids.  A facility that `generates` gives the next id of the supply
to a context that has none; otherwise a start leaves the id of the context as it is. -/
class GivesIds (β φ : Type) [TracingFacility φ β] where
  generates : φ → Bool
  exists_start : ∀ (facility : φ) (ctx : Context) (name : String) (c : Collector),
    ∃ ctx' c', Act.runOn (TracingFacility.startSpan β facility ctx name) c = (.ok ctx', c') ∧
      ctx'.correlationId? =
        ctx.correlationId?.or (if generates facility then some ⟨c.idText c.idCount⟩ else none)
  exists_end : ∀ (facility : φ) (ctx : Context) (status : HttpStatus) (error : Option String)
    (c : Collector), ∃ c', Act.runOn (TracingFacility.endSpan β facility ctx status error) c = (.ok (), c')

/-! ## The facilities of the library -/

namespace SpanFacility

variable {τ : Type} [SpanBackend τ]

/-- The context that a tracer gives is the one that the facility gives. -/
theorem runOn_startSpan_of_start (facility : SpanFacility τ) {ctx ctx' : Context} {name : String}
    {span : SpanHandle} {c c' : Collector}
    (h : Act.runOn (facility.tracer.start ctx name []) c = (.ok (ctx', span), c')) :
    ∃ c'', Act.runOn (facility.startSpan ctx name) c = (.ok ctx', c'') := by
  rw [startSpan, Act.runOn_bind, h]
  exact ⟨_, rfl⟩

/-- A start leaves an id alone; a context without one gets the next of the supply if the tracer is
wrapped. -/
theorem exists_startSpan_with_id [CarriesSpans τ] [KeepsIds τ] (facility : SpanFacility τ) (ctx : Context)
    (name : String) (c : Collector) :
    ∃ ctx' c', Act.runOn (facility.startSpan ctx name) c = (.ok ctx', c') ∧
      ctx'.correlationId? = ctx.correlationId?.or
        (if 0 < facility.tracer.wrappers then some ⟨c.idText c.idCount⟩ else none) := by
  obtain ⟨tracer⟩ := facility
  cases tracer with
  | backend tracer =>
    obtain ⟨ctx', span, c', hstart, -⟩ := CarriesSpans.start tracer ctx name [] c
    obtain ⟨c'', hgiven⟩ := runOn_startSpan_of_start ⟨.backend tracer⟩ hstart
    refine ⟨ctx', c'', hgiven, ?_⟩
    simpa [Tracer.wrappers] using KeepsIds.start hstart
  | correlated inner =>
    obtain ⟨mid, id, c₁, hensure, hensured⟩ := ctx.exists_ensured c
    obtain ⟨ctx', span, c₂, hstart, -⟩ := CarriesSpans.start inner.root mid name
      ([] ++ Tracer.wrapperOptions (inner.wrappers + 1) id) c₁
    have hkept := KeepsIds.start hstart
    rw [← Tracer.runOn_start_correlated hensure hensured.carries inner name []] at hstart
    obtain ⟨c'', hgiven⟩ := runOn_startSpan_of_start ⟨.correlated inner⟩ hstart
    refine ⟨ctx', c'', hgiven, ?_⟩
    rw [hkept, hensured.carries, hensured.given]
    cases ctx.correlationId? with
    | none => simp [Tracer.wrappers]
    | some id => rfl

theorem exists_endSpan (ctx : Context) (status : HttpStatus) (error : Option String) (c : Collector) :
    ∃ c', Act.runOn (endSpan ctx status error) c = (.ok (), c') := by
  obtain ⟨spans, journal, hrun, -⟩ := endSpan_onSpans ctx ⟨status, error⟩ c
  exact ⟨_, hrun⟩

instance {β : Type} [CarriesSpans τ] [KeepsIds τ] : GivesIds β (SpanFacility τ) where
  generates facility := 0 < facility.tracer.wrappers
  exists_start facility ctx name c := by
    obtain ⟨ctx', c', hstart, hid⟩ := facility.exists_startSpan_with_id ctx name c
    exact ⟨ctx', c', hstart, by simpa using hid⟩
  exists_end _ := exists_endSpan

end SpanFacility

namespace RecordingFacility

instance {β : Type} : GivesIds β RecordingFacility where
  generates _ := false
  exists_start facility ctx name c := by
    refine ⟨_, _, facility.runOn_startSpan ctx name c, ?_⟩
    rw [Context.correlationId?_insert_of_ne _ _ _ (by decide)]
    exact Option.or_none.symm
  exists_end facility ctx status error c := ⟨_, facility.runOn_endSpan ctx status error c⟩

end RecordingFacility

instance {β : Type} : GivesIds β Facility where
  generates
    | .spans facility => GivesIds.generates β facility
    | .recording facility => GivesIds.generates β facility
  exists_start facility := by
    cases facility with
    | spans facility => exact GivesIds.exists_start (β := β) facility
    | recording facility => exact GivesIds.exists_start (β := β) facility
  exists_end facility := by
    cases facility with
    | spans facility => exact GivesIds.exists_end (β := β) facility
    | recording facility => exact GivesIds.exists_end (β := β) facility

namespace Work

variable {β φ σ : Type} [TracingFacility φ β] [LogSink Act σ]

/-! ## What is read of a request -/

/-- Nothing is read of a request but the first value of the header. -/
theorem handle_congr {headers other : Headers}
    (h : other.first? correlationKey = headers.first? correlationKey) (logger : Logger σ) :
    (handle β logger other : RegistryAct φ (Option String)) = handle β logger headers := by
  simp only [handle, inboundContext, inboundId?, h]

/-- The context of a request carries nothing but the id. -/
theorem get_of_inbound {headers : Headers} {inbound : Context} {c c₀ : Collector}
    (h : Act.runOn (inboundContext headers) c = (.ok inbound, c₀)) {slot : Slot}
    (hslot : slot ≠ .correlation) : inbound.get slot = none := by
  rw [inboundContext, Act.runOn_bind, Context.runOn_create] at h
  cases hread : inboundId? headers with
  | none =>
    simp only [hread] at h
    obtain rfl := Except.ok.inj (Prod.mk.inj h).1
    rfl
  | some text =>
    simp only [hread] at h
    rw [Context.runOn_adoptCorrelationId_of_none (by rfl)] at h
    obtain rfl := Except.ok.inj (Prod.mk.inj h).1
    exact Context.get_insert_of_ne _ _ _ hslot

/-! ## The work, call by call -/

section

variable (β) (registry : Registry φ)

/-- The id that the work is to be done under: the one that the request brings, or else the one that the
registered facility generates. -/
def idIn [GivesIds β φ] (headers : Headers) (c : Collector) : Option String :=
  (inboundId? headers).or
    (if registry.facility.any (GivesIds.generates β) then some (c.idText c.idCount) else none)

/-- The span is started in the context of the request, then the line is written, and then the span ends,
all under `id`. -/
structure Reporting (logger : Logger σ) (headers : Headers) (id : Option String) (c : Collector)
    (inbound ctx : Context) (c₀ c₁ : Collector) : Prop where
  received : Act.runOn (inboundContext headers) c = (.ok inbound, c₀)
  adopted : inbound.correlationId? = (inboundId? headers).map CorrelationId.mk
  others : ∀ slot, slot ≠ .correlation → inbound.get slot = none
  unregistered : registry.facility = none → ctx = inbound ∧ c₁ = c₀
  started : ∀ facility, registry.facility = some facility →
    Act.runOn (TracingFacility.startSpan β facility inbound "HandleWork") c₀ = (.ok ctx, c₁)
  carries : ctx.correlationId?.map (·.text) = id
  /-- with a logger that crashes on the line, nothing more is done -/
  crashes : ∀ crash c₂,
    Act.runOn (logger.info "Handling work" [.text "correlation_id" (id.getD "")]) c₁ =
      (.error crash, c₂) →
    RegistryAct.runOn (handle β logger headers) registry c = ((.error crash, registry), c₂)
  /-- the span that ends is the one that was started, and the answer names the id -/
  answers : ∀ c₂,
    Act.runOn (logger.info "Handling work" [.text "correlation_id" (id.getD "")]) c₁ = (.ok (), c₂) →
    ∃ c₃, (registry.facility = none → c₃ = c₂) ∧
      (∀ facility, registry.facility = some facility →
        Act.runOn (TracingFacility.endSpan β facility ctx 200 none) c₂ = (.ok (), c₃)) ∧
      RegistryAct.runOn (answer <$> handle β logger headers) registry c =
        ((.ok (.object [("correlation_id", id.elim .null .string)]), registry), c₃)

variable [GivesIds β φ]

/-- Whatever is registered, a span is started under the id that the work is to be done under. -/
theorem exists_started {headers : Headers} {inbound : Context} {c c₀ : Collector}
    (hadopted : inbound.correlationId? = (inboundId? headers).map CorrelationId.mk)
    (htext : c₀.idText = c.idText) (hcount : c₀.idCount = c.idCount) :
    ∃ ctx c₁, (registry.facility = none → ctx = inbound ∧ c₁ = c₀) ∧
      (∀ facility, registry.facility = some facility →
        Act.runOn (TracingFacility.startSpan β facility inbound "HandleWork") c₀ = (.ok ctx, c₁)) ∧
      ctx.correlationId?.map (·.text) = idIn β registry headers c ∧
      RegistryAct.runOn (Registry.startSpan β inbound "HandleWork") registry c₀ =
        ((.ok ctx, registry), c₁) := by
  cases hfacility : registry.facility with
  | none =>
    refine ⟨inbound, c₀, fun _ => ⟨rfl, rfl⟩, by simp, ?_, Registry.runOn_startSpan_none hfacility _ _ _⟩
    rw [hadopted, idIn, hfacility]
    cases inboundId? headers <;> rfl
  | some facility =>
    obtain ⟨ctx, c₁, hstart, hid⟩ := GivesIds.exists_start (β := β) facility inbound "HandleWork" c₀
    refine ⟨ctx, c₁, by simp, ?_, ?_, ?_⟩
    · intro other hother
      obtain rfl := Option.some.inj hother
      exact hstart
    · rw [hid, hadopted, htext, hcount, idIn, hfacility, Option.any_some]
      cases inboundId? headers <;> cases GivesIds.generates β facility <;> rfl
    · rw [Registry.runOn_startSpan_some hfacility, hstart]

/-- Whatever is registered, the span of a context ends. -/
theorem exists_ended (ctx : Context) (c₂ : Collector) :
    ∃ c₃, (registry.facility = none → c₃ = c₂) ∧
      (∀ facility, registry.facility = some facility →
        Act.runOn (TracingFacility.endSpan β facility ctx 200 none) c₂ = (.ok (), c₃)) ∧
      RegistryAct.runOn (Registry.endSpan β ctx 200 none) registry c₂ = ((.ok (), registry), c₃) := by
  cases hfacility : registry.facility with
  | none => exact ⟨c₂, fun _ => rfl, by simp, Registry.runOn_endSpan_none hfacility _ _ _ _⟩
  | some facility =>
    obtain ⟨c₃, hend⟩ := GivesIds.exists_end (β := β) facility ctx 200 none c₂
    refine ⟨c₃, by simp, ?_, ?_⟩
    · intro other hother
      obtain rfl := Option.some.inj hother
      exact hend
    · rw [Registry.runOn_endSpan_some hfacility, hend]

/-- **One id in three places.**  A unit of work is done under the first value of the header if this can be
read, whatever else the request brings; otherwise under the id that the facility generates, if it does; and
otherwise under none.  Its span is started under this id, its line carries it, the span that ends is the one
that was started, and the id is the answer. -/
theorem one_id_reported (logger : Logger σ) (headers : Headers) (c : Collector) :
    (∀ other : Headers, (other.all correlationKey).head? = (headers.all correlationKey).head? →
      (handle β logger other : RegistryAct φ (Option String)) = handle β logger headers) ∧
    inboundId? headers = (headers.all correlationKey).head?.bind HeaderValue.toText? ∧
    ∃ inbound ctx c₀ c₁,
      Reporting β registry logger headers (idIn β registry headers c) c inbound ctx c₀ c₁ := by
  refine ⟨?_, by rw [inboundId?, Headers.first?_eq_head?_all], ?_⟩
  · intro other hfirst
    rw [← Headers.first?_eq_head?_all, ← Headers.first?_eq_head?_all] at hfirst
    exact handle_congr hfirst logger
  obtain ⟨inbound, c₀, hinbound, hadopted, htext, hcount⟩ := exists_inboundContext headers c
  obtain ⟨ctx, c₁, hnone, hsome, hid, hrun⟩ := exists_started β registry hadopted htext hcount
  have hfinishes : RegistryAct.runOn (handle β logger headers) registry c =
      RegistryAct.runOn (finish β logger ctx) registry c₁ := by
    rw [handle_eq, RegistryAct.runOn_bind, context, RegistryAct.runOn_bind, RegistryAct.runOn_lift,
      hinbound]
    simp only [hrun]
  simp only [finish, hid] at hfinishes
  refine ⟨inbound, ctx, c₀, c₁, hinbound, hadopted, fun slot => get_of_inbound hinbound, hnone, hsome,
    hid, ?_, ?_⟩
  · intro crash c₂ hlogged
    rw [hfinishes, RegistryAct.runOn_bind, RegistryAct.runOn_lift, hlogged]
  · intro c₂ hlogged
    obtain ⟨c₃, hended, hends, hrun₃⟩ := exists_ended β registry ctx c₂
    refine ⟨c₃, hended, hends, ?_⟩
    rw [RegistryAct.runOn_map, hfinishes, RegistryAct.runOn_bind, RegistryAct.runOn_lift, hlogged]
    simp only [RegistryAct.runOn_bind, hrun₃, RegistryAct.runOn_pure, answer]
    cases idIn β registry headers c <;> rfl

end

/-- A request whose first value cannot be read, and the second one can. -/
def hiddenHeaders : Headers :=
  [(correlationKey, ⟨[0xE9], by decide⟩), (correlationKey, ⟨[0x61], by decide⟩)]

/-- A request with two values that can be read. -/
def repeatedHeaders : Headers :=
  [(correlationKey, ⟨[0x61, 0x20, 0x62], by decide⟩), (correlationKey, ⟨[0x63], by decide⟩)]

/-- A value that cannot be read hides the readable one behind it: under a recording facility the work is
done under no id, between one start and one end.  Of two that can be read the first one is the id. -/
theorem one_id_reported_hidden :
    let registry : Registry RecordingFacility := ⟨some ⟨"f"⟩⟩
    let logger : Logger RecordingSink := ⟨{ id := 1 }, 0⟩
    let c : Collector := { idText := fun _ => "generated" }
    let work (headers : Headers) := RegistryAct.runOn
      (answer <$> handle ScriptedTransport logger headers) registry c
    (∃ inbound ctx c₀ c₁,
      Reporting ScriptedTransport registry logger hiddenHeaders none c inbound ctx c₀ c₁) ∧
    (work hiddenHeaders).1.1 = .ok (.object [("correlation_id", .null)]) ∧
    (work hiddenHeaders).2.journal =
      [.facility "f" (.startSpan "HandleWork"), .sink 1 (.enabled 0),
        .sink 1 (.info 0 "Handling work" [.text "correlation_id" ""] [] ""),
        .facility "f" (.endSpan 200 none (some "f"))] ∧
    (∃ inbound ctx c₀ c₁,
      Reporting ScriptedTransport registry logger repeatedHeaders (some "a b") c inbound ctx c₀ c₁) ∧
    (work repeatedHeaders).1.1 = .ok (.object [("correlation_id", .string "a b")]) ∧
    (work repeatedHeaders).2.journal =
      [.facility "f" (.startSpan "HandleWork"), .sink 1 (.enabled 0),
        .sink 1 (.info 0 "Handling work" [.text "correlation_id" "a b"] [] ""),
        .facility "f" (.endSpan 200 none (some "f"))] := by
  intro registry logger c work
  have hreported (headers : Headers) := (one_id_reported ScriptedTransport registry logger headers c).2.2
  exact ⟨hreported hiddenHeaders, rfl, rfl, hreported repeatedHeaders, rfl, rfl⟩

end Work

end Observability
