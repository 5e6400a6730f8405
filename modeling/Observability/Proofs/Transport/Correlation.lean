import Observability.Proofs.Http.HeaderText
import Observability.Proofs.Tracing.Wrapped
import Observability.Proofs.Transport.Layers

/-!
# One correlation id through a stack of layers

The id of an operation travels by two routes: in the context that each layer hands to the next, and in a
header of the request.  Both arrive at the base with the id that the outermost layer found or generated.

* `SpanFacility.over inner` is a facility over a wrapped tracer, which has every context carry an id.
* `StartsUnder id name tracers parent c started c'` says that the backends of the layers, the outermost
  first, started the spans `started` under one and the same id.
* `entryId request c` is that id: the one of the caller's context, or the next of the supply.

`request_correlated` puts the two routes together.  It asks of a backend that it gives a context that
carries the span it started and leaves the id alone, and of an id that it can stand in a header.
-/

namespace Observability

/-- A facility over a wrapped tracer. -/
def SpanFacility.over {τ : Type} (inner : Tracer τ) : SpanFacility τ := ⟨.correlated inner⟩

namespace Transport

/-! ## The route through the contexts -/

/-- Each layer has its context carry the id and starts its backend with an attribute of that id; the
context that the backend gives goes to the next layer. -/
inductive StartsUnder {τ : Type} [SpanBackend τ] (id : CorrelationId) (name : String) :
    List (Tracer τ) → Context → Collector → List (Context × SpanHandle) → Collector → Prop
  | nil (parent : Context) (c : Collector) : StartsUnder id name [] parent c [] c
  | cons {inner : Tracer τ} {tracers : List (Tracer τ)} {parent mid ctx : Context}
      {span : SpanHandle} {options : List StartOption} {started : List (Context × SpanHandle)}
      {c c₁ c₂ c₃ c' : Collector}
      (carried : Act.runOn parent.ensureCorrelationId c = (.ok (mid, id), c₁))
      (start : Act.runOn (SpanBackend.start inner.root mid name options) c₁ = (.ok (ctx, span), c₂))
      (tagged : (SpanSettings.ofOptions options).valueOf? correlationKey = some (.string id.text))
      (given : Act.runOn ((SpanFacility.over inner).startSpan parent name) c = (.ok ctx, c₃))
      (next : StartsUnder id name tracers ctx c₃ started c') :
      StartsUnder id name (inner :: tracers) parent c ((ctx, span) :: started) c'

variable {τ β : Type} [SpanBackend τ]

/-- The layers start their spans under one id, and every context they give carries it. -/
theorem exists_startsUnder [CarriesSpans τ] [KeepsIds τ] (name : String) (tracers : List (Tracer τ))
    {id : CorrelationId} {parent : Context} {c : Collector}
    (hid : parent.correlationId?.getD ⟨c.idText c.idCount⟩ = id) :
    ∃ started c', StartsUnder id name tracers parent c started c' ∧
      ∀ s ∈ started, s.1.correlationId? = some id ∧ s.1.span? = some s.2 := by
  induction tracers generalizing parent c with
  | nil => exact ⟨[], c, .nil parent c, by simp⟩
  | cons inner tracers ih =>
    obtain ⟨mid, _, c₁, hensure, hensured⟩ := parent.exists_ensured c
    obtain rfl : id = _ := (hensured.given.trans hid).symm
    have hmid := hensured.carries
    obtain ⟨ctx, span, c₂, hstart, hspan⟩ := CarriesSpans.start inner.root mid name
      ([] ++ Tracer.wrapperOptions (inner.wrappers + 1) id) c₁
    have hctx : ctx.correlationId? = some id := (KeepsIds.start hstart).trans hmid
    have hgiven : Act.runOn ((SpanFacility.over inner).startSpan parent name) c =
        (.ok ctx, (Act.runOn (Act.count "telemetry_spans_started_total" []) c₂).2) := by
      rw [SpanFacility.startSpan, Act.runOn_bind, SpanFacility.over,
        Tracer.runOn_start_correlated hensure hmid, hstart]
      rfl
    obtain ⟨started, c', hnext, hall⟩ := @ih ctx _ (by rw [hctx]; rfl)
    exact ⟨(ctx, span) :: started, c',
      .cons hensure hstart (Tracer.valueOf?_wrapperOptions [] inner.wrappers id) hgiven hnext,
      List.forall_mem_cons.mpr ⟨⟨hctx, hspan⟩, hall⟩⟩

/-- Layers that start their spans open, and each gives the context of its backend. -/
theorem StartsUnder.opens {id : CorrelationId} {name : String} {tracers : List (Tracer τ)}
    {parent : Context} {started : List (Context × SpanHandle)} {c c' : Collector}
    (h : StartsUnder id name tracers parent c started c') :
    Opens β name (tracers.map SpanFacility.over) parent c (started.map Prod.fst) c' := by
  induction h with
  | nil parent c => exact .nil parent c
  | cons _ _ _ given _ ih => exact .cons given ih

theorem StartsUnder.length_eq {id : CorrelationId} {name : String} {tracers : List (Tracer τ)}
    {parent : Context} {started : List (Context × SpanHandle)} {c c' : Collector}
    (h : StartsUnder id name tracers parent c started c') : started.length = tracers.length := by
  induction h with
  | nil => rfl
  | cons _ _ _ _ _ ih => simp [ih]

/-! ## The route through the headers -/

/-- A context with an id that can stand in a header puts it there. -/
theorem correlate_of_carried {ctx : Context} {id : CorrelationId} {value : HeaderValue}
    (hid : ctx.correlationId? = some id) (hvalue : HeaderValue.ofText? id.text = some value)
    (headers : Headers) : correlate ctx headers = headers.set correlationKey value := by
  simp [correlate, hid, hvalue]

/-- What layers under one id do to the headers is done by any one of them. -/
theorem headers_carried {ctxs : List Context} {id : CorrelationId} {value : HeaderValue}
    (hne : ctxs ≠ []) (hall : ∀ ctx ∈ ctxs, ctx.correlationId? = some id)
    (hvalue : HeaderValue.ofText? id.text = some value) (request : Request) :
    (carried request ctxs).headers = request.headers.set correlationKey value := by
  induction ctxs generalizing request with
  | nil => exact absurd rfl hne
  | cons ctx ctxs ih =>
    have hfirst := correlate_of_carried (hall ctx List.mem_cons_self) hvalue request.headers
    rw [carried_cons]
    cases ctxs with
    | nil => exact hfirst
    | cons other ctxs =>
      rw [ih (by simp) fun ctx hctx => hall ctx (List.mem_cons_of_mem _ hctx), hfirst,
        Headers.set_set]

/-! ## Both routes together -/

/-- The id that the layers work under: the one of the caller's context, or the next of the supply. -/
def entryId (request : Request) (c : Collector) : CorrelationId :=
  (request.context.bind Context.correlationId?).getD ⟨c.idText c.idCount⟩

/-- The context that the outermost layer gets comes to carry that id. -/
theorem entryContext_getD {request : Request} {c c₀ : Collector} {layers : List (SpanFacility τ)}
    [BaseTransport β]
    (hentry : Act.runOn (forM (entryCalls layers request : List (TransportCall (SpanFacility τ) β))
      TransportCall.make) c = (.ok (), c₀)) :
    (entryContext request c).correlationId?.getD ⟨c₀.idText c₀.idCount⟩ = entryId request c := by
  have hsupply : c₀.idText = c.idText ∧ c₀.idCount = c.idCount := by
    rw [entryCalls] at hentry
    split at hentry
    · obtain rfl := (Prod.mk.inj hentry).2
      exact ⟨rfl, rfl⟩
    · obtain rfl := (Prod.mk.inj hentry).2
      exact ⟨rfl, rfl⟩
  rw [hsupply.1, hsupply.2, entryId, entryContext]
  cases request.context <;> rfl

/-- **The correlation id through a stack of traced layers.**  The layers are facilities over wrapped
tracers, and the id of the caller's context, if there is one, can stand in a header, as generated ids can.
Then all spans are started with an attribute of one id, which is the caller's or else the next of the
supply.  What the base is called with has this id as the only value of its header and all else of the
request as the caller sent it; its context carries this id and the span of the innermost layer. -/
theorem request_correlated [CarriesSpans τ] [KeepsIds τ] [BaseTransport β] (tracers : List (Tracer τ))
    (hlayers : tracers ≠ []) (base : β) (request : Request) (c : Collector)
    (caller : ∀ ctx id, request.context = some ctx → ctx.correlationId? = some id →
      (HeaderValue.ofText? id.text).isSome = true)
    (generated : ∀ n, (HeaderValue.ofText? (c.idText n)).isSome = true) :
    ∃ value c₀ started c₁,
      HeaderValue.ofText? (entryId request c).text = some value ∧
      Act.runOn (forM (entryCalls (tracers.map SpanFacility.over) request :
        List (TransportCall (SpanFacility τ) β)) TransportCall.make) c = (.ok (), c₀) ∧
      StartsUnder (entryId request c) ("HTTP " ++ request.method) tracers (entryContext request c) c₀
        started c₁ ∧
      let sent := carried request (started.map Prod.fst)
      Act.runOn ((stack (tracers.map SpanFacility.over) base).call request) c =
        Act.runOn (do
          let outcome ← BaseTransport.call base sent
          forM (endCalls (tracers.map SpanFacility.over) (started.map Prod.fst) outcome :
            List (TransportCall (SpanFacility τ) β)) TransportCall.make
          return outcome) c₁ ∧
      sent.headers.all correlationKey = [value] ∧
      sent.headers.filter (fun header => header.1 ≠ correlationKey) =
        request.headers.filter (fun header => header.1 ≠ correlationKey) ∧
      sent.method = request.method ∧ sent.uri = request.uri ∧
      ∃ ctx span, started.getLast? = some (ctx, span) ∧ sent.context = some ctx ∧
        ctx.correlationId? = some (entryId request c) ∧ ctx.span? = some span := by
  have hvalid : (HeaderValue.ofText? (entryId request c).text).isSome = true := by
    rw [entryId]
    cases hctx : request.context with
    | none => exact generated c.idCount
    | some ctx =>
      rw [Option.bind_some]
      cases hid : ctx.correlationId? with
      | none => exact generated c.idCount
      | some id => exact caller ctx id hctx hid
  obtain ⟨value, hvalue⟩ := Option.isSome_iff_exists.mp hvalid
  obtain ⟨c₀, hentry, hbare, hparent⟩ :=
    runOn_entryCalls (β := β) (tracers.map SpanFacility.over) request c
  obtain ⟨started, c₁, hstarts, hall⟩ :=
    exists_startsUnder ("HTTP " ++ request.method) tracers (entryContext_getD hentry)
  have hne : started ≠ [] := by
    intro hnil
    have hlength := hstarts.length_eq
    rw [hnil] at hlength
    exact hlayers (List.length_eq_zero_iff.mp hlength.symm)
  have hheaders : (carried request (started.map Prod.fst)).headers =
      request.headers.set correlationKey value := by
    refine headers_carried (by simpa using hne) (fun ctx hctx => ?_) hvalue request
    obtain ⟨s, hs, rfl⟩ := List.mem_map.mp hctx
    exact (hall s hs).1
  have hlast : started.getLast? = some (started.getLast hne) := List.getLast?_eq_some_getLast hne
  obtain ⟨hid, hspan⟩ := hall _ (List.getLast_mem hne)
  refine ⟨value, c₀, started, c₁, hvalue, hentry, hstarts,
    hstarts.opens.runOn_call base request c rfl hbare hparent, ?_, ?_, rfl, rfl,
    (started.getLast hne).1, (started.getLast hne).2, hlast, ?_, hid, hspan⟩
  · rw [hheaders, Headers.all_set_self]
  · rw [hheaders, Headers.filter_ne_set]
  · simp [carried, List.getLast?_map, hlast]

/-- A layer whose spans are recorded around one whose spans are not, and a request that comes without a
context and with two forged ids: both layers start under the first id of the supply, and the base gets
that id alone, next to the other header. -/
theorem request_correlated_forged :
    let recorded : Tracer Backend := .correlated (.backend (.exporting ⟨"a", "s", .alwaysOn, 0⟩))
    let silent : Tracer Backend := .backend (.exporting ⟨"b", "s", .alwaysOff, 0⟩)
    let forged : HeaderValue := ⟨[0x66], by decide⟩
    let request : Request := ⟨"GET", .host ['b'],
      [(correlationKey, forged), ("accept", forged), (correlationKey, forged)], none⟩
    ∃ value started c c₁, HeaderValue.ofText? (UniqueId.text 7 0) = some value ∧
      StartsUnder ⟨UniqueId.text 7 0⟩ "HTTP GET" [recorded, silent] (.empty 0) c started c₁ ∧
      (carried request (started.map Prod.fst)).headers.all correlationKey = [value] ∧
      (carried request (started.map Prod.fst)).headers.filter
        (fun header => header.1 ≠ correlationKey) = [("accept", forged)] := by
  intro recorded silent forged request
  obtain ⟨value, c, started, c₁, hvalue, -, hstarts, -, hall, hrest, -⟩ :=
    request_correlated [recorded, silent] (by simp)
      (⟨"base", .echoes 200⟩ : ScriptedTransport) request
      { idText := UniqueId.text 7, switches := [false] } (fun ctx id hctx => by cases hctx)
      (UniqueId.ofText?_text_isSome 7)
  exact ⟨value, started, c, c₁, hvalue, hstarts, hall, hrest⟩

end Transport

end Observability
