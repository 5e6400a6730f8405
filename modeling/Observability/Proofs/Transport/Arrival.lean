import Observability.Proofs.Transport.Correlation

/-!
# What arrives at the base

A request is sent through layers over wrapped tracers with a context that carries any id at all.

* `ArrivesAs tracers base request c sent` says that the request is `sent` when it arrives at the base:
  the layers started their spans under one id, and what they made of the request is what the base is
  called with.
* `ArrivesAs.headers_of_some` and `ArrivesAs.headers_of_none` are the two things that may have become
  of its headers: the id stands in place of all that the caller wrote under its name, or, if it cannot
  stand in a header, what the caller wrote is still there.

`sent_values_eq_iff` says when the base finds no other id than that of the context, and
`forged_value_sent` is a request with which it does find another one.
-/

namespace Observability.Transport

variable {τ β : Type} [SpanBackend τ] [BaseTransport β]

/-- Sent through layers over the wrapped tracers, the outermost first, the request arrives at the base as
`sent`: once the layers have started their spans, all under the id that the request came with or else
under the next of the supply, the base is called with it. -/
def ArrivesAs (tracers : List (Tracer τ)) (base : β) (request : Request) (c : Collector)
    (sent : Request) : Prop :=
  ∃ c₀ started c₁,
    Act.runOn (forM (entryCalls (tracers.map SpanFacility.over) request :
      List (TransportCall (SpanFacility τ) β)) TransportCall.make) c = (.ok (), c₀) ∧
    StartsUnder (entryId request c) ("HTTP " ++ request.method) tracers (entryContext request c) c₀
      started c₁ ∧
    sent = carried request (started.map Prod.fst) ∧
    Act.runOn ((stack (tracers.map SpanFacility.over) base).call request) c =
      Act.runOn (do
        let outcome ← BaseTransport.call base sent
        forM (endCalls (tracers.map SpanFacility.over) (started.map Prod.fst) outcome :
          List (TransportCall (SpanFacility τ) β)) TransportCall.make
        return outcome) c₁

/-- Whatever is sent arrives. -/
theorem exists_arrivesAs [CarriesSpans τ] [KeepsIds τ] (tracers : List (Tracer τ)) (base : β)
    (request : Request) (c : Collector) : ∃ sent, ArrivesAs tracers base request c sent := by
  obtain ⟨c₀, hentry, hbare, hparent⟩ :=
    runOn_entryCalls (β := β) (tracers.map SpanFacility.over) request c
  obtain ⟨started, c₁, hstarts, -⟩ :=
    exists_startsUnder ("HTTP " ++ request.method) tracers (entryContext_getD hentry)
  exact ⟨_, c₀, started, c₁, hentry, hstarts, rfl,
    hstarts.opens.runOn_call base request c rfl hbare hparent⟩

/-! ## The contexts on the way -/

/-- A context that was made to carry an id carries it. -/
theorem correlationId?_of_ensured {ctx mid : Context} {id : CorrelationId} {c c' : Collector}
    (h : Act.runOn ctx.ensureCorrelationId c = (.ok (mid, id), c')) :
    mid.correlationId? = some id := by
  obtain ⟨mid', id', c'', hrun, hensured⟩ := ctx.exists_ensured c
  rw [h] at hrun
  cases hrun
  exact hensured.carries

/-- Every context that the layers give carries the id they started under. -/
theorem StartsUnder.correlationId?_eq [KeepsIds τ] {id : CorrelationId} {name : String}
    {tracers : List (Tracer τ)} {parent : Context} {started : List (Context × SpanHandle)}
    {c c' : Collector} (h : StartsUnder id name tracers parent c started c') :
    ∀ ctx ∈ started.map Prod.fst, ctx.correlationId? = some id := by
  induction h with
  | nil parent c => simp
  | cons carried start _ _ _ ih =>
    rw [List.map_cons]
    refine List.forall_mem_cons.mpr ⟨?_, ih⟩
    exact (KeepsIds.start start).trans (correlationId?_of_ensured carried)

/-- At least one layer starts at least one span. -/
theorem StartsUnder.ne_nil {id : CorrelationId} {name : String} {inner : Tracer τ}
    {tracers : List (Tracer τ)} {parent : Context} {started : List (Context × SpanHandle)}
    {c c' : Collector} (h : StartsUnder id name (inner :: tracers) parent c started c') :
    started.map Prod.fst ≠ [] := by
  intro hnil
  have hlength := h.length_eq
  rw [List.map_eq_nil_iff.mp hnil] at hlength
  cases hlength

/-- The context that arrives carries the id of the layers. -/
theorem ArrivesAs.exists_context [KeepsIds τ] {inner : Tracer τ} {tracers : List (Tracer τ)} {base : β}
    {request sent : Request} {c : Collector}
    (h : ArrivesAs (inner :: tracers) base request c sent) :
    ∃ ctx, sent.context = some ctx ∧ ctx.correlationId? = some (entryId request c) := by
  obtain ⟨c₀, started, c₁, -, hstarts, rfl, -⟩ := h
  refine ⟨(started.map Prod.fst).getLast hstarts.ne_nil, ?_,
    hstarts.correlationId?_eq _ (List.getLast_mem hstarts.ne_nil)⟩
  simp [carried, List.getLast?_eq_some_getLast hstarts.ne_nil]

/-! ## The headers on the way -/

/-- Layers under an id that can stand in a header put it in place of all values of its name. -/
theorem ArrivesAs.headers_of_some [KeepsIds τ] {inner : Tracer τ} {tracers : List (Tracer τ)}
    {base : β} {request sent : Request} {c : Collector} {value : HeaderValue}
    (h : ArrivesAs (inner :: tracers) base request c sent)
    (hvalue : HeaderValue.ofText? (entryId request c).text = some value) :
    sent.headers = request.headers.set correlationKey value := by
  obtain ⟨c₀, started, c₁, -, hstarts, rfl, -⟩ := h
  exact headers_carried hstarts.ne_nil hstarts.correlationId?_eq hvalue request

/-- The value of the id is the only one that arrives. -/
theorem ArrivesAs.all_of_some [KeepsIds τ] {inner : Tracer τ} {tracers : List (Tracer τ)} {base : β}
    {request sent : Request} {c : Collector} {value : HeaderValue}
    (h : ArrivesAs (inner :: tracers) base request c sent)
    (hvalue : HeaderValue.ofText? (entryId request c).text = some value) :
    sent.headers.all correlationKey = [value] := by
  rw [h.headers_of_some hvalue, Headers.all_set_self]

/-- Contexts whose id cannot stand in a header leave the headers as they are. -/
theorem headers_carried_of_none {ctxs : List Context} {id : CorrelationId}
    (hall : ∀ ctx ∈ ctxs, ctx.correlationId? = some id)
    (hnone : HeaderValue.ofText? id.text = none) (request : Request) :
    (carried request ctxs).headers = request.headers := by
  induction ctxs generalizing request with
  | nil => rfl
  | cons ctx ctxs ih =>
    have hfirst : correlate ctx request.headers = request.headers := by
      simp [correlate, hall ctx List.mem_cons_self, hnone]
    rw [carried_cons, ih fun other hother => hall other (List.mem_cons_of_mem _ hother)]
    exact hfirst

/-- Layers under an id that cannot stand in a header leave the headers as they are. -/
theorem ArrivesAs.headers_of_none [KeepsIds τ] {tracers : List (Tracer τ)} {base : β}
    {request sent : Request} {c : Collector} (h : ArrivesAs tracers base request c sent)
    (hnone : HeaderValue.ofText? (entryId request c).text = none) :
    sent.headers = request.headers := by
  obtain ⟨c₀, started, c₁, -, hstarts, rfl, -⟩ := h
  exact headers_carried_of_none hstarts.correlationId?_eq hnone request

/-- **Whose id the base finds.**  A request sent through layers over wrapped tracers, with whatever
headers and under whatever id, arrives with a context of that id, under which all spans were started.
The values of the header are the text of this id, all of them, exactly if the text can stand in a header
or the caller wrote none; in the remaining case the caller's values arrive in place of it. -/
theorem sent_values_eq_iff [CarriesSpans τ] [KeepsIds τ] (inner : Tracer τ)
    (tracers : List (Tracer τ)) (base : β) (request : Request) (c : Collector) :
    ∃ sent ctx, ArrivesAs (inner :: tracers) base request c sent ∧
      sent.context = some ctx ∧ ctx.correlationId? = some (entryId request c) ∧
      ((∀ value ∈ sent.headers.all correlationKey,
          value.bytes = (entryId request c).text.toUTF8.toList) ↔
        (HeaderValue.ofText? (entryId request c).text).isSome = true ∨
          request.headers.all correlationKey = []) ∧
      (HeaderValue.ofText? (entryId request c).text = none → sent.headers = request.headers) := by
  obtain ⟨sent, harrives⟩ := exists_arrivesAs (inner :: tracers) base request c
  obtain ⟨ctx, hctx, hid⟩ := harrives.exists_context
  refine ⟨sent, ctx, harrives, hctx, hid, ?_, harrives.headers_of_none⟩
  cases hvalue : HeaderValue.ofText? (entryId request c).text with
  | some own =>
    rw [harrives.all_of_some hvalue]
    constructor
    · intro _
      exact Or.inl rfl
    · intro _ value hmem
      rw [List.mem_singleton.mp hmem]
      exact HeaderValue.ofText?_eq_some_iff.mp hvalue
  | none =>
    rw [harrives.headers_of_none hvalue]
    constructor
    · intro heq
      refine Or.inr (List.eq_nil_iff_forall_not_mem.mpr fun value hmem => ?_)
      -- a value with the bytes of the id would make the id one that can stand in a header
      have hsome := HeaderValue.ofText?_eq_some_iff.mpr (heq value hmem)
      rw [hvalue] at hsome
      cases hsome
    · rintro (hsome | hnil)
      · cases hsome
      · rw [hnil]
        simp

/-- An id of two lines cannot stand in a header: with a caller that writes none under its name, none
arrives, and the other header is as it was. -/
theorem sent_values_eq_iff_two_lines :
    let own : CorrelationId := ⟨"a\nb"⟩
    let accept : HeaderValue := ⟨[0x2A], by decide⟩
    let request : Request := ⟨"GET", .host ['b'], [("accept", accept)],
      some ((Context.empty 0).insert 1 .correlation own)⟩
    let c : Collector := { idText := fun _ => "", storageCount := 2 }
    HeaderValue.ofText? own.text = none ∧
    ∃ (sent : Request) (ctx : Context),
      ArrivesAs [.backend (Backend.recording ⟨"t"⟩)] (⟨"base", .echoes 200⟩ : ScriptedTransport) request
        c sent ∧
      sent.context = some ctx ∧ ctx.correlationId? = some own ∧
      sent.headers = [("accept", accept)] ∧
      ∀ value ∈ sent.headers.all correlationKey, value.bytes = own.text.toUTF8.toList := by
  intro own accept request c
  have hnone : HeaderValue.ofText? own.text = none := by
    rw [HeaderValue.ofText?, toList_toUTF8]
    decide
  obtain ⟨sent, ctx, harrives, hctx, hid, hiff, hkept⟩ :=
    sent_values_eq_iff (.backend (Backend.recording ⟨"t"⟩)) []
      (⟨"base", .echoes 200⟩ : ScriptedTransport) request c
  exact ⟨hnone, sent, ctx, harrives, hctx, hid, hkept hnone, hiff.mpr (Or.inr rfl)⟩

/-- The same id with a caller that writes another one under its name: the context that arrives carries
the id, under which the span was started, and the base is called with the other one. -/
theorem forged_value_sent :
    let own : CorrelationId := ⟨"a\nb"⟩
    let other : HeaderValue := ⟨[0x63], by decide⟩
    let request : Request := ⟨"GET", .host ['b'], [(correlationKey, other)],
      some ((Context.empty 0).insert 1 .correlation own)⟩
    let c : Collector := { idText := fun _ => "", storageCount := 2 }
    ∃ (sent : Request) (ctx : Context),
      ArrivesAs [.backend (Backend.recording ⟨"t"⟩)] (⟨"base", .echoes 200⟩ : ScriptedTransport) request
        c sent ∧
      sent.context = some ctx ∧ ctx.correlationId? = some own ∧ entryId request c = own ∧
      sent.headers.all correlationKey = [other] ∧
      ¬ ∀ value ∈ sent.headers.all correlationKey, value.bytes = own.text.toUTF8.toList := by
  intro own other request c
  have hnone : HeaderValue.ofText? own.text = none := by
    rw [HeaderValue.ofText?, toList_toUTF8]
    decide
  obtain ⟨sent, harrives⟩ := exists_arrivesAs [.backend (Backend.recording ⟨"t"⟩)]
    (⟨"base", .echoes 200⟩ : ScriptedTransport) request c
  obtain ⟨ctx, hctx, hid⟩ := harrives.exists_context
  have hall : sent.headers.all correlationKey = [other] := by
    rw [harrives.headers_of_none hnone]
    rfl
  refine ⟨sent, ctx, harrives, hctx, hid, rfl, hall, fun heq => ?_⟩
  have hbytes := heq other (by rw [hall]; exact List.mem_singleton_self other)
  rw [toList_toUTF8] at hbytes
  exact absurd hbytes (by decide)

end Observability.Transport
