import Mathlib.Logic.Relation
import Observability.Log.RecordingSink
import Observability.Proofs.Lineage.Identifiers
import Observability.Proofs.Transport.Arrival
import Observability.Proofs.Work.Handling

/-!
# From service to service

A service that does a unit of work sends requests of its own, in contexts that it derives from the one of
the work, and the services that receive these do the same.

* `Context.StepsTo β τ` is one step of deriving a context.
* `Route β τ σ headers stops` says that a request with `headers` goes through the services `stops`, each
  of which is asked with what the one before sent.
* `PassesOn β τ σ value text ctx` says that whatever is sent in the context `ctx` brings `value`, and no
  other value, to every service on its route, and that each of them answers with `text`.

An id is written into a header if its bytes may stand there, and read from one only if it is visible
ASCII, blanks and tabs.  `next_hop_adopts_iff` says of an id that is sent what the next service makes of
it, and `next_hop_generates_another` is an id that is sent and not adopted.  What was read once is always
written and read again: `adopted_id_passed_on`.
-/

namespace Observability

open Relation (ReflTransGen)

/-! ## Deriving contexts -/

/-- The context `ctx'` is derived from `ctx` in one step: in a way of the library, or by a start of a
tracer over any backend. -/
inductive Context.StepsTo (β τ : Type) [SpanBackend τ] (ctx ctx' : Context) : Prop
  | derived (how : Derivation) {c c' : Collector} (outcome : how.outcome β ctx c = (.ok ctx', c'))
  | started (tracer : Tracer τ) {name : String} {options : List StartOption} {span : SpanHandle}
      {c c' : Collector} (start : Act.runOn (tracer.start ctx name options) c = (.ok (ctx', span), c'))

section Steps

variable {β τ : Type} [SpanBackend τ] {ctx ctx' : Context} {id : CorrelationId}

theorem Context.StepsTo.keeps_id [KeepsIds τ] (h : ctx.StepsTo β τ ctx')
    (hid : ctx.correlationId? = some id) : ctx'.correlationId? = some id := by
  cases h with
  | derived how outcome => exact (Derivation.fate_of_outcome outcome).2.id_kept hid
  | started tracer start =>
    rw [tracer.start_of_carried hid] at start
    exact (KeepsIds.start start).trans hid

/-- However many steps a context is derived in, its id stays the same. -/
theorem Context.keeps_id_of_steps [KeepsIds τ] (h : ReflTransGen (Context.StepsTo β τ) ctx ctx')
    (hid : ctx.correlationId? = some id) : ctx'.correlationId? = some id := by
  induction h with
  | refl => exact hid
  | tail _ step ih => exact step.keeps_id ih

end Steps

/-- A request in a context that carries a readable id brings the value that is read as this id, alone. -/
theorem Transport.ArrivesAs.all_of_carried {τ β : Type} [SpanBackend τ] [KeepsIds τ] [BaseTransport β]
    {inner : Tracer τ} {layers : List (Tracer τ)} {base : β} {request sent : Request} {c : Collector}
    {ctx : Context} {value : HeaderValue} {text : String}
    (h : ArrivesAs (inner :: layers) base request c sent) (hctx : request.context = some ctx)
    (hid : ctx.correlationId? = some ⟨text⟩) (htext : value.toText? = some text) :
    sent.headers.all correlationKey = [value] := by
  have hentry : entryId request c = ⟨text⟩ := by simp [entryId, hctx, hid]
  refine h.all_of_some ?_
  rw [hentry]
  exact (HeaderValue.toText?_eq_some_iff.mp htext).1

namespace Work

/-- What a request brings is the first of all values of the header. -/
theorem inboundId?_of_all {headers : Headers} {value : HeaderValue}
    (h : headers.all correlationKey = [value]) : inboundId? headers = value.toText? := by
  rw [inboundId?, Headers.first?_eq_head?_all, h]
  rfl

/-! ## Routes -/

/-- A service on a route: what it is asked with, and what it answers. -/
structure Stop where
  headers : Headers
  answer : Option String

/-- The value is the only one that the service is asked with, and its text is the answer. -/
def Stop.Reports (value : HeaderValue) (text : String) (stop : Stop) : Prop :=
  stop.headers.all correlationKey = [value] ∧ stop.answer = some text

/-- A request with `headers` goes through the services `stops`.  Each of them does its work; if it is not
the last, it sends a request in a context that it derives from the one of the request it received, through
one layer or more, and what arrives is what the next one receives. -/
inductive Route (β τ σ : Type) [BaseTransport β] [SpanBackend τ] [LogSink Act σ] :
    Headers → List Stop → Prop
  | last {headers : Headers} {serving : Option (Tracer τ)} {logger : Logger σ}
      {registry : Registry (SpanFacility τ)} {answer : Option String} {c c' : Collector}
      (answered : RegistryAct.runOn (handle β logger headers) (registryOf serving) c =
        ((.ok answer, registry), c')) :
      Route β τ σ headers [⟨headers, answer⟩]
  | hop {headers : Headers} {serving : Option (Tracer τ)} {logger : Logger σ}
      {registry : Registry (SpanFacility τ)} {answer : Option String} {c c' c₀ c₁ : Collector}
      {inbound ctx : Context} {inner : Tracer τ} {layers : List (Tracer τ)} {base : β}
      {request sent : Request} {stops : List Stop}
      (answered : RegistryAct.runOn (handle β logger headers) (registryOf serving) c =
        ((.ok answer, registry), c'))
      (received : Act.runOn (inboundContext headers) c = (.ok inbound, c₀))
      (derived : ReflTransGen (Context.StepsTo β τ) inbound ctx)
      (given : request.context = some ctx)
      (arrives : Transport.ArrivesAs (inner :: layers) base request c₁ sent)
      (onward : Route β τ σ sent.headers stops) :
      Route β τ σ headers (⟨headers, answer⟩ :: stops)

variable {β τ σ : Type} [SpanBackend τ] [LogSink Act σ]

/-- A service that is asked with a readable value answers with its text. -/
theorem answer_of_all [CarriesSpans τ] [KeepsIds τ] {headers : Headers} {value : HeaderValue}
    {text : String} (hall : headers.all correlationKey = [value]) (htext : value.toText? = some text)
    {serving : Option (Tracer τ)} {logger : Logger σ} {registry : Registry (SpanFacility τ)}
    {answer : Option String} {c c' : Collector}
    (answered : RegistryAct.runOn (handle β logger headers) (registryOf serving) c =
      ((.ok answer, registry), c')) : answer = some text := by
  obtain ⟨ctx, c₁, handling⟩ :=
    exists_handling_of_some β serving logger ((inboundId?_of_all hall).trans htext) c
  exact handling.answer_eq answered

/-- The context of the work is derived from the one of the request. -/
theorem Handling.exists_steps {id : Option CorrelationId} {serving : Option (Tracer τ)}
    {logger : Logger σ} {headers : Headers} {c c₁ : Collector} {ctx : Context}
    (h : Handling β id serving logger headers c ctx c₁) :
    ∃ inbound c₀, Act.runOn (inboundContext headers) c = (.ok inbound, c₀) ∧
      ReflTransGen (Context.StepsTo β τ) inbound ctx := by
  obtain ⟨inbound, c₀, started, hinbound, hstarts, rfl⟩ := h.starts
  refine ⟨inbound, c₀, hinbound, ?_⟩
  cases serving with
  | none =>
    cases hstarts
    exact .refl
  | some inner =>
    obtain ⟨ctx, span, rfl, hgiven⟩ := startsUnder_singleton hstarts
    obtain ⟨span', after, hstart⟩ := SpanFacility.exists_start hgiven
    exact .single (.started _ hstart)

variable [BaseTransport β]

/-- Routes of every length start with any headers, if the logger takes the lines. -/
theorem exists_route [CarriesSpans τ] [KeepsIds τ] (serving : Option (Tracer τ)) {logger : Logger σ}
    (htakes : ∀ pairs c, ∃ c', Act.runOn (logger.info "Handling work" pairs) c = (.ok (), c'))
    (inner : Tracer τ) (base : β) (c : Collector) (hops : Nat) (headers : Headers) :
    ∃ stops, stops.length = hops + 1 ∧ Route β τ σ headers stops := by
  have hserves : ∀ headers : Headers, ∃ answer c' inbound c₀ ctx,
      RegistryAct.runOn (handle β logger headers) (registryOf serving) c =
        ((.ok answer, registryOf serving), c') ∧
      Act.runOn (inboundContext headers) c = (.ok inbound, c₀) ∧
      ReflTransGen (Context.StepsTo β τ) inbound ctx := by
    intro headers
    obtain ⟨ctx, c₁, handling⟩ := exists_handling β serving logger headers c
    obtain ⟨c₂, hlogged⟩ := htakes _ c₁
    obtain ⟨c', answered⟩ := handling.answers c₂ hlogged
    obtain ⟨inbound, c₀, received, hsteps⟩ := handling.exists_steps
    exact ⟨_, c', inbound, c₀, ctx, answered, received, hsteps⟩
  induction hops generalizing headers with
  | zero =>
    obtain ⟨answer, c', -, -, -, answered, -⟩ := hserves headers
    exact ⟨_, rfl, .last answered⟩
  | succ hops ih =>
    obtain ⟨answer, c', inbound, c₀, ctx, answered, received, hsteps⟩ := hserves headers
    obtain ⟨sent, harrives⟩ := Transport.exists_arrivesAs [inner] base
      ⟨"GET", .host ['b'], [], some ctx⟩ c'
    obtain ⟨stops, hlength, honward⟩ := ih sent.headers
    exact ⟨_, by rw [List.length_cons, hlength], .hop answered received hsteps rfl harrives honward⟩

/-- A readable value stays the same along a route, and every service on it answers with its text. -/
theorem Route.reports [CarriesSpans τ] [KeepsIds τ] {headers : Headers} {stops : List Stop}
    {value : HeaderValue} {text : String} (h : Route β τ σ headers stops)
    (hall : headers.all correlationKey = [value]) (htext : value.toText? = some text) :
    ∀ stop ∈ stops, stop.Reports value text := by
  induction h with
  | last answered =>
    intro stop hstop
    rw [List.mem_singleton.mp hstop]
    exact ⟨hall, answer_of_all hall htext answered⟩
  | @hop headers serving logger registry answer c c' c₀ c₁ inbound ctx inner layers base request sent
      stops answered received derived given arrives onward ih =>
    have hadopted : inbound.correlationId? = some ⟨text⟩ := by
      rw [correlationId?_of_inbound received, inboundId?_of_all hall, htext, Option.map_some]
    have hsent : sent.headers.all correlationKey = [value] :=
      arrives.all_of_carried given (Context.keeps_id_of_steps derived hadopted) htext
    intro stop hstop
    rcases List.mem_cons.mp hstop with rfl | hlater
    · exact ⟨hall, answer_of_all hall htext answered⟩
    · exact ih hsent stop hlater

/-! ## What the next service makes of an id -/

/-- A value is read as the text that it was made of, if as any. -/
theorem inboundId?_of_value {headers : Headers} {value : HeaderValue} {text : String}
    (hall : headers.all correlationKey = [value]) (hvalue : HeaderValue.ofText? text = some value) :
    inboundId? headers = some text ↔ ∀ ch ∈ text.toList, isTextChar ch = true := by
  rw [inboundId?_of_all hall, HeaderValue.toText?_eq_some_iff]
  exact and_iff_right hvalue

/-- A value that was made of a text which is not readable brings no id. -/
theorem inboundId?_eq_none {headers : Headers} {value : HeaderValue} {text : String}
    (hall : headers.all correlationKey = [value]) (hvalue : HeaderValue.ofText? text = some value)
    (hunreadable : ¬ ∀ ch ∈ text.toList, isTextChar ch = true) : inboundId? headers = none := by
  cases hread : inboundId? headers with
  | none => rfl
  | some other =>
    rw [inboundId?_of_all hall] at hread
    obtain ⟨hother, hchars⟩ := HeaderValue.toText?_eq_some_iff.mp hread
    rw [HeaderValue.ofText?_inj hother hvalue] at hchars
    exact absurd hchars hunreadable

/-- **What is sent and what is adopted.**  Let a request be sent under an id that can stand in a header.
It arrives with the value of this id alone, and the service that receives its headers does its work under
the id exactly if the text of the id is visible ASCII, blanks and tabs; then so does every service on the
route.  Otherwise it does its work under an id that its facility generates, or under none. -/
theorem next_hop_adopts_iff [CarriesSpans τ] [KeepsIds τ] (σ : Type) [LogSink Act σ] (inner : Tracer τ)
    (layers : List (Tracer τ)) (base : β) (request : Request) (c : Collector) {id : CorrelationId}
    {value : HeaderValue} (hid : Transport.entryId request c = id)
    (hvalue : HeaderValue.ofText? id.text = some value) :
    ∃ sent, Transport.ArrivesAs (inner :: layers) base request c sent ∧
      sent.headers.all correlationKey = [value] ∧
      (inboundId? sent.headers = some id.text ↔ ∀ ch ∈ id.text.toList, isTextChar ch = true) ∧
      ((∀ ch ∈ id.text.toList, isTextChar ch = true) →
        (∀ (serving : Option (Tracer τ)) (logger : Logger σ) (c' : Collector), ∃ ctx c₁,
          Handling β (some id) serving logger sent.headers c' ctx c₁) ∧
        ∀ stops, Route β τ σ sent.headers stops → ∀ stop ∈ stops, stop.Reports value id.text) ∧
      ((¬ ∀ ch ∈ id.text.toList, isTextChar ch = true) →
        ∀ (serving : Option (Tracer τ)) (logger : Logger σ) (c' : Collector), ∃ ctx c₁,
          Handling β (serving.map fun _ => ⟨c'.idText c'.idCount⟩) serving logger sent.headers c' ctx
            c₁) := by
  subst hid
  obtain ⟨sent, harrives⟩ := Transport.exists_arrivesAs (inner :: layers) base request c
  have hall := harrives.all_of_some hvalue
  have hadopted := inboundId?_of_value hall hvalue
  refine ⟨sent, harrives, hall, hadopted, fun hreadable => ⟨?_, ?_⟩, ?_⟩
  · intro serving logger c'
    exact exists_handling_of_some β serving logger (hadopted.mpr hreadable) c'
  · intro stops hroute
    exact hroute.reports hall (HeaderValue.toText?_eq_some_iff.mpr ⟨hvalue, hreadable⟩)
  · intro hunreadable serving logger c'
    exact exists_handling_of_none β serving logger (inboundId?_eq_none hall hvalue hunreadable) c'

/-- An id with a blank in it: a service with nothing registered and one with a facility both do their work
under it. -/
theorem next_hop_adopts_iff_blank :
    let own : CorrelationId := ⟨"a b"⟩
    let request : Request :=
      ⟨"GET", .host ['b'], [], some ((Context.empty 0).insert 1 .correlation own)⟩
    let c : Collector := { idText := UniqueId.text 7, storageCount := 2 }
    let tracer : Tracer Backend := .backend (.recording ⟨"t"⟩)
    let logger : Logger RecordingSink := ⟨{ id := 0 }, 0⟩
    Transport.entryId request c = own ∧
    HeaderValue.ofText? own.text = some ⟨[0x61, 0x20, 0x62], by decide⟩ ∧
    ∃ sent, Transport.ArrivesAs [tracer] (⟨"base", .echoes 200⟩ : ScriptedTransport) request c sent ∧
      inboundId? sent.headers = some "a b" ∧
      (∃ ctx c₁, Handling ScriptedTransport (some own) (none : Option (Tracer Backend)) logger
        sent.headers c ctx c₁) ∧
      ∃ ctx c₁, Handling ScriptedTransport (some own) (some tracer) logger sent.headers c ctx c₁ := by
  intro own request c tracer logger
  have hvalue : HeaderValue.ofText? own.text = some ⟨[0x61, 0x20, 0x62], by decide⟩ := by
    rw [HeaderValue.ofText?_eq_some_iff, toList_toUTF8]
    decide
  have hreadable : ∀ ch ∈ own.text.toList, isTextChar ch = true := by
    rw [← List.all_eq_true]
    decide
  obtain ⟨sent, harrives, -, hadopted, hreports, -⟩ := next_hop_adopts_iff RecordingSink tracer []
    (⟨"base", .echoes 200⟩ : ScriptedTransport) request c rfl hvalue
  obtain ⟨hhandling, -⟩ := hreports hreadable
  exact ⟨rfl, hvalue, sent, harrives, hadopted.mpr hreadable, hhandling none logger c,
    hhandling (some tracer) logger c⟩

/-- An id with a letter outside ASCII: it is put into the header, but a service with nothing registered
that receives this header works under no id, and one with a facility under an id of its own. -/
theorem next_hop_generates_another :
    let own : CorrelationId := ⟨"é"⟩
    let request : Request :=
      ⟨"GET", .host ['b'], [], some ((Context.empty 0).insert 1 .correlation own)⟩
    let c : Collector := { idText := UniqueId.text 7, storageCount := 2 }
    let tracer : Tracer Backend := .backend (.recording ⟨"t"⟩)
    let logger : Logger RecordingSink := ⟨{ id := 0 }, 0⟩
    let service (serving : Option (Tracer Backend)) (headers : Headers) :=
      RegistryAct.runOn (handle ScriptedTransport logger headers) (registryOf serving) c
    ∃ sent value,
      Transport.ArrivesAs [tracer] (⟨"base", .echoes 200⟩ : ScriptedTransport) request c sent ∧
      sent.headers.all correlationKey = [value] ∧ value.bytes = own.text.toUTF8.toList ∧
      (service none sent.headers).1.1 = .ok none ∧
      (service (some tracer) sent.headers).1.1 = .ok (some (UniqueId.text 7 0)) ∧
      UniqueId.text 7 0 ≠ own.text := by
  intro own request c tracer logger service
  have hvalue : HeaderValue.ofText? own.text = some ⟨[0xC3, 0xA9], by decide⟩ := by
    rw [HeaderValue.ofText?_eq_some_iff, toList_toUTF8]
    decide
  obtain ⟨sent, harrives⟩ := Transport.exists_arrivesAs [tracer]
    (⟨"base", .echoes 200⟩ : ScriptedTransport) request c
  have hall := harrives.all_of_some hvalue
  have hunread : inboundId? sent.headers = none := by
    rw [inboundId?_of_all hall]
    decide
  have hanswer : ∀ serving : Option (Tracer Backend), (service serving sent.headers).1.1 =
      .ok (serving.map fun _ => UniqueId.text 7 0) := by
    intro serving
    obtain ⟨ctx, c₁, handling⟩ := exists_handling_of_none ScriptedTransport serving logger hunread c
    obtain ⟨c₃, hrun⟩ := handling.answers _ rfl
    show (RegistryAct.runOn _ _ _).1.1 = _
    rw [hrun, Option.map_map]
    rfl
  refine ⟨sent, _, harrives, hall, HeaderValue.ofText?_eq_some_iff.mp hvalue, hanswer none,
    hanswer (some tracer), ?_⟩
  intro heq
  -- the texts of identifiers are visible ASCII
  have hmem : 'é' ∈ (UniqueId.text 7 0).toList := by
    rw [heq]
    decide
  exact absurd (UniqueId.isVisible_of_mem_text hmem) (by decide)

/-! ## What is passed on -/

/-- Whatever is sent in the context `ctx`, through one layer or more, brings the value to every service on
its route, and each of them answers with the text. -/
def PassesOn (β τ σ : Type) [BaseTransport β] [SpanBackend τ] [LogSink Act σ] (value : HeaderValue)
    (text : String) (ctx : Context) : Prop :=
  ∀ (inner : Tracer τ) (layers : List (Tracer τ)) (base : β) (request : Request) (c : Collector),
    request.context = some ctx →
    ∃ sent, Transport.ArrivesAs (inner :: layers) base request c sent ∧
      sent.headers.all correlationKey = [value] ∧
      ∀ stops, Route β τ σ sent.headers stops → ∀ stop ∈ stops, stop.Reports value text

/-- A context that carries a readable id passes it on. -/
theorem passesOn_of_carried [CarriesSpans τ] [KeepsIds τ] {ctx : Context} {value : HeaderValue}
    {text : String} (hid : ctx.correlationId? = some ⟨text⟩) (htext : value.toText? = some text) :
    PassesOn β τ σ value text ctx := by
  intro inner layers base request c hctx
  obtain ⟨sent, harrives⟩ := Transport.exists_arrivesAs (inner :: layers) base request c
  have hall := harrives.all_of_carried hctx hid htext
  exact ⟨sent, harrives, hall, fun stops hroute => hroute.reports hall htext⟩

/-- **What is adopted is passed on.**  A value that a service reads is the bytes of its text.  The service
does its work under this text, and in whatever context it derives from the one of the request, the value
is sent on as it came, to all services on the way.  A service that reads none but has a facility does the
same with the text that the facility generates, if that is visible ASCII. -/
theorem adopted_id_passed_on [CarriesSpans τ] [KeepsIds τ] (β : Type) [BaseTransport β]
    (serving : Option (Tracer τ)) (logger : Logger σ) (headers : Headers) (c : Collector) :
    (∀ value text, headers.first? correlationKey = some value → value.toText? = some text →
      value.bytes = text.toUTF8.toList ∧
      ∃ inbound c₀ ctx c₁, Act.runOn (inboundContext headers) c = (.ok inbound, c₀) ∧
        Handling β (some ⟨text⟩) serving logger headers c ctx c₁ ∧
        ReflTransGen (Context.StepsTo β τ) inbound ctx ∧
        ∀ later, ReflTransGen (Context.StepsTo β τ) inbound later → PassesOn β τ σ value text later) ∧
    (inboundId? headers = none → serving.isSome = true →
      (∀ ch ∈ (c.idText c.idCount).toList, isVisible ch = true) →
      ∃ value ctx c₁, value.bytes = (c.idText c.idCount).toUTF8.toList ∧
        Handling β (some ⟨c.idText c.idCount⟩) serving logger headers c ctx c₁ ∧
        ∀ later, ReflTransGen (Context.StepsTo β τ) ctx later →
          PassesOn β τ σ value (c.idText c.idCount) later) := by
  constructor
  · intro value text hfirst htext
    have hread : inboundId? headers = some text := by
      rw [inboundId?, hfirst, Option.bind_some, htext]
    obtain ⟨ctx, c₁, handling⟩ := exists_handling_of_some β serving logger hread c
    obtain ⟨inbound, c₀, hinbound, hsteps⟩ := handling.exists_steps
    have hadopted : inbound.correlationId? = some ⟨text⟩ := by
      rw [correlationId?_of_inbound hinbound, hread, Option.map_some]
    refine ⟨?_, inbound, c₀, ctx, c₁, hinbound, handling, hsteps, fun later hlater => ?_⟩
    · exact HeaderValue.ofText?_eq_some_iff.mp (HeaderValue.toText?_eq_some_iff.mp htext).1
    · exact passesOn_of_carried (Context.keeps_id_of_steps hlater hadopted) htext
  · intro hnone hserving hvisible
    obtain ⟨inner, rfl⟩ := Option.isSome_iff_exists.mp hserving
    obtain ⟨ctx, c₁, handling⟩ := exists_handling_of_none β (some inner) logger hnone c
    obtain ⟨value, hvalue⟩ := Option.isSome_iff_exists.mp
      (HeaderValue.ofText?_isSome_of_visible hvisible)
    have htext : value.toText? = some (c.idText c.idCount) :=
      HeaderValue.toText?_eq_some_iff.mpr
        ⟨hvalue, fun ch hch => isTextChar_of_isVisible (hvisible ch hch)⟩
    exact ⟨value, ctx, c₁, HeaderValue.ofText?_eq_some_iff.mp hvalue, handling,
      fun later hlater => passesOn_of_carried (Context.keeps_id_of_steps hlater handling.carries) htext⟩

/-- A value with a tab, and a second one behind it: a service with nothing registered works under the
first, and so do three more that a request goes through.  A service that is asked with no header works under
the id that its facility generates, and passes that on. -/
theorem adopted_id_passed_on_tab :
    let value : HeaderValue := ⟨[0x61, 0x09, 0x62], by decide⟩
    let other : HeaderValue := ⟨[0x63], by decide⟩
    let headers : Headers := [(correlationKey, value), (correlationKey, other)]
    let c : Collector := { idText := UniqueId.text 7 }
    let tracer : Tracer Backend := .backend (.recording ⟨"t"⟩)
    let logger : Logger RecordingSink := ⟨{ id := 0 }, 0⟩
    (∃ ctx c₁ sent stops,
      Handling ScriptedTransport (some ⟨"a\tb"⟩) (none : Option (Tracer Backend)) logger headers c ctx c₁ ∧
      Transport.ArrivesAs [tracer] (⟨"base", .echoes 200⟩ : ScriptedTransport)
        ⟨"GET", .host ['b'], [], some ctx⟩ c₁ sent ∧
      stops.length = 3 ∧ Route ScriptedTransport Backend RecordingSink sent.headers stops ∧
      ∀ stop ∈ stops, stop.Reports value "a\tb") ∧
    ∃ value ctx c₁,
      Handling ScriptedTransport (some ⟨UniqueId.text 7 0⟩) (some tracer) logger [] c ctx c₁ ∧
      PassesOn ScriptedTransport Backend RecordingSink value (UniqueId.text 7 0) ctx := by
  intro value other headers c tracer logger
  have htakes : ∀ pairs c, ∃ c', Act.runOn (logger.info "Handling work" pairs) c = (.ok (), c') := by
    intro pairs c
    exact ⟨_, rfl⟩
  obtain ⟨-, inbound, c₀, ctx, c₁, -, handling, hsteps, hpasses⟩ :=
    (adopted_id_passed_on ScriptedTransport (none : Option (Tracer Backend)) logger headers c).1
      value "a\tb" rfl (by decide)
  obtain ⟨sent, harrives, -, hreports⟩ := hpasses ctx hsteps tracer [] ⟨"base", .echoes 200⟩
    ⟨"GET", .host ['b'], [], some ctx⟩ c₁ rfl
  obtain ⟨stops, hlength, hroute⟩ := exists_route (some tracer) htakes tracer
    (⟨"base", .echoes 200⟩ : ScriptedTransport) c 2 sent.headers
  obtain ⟨value', ctx', c₁', -, handling', hpasses'⟩ :=
    (adopted_id_passed_on ScriptedTransport (some tracer) logger [] c).2 rfl rfl
      fun _ => UniqueId.isVisible_of_mem_text
  exact ⟨⟨ctx, c₁, sent, stops, handling, harrives, hlength, hroute, hreports stops hroute⟩,
    value', ctx', c₁', handling', hpasses' ctx' .refl⟩

end Work

end Observability
