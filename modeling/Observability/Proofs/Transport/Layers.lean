import Observability.Tracing.Facility
import Observability.Tracing.ScriptedTransport

/-!
# Requests through a stack of traced layers

A stack of layers around a base transport makes a fixed sequence of calls on what it is built of.  The
sequence is a list of `TransportCall`s, and `TransportCall.make` makes one of them.

* `stack layers base` is the transport, the outermost layer first.
* `Opens name layers parent c ctxs c'` says that the facilities, asked one after the other to start a
  span, answered with the contexts `ctxs`, each asked with the answer of the one before.
* `carried request ctxs` is the request that reaches the base.

`call_stack_calls` says that a request through the stack is this sequence and gives the outcome of the
base.  Nothing is assumed of what a facility does at the end of a span: if it crashes there, the sequence
stops there.
-/

namespace Observability

/-- A call that a transport makes on what it is built of. -/
inductive TransportCall (φ β : Type) where
  /-- makes the empty context of a request that has none -/
  | newContext
  | startSpan (facility : φ) (ctx : Context) (name : String)
  | send (base : β) (request : Request)
  | sample (status : HttpStatus)
  | endSpan (facility : φ) (ctx : Context) (status : HttpStatus) (error : Option String)

/-- Makes a call, whatever it is answered. -/
def TransportCall.make {φ β : Type} [BaseTransport β] [TracingFacility φ β] :
    TransportCall φ β → Act Unit
  | .newContext => do
    let _ ← Context.create
    return ()
  | .startSpan facility ctx name => do
    let _ ← TracingFacility.startSpan β facility ctx name
    return ()
  | .send base request => do
    let _ ← BaseTransport.call base request
    return ()
  | .sample status =>
    Act.observe (.sample "telemetry_transport_request_duration_seconds"
      [("status", toString status.toNat)])
  | .endSpan facility ctx status error => TracingFacility.endSpan β facility ctx status error

namespace Transport

variable {φ β : Type}

/-- The base transport in layers, the outermost first. -/
def stack (layers : List φ) (base : β) : Transport φ β := layers.foldr .traced (.base base)

/-- The facilities answer the starts of their spans with `ctxs`; each gets the answer of the one before,
and the outermost gets `parent`. -/
inductive Opens (β : Type) {φ : Type} [TracingFacility φ β] (name : String) :
    List φ → Context → Collector → List Context → Collector → Prop
  | nil (parent : Context) (c : Collector) : Opens β name [] parent c [] c
  | cons {facility : φ} {layers : List φ} {parent ctx : Context} {ctxs : List Context}
      {c c' c'' : Collector}
      (answer : Act.runOn (TracingFacility.startSpan β facility parent name) c = (.ok ctx, c'))
      (inner : Opens β name layers ctx c' ctxs c'') :
      Opens β name (facility :: layers) parent c (ctx :: ctxs) c''

/-- The request as it leaves the innermost layer, the layers having started `ctxs`. -/
def carried (request : Request) (ctxs : List Context) : Request :=
  { request with
    headers := ctxs.foldl (fun headers ctx => correlate ctx headers) request.headers
    context := ctxs.getLast?.or request.context }

/-- The starts of the layers, the outermost first. -/
def startCalls (name : String) (layers : List φ) (parent : Context) (ctxs : List Context) :
    List (TransportCall φ β) :=
  List.zipWith (fun facility ctx => .startSpan facility ctx name) layers (parent :: ctxs)

/-- What a layer does when the base has given its outcome: it takes a sample and ends the span of its
context.  A response is reported with its status, a failure with the status zero and the error. -/
def closeCalls (facility : φ) (ctx : Context) : Except String Response → List (TransportCall φ β)
  | .ok response => [.sample response.status, .endSpan facility ctx response.status none]
  | .error error => [.sample 0, .endSpan facility ctx 0 (some error)]

/-- The ends of the layers, the innermost first: each ends the span of its own context. -/
def endCalls (layers : List φ) (ctxs : List Context) (outcome : Except String Response) :
    List (TransportCall φ β) :=
  (layers.zip ctxs).reverse.flatMap fun layer => closeCalls layer.1 layer.2 outcome

/-- The context that the outermost layer gets: an empty one if the request has none. -/
def entryContext (request : Request) (c : Collector) : Context :=
  request.context.getD (Context.empty c.storageCount)

/-- What the outermost layer does to have that context. -/
def entryCalls (layers : List φ) (request : Request) : List (TransportCall φ β) :=
  if layers.isEmpty || request.context.isSome then [] else [.newContext]

/-! ## The layers one after the other -/

/-- The request that reaches the base is the one that the inner layers make of what the outermost layer
sends on. -/
theorem carried_cons (request : Request) (ctx : Context) (ctxs : List Context) :
    carried request (ctx :: ctxs) =
      carried { request with headers := correlate ctx request.headers, context := some ctx } ctxs := by
  simp only [carried, List.foldl_cons, List.getLast?_cons]
  cases ctxs.getLast? <;> rfl

/-- The outermost layer is the last to end its span. -/
theorem endCalls_cons (facility : φ) (layers : List φ) (ctx : Context) (ctxs : List Context)
    (outcome : Except String Response) :
    (endCalls (facility :: layers) (ctx :: ctxs) outcome : List (TransportCall φ β)) =
      endCalls layers ctxs outcome ++ closeCalls facility ctx outcome := by
  simp [endCalls]

variable [TracingFacility φ β]

theorem Opens.length_eq {name : String} {layers : List φ} {parent : Context} {ctxs : List Context}
    {c c' : Collector} (h : Opens β name layers parent c ctxs c') : ctxs.length = layers.length := by
  induction h with
  | nil => rfl
  | cons _ _ ih => simp [ih]

/-- If every start is answered, the layers open. -/
theorem exists_opens (name : String) (layers : List φ) (parent : Context) (c : Collector)
    (answers : ∀ facility ∈ layers, ∀ ctx c, ∃ ctx' c',
      Act.runOn (TracingFacility.startSpan β facility ctx name) c = (.ok ctx', c')) :
    ∃ ctxs c', Opens β name layers parent c ctxs c' := by
  induction layers generalizing parent c with
  | nil => exact ⟨[], c, .nil parent c⟩
  | cons facility layers ih =>
    obtain ⟨ctx, c', hanswer⟩ := answers facility List.mem_cons_self parent c
    obtain ⟨ctxs, c'', hinner⟩ :=
      ih ctx c' fun other hother => answers other (List.mem_cons_of_mem _ hother)
    exact ⟨ctx :: ctxs, c'', .cons hanswer hinner⟩

variable [BaseTransport β]

/-- The starts, made as calls, lead to where the layers are open. -/
theorem Opens.runOn_startCalls {name : String} {layers : List φ} {parent : Context}
    {ctxs : List Context} {c c' : Collector} (h : Opens β name layers parent c ctxs c') :
    Act.runOn (forM (startCalls name layers parent ctxs : List (TransportCall φ β))
      TransportCall.make) c = (.ok (), c') := by
  induction h with
  | nil => rfl
  | cons answer _ ih =>
    rw [startCalls, List.zipWith_cons_cons, List.forM_cons, Act.runOn_bind,
      TransportCall.make, Act.runOn_bind, answer]
    exact ih

/-- What the closing of a span comes to. -/
theorem closeSpan_eq (facility : φ) (ctx : Context) (outcome : Except String Response) :
    closeSpan β facility ctx outcome =
      forM (closeCalls facility ctx outcome : List (TransportCall φ β)) TransportCall.make := by
  cases outcome with
  | ok response => simp [closeSpan, closeCalls, TransportCall.make, outcomeStatus, outcomeError]
  | error error => simp [closeSpan, closeCalls, TransportCall.make, outcomeStatus, outcomeError]

/-- Once the layers are open, the base is called and the spans are ended from the inside out.  `c₀` is
where the request arrives, and `c` where its context is at hand. -/
theorem Opens.runOn_call {name : String} {layers : List φ} {parent : Context} {ctxs : List Context}
    {c c' : Collector} (h : Opens β name layers parent c ctxs c') (base : β) (request : Request)
    (c₀ : Collector) (hname : name = "HTTP " ++ request.method) (hbare : layers = [] → c₀ = c)
    (hentry : layers ≠ [] → Act.runOn (parentContext request) c₀ = (.ok parent, c)) :
    Act.runOn ((stack layers base).call request) c₀ =
      Act.runOn (do
        let outcome ← BaseTransport.call base (carried request ctxs)
        forM (endCalls layers ctxs outcome : List (TransportCall φ β)) TransportCall.make
        return outcome) c' := by
  induction h generalizing request c₀ with
  | nil =>
    rw [hbare rfl]
    simp [stack, call, carried, endCalls]
  | @cons facility layers parent ctx ctxs c c' c'' answer _ ih =>
    let inner : Request :=
      { request with headers := correlate ctx request.headers, context := some ctx }
    have hopen : Act.runOn (openSpan β facility request) c₀ = (.ok (ctx, inner), c') := by
      rw [openSpan, Act.runOn_bind, hentry (by simp)]
      simp only [Act.runOn_bind, ← hname, answer, Act.runOn_pure, inner]
    have hinner := ih inner c' hname (fun _ => rfl) (fun _ => runOn_parentContext_of_some rfl c')
    have hstack : stack (facility :: layers) base = .traced facility (stack layers base) := rfl
    rw [hstack, call, Act.runOn_bind, hopen]
    simp only
    rw [Act.runOn_bind, hinner, ← Act.runOn_bind, carried_cons]
    congr 1
    simp only [bind_assoc, pure_bind, endCalls_cons, List.forM_append, closeSpan_eq, inner]

/-- A request that has no context gets an empty one, if there is a layer to ask for it. -/
theorem runOn_entryCalls (layers : List φ) (request : Request) (c : Collector) :
    ∃ c₀, Act.runOn (forM (entryCalls layers request : List (TransportCall φ β))
        TransportCall.make) c = (.ok (), c₀) ∧
      (layers = [] → c = c₀) ∧
      (layers ≠ [] → Act.runOn (parentContext request) c = (.ok (entryContext request c), c₀)) := by
  cases layers with
  | nil => exact ⟨c, rfl, fun _ => rfl, fun h => absurd rfl h⟩
  | cons facility layers =>
    cases hctx : request.context with
    | some ctx =>
      refine ⟨c, by simp [entryCalls, hctx], by simp, fun _ => ?_⟩
      rw [runOn_parentContext_of_some hctx, entryContext, hctx, Option.getD_some]
    | none =>
      refine ⟨{ c with storageCount := c.storageCount + 1 }, ?_, by simp, fun _ => ?_⟩
      · simp [entryCalls, hctx, TransportCall.make]
      · rw [runOn_parentContext_of_none hctx, entryContext, hctx, Option.getD_none]

/-- **A request through a stack of traced layers.**  Suppose that every start is answered.  Then the
layers are opened from the outside in, each with the context that the one around it was answered; the
base is called once; and, when the base has given an outcome, each layer takes its sample and ends the
span of the context it was answered itself, from the inside out.  Nothing else is done, and the caller
gets the outcome of the base. -/
theorem call_stack_calls (layers : List φ) (base : β) (request : Request) (c : Collector)
    (answers : ∀ facility ∈ layers, ∀ ctx c, ∃ ctx' c', Act.runOn
      (TracingFacility.startSpan β facility ctx ("HTTP " ++ request.method)) c = (.ok ctx', c')) :
    ∃ ctxs c₀ c₁,
      Act.runOn (forM (entryCalls layers request : List (TransportCall φ β))
        TransportCall.make) c = (.ok (), c₀) ∧
      Opens β ("HTTP " ++ request.method) layers (entryContext request c) c₀ ctxs c₁ ∧
      ctxs.length = layers.length ∧
      ∀ outcome c₂, Act.runOn (BaseTransport.call base (carried request ctxs)) c₁ =
          (.ok outcome, c₂) →
        Act.runOn ((stack layers base).call request) c =
          Act.runOn (do
            forM (entryCalls layers request ++
                startCalls ("HTTP " ++ request.method) layers (entryContext request c) ctxs ++
                [.send base (carried request ctxs)] ++ endCalls layers ctxs outcome)
              (TransportCall.make : TransportCall φ β → Act Unit)
            return outcome) c := by
  obtain ⟨c₀, hentry, hbare, hparent⟩ := runOn_entryCalls (β := β) layers request c
  obtain ⟨ctxs, c₁, hopens⟩ := exists_opens _ layers (entryContext request c) c₀ answers
  refine ⟨ctxs, c₀, c₁, hentry, hopens, hopens.length_eq, ?_⟩
  intro outcome c₂ hbase
  rw [hopens.runOn_call base request c rfl hbare hparent, Act.runOn_bind, hbase]
  simp only [List.forM_append, bind_assoc]
  rw [Act.runOn_bind _ _ c, hentry]
  simp only
  rw [Act.runOn_bind _ _ c₀, hopens.runOn_startCalls]
  simp [TransportCall.make, hbase]

/-- Two facilities that record what they are asked. -/
def twoLayers : List Facility := [.recording ⟨"outer"⟩, .recording ⟨"inner"⟩]

/-- A request without a context. -/
def posted : Request := ⟨"POST", .host ['b'], [], none⟩

/-- What is seen of the request in two layers that end their spans so. -/
def seenInLayers (status : HttpStatus) (error : Option String) (label : String) : List Observation :=
  [ .facility "outer" (.startSpan "HTTP POST"), .facility "inner" (.startSpan "HTTP POST"),
    .request "base" "POST" "b" [] (some ⟨1, none, false⟩),
    .sample "telemetry_transport_request_duration_seconds" [("status", label)],
    .facility "inner" (.endSpan status error (some "inner")),
    .sample "telemetry_transport_request_duration_seconds" [("status", label)],
    .facility "outer" (.endSpan status error (some "outer")) ]

/-- Two layers over a transport that answers with an error status, and over one that fails: the outcome
comes back unchanged, and each layer ends its own span with it. -/
theorem call_stack_calls_two_layers :
    (∃ c', Act.runOn ((stack twoLayers (⟨"base", .echoes 503⟩ : ScriptedTransport)).call posted)
        { idText := fun _ => "" } = (.ok (.ok ⟨503, []⟩), c') ∧
      c'.journal = seenInLayers 503 none "503") ∧
    ∃ c', Act.runOn ((stack twoLayers (⟨"base", .fails "lost"⟩ : ScriptedTransport)).call posted)
        { idText := fun _ => "" } = (.ok (.error "lost"), c') ∧
      c'.journal = seenInLayers 0 (some "lost") "0" := by
  have answers : ∀ facility ∈ twoLayers, ∀ ctx c, ∃ ctx' c', Act.runOn
      (TracingFacility.startSpan ScriptedTransport facility ctx ("HTTP " ++ posted.method)) c =
        (.ok ctx', c') := by
    intro facility hmem ctx c
    simp only [twoLayers, List.mem_cons, List.not_mem_nil, or_false] at hmem
    rcases hmem with rfl | rfl <;> exact ⟨_, _, rfl⟩
  have hseen (script : TransportScript) (status : HttpStatus) (error : Option String)
      (outcome : Except String Response)
      (hbase : ∀ request c, request.headers = [] →
        (Act.runOn ((⟨"base", script⟩ : ScriptedTransport).call request) c).1 = .ok outcome)
      (hclose : ∀ facility ctx, (closeCalls facility ctx outcome :
        List (TransportCall Facility ScriptedTransport)) =
          [.sample status, .endSpan facility ctx status error]) :
      ∃ c', Act.runOn ((stack twoLayers (⟨"base", script⟩ : ScriptedTransport)).call posted)
          { idText := fun _ => "" } = (.ok outcome, c') ∧
        c'.journal = seenInLayers status error (toString status.toNat) := by
    obtain ⟨ctxs, c₀, c₁, hentry, hopens, -, hcalls⟩ := call_stack_calls twoLayers
      (⟨"base", script⟩ : ScriptedTransport) posted { idText := fun _ => "" } answers
    obtain rfl := (Prod.mk.inj hentry).2
    cases hopens with
    | cons answer inner =>
      cases inner with
      | cons answer' inner' =>
        cases inner'
        simp only [TracingFacility.startSpan, RecordingFacility.runOn_startSpan, Prod.mk.injEq,
          Except.ok.injEq] at answer answer'
        obtain ⟨rfl, rfl⟩ := answer
        obtain ⟨rfl, rfl⟩ := answer'
        have hrun := hcalls outcome _ (Prod.ext (hbase _ _ (by rfl)) rfl)
        -- the calls are made one by one: by `rfl` alone each collector would be computed anew
        simp only [twoLayers, posted, entryCalls, startCalls, endCalls, hclose, List.isEmpty_cons,
          Option.isSome_none, Bool.or_false, Bool.false_eq_true, if_false, List.zipWith_cons_cons,
          List.zipWith_nil_left, List.zip_cons_cons, List.zip_nil_right, List.reverse_cons,
          List.reverse_nil, List.nil_append, List.cons_append, List.flatMap_cons, List.flatMap_nil,
          List.append_nil, List.forM_cons, List.forM_nil, TransportCall.make,
          TracingFacility.startSpan, TracingFacility.endSpan, BaseTransport.call, Act.observe,
          Act.runOn_bind, Act.runOn_pure, Act.runOn_step, Context.runOn_create,
          RecordingFacility.runOn_startSpan, RecordingFacility.runOn_endSpan,
          ScriptedTransport.runOn_call] at hrun
        exact ⟨_, hrun, rfl⟩
  refine ⟨hseen (.echoes 503) 503 none _ (fun request c hbare => ?_) fun _ _ => rfl,
    hseen (.fails "lost") 0 (some "lost") _ (fun _ _ _ => rfl) fun _ _ => rfl⟩
  rw [ScriptedTransport.runOn_call, hbare]
  rfl

end Transport

end Observability
