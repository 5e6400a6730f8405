import Mathlib.Algebra.BigOperators.Group.List.Basic
import Observability.Proofs.Transport.Metrics

/-!
# Metrics are conserved

Any number of facilities are used at once: spans are started and ended directly, requests are sent through
layers, and those on their way take their steps in turns.

* `TrafficCommand` is one thing that is done, and `Traffic.step` what comes of it.
* `Traffic.history` is what was done to spans, by layers or directly.

`Sound` is what a run keeps: the metrics tell of every event of the history and of nothing else, and a
layer that has started its span has ended it or is on the way of a request.  `metrics_conserved` draws
from it what the totals, the labels and the samples are, and when the totals balance.
-/

namespace Observability

/-! ## Runs -/

/-- Something done with facilities.  A span is ended through any facility. -/
inductive TrafficCommand (τ β : Type) where
  | start (facility : SpanFacility τ) (ctx : Context) (name : String)
  | stop (facility : SpanFacility τ) (ctx : Context) (last : SpanEnd)
  /-- a request is sent, if the transport is ready -/
  | send (transport : Transport (SpanFacility τ) β) (request : Request)
  /-- the request sent at this place takes a step -/
  | advance (place : Nat)

/-- A request that was sent.  It is lost if the base crashed. -/
structure Flight (τ β : Type) where
  journey : Journey (SpanFacility τ) β
  lost : Bool := false

/-- The requests sent so far, what was done to spans, and the collector. -/
structure Traffic (τ β : Type) where
  collector : Collector
  flights : List (Flight τ β) := []
  history : List TrafficEvent := []

namespace TrafficCommand

variable {τ β : Type}

def isStart : TrafficCommand τ β → Bool
  | .start .. => true
  | _ => false

/-- The end that is asked for, with its context. -/
def stop? : TrafficCommand τ β → Option (Context × SpanEnd)
  | .stop _ ctx last => some (ctx, last)
  | _ => none

end TrafficCommand

/-- Whether the caller has the answer. -/
def Flight.isDone {τ β : Type} (flight : Flight τ β) : Bool := !flight.lost && flight.journey.isDone

namespace Traffic

variable {τ β : Type} [SpanBackend τ] [BaseTransport β]

/-- What a command leaves behind. -/
def step (s : Traffic τ β) : TrafficCommand τ β → Traffic τ β
  | .start facility ctx name =>
    match Act.runOn (facility.startSpan ctx name) s.collector with
    | (.ok ctx, c) => { s with collector := c, history := s.history ++ [.started ctx] }
    | (.error _, c) => { s with collector := c }
  | .stop facility ctx last =>
    { s with
      collector := (Act.runOn (TracingFacility.endSpan β facility ctx last.status last.error)
        s.collector).2
      history := s.history ++ [.ended ctx last] }
  | .send transport request =>
    match Act.runOn transport.ready s.collector with
    | (.ok (.ok _), c) =>
      { s with collector := c, flights := s.flights ++ [{ journey := .start transport request }] }
    | (_, c) => { s with collector := c }
  | .advance place =>
    match s.flights[place]? with
    | some ⟨journey, false⟩ =>
      match Act.runOn journey.advance s.collector with
      | (.ok (next, event?), c) =>
        { s with
          collector := c
          flights := s.flights.set place ⟨next, false⟩
          history := s.history ++ event?.toList.map .layer }
      | (.error _, c) => { s with collector := c, flights := s.flights.set place ⟨journey, true⟩ }
    | _ => s

/-- A run from the given collector. -/
def run (commands : List (TrafficCommand τ β)) (c : Collector) : Traffic τ β :=
  commands.foldl step { collector := c }

end Traffic

/-! ## One step of a request -/

namespace Journey

variable {τ β : Type}

/-- The contexts of the layers that a request is in carry their spans. -/
def Carried (journey : Journey (SpanFacility τ) β) : Prop :=
  ∀ layer ∈ journey.entered, layer.2.span?.isSome = true

/-- The events are what the metrics tell of a step, and what it does to the layers. -/
structure Tells (journey next : Journey (SpanFacility τ) β) (events : List TrafficEvent)
    (c c' : Collector) : Prop where
  metered : c'.metered = c.metered ++ events.flatMap TrafficEvent.metered
  carried : ∀ event ∈ events, event.Carried
  entered : next.Carried
  layers : (events.filterMap TrafficEvent.entry?).length + journey.entered.length =
    (events.filterMap TrafficEvent.completion?).length + next.entered.length

variable [SpanBackend τ] [CarriesSpans τ] [Unmetered τ] [BaseTransport β] [UnmeteredBase β]

/-- A step tells what it does, unless the base crashes; then the metrics are as before. -/
theorem advance_tells {journey : Journey (SpanFacility τ) β} (hcarried : journey.Carried)
    (c : Collector) :
    (∃ next event? c', Act.runOn journey.advance c = (.ok (next, event?), c') ∧
      journey.Tells next (event?.toList.map .layer) c c') ∨
    ∃ crash c', Act.runOn journey.advance c = (.error crash, c') ∧ c'.metered = c.metered := by
  obtain ⟨entered, heading⟩ := journey
  cases heading with
  | inward ahead request =>
    cases ahead with
    | base base =>
      have hkept := UnmeteredBase.call base request
      rcases hrun : Act.runOn (BaseTransport.call base request) c with ⟨crash | outcome, c'⟩
      · exact .inr ⟨crash, c', by simp only [advance, Act.runOn_bind, hrun], hkept.after hrun⟩
      · refine .inl ⟨⟨entered, .outward outcome⟩, none, c', ?_, ?_, by simp, hcarried, rfl⟩
        · simp only [advance, Act.runOn_bind, hrun, Act.runOn_pure]
        · simpa using hkept.after hrun
    | traced facility inner =>
      obtain ⟨ctx, request', c', hrun, hspan, htold⟩ :=
        Transport.exists_runOn_openSpan_metered (β := β) facility request c
      refine .inl ⟨⟨(facility, ctx) :: entered, .inward inner request'⟩, some (.entered ctx), c',
        ?_, ?_, ?_, List.forall_mem_cons.mpr ⟨hspan, hcarried⟩, ?_⟩
      · simp only [advance, Act.runOn_bind, hrun, Act.runOn_pure]
      · simpa using htold
      · simpa [TrafficEvent.Carried] using hspan
      · simp [TrafficEvent.entry?, TrafficEvent.completion?, Nat.add_comm]
  | outward outcome =>
    cases entered with
    | nil => exact .inl ⟨⟨[], .outward outcome⟩, none, c, rfl, by simp, by simp, hcarried, rfl⟩
    | cons layer entered =>
      obtain ⟨hspan, hrest⟩ := List.forall_mem_cons.mp hcarried
      obtain ⟨c', hrun, htold⟩ := Transport.closeSpan_meters (β := β) layer.1 layer.2 outcome c
      refine .inl ⟨⟨entered, .outward outcome⟩, some (.completed layer.2 outcome), c', ?_, ?_, ?_,
        hrest, ?_⟩
      · simp only [advance, Act.runOn_bind, hrun, Act.runOn_pure]
      · simpa using htold
      · simpa [TrafficEvent.Carried] using hspan
      · simp [TrafficEvent.entry?, TrafficEvent.completion?, Nat.add_comm]

end Journey

/-! ## What a run keeps -/

section

variable {τ β : Type}

/-- How many layers have started their span and not ended it. -/
def openLayers (flights : List (Flight τ β)) : Nat :=
  (flights.map fun flight => flight.journey.entered.length).sum

/-- A request at its place is replaced by what became of it. -/
theorem openLayers_set {flights : List (Flight τ β)} {place : Nat} {flight : Flight τ β}
    (h : flights[place]? = some flight) (next : Flight τ β) :
    openLayers (flights.set place next) + flight.journey.entered.length =
      openLayers flights + next.journey.entered.length := by
  induction flights generalizing place with
  | nil => simp at h
  | cons first rest ih =>
    cases place with
    | zero =>
      obtain rfl := Option.some.inj h
      simp only [openLayers, List.set_cons_zero, List.map_cons, List.sum_cons]
      omega
    | succ place =>
      have hrest := ih h
      simp only [openLayers, List.set_cons_succ, List.map_cons, List.sum_cons] at hrest ⊢
      omega

/-- Where no layer is open, every request has left those it entered. -/
theorem openLayers_of_done {flights : List (Flight τ β)}
    (h : ∀ flight ∈ flights, flight.isDone = true) : openLayers flights = 0 := by
  refine List.sum_eq_zero fun count hmem => ?_
  obtain ⟨⟨⟨entered, heading⟩, lost⟩, hflight, rfl⟩ := List.mem_map.mp hmem
  have hdone := h _ hflight
  cases entered with
  | nil => rfl
  | cons layer entered => simp [Flight.isDone, Journey.isDone] at hdone

/-- What a run keeps: `c` is the collector it began with, and `commands` are those so far. -/
structure Sound (c : Collector) (commands : List (TrafficCommand τ β)) (s : Traffic τ β) : Prop where
  metered : s.collector.metered = c.metered ++ s.history.flatMap TrafficEvent.metered
  carried : ∀ event ∈ s.history, event.Carried
  entered : ∀ flight ∈ s.flights, flight.journey.Carried
  layers : (s.history.filterMap TrafficEvent.entry?).length =
    (s.history.filterMap TrafficEvent.completion?).length + openLayers s.flights
  starts : (s.history.filterMap TrafficEvent.directStart?).length =
    commands.countP TrafficCommand.isStart
  stops : s.history.filterMap TrafficEvent.directEnd? = commands.filterMap TrafficCommand.stop?

/-- One more command, which adds `events` to the history. -/
theorem Sound.extend {c c' : Collector} {commands : List (TrafficCommand τ β)}
    {command : TrafficCommand τ β} {s : Traffic τ β} {flights : List (Flight τ β)}
    (h : Sound c commands s) (events : List TrafficEvent)
    (hmetered : c'.metered = s.collector.metered ++ events.flatMap TrafficEvent.metered)
    (hcarried : ∀ event ∈ events, event.Carried)
    (hentered : ∀ flight ∈ flights, flight.journey.Carried)
    (hlayers : (events.filterMap TrafficEvent.entry?).length + openLayers s.flights =
      (events.filterMap TrafficEvent.completion?).length + openLayers flights)
    (hstarts : (events.filterMap TrafficEvent.directStart?).length =
      [command].countP TrafficCommand.isStart)
    (hstops : events.filterMap TrafficEvent.directEnd? = [command].filterMap TrafficCommand.stop?) :
    Sound c (commands ++ [command]) ⟨c', flights, s.history ++ events⟩ where
  metered := by rw [hmetered, h.metered, List.flatMap_append, List.append_assoc]
  carried := List.forall_mem_append.mpr ⟨h.carried, hcarried⟩
  entered := hentered
  layers := by
    have hbefore := h.layers
    simp only [List.filterMap_append, List.length_append]
    omega
  starts := by
    rw [List.filterMap_append, List.length_append, h.starts, hstarts, List.countP_append]
  stops := by rw [List.filterMap_append, h.stops, hstops, List.filterMap_append]

/-- One more command, of which nothing comes but perhaps a request that is about to be sent or lost. -/
theorem Sound.idle {c c' : Collector} {commands : List (TrafficCommand τ β)}
    {command : TrafficCommand τ β} {s : Traffic τ β} {flights : List (Flight τ β)}
    (h : Sound c commands s) (hmetered : c'.metered = s.collector.metered)
    (hentered : ∀ flight ∈ flights, flight.journey.Carried)
    (hlayers : openLayers flights = openLayers s.flights)
    (hstarts : command.isStart = false) (hstops : command.stop? = none) :
    Sound c (commands ++ [command]) ⟨c', flights, s.history⟩ := by
  have hextend : Sound c (commands ++ [command]) ⟨c', flights, s.history ++ []⟩ :=
    h.extend [] (by simpa using hmetered) (by simp) hentered (by simp [hlayers]) (by simp [hstarts])
      (by simp [hstops])
  rwa [List.append_nil] at hextend

/-- To ask whether a stack is ready leaves the metrics alone. -/
theorem Transport.ready_keeps [BaseTransport β] [UnmeteredBase β]
    (transport : Transport (SpanFacility τ) β) : Act.Keeps Collector.metered transport.ready := by
  induction transport with
  | base base => exact UnmeteredBase.ready base
  | traced _ inner ih => exact ih

end

variable {τ β : Type} [SpanBackend τ] [CarriesSpans τ] [Unmetered τ] [BaseTransport β] [UnmeteredBase β]

theorem Sound.step {c : Collector} {commands : List (TrafficCommand τ β)} {s : Traffic τ β}
    (h : Sound c commands s) (command : TrafficCommand τ β) :
    Sound c (commands ++ [command]) (s.step command) := by
  cases command with
  | start facility ctx name =>
    obtain ⟨ctx', c', hrun, hspan, htold⟩ :=
      facility.exists_runOn_startSpan_metered ctx name s.collector
    rw [Traffic.step, hrun]
    exact h.extend [.started ctx'] (by simpa [TrafficEvent.metered] using htold)
      (by simpa [TrafficEvent.Carried] using hspan) h.entered rfl rfl rfl
  | stop facility ctx last =>
    obtain ⟨c', hrun, htold⟩ := SpanFacility.endSpan_meters ctx last s.collector
    have hend : (Act.runOn (TracingFacility.endSpan β facility ctx last.status last.error)
        s.collector).2 = c' := congrArg Prod.snd hrun
    rw [Traffic.step, hend]
    exact h.extend [.ended ctx last] (by simpa [TrafficEvent.metered] using htold)
      (by simp [TrafficEvent.Carried]) h.entered rfl rfl rfl
  | send transport request =>
    have hkept := transport.ready_keeps s.collector
    rw [Traffic.step]
    rcases hrun : Act.runOn transport.ready s.collector with ⟨crash | error | _, c'⟩ <;>
      rw [hrun] at hkept
    · exact h.idle hkept h.entered rfl rfl rfl
    · exact h.idle hkept h.entered rfl rfl rfl
    · refine h.idle hkept (List.forall_mem_append.mpr ⟨h.entered, ?_⟩) ?_ rfl rfl
      · simp [Journey.Carried, Journey.start]
      · simp [openLayers, Journey.start]
  | advance place =>
    rw [Traffic.step]
    rcases hflight : s.flights[place]? with _ | ⟨journey, _ | _⟩
    · exact h.idle rfl h.entered rfl rfl rfl
    · have hcarried : journey.Carried := h.entered _ (List.mem_of_getElem? hflight)
      have hset (next : Flight τ β) (hnext : next.journey.Carried) :
          ∀ flight ∈ s.flights.set place next, flight.journey.Carried := fun flight hmem =>
        (List.mem_or_eq_of_mem_set hmem).elim (h.entered flight) fun hsame => hsame ▸ hnext
      rcases journey.advance_tells hcarried s.collector with
        ⟨next, event?, c', hrun, htells⟩ | ⟨crash, c', hrun, hkept⟩
      · have hopen := openLayers_set hflight ⟨next, false⟩
        have hlayers := htells.layers
        simp only [hrun]
        refine h.extend _ htells.metered htells.carried (hset _ htells.entered) ?_ ?_ ?_
        · simp only at hopen
          omega
        · cases event? <;> rfl
        · cases event? <;> rfl
      · have hopen := openLayers_set hflight ⟨journey, true⟩
        simp only [hrun]
        exact h.idle hkept (hset _ hcarried) (by simp only at hopen; omega) rfl rfl
    · exact h.idle rfl h.entered rfl rfl rfl

theorem sound_run (commands : List (TrafficCommand τ β)) (c : Collector) :
    Sound c commands (Traffic.run commands c) := by
  induction commands using List.reverseRecOn with
  | nil =>
    exact ⟨by simp [Traffic.run], by simp [Traffic.run], by simp [Traffic.run], rfl, rfl, rfl⟩
  | append_singleton commands command ih =>
    rw [Traffic.run, List.foldl_concat]
    exact ih.step command

/-! ## What is read off the metrics -/

/-- The labels and the amount that an end is counted with. -/
def SpanEnd.increment (last : SpanEnd) : Labels × Nat := ([("status", last.outcome.name)], 1)

/-- The ends whose context carries a span. -/
def endsOfSpans (history : List TrafficEvent) : List (Context × SpanEnd) :=
  (history.filterMap TrafficEvent.end?).filter fun last => last.1.span?.isSome

theorem increments_started (history : List TrafficEvent) :
    (history.flatMap TrafficEvent.metered).filterMap (Observation.increment? startedTotal) =
      List.replicate (history.countP TrafficEvent.isStart) ([], 1) := by
  have hother : ¬ endedTotal = startedTotal := by decide
  have hends (ctx : Context) (last : SpanEnd) :
      (last.metered ctx).filterMap (Observation.increment? startedTotal) = [] := by
    rw [SpanEnd.metered]
    split <;> simp [Observation.increment?, hother]
  induction history with
  | nil => rfl
  | cons event rest ih =>
    rw [List.flatMap_cons, List.filterMap_append, ih, List.countP_cons]
    rcases event with ctx | ⟨ctx, last⟩ | ⟨ctx⟩ | ⟨ctx, outcome⟩ <;>
      simp [TrafficEvent.metered, TrafficEvent.isStart, Observation.increment?, List.filterMap_cons,
        List.replicate_succ, hends]

theorem increments_ended (history : List TrafficEvent) :
    (history.flatMap TrafficEvent.metered).filterMap (Observation.increment? endedTotal) =
      (endsOfSpans history).map fun last => last.2.increment := by
  have hother : ¬ startedTotal = endedTotal := by decide
  have hends (ctx : Context) (last : SpanEnd) :
      (last.metered ctx).filterMap (Observation.increment? endedTotal) =
        ([(ctx, last)].filter fun last => last.1.span?.isSome).map fun last => last.2.increment := by
    rw [SpanEnd.metered]
    cases hspan : ctx.span? <;> simp [Observation.increment?, SpanEnd.increment, hspan]
  induction history with
  | nil => rfl
  | cons event rest ih =>
    rw [List.flatMap_cons, List.filterMap_append, ih, endsOfSpans, endsOfSpans, List.filterMap_cons]
    rcases event with ctx | ⟨ctx, last⟩ | ⟨ctx⟩ | ⟨ctx, outcome⟩
    · simp [TrafficEvent.metered, TrafficEvent.end?, Observation.increment?, hother]
    · rw [TrafficEvent.metered, hends, ← List.map_append, ← List.filter_append]
      rfl
    · simp [TrafficEvent.metered, TrafficEvent.end?, Observation.increment?, hother]
    · rw [TrafficEvent.metered, List.filterMap_cons_none rfl, hends, ← List.map_append,
        ← List.filter_append]
      rfl

theorem samples_completed (history : List TrafficEvent) :
    (history.flatMap TrafficEvent.metered).filterMap (Observation.sample? requestDuration) =
      (history.filterMap TrafficEvent.completion?).map sampleLabels := by
  have hends (ctx : Context) (last : SpanEnd) :
      (last.metered ctx).filterMap (Observation.sample? requestDuration) = [] := by
    rw [SpanEnd.metered]
    split <;> rfl
  induction history with
  | nil => rfl
  | cons event rest ih =>
    rw [List.flatMap_cons, List.filterMap_append, ih]
    rcases event with ctx | ⟨ctx, last⟩ | ⟨ctx⟩ | ⟨ctx, outcome⟩ <;>
      simp [TrafficEvent.metered, TrafficEvent.completion?, Observation.sample?, List.filterMap_cons, hends]

/-! ## Counting events -/

/-- A span is started directly or by a layer. -/
theorem countP_isStart (history : List TrafficEvent) :
    history.countP TrafficEvent.isStart = (history.filterMap TrafficEvent.directStart?).length +
      (history.filterMap TrafficEvent.entry?).length := by
  induction history with
  | nil => rfl
  | cons event rest ih =>
    rcases event with ctx | ⟨ctx, last⟩ | ⟨ctx⟩ | ⟨ctx, outcome⟩ <;>
      simp [TrafficEvent.isStart, TrafficEvent.directStart?, TrafficEvent.entry?, List.countP_cons,
        List.filterMap_cons, ih] <;> omega

/-- An end is asked for directly or by a layer. -/
theorem length_ends (history : List TrafficEvent) :
    (history.filterMap TrafficEvent.end?).length =
      (history.filterMap TrafficEvent.directEnd?).length +
        (history.filterMap TrafficEvent.completion?).length := by
  induction history with
  | nil => rfl
  | cons event rest ih =>
    rcases event with ctx | ⟨ctx, last⟩ | ⟨ctx⟩ | ⟨ctx, outcome⟩ <;>
      simp [TrafficEvent.end?, TrafficEvent.directEnd?, TrafficEvent.completion?, List.filterMap_cons,
        ih] <;> omega

/-- Layers end their own spans: if the direct ends are of contexts that carry spans, all are. -/
theorem endsOfSpans_eq {history : List TrafficEvent} (hcarried : ∀ event ∈ history, event.Carried)
    (hdirect : ∀ last ∈ history.filterMap TrafficEvent.directEnd?, last.1.span?.isSome = true) :
    endsOfSpans history = history.filterMap TrafficEvent.end? := by
  refine List.filter_eq_self.mpr fun last hmem => ?_
  obtain ⟨event, hevent, hend⟩ := List.mem_filterMap.mp hmem
  have hspan := hcarried event hevent
  rcases event with ctx | ⟨ctx, last'⟩ | ⟨ctx⟩ | ⟨ctx, outcome⟩
  · cases hend
  · obtain rfl := Option.some.inj hend
    exact hdirect _ (List.mem_filterMap.mpr ⟨_, hevent, rfl⟩)
  · cases hend
  · obtain rfl := Option.some.inj hend
    exact hspan

/-! ## Conservation -/

namespace Sound

variable {τ β : Type} {c : Collector} {commands : List (TrafficCommand τ β)} {s : Traffic τ β}

/-- What is only read off the metrics grows by what is read off the history. -/
theorem filterMap_journal {α : Type} (h : Sound c commands s) {read : Observation → Option α}
    (hread : ∀ {observation a}, read observation = some a → observation.isFacade = true) :
    s.collector.journal.filterMap read = c.journal.filterMap read ++
      (s.history.flatMap TrafficEvent.metered).filterMap read := by
  rw [Collector.filterMap_metered hread, h.metered, List.filterMap_append,
    ← Collector.filterMap_metered hread]

theorem increments_started (h : Sound c commands s) :
    s.collector.increments startedTotal = c.increments startedTotal ++
      List.replicate (s.history.countP TrafficEvent.isStart) ([], 1) := by
  rw [Collector.increments, h.filterMap_journal (Observation.isFacade_of_increment? (.inl rfl)),
    Observability.increments_started, Collector.increments]

theorem increments_ended (h : Sound c commands s) :
    s.collector.increments endedTotal = c.increments endedTotal ++
      (endsOfSpans s.history).map fun last => last.2.increment := by
  rw [Collector.increments, h.filterMap_journal (Observation.isFacade_of_increment? (.inr rfl)),
    Observability.increments_ended, Collector.increments]

theorem samples (h : Sound c commands s) :
    s.collector.samples requestDuration = c.samples requestDuration ++
      (s.history.filterMap TrafficEvent.completion?).map sampleLabels := by
  rw [Collector.samples, h.filterMap_journal Observation.isFacade_of_sample?, samples_completed,
    Collector.samples]

theorem total_started (h : Sound c commands s) :
    s.collector.total startedTotal =
      c.total startedTotal + s.history.countP TrafficEvent.isStart := by
  simp [Collector.total, h.increments_started]

theorem total_ended (h : Sound c commands s) :
    s.collector.total endedTotal = c.total endedTotal + (endsOfSpans s.history).length := by
  simp [Collector.total, h.increments_ended, SpanEnd.increment, Function.comp_def]

/-- Where the direct ends are those of the direct starts and no request is on its way, as many spans were
ended as started. -/
theorem balanced (h : Sound c commands s)
    (hends : (s.history.filterMap TrafficEvent.directStart?).Perm
      ((commands.filterMap TrafficCommand.stop?).map Prod.fst))
    (hdone : ∀ flight ∈ s.flights, flight.isDone = true) :
    (endsOfSpans s.history).length = s.history.countP TrafficEvent.isStart := by
  have hspans : ∀ last ∈ s.history.filterMap TrafficEvent.directEnd?, last.1.span?.isSome = true := by
    intro last hmem
    rw [h.stops] at hmem
    obtain ⟨event, hevent, hstart⟩ :=
      List.mem_filterMap.mp (hends.mem_iff.mpr (List.mem_map_of_mem hmem))
    have hcarried := h.carried event hevent
    rcases event with ctx | ⟨ctx, last'⟩ | event
    · obtain rfl := Option.some.inj hstart
      exact hcarried
    · cases hstart
    · cases hstart
  have hdirect := hends.length_eq
  have hlayers := h.layers
  rw [openLayers_of_done hdone] at hlayers
  rw [List.length_map, ← h.stops] at hdirect
  rw [endsOfSpans_eq h.carried hspans, length_ends, countP_isStart]
  omega

end Sound

variable {τ β : Type} [SpanBackend τ] [CarriesSpans τ] [Unmetered τ] [BaseTransport β] [UnmeteredBase β]

/-- **Metrics are conserved.**  Any run of direct starts, direct ends and requests through layers, in any
order and with the requests interleaved in any way.  The first total grows by one for every start, direct
or by a layer; the second by one for every end whose context carries a span, labelled with the status that
this end sets on that span; and there is a sample for every layer that completed its request, labelled with
the status of the response, or with zero if it failed.  If the direct ends are one for each context that a
direct start gave, and all requests were answered, both totals grow by the same number. -/
theorem metrics_conserved (commands : List (TrafficCommand τ β)) (c : Collector) :
    let s := Traffic.run commands c
    ((s.history.filterMap TrafficEvent.directStart?).length =
        commands.countP TrafficCommand.isStart ∧
      s.history.filterMap TrafficEvent.directEnd? = commands.filterMap TrafficCommand.stop?) ∧
    (s.collector.increments startedTotal = c.increments startedTotal ++
        List.replicate (s.history.countP TrafficEvent.isStart) ([], 1) ∧
      s.collector.total startedTotal =
        c.total startedTotal + s.history.countP TrafficEvent.isStart) ∧
    (s.collector.increments endedTotal = c.increments endedTotal ++
        (endsOfSpans s.history).map (fun last => ([("status", last.2.outcome.name)], 1)) ∧
      s.collector.total endedTotal = c.total endedTotal + (endsOfSpans s.history).length) ∧
    (∀ (facility : SpanFacility τ) (ctx : Context) (span : SpanHandle) (last : SpanEnd),
      ctx.span? = some span →
        Act.OnSpans (TracingFacility.endSpan β facility ctx last.status last.error)
          (last.calls.map (.called span.index)) ∧
        last.calls.filterMap SpanCall.status? = [last.outcome]) ∧
    s.collector.samples requestDuration = c.samples requestDuration ++
      (s.history.filterMap TrafficEvent.completion?).map sampleLabels ∧
    ((s.history.filterMap TrafficEvent.directStart?).Perm
        ((commands.filterMap TrafficCommand.stop?).map Prod.fst) →
      (∀ flight ∈ s.flights, flight.isDone = true) →
        ∃ count, s.collector.total startedTotal = c.total startedTotal + count ∧
          s.collector.total endedTotal = c.total endedTotal + count) := by
  have h := sound_run commands c
  refine ⟨⟨h.starts, h.stops⟩, ⟨h.increments_started, h.total_started⟩,
    ⟨h.increments_ended, h.total_ended⟩, fun facility ctx span last hspan => ⟨?_, ?_⟩, h.samples,
    fun hends hdone => ⟨_, h.total_started, ?_⟩⟩
  · have honspan := SpanFacility.endSpan_onSpans ctx last
    rwa [hspan] at honspan
  · exact last.filterMap_status?_calls
  · rw [h.total_ended, h.balanced hends hdone]

/-- The context that carries the first span started, if it was empty before. -/
def firstContext : Context := (Context.empty 7).insert 0 .span ⟨0⟩

/-- A span is started and ended directly while two requests through layers are on their way, one of which
is answered and one fails. -/
def interleaving : List (TrafficCommand Backend ScriptedTransport) :=
  let facility : SpanFacility Backend := ⟨.backend (.recording ⟨"backend"⟩)⟩
  let through (script : TransportScript) : TrafficCommand Backend ScriptedTransport :=
    .send (.traced facility (.base ⟨"base", script⟩)) ⟨"GET", .host ['b'], [], none⟩
  [ .start facility (Context.empty 7) "job", through (.echoes 503), through (.fails "refused"),
    .advance 0, .advance 1, .stop facility firstContext ⟨200, none⟩,
    .advance 0, .advance 1, .advance 1, .advance 0 ]

theorem metrics_conserved_interleaved :
    let s := Traffic.run interleaving { idText := fun _ => "" }
    s.history.filterMap TrafficEvent.directStart? = [firstContext] ∧
      (interleaving.filterMap TrafficCommand.stop?).map Prod.fst = [firstContext] ∧
      (∀ flight ∈ s.flights, flight.isDone = true) ∧
      s.collector.samples requestDuration = [[("status", "0")], [("status", "503")]] ∧
      s.collector.increments endedTotal =
        [([("status", "ok")], 1), ([("status", "error")], 1), ([("status", "error")], 1)] ∧
      s.collector.total startedTotal = 3 ∧ s.collector.total endedTotal = 3 := by
  intro s
  have hstarts : s.history.filterMap TrafficEvent.directStart? = [firstContext] := rfl
  have hstops : (interleaving.filterMap TrafficCommand.stop?).map Prod.fst = [firstContext] := rfl
  have hdone : ∀ flight ∈ s.flights, flight.isDone = true := by decide
  have hthree : s.collector.total startedTotal = 3 := rfl
  obtain ⟨-, -, ⟨hincrements, -⟩, -, hsamples, hbalance⟩ :=
    metrics_conserved interleaving { idText := fun _ => "" }
  obtain ⟨count, hstarted, hended⟩ := hbalance (.of_eq (hstarts.trans hstops.symm)) hdone
  exact ⟨hstarts, hstops, hdone, hsamples, hincrements, hthree,
    hended.trans (hstarted.symm.trans hthree)⟩

end Observability
