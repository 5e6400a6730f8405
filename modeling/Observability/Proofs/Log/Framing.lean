import Observability.Log.JsonSink
import Observability.Proofs.Json.RoundTrip
import Observability.Proofs.Log.Flattening

/-!
# One line for a call

JSON sinks that share a writer put one line into it for each call that they do not drop, in the order of
the calls, and nothing else.

* `WriterBehaviour.Accepts` says that a writer takes every text in the end, if in several calls.
* `Writer.put_line` is what such a writer makes of a line.
* `JsonSink.Step` is something done with the sinks at hand; `JsonSink.objects` are the objects that steps
  build.

`JsonSink.runOn_performAll` says this of every run, and `JsonSink.canonical_of_mem_objects` that the
objects have their keys in order if the values attached have.
-/

namespace Observability

/-! ## Writers that take every text -/

/-- Whether a writer takes every text, in one call or in several. -/
def WriterBehaviour.Accepts : WriterBehaviour → Prop
  | .accepting | .interrupting => True
  | .chunked size => 0 < size
  | .failing | .failingOnce | .crashingOnce => False

namespace Writer

/-- To cut a text in two first makes no difference. -/
theorem cutLines_append (unfinished first second : List Char) :
    cutLines unfinished (first ++ second) =
      ((cutLines unfinished first).1 ++ (cutLines (cutLines unfinished first).2 second).1,
        (cutLines (cutLines unfinished first).2 second).2) := by
  induction first generalizing unfinished with
  | nil => rfl
  | cons c first ih =>
    rw [List.cons_append, cutLines, cutLines]
    split
    · rw [ih]
      rfl
    · rw [ih]

/-- A text without newline behind which the newline stands is one line. -/
theorem cutLines_line {line : List Char} (h : '\n' ∉ line) (unfinished : List Char) :
    cutLines unfinished (line ++ ['\n']) = ([String.ofList (unfinished ++ line)], []) := by
  induction line generalizing unfinished with
  | nil => simp [cutLines]
  | cons c line ih =>
    obtain ⟨hc, hline⟩ := not_or.mp (fun hmem => h (List.mem_cons.mpr hmem))
    rw [List.cons_append, cutLines, if_neg (Ne.symm hc), ih hline, List.append_assoc]
    rfl

/-- The answer to a call of a writer that accepts: it takes something, or asks to be called again and takes
something then. -/
theorem answer_of_accepts {behaviour : WriterBehaviour} (h : behaviour.Accepts) (call : Nat)
    {count : Nat} (hcount : 0 < count) :
    (∃ k, 0 < k ∧ answer behaviour call count = .took k) ∨
      answer behaviour call count = .interrupted ∧
        ∃ k, 0 < k ∧ answer behaviour (call + 1) count = .took k := by
  cases behaviour with
  | accepting => exact .inl ⟨count, hcount, rfl⟩
  | chunked size =>
    have hsize : 0 < size := h
    refine .inl ⟨min size count, by omega, ?_⟩
    rw [answer, if_neg (by omega)]
  | interrupting =>
    by_cases hodd : call % 2 = 1
    · refine .inr ⟨if_pos hodd, count, hcount, ?_⟩
      rw [answer, if_neg (by omega)]
    · exact .inl ⟨count, hcount, if_neg hodd⟩
  | failing => exact h.elim
  | failingOnce => exact h.elim
  | crashingOnce => exact h.elim

/-- What a writer becomes that takes a text: it was called some more, and the line at the end of the text
is unfinished. -/
def taken (writer : Writer) (text : List Char) (calls : Nat) : Writer :=
  { writer with calls, unfinished := (cutLines writer.unfinished text).2 }

/-- A call that takes a part of the text is followed by calls with the rest. -/
theorem push_took {fuel : Nat} {writer : Writer} {text : List Char} {count : Nat} (htext : text ≠ [])
    (h : answer writer.behaviour (writer.calls + 1) text.length = .took count) :
    push (fuel + 1) writer text =
      let called := writer.taken (text.take count) (writer.calls + 1)
      ((push fuel called (text.drop count)).1,
        (cutLines writer.unfinished (text.take count)).1 ++
          (push fuel called (text.drop count)).2) := by
  rw [push, if_neg (by simpa using htext)]
  simp only [h]
  rfl

theorem push_interrupted {fuel : Nat} {writer : Writer} {text : List Char} (htext : text ≠ [])
    (h : answer writer.behaviour (writer.calls + 1) text.length = .interrupted) :
    push (fuel + 1) writer text = push fuel { writer with calls := writer.calls + 1 } text := by
  rw [push, if_neg (by simpa using htext)]
  simp only [h]

/-- A writer that accepts takes the whole text, two calls being enough for each character. -/
theorem push_of_accepts {writer : Writer} (h : writer.behaviour.Accepts) (text : List Char) {fuel : Nat}
    (hfuel : 2 * text.length < fuel) :
    ∃ calls, push fuel writer text =
      (writer.taken text calls, (cutLines writer.unfinished text).1) := by
  -- by induction on a bound of the length: what is left after a call is shorter
  induction hlength : text.length using Nat.strong_induction_on generalizing text writer fuel with
  | _ length ih =>
    subst hlength
    obtain ⟨fuel, rfl⟩ : ∃ n, fuel = n + 1 := ⟨fuel - 1, by omega⟩
    by_cases htext : text = []
    · subst htext
      exact ⟨writer.calls, rfl⟩
    have hpos : 0 < text.length := List.length_pos_iff.mpr htext
    have htakes {fuel : Nat} {writer : Writer} (h : writer.behaviour.Accepts) {k : Nat} (hk : 0 < k)
        (hfuel : 2 * text.length ≤ fuel + 1)
        (hanswer : answer writer.behaviour (writer.calls + 1) text.length = .took k) :
        ∃ calls, push (fuel + 1) writer text =
          (writer.taken text calls, (cutLines writer.unfinished text).1) := by
      obtain ⟨calls, hrest⟩ := @ih (text.drop k).length (by rw [List.length_drop]; omega)
        (writer.taken (text.take k) (writer.calls + 1)) h (text.drop k) fuel
        (by rw [List.length_drop]; omega) rfl
      have hsplit := cutLines_append writer.unfinished (text.take k) (text.drop k)
      rw [List.take_append_drop] at hsplit
      refine ⟨calls, ?_⟩
      rw [push_took htext hanswer]
      simp only [hrest]
      simp only [taken, hsplit]
    rcases answer_of_accepts h (writer.calls + 1) hpos with
      ⟨k, hk, hanswer⟩ | ⟨hagain, k, hk, hanswer⟩
    · exact htakes h hk (by omega) hanswer
    · obtain ⟨fuel, rfl⟩ : ∃ n, fuel = n + 1 := ⟨fuel - 1, by omega⟩
      rw [push_interrupted htext hagain]
      exact @htakes fuel { writer with calls := writer.calls + 1 } h k hk (by omega) hanswer

/-- A writer is ready if it accepts, did not crash, and has no unfinished line. -/
structure Ready (writer : Writer) : Prop where
  accepts : writer.behaviour.Accepts
  running : writer.crashed = false
  finished : writer.unfinished = []

/-- A writer that is ready gives out a line as it is, and is ready again. -/
theorem put_line {writer : Writer} (h : writer.Ready) {line : List Char} (hline : '\n' ∉ line) :
    ∃ calls, writer.put (line ++ ['\n']) = ({ writer with calls }, [String.ofList line]) := by
  obtain ⟨calls, hpush⟩ := push_of_accepts h.accepts (line ++ ['\n']) (Nat.lt_add_of_pos_right two_pos)
  refine ⟨calls, ?_⟩
  rw [put, if_neg (by simp [h.running]), hpush, taken, h.finished, cutLines_line hline]
  simp [← h.finished]

end Writer

/-! ## Members in order -/

namespace Json

theorem canonical_insert {members : List (String × Json)} {value : Json}
    (h : Canonical (.object members)) (hvalue : Canonical value) (key : String) :
    Canonical (.object (insert key value members)) := by
  obtain ⟨hkeys, hmembers⟩ : Ascending members ∧ ∀ m ∈ members, Canonical m.2 := by
    cases h with | object hkeys hmembers => exact ⟨hkeys, hmembers⟩
  refine .object (ascending_insert hkeys key value) fun m hm => ?_
  rcases mem_insert hm with rfl | hm
  · exact hvalue
  · exact hmembers m hm

theorem canonical_insertNew {members : List (String × Json)} {value : Json}
    (h : Canonical (.object members)) (hvalue : Canonical value) (key : String) :
    Canonical (.object (insertNew key value members)) := by
  rw [insertNew]
  split
  · exact h
  · exact canonical_insert h hvalue key

/-- Pairs added one after the other to members in order. -/
theorem canonical_foldl {add : String → Json → List (String × Json) → List (String × Json)}
    (hadd : ∀ {members value}, Canonical (.object members) → Canonical value →
      ∀ key, Canonical (.object (add key value members)))
    {pairs members : List (String × Json)} (hpairs : ∀ pair ∈ pairs, Canonical pair.2)
    (h : Canonical (.object members)) :
    Canonical (.object (pairs.foldl (fun members pair => add pair.1 pair.2 members) members)) := by
  induction pairs generalizing members with
  | nil => exact h
  | cons pair rest ih =>
    obtain ⟨hpair, hrest⟩ := List.forall_mem_cons.mp hpairs
    exact ih hrest (hadd h hpair pair.1)

theorem canonical_membersOf {pairs : List (String × Json)} (h : ∀ pair ∈ pairs, Canonical pair.2) :
    Canonical (.object (membersOf pairs)) :=
  canonical_foldl canonical_insert h (.object List.Pairwise.nil (by simp))

/-- Each member of an object whose keys are in order is itself such a value. -/
theorem canonical_of_mem {members : List (String × Json)} (h : Canonical (.object members)) :
    ∀ m ∈ members, Canonical m.2 := by
  cases h with
  | object _ hmembers => exact hmembers

end Json

/-- Whether the values of the pairs have the keys of their objects in order. -/
def KeyValue.AllCanonical (pairs : List KeyValue) : Prop := ∀ pair ∈ pairs, pair.value.Canonical

theorem KeyValue.AllCanonical.append {first second : List KeyValue} (hfirst : AllCanonical first)
    (hsecond : AllCanonical second) : AllCanonical (first ++ second) := by
  intro pair hpair
  rcases List.mem_append.mp hpair with hpair | hpair
  · exact hfirst pair hpair
  · exact hsecond pair hpair

theorem KeyValue.canonical_merge {first second : List KeyValue} (hfirst : AllCanonical first)
    (hsecond : AllCanonical second) : Json.Canonical (.object (merge [first, second])) := by
  refine Json.canonical_membersOf fun pair hpair => ?_
  obtain ⟨kv, hkv, rfl⟩ := List.mem_map.mp hpair
  refine hfirst.append hsecond kv ?_
  simpa using hkv

/-- The pairs of a call. -/
def LoggerCall.pairs : LoggerCall → List KeyValue
  | .info _ pairs => pairs
  | .error _ _ pairs => pairs

namespace JsonSink

/-! ## The object of a call -/

theorem canonical_complete {sink : JsonSink} {given : List (String × Json)} {pairs : List KeyValue}
    (hgiven : ∀ m ∈ given, Json.Canonical m.2) (hvalues : KeyValue.AllCanonical sink.values)
    (hpairs : KeyValue.AllCanonical pairs) :
    Json.Canonical (.object (sink.complete given pairs)) := by
  have hmerged := KeyValue.canonical_merge hvalues hpairs
  refine Json.canonical_foldl Json.canonical_insertNew (Json.canonical_of_mem hmerged) ?_
  refine Json.canonical_membersOf fun m hm => ?_
  split at hm
  · exact hgiven m hm
  · rcases List.mem_append.mp hm with hm | hm
    · exact hgiven m hm
    · rw [List.mem_singleton.mp hm]
      exact .string _

/-- The object that a call builds, if its verbosity does not drop it. -/
def object? (sink : JsonSink) (time : Binary64) (level : UInt32) : LoggerCall → Option Json
  | .info message pairs =>
    if level ≤ sink.maxVerbosity then some (.object (sink.infoMembers time level message pairs))
    else none
  | .error error message pairs => some (.object (sink.errorMembers time error message pairs))

/-- The sink puts the line of its object into the writer. -/
theorem runOn_writeLine {sink : JsonSink} {c : Collector} {writer : Writer}
    (hwriter : c.writers[sink.writer]? = some writer) (hready : writer.Ready)
    (members : Binary64 → List (String × Json)) :
    ∃ calls, Act.runOn (sink.writeLine members) c =
      (.ok (), { c with
        writers := c.writers.set sink.writer { writer with calls }
        journal := c.journal ++ [.line writer.destination (Json.object (members c.clock)).print] }) := by
  obtain ⟨calls, hput⟩ := Writer.put_line hready (Json.newline_notMem_chars (.object (members c.clock)))
  refine ⟨calls, ?_⟩
  simp [writeLine, hwriter, hput, hready.running, Json.print]

/-- A call puts the line of its object into the writer, or does nothing. -/
theorem runOn_deliver {sink : JsonSink} {c : Collector} {writer : Writer}
    (hwriter : c.writers[sink.writer]? = some writer) (hready : writer.Ready) (level : UInt32)
    (call : LoggerCall) :
    ∃ calls, Act.runOn (call.deliver level sink) c =
      (.ok (), { c with
        writers := c.writers.set sink.writer { writer with calls }
        journal := c.journal ++ (sink.object? c.clock level call).toList.map fun object =>
          .line writer.destination object.print }) := by
  have hsame : c.writers.set sink.writer writer = c.writers := by
    obtain ⟨hlt, rfl⟩ := List.getElem?_eq_some_iff.mp hwriter
    exact List.set_getElem_self hlt
  cases call with
  | info message pairs =>
    have hinfo : LoggerCall.deliver level sink (.info message pairs) =
        if level ≤ sink.maxVerbosity then
          sink.writeLine fun time => sink.infoMembers time level message pairs
        else (pure () : Act Unit) := rfl
    by_cases hlevel : level ≤ sink.maxVerbosity
    · have hdeliver : LoggerCall.deliver level sink (.info message pairs) =
          sink.writeLine fun time => sink.infoMembers time level message pairs := by
        rw [hinfo, if_pos hlevel]
      have hobject : sink.object? c.clock level (.info message pairs) =
          some (.object (sink.infoMembers c.clock level message pairs)) := if_pos hlevel
      rw [hdeliver, hobject]
      exact runOn_writeLine hwriter hready _
    · have hdeliver : LoggerCall.deliver level sink (.info message pairs) = (pure () : Act Unit) := by
        rw [hinfo, if_neg hlevel]
      have hobject : sink.object? c.clock level (.info message pairs) = none := if_neg hlevel
      refine ⟨writer.calls, ?_⟩
      rw [hdeliver, hobject, Act.runOn_pure, hsame]
      simp
  | error error message pairs =>
    have hdeliver : LoggerCall.deliver level sink (.error error message pairs) =
        sink.writeLine fun time => sink.errorMembers time error message pairs := rfl
    have hobject : sink.object? c.clock level (.error error message pairs) =
        some (.object (sink.errorMembers c.clock error message pairs)) := rfl
    rw [hdeliver, hobject]
    exact runOn_writeLine hwriter hready _

/-! ## Runs -/

/-- Something done with the sinks at hand: another sink is derived from that at the index, that sink is
called, or time goes by. -/
inductive Step where
  | withValues (index : Nat) (pairs : List KeyValue)
  | withName (index : Nat) (name : String)
  | log (index : Nat) (level : UInt32) (call : LoggerCall)
  | wait (time : Binary64)

/-- Does the step, and gives the sinks at hand afterwards. -/
def Step.perform (sinks : List JsonSink) : Step → Act (List JsonSink)
  | .withValues index pairs =>
    match sinks[index]? with
    | some sink => return sinks ++ [← LogSink.withValues sink pairs]
    | none => return sinks
  | .withName index name =>
    match sinks[index]? with
    | some sink => return sinks ++ [← LogSink.withName sink name]
    | none => return sinks
  | .log index level call =>
    match sinks[index]? with
    | some sink => do
      call.deliver level sink
      return sinks
    | none => return sinks
  | .wait time => do
    Act.step fun c => ((), { c with clock := time })
    return sinks

/-- Does the steps in order. -/
def performAll : List JsonSink → List Step → Act (List JsonSink)
  | sinks, [] => return sinks
  | sinks, step :: rest => do performAll (← step.perform sinks) rest

/-- The sink with more values. -/
def valued (pairs : List KeyValue) (sink : JsonSink) : JsonSink :=
  { sink with values := sink.values ++ pairs }

/-- The sink with the name appended to its own. -/
def named (name : String) (sink : JsonSink) : JsonSink :=
  { sink with name := joinName sink.name name }

/-- The sinks at hand after the step. -/
def Step.sinksAfter (sinks : List JsonSink) : Step → List JsonSink
  | .withValues index pairs => sinks ++ sinks[index]?.toList.map (valued pairs)
  | .withName index name => sinks ++ sinks[index]?.toList.map (named name)
  | .log .. | .wait _ => sinks

/-- The time after the step. -/
def Step.timeAfter (time : Binary64) : Step → Binary64
  | .wait time => time
  | _ => time

/-- The object that the step builds. -/
def Step.object? (sinks : List JsonSink) (time : Binary64) : Step → Option Json
  | .log index level call => sinks[index]?.bind fun sink => sink.object? time level call
  | _ => none

/-- The objects that the steps build, in order. -/
def objects : List JsonSink → Binary64 → List Step → List Json
  | _, _, [] => []
  | sinks, time, step :: rest =>
    (step.object? sinks time).toList ++ objects (step.sinksAfter sinks) (step.timeAfter time) rest

/-- The sinks derived have the same writer. -/
theorem writer_sinksAfter {w : Nat} {sinks : List JsonSink} (h : ∀ sink ∈ sinks, sink.writer = w)
    (step : Step) : ∀ sink ∈ step.sinksAfter sinks, sink.writer = w := by
  have hderived (derive : JsonSink → JsonSink) (hsame : ∀ sink, (derive sink).writer = sink.writer)
      (index : Nat) : ∀ sink ∈ sinks ++ sinks[index]?.toList.map derive, sink.writer = w := by
    intro sink hsink
    rcases List.mem_append.mp hsink with hsink | hsink
    · exact h sink hsink
    · obtain ⟨origin, horigin, rfl⟩ := List.mem_map.mp hsink
      rw [hsame]
      exact h origin (List.mem_of_getElem? (Option.mem_toList.mp horigin))
  cases step with
  | withValues index pairs => exact hderived (valued pairs) (fun _ => rfl) index
  | withName index name => exact hderived (named name) (fun _ => rfl) index
  | log index level call => exact h
  | wait time => exact h

/-- What the collector is after a step of sinks that share a writer. -/
theorem runOn_perform {w : Nat} {sinks : List JsonSink} (hsinks : ∀ sink ∈ sinks, sink.writer = w)
    {c : Collector} {writer : Writer} (hwriter : c.writers[w]? = some writer) (hready : writer.Ready)
    (step : Step) :
    ∃ c' calls, Act.runOn (step.perform sinks) c = (.ok (step.sinksAfter sinks), c') ∧
      c'.writers = c.writers.set w { writer with calls } ∧ c'.clock = step.timeAfter c.clock ∧
      c'.journal = c.journal ++ (step.object? sinks c.clock).toList.map fun object =>
        .line writer.destination object.print := by
  have hsame : c.writers = c.writers.set w { writer with calls := writer.calls } := by
    obtain ⟨hlt, rfl⟩ := List.getElem?_eq_some_iff.mp hwriter
    exact (List.set_getElem_self hlt).symm
  have hderives {perform : Act (List JsonSink)} {sinks' : List JsonSink}
      (hrun : Act.runOn perform c = (.ok sinks', c)) :
      ∃ c' calls, Act.runOn perform c = (.ok sinks', c') ∧
        c'.writers = c.writers.set w { writer with calls } ∧ c'.clock = c.clock ∧
        c'.journal = c.journal ++ [] :=
    ⟨c, writer.calls, hrun, hsame, rfl, (List.append_nil _).symm⟩
  cases step with
  | withValues index pairs =>
    refine hderives ?_
    cases hsink : sinks[index]? with
    | none => simp [Step.perform, Step.sinksAfter, hsink]
    | some sink => simp [Step.perform, Step.sinksAfter, hsink, LogSink.withValues, valued]
  | withName index name =>
    refine hderives ?_
    cases hsink : sinks[index]? with
    | none => simp [Step.perform, Step.sinksAfter, hsink]
    | some sink => simp [Step.perform, Step.sinksAfter, hsink, LogSink.withName, named]
  | log index level call =>
    cases hsink : sinks[index]? with
    | none =>
      have hnone : (Step.log index level call).object? sinks c.clock = none := by
        rw [Step.object?, hsink, Option.bind_none]
      rw [hnone]
      refine hderives ?_
      simp [Step.perform, Step.sinksAfter, hsink]
    | some sink =>
      obtain rfl : sink.writer = w := hsinks sink (List.mem_of_getElem? hsink)
      obtain ⟨calls, hrun⟩ := runOn_deliver hwriter hready level call
      have hobject : (Step.log index level call).object? sinks c.clock =
          sink.object? c.clock level call := by
        rw [Step.object?, hsink, Option.bind_some]
      rw [hobject]
      simp only [Step.perform, hsink, Act.runOn_bind, hrun, Act.runOn_pure]
      exact ⟨_, calls, rfl, rfl, rfl, rfl⟩
  | wait time => exact ⟨{ c with clock := time }, writer.calls, rfl, hsame, rfl, (List.append_nil _).symm⟩

/-- **One line for a call.**  Steps with sinks that share a writer, ready at the start, put the text of each
object built into it, as one line and in order, and nothing else; the writer stays ready. -/
theorem runOn_performAll {w : Nat} {sinks : List JsonSink} (hsinks : ∀ sink ∈ sinks, sink.writer = w)
    {c : Collector} {writer : Writer} (hwriter : c.writers[w]? = some writer) (hready : writer.Ready)
    (steps : List Step) :
    ∃ sinks' c' calls, Act.runOn (performAll sinks steps) c = (.ok sinks', c') ∧
      c'.writers = c.writers.set w { writer with calls } ∧
      c'.journal = c.journal ++ (objects sinks c.clock steps).map fun object =>
        .line writer.destination object.print := by
  induction steps generalizing sinks c writer with
  | nil =>
    obtain ⟨hlt, rfl⟩ := List.getElem?_eq_some_iff.mp hwriter
    exact ⟨sinks, c, c.writers[w].calls, rfl, (List.set_getElem_self hlt).symm,
      (List.append_nil _).symm⟩
  | cons step rest ih =>
    obtain ⟨c₁, calls₁, hrun₁, hwriters₁, hclock₁, hjournal₁⟩ :=
      runOn_perform hsinks hwriter hready step
    obtain ⟨hlt, -⟩ := List.getElem?_eq_some_iff.mp hwriter
    have hwriter₁ : c₁.writers[w]? = some { writer with calls := calls₁ } := by
      rw [hwriters₁, List.getElem?_set_self hlt]
    have hready₁ : Writer.Ready { writer with calls := calls₁ } := ⟨hready.1, hready.2, hready.3⟩
    obtain ⟨sinks', c', calls, hrun, hwriters, hjournal⟩ :=
      ih (writer_sinksAfter hsinks step) hwriter₁ hready₁
    refine ⟨sinks', c', calls, ?_, ?_, ?_⟩
    · simp only [performAll, Act.runOn_bind, hrun₁, hrun]
    · rw [hwriters, hwriters₁, List.set_set]
    · rw [hjournal, hjournal₁, hclock₁, objects, List.map_append, List.append_assoc]

/-! ## The objects built -/

/-- The pairs that a step attaches. -/
def Step.pairs : Step → List KeyValue
  | .withValues _ pairs => pairs
  | .log _ _ call => call.pairs
  | .withName .. | .wait _ => []

theorem canonical_object? {sink : JsonSink} (hvalues : KeyValue.AllCanonical sink.values)
    {call : LoggerCall} (hpairs : KeyValue.AllCanonical call.pairs) (level : UInt32) (time : Binary64) :
    ∀ object ∈ sink.object? time level call, Json.Canonical object := by
  intro object hobject
  cases call with
  | info message pairs =>
    rw [object?, Option.mem_def, Option.ite_none_right_eq_some] at hobject
    rw [← Option.some.inj hobject.2]
    refine canonical_complete (fun m hm => ?_) hvalues hpairs
    simp only [List.mem_cons, List.not_mem_nil, or_false] at hm
    rcases hm with rfl | rfl | rfl | rfl <;> constructor
  | error error message pairs =>
    rw [← Option.some.inj hobject]
    refine canonical_complete (fun m hm => ?_) hvalues hpairs
    cases error <;> simp only [List.mem_append, List.mem_cons, List.not_mem_nil, or_false] at hm
    · rcases hm with rfl | rfl | rfl <;> constructor
    · rcases hm with (rfl | rfl | rfl) | rfl <;> constructor

/-- A sink derived keeps the values in order. -/
theorem canonical_sinksAfter {sinks : List JsonSink}
    (h : ∀ sink ∈ sinks, KeyValue.AllCanonical sink.values) {step : Step}
    (hstep : KeyValue.AllCanonical step.pairs) :
    ∀ sink ∈ step.sinksAfter sinks, KeyValue.AllCanonical sink.values := by
  have hderived (derive : JsonSink → JsonSink)
      (hvalues : ∀ sink ∈ sinks, KeyValue.AllCanonical (derive sink).values) (index : Nat) :
      ∀ sink ∈ sinks ++ sinks[index]?.toList.map derive, KeyValue.AllCanonical sink.values := by
    intro sink hsink
    rcases List.mem_append.mp hsink with hsink | hsink
    · exact h sink hsink
    · obtain ⟨origin, horigin, rfl⟩ := List.mem_map.mp hsink
      exact hvalues origin (List.mem_of_getElem? (Option.mem_toList.mp horigin))
  cases step with
  | withValues index pairs =>
    exact hderived (valued pairs) (fun sink hsink => (h sink hsink).append hstep) index
  | withName index name => exact hderived (named name) h index
  | log index level call => exact h
  | wait time => exact h

/-- The objects built have their keys in order, if the values attached have. -/
theorem canonical_of_mem_objects {sinks : List JsonSink}
    (hsinks : ∀ sink ∈ sinks, KeyValue.AllCanonical sink.values) {steps : List Step}
    (hsteps : ∀ step ∈ steps, KeyValue.AllCanonical step.pairs) (time : Binary64) :
    ∀ object ∈ objects sinks time steps, Json.Canonical object := by
  induction steps generalizing sinks time with
  | nil => simp [objects]
  | cons step rest ih =>
    obtain ⟨hstep, hrest⟩ := List.forall_mem_cons.mp hsteps
    intro object hobject
    rcases List.mem_append.mp hobject with hobject | hobject
    · cases step with
      | log index level call =>
        obtain ⟨sink, hsink, hobject⟩ := Option.bind_eq_some_iff.mp (Option.mem_toList.mp hobject)
        exact canonical_object? (hsinks sink (List.mem_of_getElem? hsink)) hstep level time object hobject
      | _ => cases hobject
    · exact ih (canonical_sinksAfter hsinks hstep) hrest _ object hobject

end JsonSink

end Observability
