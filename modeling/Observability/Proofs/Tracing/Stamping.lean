import Observability.Proofs.Span.Settings
import Observability.Proofs.Tracing.Wrapped

/-!
# The stamp of wrapped tracers

A backend in wrappers is asked for a client span that carries the correlation id of its context.  Whatever
the caller asked for, and however many wrappers there are, it is started once and for the same.

* `SpanSettings.stamped` are settings with the stamp of a wrapper on them.
* `Tracer.stacked tracer count` is the backend in so many wrappers.

A stamp goes over an earlier one (`stamped_stamped`), so a stack leaves that of a single wrapper
(`ofOptions_stacked`).  `stack_starts_once` says so of every backend.
-/

namespace Observability

/-! ## One attribute put in -/

namespace Attribute

/-- Put in again, an attribute is where it was. -/
theorem put_put_self (new : Attribute) (list : List Attribute) : put new (put new list) = put new list := by
  induction list with
  | nil => simp [put]
  | cons first rest ih =>
    by_cases same : first.key = new.key
    · simp [put, same]
    · simp [put, same, ih]

/-- Where no key is repeated, an attribute goes into the place of its key, or else behind the others. -/
theorem put_eq_of_nodup (new : Attribute) {list : List Attribute} (h : (list.map (·.key)).Nodup) :
    put new list =
      if new.key ∈ list.map (·.key) then list.map fun a => if a.key = new.key then new else a
      else list ++ [new] := by
  induction list with
  | nil => rfl
  | cons first rest ih =>
    obtain ⟨hfirst, hrest⟩ := List.nodup_cons.mp h
    rw [put]
    by_cases same : first.key = new.key
    · have hothers : rest.map (fun a => if a.key = new.key then new else a) = rest := by
        refine (List.map_congr_left fun a ha => if_neg fun heq => hfirst ?_).trans (List.map_id _)
        exact List.mem_map.mpr ⟨a, ha, heq.trans same.symm⟩
      rw [if_pos same, if_pos (by simp [same]), List.map_cons, if_pos same, hothers, same]
    · have hmem : new.key ∈ (first :: rest).map (·.key) ↔ new.key ∈ rest.map (·.key) := by
        simp [Ne.symm same]
      rw [if_neg same, ih hrest]
      by_cases hin : new.key ∈ rest.map (·.key)
      · rw [if_pos hin, if_pos (hmem.mpr hin), List.map_cons, if_neg same]
      · rw [if_neg hin, if_neg fun h => hin (hmem.mp h), List.cons_append]

/-- The attributes with other keys stay as they are and in their order. -/
theorem filter_put (new : Attribute) (list : List Attribute) :
    (put new list).filter (·.key ≠ new.key) = list.filter (·.key ≠ new.key) := by
  induction list with
  | nil => simp [put]
  | cons first rest ih =>
    by_cases same : first.key = new.key
    · simp [put, same]
    · simp only [put, same, if_false, List.filter_cons, ih]

end Attribute

/-! ## The stamp -/

namespace SpanSettings

/-- The settings of a client span that carries the id. -/
def stamped (settings : SpanSettings) (id : CorrelationId) : SpanSettings where
  kind := .client
  attributes := Attribute.put ⟨correlationKey, .string id.text⟩ settings.attributes

/-- A wrapper puts its stamp on what the options come to. -/
theorem ofOptions_correlationOptions (options : List StartOption) (id : CorrelationId) :
    ofOptions (options ++ Tracer.correlationOptions id) = (ofOptions options).stamped id := by
  rw [ofOptions_append]
  rfl

theorem stamped_stamped (settings : SpanSettings) (id : CorrelationId) :
    (settings.stamped id).stamped id = settings.stamped id := by
  simp only [stamped, Attribute.put_put_self]

/-- However many wrappers there are, the stamp is that of one. -/
theorem ofOptions_wrapperOptions (options : List StartOption) (count : Nat) (id : CorrelationId) :
    ofOptions (options ++ Tracer.wrapperOptions (count + 1) id) = (ofOptions options).stamped id := by
  induction count with
  | zero =>
    rw [Tracer.wrapperOptions_succ, ← List.append_assoc, ofOptions_correlationOptions]
    exact congrArg (fun given => (ofOptions given).stamped id) (List.append_nil options)
  | succ count ih =>
    rw [Tracer.wrapperOptions_succ, ← List.append_assoc, ofOptions_correlationOptions, ih,
      stamped_stamped]

/-- Options come to attributes without repeated keys. -/
theorem nodup_ofOptions (options : List StartOption) :
    ((ofOptions options).attributes.map (·.key)).Nodup := by
  rw [attributes_ofOptions]
  exact (Attribute.gathers_merged _).nodup

end SpanSettings

/-! ## Stacks -/

namespace Tracer

variable {τ : Type}

/-- The backend in so many wrappers. -/
def stacked (tracer : τ) : Nat → Tracer τ
  | 0 => .backend tracer
  | count + 1 => .correlated (stacked tracer count)

@[simp] theorem root_stacked (tracer : τ) (count : Nat) : (stacked tracer count).root = tracer := by
  induction count with
  | zero => rfl
  | succ count ih => exact ih

@[simp] theorem wrappers_stacked (tracer : τ) (count : Nat) :
    (stacked tracer count).wrappers = count := by
  induction count with
  | zero => rfl
  | succ count ih => exact congrArg (· + 1) ih

variable [SpanBackend τ]

/-- A stack makes sure of the id and starts its backend; nothing else happens. -/
theorem runOn_start_stacked (tracer : τ) {ctx mid : Context} {id : CorrelationId} {c c' : Collector}
    (hensure : Act.runOn ctx.ensureCorrelationId c = (.ok (mid, id), c'))
    (hmid : mid.correlationId? = some id) (count : Nat) (name : String)
    (options : List StartOption) :
    Act.runOn ((stacked tracer (count + 1)).start ctx name options) c =
      Act.runOn (SpanBackend.start tracer mid name (options ++ wrapperOptions (count + 1) id)) c' := by
  have hrun := runOn_start_correlated hensure hmid (stacked tracer count) name options
  rwa [root_stacked, wrappers_stacked] at hrun

/-- **A stack starts its backend once.**  A backend, whichever it is, stands in one wrapper or more.  A
start of the stack is one start of the backend: under the same name, from the caller's context, which
carries its own id or else a new one, and what the start gives is what the backend gives.  Its options
come to those of the caller for a client span, with the id in the place of its attribute or, if the caller
has none, behind all others, which stay as they are.  The number of wrappers makes no difference. -/
theorem stack_starts_once (tracer : τ) (ctx : Context) (name : String) (options : List StartOption)
    (c : Collector) :
    let asked := (SpanSettings.ofOptions options).attributes
    ∃ mid id c' settings,
      ctx.Ensured c mid id c' ∧ settings.kind = .client ∧
      settings.attributes = (if correlationKey ∈ asked.map (·.key) then
          asked.map fun a => if a.key = correlationKey then ⟨correlationKey, .string id.text⟩ else a
        else asked ++ [⟨correlationKey, .string id.text⟩]) ∧
      settings.attributes.filter (·.key ≠ correlationKey) = asked.filter (·.key ≠ correlationKey) ∧
      ∀ count, ∃ given, SpanSettings.ofOptions given = settings ∧
        Act.runOn ((stacked tracer (count + 1)).start ctx name options) c =
          Act.runOn (SpanBackend.start tracer mid name given) c' := by
  intro asked
  obtain ⟨mid, id, c', hensure, hensured⟩ := ctx.exists_ensured c
  refine ⟨mid, id, c', (SpanSettings.ofOptions options).stamped id, hensured, rfl,
    Attribute.put_eq_of_nodup _ (SpanSettings.nodup_ofOptions options),
    Attribute.filter_put ⟨correlationKey, .string id.text⟩ asked,
    fun count => ⟨options ++ wrapperOptions (count + 1) id, ?_, ?_⟩⟩
  · exact SpanSettings.ofOptions_wrapperOptions options count id
  · exact runOn_start_stacked tracer hensure hensured.carries count name options

/-- Three wrappers around one backend, and a caller who brings an id of its own, twice, and a kind. -/
theorem stack_starts_once_forged :
    let tracer : RecordingTracer := ⟨"backend"⟩
    let forged : List StartOption := [.kind .server, .attributes [⟨"x-correlation-id", .string "forged"⟩,
      ⟨"vm", .string "i-1"⟩, ⟨"x-correlation-id", .string "again"⟩]]
    let c : Collector := { idText := fun _ => "new" }
    ∃ given summary,
      (Act.runOn ((stacked tracer 3).start (.empty 0) "op" forged) c).2.journal =
        [.spanStarted 1 "backend" "op" given summary] ∧
      SpanSettings.ofOptions given =
        ⟨.client, [⟨"x-correlation-id", .string "new"⟩, ⟨"vm", .string "i-1"⟩]⟩ ∧
      summary.correlationId = some "new" := by
  intro tracer forged c
  obtain ⟨mid, id, c', ⟨kind, attributes⟩, hensured, hkind, hattributes, -, hrun⟩ :=
    stack_starts_once tracer (.empty 0) "op" forged c
  obtain ⟨given, hgiven, hcount⟩ := hrun 2
  obtain rfl : id = ⟨"new"⟩ := hensured.given
  obtain rfl : kind = .client := hkind
  obtain ⟨idCount, storageCount, rfl⟩ := hensured.rest
  refine ⟨given, mid.summary, ?_, hgiven.trans ?_, ?_⟩
  · exact congrArg (fun result => result.2.journal)
      (hcount.trans (tracer.runOn_start mid "op" given { c with idCount, storageCount }))
  · exact congrArg (SpanSettings.mk .client) (hattributes.trans (by decide))
  · rw [Context.summary, hensured.carries]
    rfl

end Tracer

end Observability
