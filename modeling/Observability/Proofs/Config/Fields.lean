import Observability.Proofs.Config.RoundTrip
import Observability.Proofs.Toml.Bare

/-!
# Fields of a configuration, one by one

The reader of a configuration goes through the entries of a document in their order and keeps a partial
result.  What it comes to is said here field by field.

* `FieldName.Value`, `FieldName.get` and `FieldName.read` are what a field holds, where, and how its node
  is read.  `FieldName.readIn` reads the field of a tree: its own entry, or the default.
* A `Slot` is a field with how it is read, got and put.  If the slots of a section are `Independent`, the
  entries of a table set each of them on its own (`decodeEntries_eq_ok_iff`).  The three sections are such
  slots, and so is the configuration with its sections.

`decode_eq_ok_iff` puts this together: in a tree whose sections are tables the configuration that is
described has at each field what is read of this field in the tree.
-/

namespace Observability.Config

open Toml (Node Entries Key)

namespace FieldName

/-- What the field holds. -/
@[reducible] def Value : FieldName → Type
  | .filter | .serviceName | .tracerName | .address => String
  | .format => LogFormat
  | .verbosity => UInt32
  | .sinks => List SinkKind
  | .tracingEnabled | .metricsEnabled => Bool
  | .sampler => Sampler
  | .shutdownTimeoutSecs => UInt64

/-- What the configuration has in the field. -/
def get (c : Config) : (f : FieldName) → f.Value
  | .filter => c.logging.filter
  | .format => c.logging.format
  | .verbosity => c.logging.verbosity
  | .sinks => c.logging.sinks
  | .tracingEnabled => c.tracing.enabled
  | .serviceName => c.tracing.serviceName
  | .tracerName => c.tracing.tracerName
  | .sampler => c.tracing.sampler
  | .shutdownTimeoutSecs => c.tracing.shutdownTimeoutSecs
  | .metricsEnabled => c.metrics.enabled
  | .address => c.metrics.address

/-- The reader of the field. -/
def read : (f : FieldName) → Node → Except Fault f.Value
  | .filter | .serviceName | .tracerName | .address => decodeText
  | .format => decodeChoice [.pretty, .json] LogFormat.name
  | .verbosity => decodeU32
  | .sinks => decodeSinks
  | .tracingEnabled | .metricsEnabled => decodeBoolean
  | .sampler => decodeChoice [.alwaysOn, .alwaysOff] Sampler.name
  | .shutdownTimeoutSecs => decodeU64

end FieldName

/-! ## What is read of a node -/

section Readers

variable {α : Type}

/-- A place that is filled in changes no success. -/
@[simp] theorem toOption_mapError (x : Except Fault α) (place : Fault → Fault) :
    (x.mapError place).toOption = x.toOption := by
  cases x <;> rfl

theorem toOption_bind {β : Type} (x : Except Fault α) (next : α → Except Fault β) :
    (x >>= next).toOption = x.toOption.bind fun a => (next a).toOption := by
  cases x <;> rfl

theorem toOption_map {β : Type} (change : α → β) (x : Except Fault α) :
    (change <$> x).toOption = x.toOption.map change := by
  cases x <;> rfl

theorem toOption_mapM {β : Type} (read : α → Except Fault β) (list : List α) :
    (list.mapM read).toOption = list.mapM fun a => (read a).toOption := by
  induction list with
  | nil => rfl
  | cons a rest ih =>
    rw [List.mapM_cons, List.mapM_cons, toOption_bind]
    simp only [toOption_bind, ih]
    rfl

/-- A name is known or not wherever it stands. -/
@[simp] theorem toOption_choose (known : List α) (nameOf : α → String) (span : Option Toml.Span)
    (name : String) : (choose known nameOf span name).toOption = known.find? (nameOf · = name) := by
  unfold choose
  cases known.find? (nameOf · = name) <;> rfl

theorem decodeText_bare (node : Node) : (decodeText node.bare).toOption = (decodeText node).toOption := by
  cases node with
  | scalar span value => cases value <;> rfl
  | array => rfl
  | tables => rfl
  | table => rfl

theorem decodeBoolean_bare (node : Node) :
    (decodeBoolean node.bare).toOption = (decodeBoolean node).toOption := by
  cases node with
  | scalar span value => cases value <;> rfl
  | array => rfl
  | tables => rfl
  | table => rfl

theorem decodeU32_bare (node : Node) : (decodeU32 node.bare).toOption = (decodeU32 node).toOption := by
  cases node with
  | scalar span value =>
    cases value with
    | integer n =>
      simp only [Node.bare, decodeU32]
      split <;> rfl
    | _ => rfl
  | array => rfl
  | tables => rfl
  | table => rfl

theorem decodeU64_bare (node : Node) : (decodeU64 node.bare).toOption = (decodeU64 node).toOption := by
  cases node with
  | scalar span value =>
    cases value with
    | integer n =>
      simp only [Node.bare, decodeU64]
      split <;> rfl
    | _ => rfl
  | array => rfl
  | tables => rfl
  | table => rfl

theorem checkChosen_bare (node : Node) :
    (checkChosen node.bare).toOption = (checkChosen node).toOption := by
  cases node with
  | scalar => rfl
  | array span items => cases items <;> rfl
  | tables span items => cases items <;> rfl
  | table span origin entries => cases entries <;> rfl

/-- A choice is the same in every place. -/
theorem decodeChoice_bare (known : List α) (nameOf : α → String) (node : Node) :
    (decodeChoice known nameOf node.bare).toOption = (decodeChoice known nameOf node).toOption := by
  cases node with
  | scalar span value =>
    cases value with
    | string name => simp [Node.bare, decodeChoice]
    | _ => rfl
  | array => rfl
  | tables => rfl
  | table span origin entries =>
    cases entries with
    | nil => rfl
    | cons entry rest =>
      cases rest with
      | nil => simp [Node.bare, Entries.bare, decodeChoice, toOption_bind, toOption_map, checkChosen_bare]
      | cons => rfl

theorem decodeSinks_bare (node : Node) :
    (decodeSinks node.bare).toOption = (decodeSinks node).toOption := by
  have hitems (items : List Node) :
      ((Node.bareAll items).mapM
        (decodeChoice [.tracing, .jsonStdout, .jsonStderr] SinkKind.name)).toOption =
      (items.mapM (decodeChoice [.tracing, .jsonStdout, .jsonStderr] SinkKind.name)).toOption := by
    rw [Node.bareAll_eq_map, toOption_mapM, toOption_mapM, List.mapM_map]
    simp only [Function.comp_def, decodeChoice_bare]
  cases node with
  | scalar => rfl
  | array span items => exact hitems items
  | tables span items => exact hitems items
  | table => rfl

/-- What is read of a field is in the value alone. -/
theorem FieldName.read_bare (f : FieldName) (node : Node) :
    (f.read node.bare).toOption = (f.read node).toOption := by
  cases f with
  | filter | serviceName | tracerName | address => exact decodeText_bare node
  | format | sampler => exact decodeChoice_bare _ _ node
  | verbosity => exact decodeU32_bare node
  | sinks => exact decodeSinks_bare node
  | tracingEnabled | metricsEnabled => exact decodeBoolean_bare node
  | shutdownTimeoutSecs => exact decodeU64_bare node

end Readers

/-! ## Slots -/

/-- A field of a section with how it is read, got and put. -/
structure Slot (σ : Type) where
  name : String
  Value : Type
  read : Node → Except Fault Value
  get : σ → Value
  put : Value → σ → σ

namespace Slot

variable {σ : Type}

/-- The slot as a field. -/
def field (slot : Slot σ) : Field σ := .of slot.name slot.read slot.put

/-- What is read of the slot in a table, where `start` has what is not there. -/
def readIn (slot : Slot σ) (start : σ) (entries : Entries) : Except Fault slot.Value :=
  match Entries.find? slot.name entries with
  | some node => slot.read node
  | none => .ok (slot.get start)

theorem readIn_cons_self (slot : Slot σ) (start : σ) {entry : Key × Node} (h : entry.1.name = slot.name)
    (rest : Entries) : slot.readIn start (entry :: rest) = slot.read entry.2 := by
  rw [readIn, Entries.find?, if_pos h]

theorem readIn_cons_of_ne (slot : Slot σ) (start : σ) {entry : Key × Node}
    (h : entry.1.name ≠ slot.name) (rest : Entries) :
    slot.readIn start (entry :: rest) = slot.readIn start rest := by
  rw [readIn, Entries.find?, if_neg h, readIn]

theorem readIn_of_notMem (slot : Slot σ) (start : σ) {entries : Entries}
    (h : slot.name ∉ entries.map (·.1.name)) : slot.readIn start entries = .ok (slot.get start) := by
  rw [readIn, Toml.find?_eq_none h]

theorem readIn_congr (slot : Slot σ) {start other : σ} (h : slot.get start = slot.get other)
    (entries : Entries) : slot.readIn start entries = slot.readIn other entries := by
  rw [readIn, readIn, h]

end Slot

/-- The slots have names of their own, what is put in one is in it and changes no other, and together they
are all there is. -/
structure Independent {σ : Type} (slots : List (Slot σ)) : Prop where
  names : (slots.map (·.name)).Nodup
  get_put : ∀ slot ∈ slots, ∀ x s, slot.get (slot.put x s) = x
  get_put_other : ∀ slot ∈ slots, ∀ other ∈ slots, slot.name ≠ other.name →
    ∀ x s, slot.get (other.put x s) = slot.get s
  ext : ∀ s t, (∀ slot ∈ slots, slot.get s = slot.get t) → s = t

section

variable {σ : Type} {slots : List (Slot σ)}

/-- A key that names no slot is passed over. -/
theorem decodeEntry_unknown (value : σ) {entry : Key × Node}
    (h : ∀ slot ∈ slots, entry.1.name ≠ slot.name) :
    decodeEntry (slots.map Slot.field) value entry = .ok value := by
  have hnone : ((slots.map Slot.field).find? fun field => field.name = entry.1.name) = none := by
    rw [List.find?_eq_none]
    intro field hfield hname
    obtain ⟨slot, hslot, rfl⟩ := List.mem_map.mp hfield
    exact h slot hslot (of_decide_eq_true hname).symm
  rw [decodeEntry, hnone]

/-- An entry that names a slot puts what is read of it there. -/
theorem decodeEntry_eq_ok_iff (hslots : Independent slots) {slot : Slot σ} (hslot : slot ∈ slots)
    {start value : σ} {entry : Key × Node} (h : entry.1.name = slot.name) :
    decodeEntry (slots.map Slot.field) start entry = .ok value ↔
      ∃ x, slot.read entry.2 = .ok x ∧ slot.put x start = value := by
  obtain ⟨field, hfield⟩ :
      ∃ field, (slots.map Slot.field).find? (fun field => field.name = entry.1.name) = some field := by
    rw [← Option.isSome_iff_exists, List.find?_isSome]
    exact ⟨slot.field, List.mem_map_of_mem hslot, decide_eq_true h.symm⟩
  obtain ⟨other, hother, rfl⟩ := List.mem_map.mp (List.mem_of_find?_eq_some hfield)
  have hname := List.find?_some hfield
  have hsame : other.name = slot.name := (of_decide_eq_true hname).trans h
  obtain rfl := List.inj_on_of_nodup_map hslots.names hother hslot hsame
  rw [decodeEntry, hfield]
  simp only [Slot.field, Field.of]
  cases other.read entry.2 <;> simp [Except.map, Except.mapError]

theorem decodeEntries_cons_eq_ok_iff {fields : List (Field σ)} {start result : σ} {entry : Key × Node}
    {rest : Entries} : decodeEntries fields start (entry :: rest) = .ok result ↔
      ∃ value, decodeEntry fields start entry = .ok value ∧ decodeEntries fields value rest = .ok result := by
  rw [decodeEntries, List.foldlM_cons]
  cases decodeEntry fields start entry with
  | error fault => simp [bind, Except.bind]
  | ok value => simp [bind, Except.bind, decodeEntries]

/-- What is read of a slot is the same before its own entry and behind any, once this is put. -/
theorem readIn_put (hslots : Independent slots) {own : Slot σ} (hown : own ∈ slots)
    {entry : Key × Node} (hname : entry.1.name = own.name) {rest : Entries}
    (hnew : entry.1.name ∉ rest.map (·.1.name)) {x : own.Value} (hread : own.read entry.2 = .ok x)
    (start : σ) {slot : Slot σ} (hslot : slot ∈ slots) :
    slot.readIn (own.put x start) rest = slot.readIn start (entry :: rest) := by
  by_cases hsame : slot.name = own.name
  · obtain rfl := List.inj_on_of_nodup_map hslots.names hslot hown hsame
    rw [hname] at hnew
    rw [slot.readIn_of_notMem _ hnew, slot.readIn_cons_self start hname, hread,
      hslots.get_put slot hslot]
  · have hne : entry.1.name ≠ slot.name := fun heq => hsame (heq.symm.trans hname)
    rw [slot.readIn_cons_of_ne start hne]
    exact slot.readIn_congr (hslots.get_put_other slot hslot own hown hsame x start) rest

/-- **Slot by slot.**  The entries of a table without a key twice set each slot to what is read of it, if
this can be read of every slot. -/
theorem decodeEntries_eq_ok_iff (hslots : Independent slots) {entries : Entries}
    (hnames : (entries.map (·.1.name)).Nodup) {start result : σ} :
    decodeEntries (slots.map Slot.field) start entries = .ok result ↔
      ∀ slot ∈ slots, slot.readIn start entries = .ok (slot.get result) := by
  induction entries generalizing start with
  | nil =>
    constructor
    · intro h slot _
      obtain rfl := Except.ok.inj h
      rfl
    · intro h
      rw [hslots.ext start result fun slot hslot => Except.ok.inj (h slot hslot)]
      rfl
  | cons entry rest ih =>
    rw [List.map_cons, List.nodup_cons] at hnames
    obtain ⟨hnew, hrest⟩ := hnames
    rw [decodeEntries_cons_eq_ok_iff]
    by_cases hknown : ∃ slot ∈ slots, entry.1.name = slot.name
    · obtain ⟨own, hown, hname⟩ := hknown
      constructor
      · rintro ⟨value, hentry, hresult⟩ slot hslot
        obtain ⟨x, hread, rfl⟩ := (decodeEntry_eq_ok_iff hslots hown hname).mp hentry
        rw [← readIn_put hslots hown hname hnew hread start hslot]
        exact (ih hrest).mp hresult slot hslot
      · intro h
        have hread := h own hown
        rw [own.readIn_cons_self start hname] at hread
        refine ⟨_, (decodeEntry_eq_ok_iff hslots hown hname).mpr ⟨_, hread, rfl⟩, ?_⟩
        refine (ih hrest).mpr fun slot hslot => ?_
        rw [readIn_put hslots hown hname hnew hread start hslot]
        exact h slot hslot
    · have hunknown : ∀ slot ∈ slots, entry.1.name ≠ slot.name := fun slot hslot hname =>
        hknown ⟨slot, hslot, hname⟩
      rw [decodeEntry_unknown start hunknown]
      simp only [Except.ok.injEq, exists_eq_left', ih hrest]
      refine forall₂_congr fun slot hslot => ?_
      rw [slot.readIn_cons_of_ne start (hunknown slot hslot)]

end

/-! ## The slots of a configuration -/

/-- The slot of the field in a section that has it so. -/
def FieldName.slot {σ : Type} (f : FieldName) (get : σ → f.Value) (put : f.Value → σ → σ) : Slot σ :=
  ⟨f.key, f.Value, f.read, get, put⟩

def loggingSlots : List (Slot Logging) :=
  [ FieldName.filter.slot (·.filter) fun x s => { s with filter := x },
    FieldName.format.slot (·.format) fun x s => { s with format := x },
    FieldName.verbosity.slot (·.verbosity) fun x s => { s with verbosity := x },
    FieldName.sinks.slot (·.sinks) fun x s => { s with sinks := x } ]

def tracingSlots : List (Slot Tracing) :=
  [ FieldName.tracingEnabled.slot (·.enabled) fun x s => { s with enabled := x },
    FieldName.serviceName.slot (·.serviceName) fun x s => { s with serviceName := x },
    FieldName.tracerName.slot (·.tracerName) fun x s => { s with tracerName := x },
    FieldName.sampler.slot (·.sampler) fun x s => { s with sampler := x },
    FieldName.shutdownTimeoutSecs.slot (·.shutdownTimeoutSecs)
      fun x s => { s with shutdownTimeoutSecs := x } ]

def metricsSlots : List (Slot Metrics) :=
  [ FieldName.metricsEnabled.slot (·.enabled) fun x s => { s with enabled := x },
    FieldName.address.slot (·.address) fun x s => { s with address := x } ]

/-- The slot of a section: a table of its slots. -/
def Part.slot {σ : Type} (p : Part) (slots : List (Slot σ)) (name : String) (get : Config → σ)
    (put : σ → Config → Config) : Slot Config :=
  ⟨p.name, σ, decodeSection (slots.map Slot.field) name (get {}), get, put⟩

def partSlots : List (Slot Config) :=
  [ Part.logging.slot loggingSlots "LoggingConfig" (·.logging) fun x c => { c with logging := x },
    Part.tracing.slot tracingSlots "TracingConfig" (·.tracing) fun x c => { c with tracing := x },
    Part.metrics.slot metricsSlots "MetricsConfig" (·.metrics) fun x c => { c with metrics := x } ]

theorem map_field_partSlots : partSlots.map Slot.field = sections := rfl

theorem independent_loggingSlots : Independent loggingSlots where
  names := by decide
  get_put := by simp [loggingSlots, FieldName.slot]
  get_put_other := by simp [loggingSlots, FieldName.slot, FieldName.key]
  ext := by
    rintro ⟨⟩ ⟨⟩ h
    simpa [loggingSlots, FieldName.slot] using h

theorem independent_tracingSlots : Independent tracingSlots where
  names := by decide
  get_put := by simp [tracingSlots, FieldName.slot]
  get_put_other := by simp [tracingSlots, FieldName.slot, FieldName.key]
  ext := by
    rintro ⟨⟩ ⟨⟩ h
    simpa [tracingSlots, FieldName.slot] using h

theorem independent_metricsSlots : Independent metricsSlots where
  names := by decide
  get_put := by simp [metricsSlots, FieldName.slot]
  get_put_other := by simp [metricsSlots, FieldName.slot, FieldName.key]
  ext := by
    rintro ⟨⟩ ⟨⟩ h
    simpa [metricsSlots, FieldName.slot] using h

theorem independent_partSlots : Independent partSlots where
  names := by decide
  get_put := by simp [partSlots, Part.slot]
  get_put_other := by simp [partSlots, Part.slot, Part.name]
  ext := by
    rintro ⟨⟩ ⟨⟩ h
    simpa [partSlots, Part.slot] using h

/-! ## The fields of a tree -/

/-- The entries of the section; none if it is not there. -/
def Part.entriesIn (root : Entries) (p : Part) : Entries :=
  match Entries.find? p.name root with
  | some (.table _ _ entries) => entries
  | _ => []

/-- The sections are tables, and neither the root nor a section has a key twice. -/
structure Tabular (root : Entries) : Prop where
  names : (root.map (·.1.name)).Nodup
  tables : ∀ (p : Part) (node : Node), Entries.find? p.name root = some node →
    ∃ span origin entries, node = .table span origin entries ∧ (entries.map (·.1.name)).Nodup

namespace FieldName

/-- The node of the field, if it has an entry. -/
def entry? (root : Entries) (f : FieldName) : Option Node := Entries.find? f.key (f.part.entriesIn root)

/-- The field of a tree: what is read of its entry, or the default if there is none. -/
def readIn (root : Entries) (f : FieldName) : Except Fault f.Value :=
  match f.entry? root with
  | some node => f.read node
  | none => .ok (f.get {})

end FieldName

theorem Tabular.names_entriesIn {root : Entries} (h : Tabular root) (p : Part) :
    ((p.entriesIn root).map (·.1.name)).Nodup := by
  unfold Part.entriesIn
  split
  · next span origin entries hfind =>
    obtain ⟨_, _, _, heq, hnames⟩ := h.tables p _ hfind
    obtain ⟨-, -, rfl⟩ := Node.table.inj heq
    exact hnames
  · exact List.nodup_nil

/-- A section is read slot by slot. -/
theorem readIn_slot_eq_ok_iff {σ : Type} {slots : List (Slot σ)} (hslots : Independent slots)
    {root : Entries} (h : Tabular root) (p : Part) (name : String) (get : Config → σ)
    (put : σ → Config → Config) (c : Config) :
    (p.slot slots name get put).readIn {} root = .ok ((p.slot slots name get put).get c) ↔
      ∀ slot ∈ slots, slot.readIn (get {}) (p.entriesIn root) = .ok (slot.get (get c)) := by
  rw [← decodeEntries_eq_ok_iff hslots (h.names_entriesIn p), Part.entriesIn]
  show (match Entries.find? p.name root with
    | some node => decodeSection (slots.map Slot.field) name (get {}) node
    | none => .ok (get {})) = .ok (get c) ↔ _
  cases hfind : Entries.find? p.name root with
  | none => rfl
  | some node =>
    obtain ⟨span, origin, entries, rfl, -⟩ := h.tables p node hfind
    rfl

/-- **Field by field.**  A tree whose sections are tables describes the configuration that has at each
field what is read of this field, if this can be read of every field. -/
theorem decode_eq_ok_iff {root : Entries} (h : Tabular root) {c : Config} :
    decode root = .ok c ↔ ∀ f, FieldName.readIn root f = .ok (f.get c) := by
  rw [decode, ← map_field_partSlots, decodeEntries_eq_ok_iff independent_partSlots h.names]
  simp only [partSlots, List.forall_mem_cons, List.not_mem_nil, false_implies, implies_true, and_true]
  rw [readIn_slot_eq_ok_iff independent_loggingSlots h, readIn_slot_eq_ok_iff independent_tracingSlots h,
    readIn_slot_eq_ok_iff independent_metricsSlots h]
  simp only [loggingSlots, tracingSlots, metricsSlots, List.forall_mem_cons, List.not_mem_nil,
    false_implies, implies_true, and_true]
  constructor
  · rintro ⟨⟨hfilter, hformat, hverbosity, hsinks⟩, ⟨henabled, hservice, htracer, hsampler, htimeout⟩,
      hexporting, haddress⟩ f
    cases f with
    | filter => exact hfilter
    | format => exact hformat
    | verbosity => exact hverbosity
    | sinks => exact hsinks
    | tracingEnabled => exact henabled
    | serviceName => exact hservice
    | tracerName => exact htracer
    | sampler => exact hsampler
    | shutdownTimeoutSecs => exact htimeout
    | metricsEnabled => exact hexporting
    | address => exact haddress
  · intro hall
    exact ⟨⟨hall .filter, hall .format, hall .verbosity, hall .sinks⟩,
      ⟨hall .tracingEnabled, hall .serviceName, hall .tracerName, hall .sampler,
        hall .shutdownTimeoutSecs⟩, hall .metricsEnabled, hall .address⟩

end Observability.Config
