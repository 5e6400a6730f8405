import Mathlib.Data.List.Nodup
import Mathlib.Data.Set.Defs
import Observability.Config.Parser
import Observability.Proofs.Toml.Lines

/-!
# A configuration written and read back

A document may leave out what is as the defaults have it, and may write the rest in any order and layout.

* `FieldName` names the fields of a configuration; `FieldName.setting` is what is written of one.
* `Layout` is the order of sections and fields in a document, and `Layout.Writes` says which fields it
  has.
* `pick` takes the fields that are written from a configuration, and the others from the defaults.

`decode_layout` says that a tree with the fields of a layout describes what is picked, and
`parse_written` that a document with all fields that differ from the defaults is read as the
configuration.
-/

namespace Observability.Config

open Toml (Setting Node Entries Holds IsText IsSet IsPart Outline Key)

/-! ## Names and fields -/

/-- The sections of a configuration. -/
inductive Part where
  | logging
  | tracing
  | metrics
  deriving DecidableEq, Repr

def Part.name : Part → String
  | .logging => "logging"
  | .tracing => "tracing"
  | .metrics => "metrics"

/-- The fields of a configuration. -/
inductive FieldName where
  | filter
  | format
  | verbosity
  | sinks
  | tracingEnabled
  | serviceName
  | tracerName
  | sampler
  | shutdownTimeoutSecs
  | metricsEnabled
  | address
  deriving DecidableEq, Repr

/-- How a format is written. -/
def formatWord : LogFormat → String
  | .pretty => "pretty"
  | .json => "json"

/-- How a sink is written. -/
def sinkWord : SinkKind → String
  | .tracing => "tracing"
  | .jsonStdout => "json_stdout"
  | .jsonStderr => "json_stderr"

/-- How a sampler is written. -/
def samplerWord : Sampler → String
  | .alwaysOn => "always_on"
  | .alwaysOff => "always_off"

namespace FieldName

/-- The section of the field. -/
def part : FieldName → Part
  | .filter | .format | .verbosity | .sinks => .logging
  | .tracingEnabled | .serviceName | .tracerName | .sampler | .shutdownTimeoutSecs => .tracing
  | .metricsEnabled | .address => .metrics

/-- The key of the field in its section. -/
def key : FieldName → String
  | .filter => "filter"
  | .format => "format"
  | .verbosity => "verbosity"
  | .sinks => "sinks"
  | .tracingEnabled | .metricsEnabled => "enabled"
  | .serviceName => "service_name"
  | .tracerName => "tracer_name"
  | .sampler => "sampler"
  | .shutdownTimeoutSecs => "shutdown_timeout_secs"
  | .address => "address"

/-- What is written of the field. -/
def setting (c : Config) : FieldName → Setting
  | .filter => .text c.logging.filter
  | .format => .text (formatWord c.logging.format)
  | .verbosity => .number c.logging.verbosity.toNat
  | .sinks => .texts (c.logging.sinks.map sinkWord)
  | .tracingEnabled => .flag c.tracing.enabled
  | .serviceName => .text c.tracing.serviceName
  | .tracerName => .text c.tracing.tracerName
  | .sampler => .text (samplerWord c.tracing.sampler)
  | .shutdownTimeoutSecs => .number c.tracing.shutdownTimeoutSecs.toNat
  | .metricsEnabled => .flag c.metrics.enabled
  | .address => .text c.metrics.address

/-- A field is known by its section and its key. -/
theorem eq_of_key {f g : FieldName} (hpart : f.part = g.part) (hkey : f.key = g.key) : f = g := by
  cases f <;> cases g <;> first | rfl | simp [part, key] at hpart hkey

end FieldName

theorem Part.name_injective : Function.Injective Part.name := by
  intro a b h
  cases a <;> cases b <;> first | rfl | simp [Part.name] at h

theorem formatWord_injective : Function.Injective formatWord := by
  intro a b h
  cases a <;> cases b <;> first | rfl | simp [formatWord] at h

theorem sinkWord_injective : Function.Injective sinkWord := by
  intro a b h
  cases a <;> cases b <;> first | rfl | simp [sinkWord] at h

theorem samplerWord_injective : Function.Injective samplerWord := by
  intro a b h
  cases a <;> cases b <;> first | rfl | simp [samplerWord] at h

/-! ## Reading what is written -/

theorem decodeText_of_holds {node : Node} {s : String} (h : Holds node (.text s)) :
    decodeText node = .ok s := by
  cases h with
  | text hnode =>
    obtain ⟨span, rfl⟩ := hnode
    rfl

theorem decodeBoolean_of_holds {node : Node} {b : Bool} (h : Holds node (.flag b)) :
    decodeBoolean node = .ok b := by
  cases h
  rfl

theorem decodeU32_of_holds {node : Node} {n : UInt32} (h : Holds node (.number n.toNat)) :
    decodeU32 node = .ok n := by
  have hrange : 0 ≤ (n.toNat : Int) ∧ (n.toNat : Int) < 0x100000000 := by
    have hlt := n.toNat_lt
    omega
  cases h with
  | number => rw [decodeU32, if_pos hrange, Int.toNat_natCast, UInt32.ofNat_toNat]

theorem decodeU64_of_holds {node : Node} {n : UInt64} (h : Holds node (.number n.toNat)) :
    decodeU64 node = .ok n := by
  cases h with
  | number => rw [decodeU64, if_pos (Int.natCast_nonneg _), Int.toNat_natCast, UInt64.ofNat_toNat]

section

variable {α : Type} {known : List α} {nameOf : α → String} (hname : Function.Injective nameOf)
include hname

/-- What is known is chosen by its name, if no other has the name. -/
theorem choose_of_mem {x : α} (hx : x ∈ known) (span : Option Toml.Span) :
    choose known nameOf span (nameOf x) = .ok x := by
  have hfind : known.find? (fun y => nameOf y = nameOf x) = some x := by
    induction known with
    | nil => cases hx
    | cons y known ih =>
      by_cases hsame : nameOf y = nameOf x
      · rw [List.find?_cons_of_pos (by simpa using hsame), hname hsame]
      · have hrest : x ∈ known := by
          rcases List.mem_cons.mp hx with rfl | hrest
          · exact absurd rfl hsame
          · exact hrest
        rw [List.find?_cons_of_neg (by simpa using hsame), ih hrest]
  rw [choose, hfind]

theorem decodeChoice_of_isText {x : α} (hx : x ∈ known) {node : Node} (h : IsText node (nameOf x)) :
    decodeChoice known nameOf node = .ok x := by
  obtain ⟨span, rfl⟩ := h
  simp only [decodeChoice, choose_of_mem hname hx]
  rfl

theorem decodeChoice_of_holds {x : α} (hx : x ∈ known) {node : Node}
    (h : Holds node (.text (nameOf x))) : decodeChoice known nameOf node = .ok x := by
  cases h with
  | text hnode => exact decodeChoice_of_isText hname hx hnode

end

/-! The names that the readers know are the words. -/

theorem formatName_eq : LogFormat.name = formatWord := by
  funext format
  cases format <;> rfl

theorem sinkName_eq : SinkKind.name = sinkWord := by
  funext kind
  cases kind <;> rfl

theorem samplerName_eq : Sampler.name = samplerWord := by
  funext sampler
  cases sampler <;> rfl

theorem decodeFormat_of_holds {node : Node} {format : LogFormat}
    (h : Holds node (.text (formatWord format))) :
    decodeChoice [.pretty, .json] LogFormat.name node = .ok format := by
  rw [formatName_eq]
  exact decodeChoice_of_holds formatWord_injective (by cases format <;> simp) h

theorem decodeSampler_of_holds {node : Node} {sampler : Sampler}
    (h : Holds node (.text (samplerWord sampler))) :
    decodeChoice [.alwaysOn, .alwaysOff] Sampler.name node = .ok sampler := by
  rw [samplerName_eq]
  exact decodeChoice_of_holds samplerWord_injective (by cases sampler <;> simp) h

theorem decodeSinks_of_holds {node : Node} {sinks : List SinkKind}
    (h : Holds node (.texts (sinks.map sinkWord))) : decodeSinks node = .ok sinks := by
  have hall (kind : SinkKind) : kind ∈ [.tracing, .jsonStdout, .jsonStderr] := by cases kind <;> simp
  cases h with
  | @texts span nodes _ hnodes =>
    show nodes.mapM (decodeChoice [.tracing, .jsonStdout, .jsonStderr] SinkKind.name) = _
    rw [sinkName_eq]
    rw [List.forall₂_map_right_iff] at hnodes
    induction hnodes with
    | nil => rfl
    | @cons node kind nodes sinks hnode _ ih =>
      rw [List.mapM_cons, decodeChoice_of_isText sinkWord_injective (hall kind) hnode, ih]
      rfl

/-! ## What is picked -/

/-- The configuration `c`, with what `d` has in place of what is not written. -/
def pick (written : FieldName → Bool) (c d : Config) : Config where
  logging :=
    { filter := if written .filter then c.logging.filter else d.logging.filter
      format := if written .format then c.logging.format else d.logging.format
      verbosity := if written .verbosity then c.logging.verbosity else d.logging.verbosity
      sinks := if written .sinks then c.logging.sinks else d.logging.sinks }
  tracing :=
    { enabled := if written .tracingEnabled then c.tracing.enabled else d.tracing.enabled
      serviceName := if written .serviceName then c.tracing.serviceName else d.tracing.serviceName
      tracerName := if written .tracerName then c.tracing.tracerName else d.tracing.tracerName
      sampler := if written .sampler then c.tracing.sampler else d.tracing.sampler
      shutdownTimeoutSecs :=
        if written .shutdownTimeoutSecs then c.tracing.shutdownTimeoutSecs
        else d.tracing.shutdownTimeoutSecs }
  metrics :=
    { enabled := if written .metricsEnabled then c.metrics.enabled else d.metrics.enabled
      address := if written .address then c.metrics.address else d.metrics.address }

/-- One field more. -/
def adding (f : FieldName) (written : FieldName → Bool) (g : FieldName) : Bool :=
  decide (g = f) || written g

/-- Some fields more. -/
def addingAll (fields : List FieldName) (written : FieldName → Bool) (g : FieldName) : Bool :=
  decide (g ∈ fields) || written g

theorem addingAll_cons (f : FieldName) (fields : List FieldName) (written : FieldName → Bool) :
    addingAll fields (adding f written) = addingAll (f :: fields) written := by
  funext g
  simp only [addingAll, adding, List.mem_cons, Bool.decide_or, Bool.or_assoc, Bool.or_left_comm]

/-- A field that an entry names is set by what is read of the entry. -/
theorem decodeEntry_of_find {σ α : Type} {fields : List (Field σ)} {key name : String}
    {read : Node → Except Fault α} {put : α → σ → σ}
    (hfind : (fields.find? fun field => field.name = key) = some (.of name read put))
    {entry : Key × Node} (hname : entry.1.name = key) {x : α} (hread : read entry.2 = .ok x)
    (value : σ) : decodeEntry fields value entry = .ok (put x value) := by
  rw [decodeEntry, hname, hfind]
  simp only [Field.of, hread]
  rfl

section

variable (c : Config) (written : FieldName → Bool) {f : FieldName} {entry : Key × Node}

theorem decodeEntry_logging (hpart : f.part = .logging) (h : IsSet entry (f.key, f.setting c)) :
    decodeEntry loggingFields (pick written c {}).logging entry =
      .ok (pick (adding f written) c {}).logging := by
  obtain ⟨hname, hnode⟩ := h
  cases f with
  | filter =>
    rw [decodeEntry_of_find rfl hname (decodeText_of_holds hnode)]
    simp [pick, adding]
  | format =>
    rw [decodeEntry_of_find rfl hname (decodeFormat_of_holds hnode)]
    simp [pick, adding]
  | verbosity =>
    rw [decodeEntry_of_find rfl hname (decodeU32_of_holds hnode)]
    simp [pick, adding]
  | sinks =>
    rw [decodeEntry_of_find rfl hname (decodeSinks_of_holds hnode)]
    simp [pick, adding]
  | _ => cases hpart

theorem decodeEntry_tracing (hpart : f.part = .tracing) (h : IsSet entry (f.key, f.setting c)) :
    decodeEntry tracingFields (pick written c {}).tracing entry =
      .ok (pick (adding f written) c {}).tracing := by
  obtain ⟨hname, hnode⟩ := h
  cases f with
  | tracingEnabled =>
    rw [decodeEntry_of_find rfl hname (decodeBoolean_of_holds hnode)]
    simp [pick, adding]
  | serviceName =>
    rw [decodeEntry_of_find rfl hname (decodeText_of_holds hnode)]
    simp [pick, adding]
  | tracerName =>
    rw [decodeEntry_of_find rfl hname (decodeText_of_holds hnode)]
    simp [pick, adding]
  | sampler =>
    rw [decodeEntry_of_find rfl hname (decodeSampler_of_holds hnode)]
    simp [pick, adding]
  | shutdownTimeoutSecs =>
    rw [decodeEntry_of_find rfl hname (decodeU64_of_holds hnode)]
    simp [pick, adding]
  | _ => cases hpart

theorem decodeEntry_metrics (hpart : f.part = .metrics) (h : IsSet entry (f.key, f.setting c)) :
    decodeEntry metricsFields (pick written c {}).metrics entry =
      .ok (pick (adding f written) c {}).metrics := by
  obtain ⟨hname, hnode⟩ := h
  cases f with
  | metricsEnabled =>
    rw [decodeEntry_of_find rfl hname (decodeBoolean_of_holds hnode)]
    simp [pick, adding]
  | address =>
    rw [decodeEntry_of_find rfl hname (decodeText_of_holds hnode)]
    simp [pick, adding]
  | _ => cases hpart

end

/-- The entries of a section set its fields one after the other, if each sets its own. -/
theorem decodeEntries_pick {σ : Type} {table : List (Field σ)} {view : Config → σ} {part : Part}
    {c : Config}
    (hstep : ∀ (written : FieldName → Bool) {f : FieldName} {entry : Key × Node}, f.part = part →
      IsSet entry (f.key, f.setting c) →
      decodeEntry table (view (pick written c {})) entry = .ok (view (pick (adding f written) c {})))
    {fields : List FieldName} (hfields : ∀ f ∈ fields, f.part = part) {entries : Entries}
    (h : List.Forall₂ IsSet entries (fields.map fun f => (f.key, f.setting c)))
    (written : FieldName → Bool) :
    decodeEntries table (view (pick written c {})) entries =
      .ok (view (pick (addingAll fields written) c {})) := by
  rw [List.forall₂_map_right_iff] at h
  induction h generalizing written with
  | nil =>
    have hnone : addingAll [] written = written := by
      funext g
      simp [addingAll]
    rw [hnone]
    rfl
  | @cons entry f entries fields hentry _ ih =>
    obtain ⟨hf, hrest⟩ := List.forall_mem_cons.mp hfields
    rw [decodeEntries, List.foldlM_cons, hstep written hf hentry]
    show decodeEntries table _ entries = _
    rw [ih hrest, addingAll_cons]

/-! ## Sections -/

/-- The order of the sections in a document, each with the order of its fields. -/
abbrev Layout := List (Part × List FieldName)

namespace Layout

/-- The document of the layout, with what the configuration has. -/
def outline (c : Config) (layout : Layout) : Outline :=
  layout.map fun part => (part.1.name, part.2.map fun f => (f.key, f.setting c))

/-- Whether the field is in the layout. -/
def has (layout : Layout) (f : FieldName) : Bool := layout.any fun part => f ∈ part.2

/-- The layout has each section at most once, and the fields of `S`, once and in their sections. -/
structure Writes (layout : Layout) (S : Set FieldName) : Prop where
  parts : (layout.map (·.1)).Nodup
  fields : ∀ part ∈ layout, part.2.Nodup ∧ ∀ f ∈ part.2, f.part = part.1
  mem_iff : ∀ f, f ∈ S ↔ ∃ part ∈ layout, f ∈ part.2

end Layout

/-- A section that is a table starts from the defaults and sets the fields that it has. -/
theorem decodeSection_pick {σ : Type} {table : List (Field σ)} {view : Config → σ} {part : Part}
    {c : Config}
    (hstep : ∀ (written : FieldName → Bool) {f : FieldName} {entry : Key × Node}, f.part = part →
      IsSet entry (f.key, f.setting c) →
      decodeEntry table (view (pick written c {})) entry = .ok (view (pick (adding f written) c {})))
    {fields : List FieldName} (hfields : ∀ f ∈ fields, f.part = part) {entry : Key × Node}
    (h : IsPart entry (part.name, fields.map fun f => (f.key, f.setting c))) (name : String) :
    decodeSection table name (view (pick (fun _ => false) c {})) entry.2 =
      .ok (view (pick (addingAll fields fun _ => false) c {})) := by
  obtain ⟨-, span, entries, hnode, hentries⟩ := h
  rw [hnode]
  exact decodeEntries_pick hstep hfields hentries fun _ => false

/-- A section sets the fields that it has, if none of its fields was set before. -/
theorem decodeEntry_section {c : Config} {written : FieldName → Bool} {part : Part}
    {fields : List FieldName} (hfields : ∀ f ∈ fields, f.part = part)
    (hnew : ∀ f, f.part = part → written f = false) {entry : Key × Node}
    (h : IsPart entry (part.name, fields.map fun f => (f.key, f.setting c))) :
    decodeEntry sections (pick written c {}) entry = .ok (pick (addingAll fields written) c {}) := by
  have hadded (f : FieldName) : addingAll fields written f =
      if f.part = part then addingAll fields (fun _ => false) f else written f := by
    by_cases hf : f.part = part
    · simp [addingAll, hf, hnew f hf]
    · have hnot : f ∉ fields := fun hmem => hf (hfields f hmem)
      simp [addingAll, hf, hnot]
  cases part with
  | logging =>
    rw [decodeEntry_of_find rfl h.1 (decodeSection_pick (decodeEntry_logging c) hfields h _)]
    simp [pick, hadded, FieldName.part]
  | tracing =>
    rw [decodeEntry_of_find rfl h.1 (decodeSection_pick (decodeEntry_tracing c) hfields h _)]
    simp [pick, hadded, FieldName.part]
  | metrics =>
    rw [decodeEntry_of_find rfl h.1 (decodeSection_pick (decodeEntry_metrics c) hfields h _)]
    simp [pick, hadded, FieldName.part]

/-- A tree with the sections of a layout describes what is picked by it. -/
theorem decodeEntries_layout {c : Config} {layout : Layout} {root : Entries}
    (h : List.Forall₂ IsPart root (layout.outline c)) (hparts : (layout.map (·.1)).Nodup)
    (hfields : ∀ part ∈ layout, ∀ f ∈ part.2, f.part = part.1) (written : FieldName → Bool)
    (hnew : ∀ part ∈ layout, ∀ f, f.part = part.1 → written f = false) :
    decodeEntries sections (pick written c {}) root =
      .ok (pick (fun f => layout.has f || written f) c {}) := by
  rw [Layout.outline, List.forall₂_map_right_iff] at h
  induction h generalizing written with
  | nil => rfl
  | @cons entry part root layout hentry _ ih =>
    obtain ⟨hpart, hrest⟩ := List.forall_mem_cons.mp hfields
    obtain ⟨hfree, hfrees⟩ := List.forall_mem_cons.mp hnew
    rw [List.map_cons, List.nodup_cons] at hparts
    have hstill : ∀ other ∈ layout, ∀ f, f.part = other.1 → addingAll part.2 written f = false := by
      intro other hother f hf
      have hnot : f ∉ part.2 := by
        intro hmem
        have hsame : other.1 = part.1 := hf.symm.trans (hpart f hmem)
        exact hparts.1 (List.mem_map.mpr ⟨other, hother, hsame⟩)
      simp [addingAll, hnot, hfrees other hother f hf]
    have hhas : (fun f => Layout.has (part :: layout) f || written f) =
        fun f => Layout.has layout f || addingAll part.2 written f := by
      funext f
      simp only [Layout.has, addingAll, List.any_cons]
      rw [Bool.or_assoc, Bool.or_left_comm]
    rw [decodeEntries, List.foldlM_cons, decodeEntry_section hpart hfree hentry]
    show decodeEntries sections _ root = _
    rw [ih hparts.2 hrest _ hstill, hhas]

theorem decode_layout {c : Config} {layout : Layout} {S : Set FieldName} (hlayout : layout.Writes S)
    {root : Entries} (h : List.Forall₂ IsPart root (layout.outline c)) :
    decode root = .ok (pick layout.has c {}) := by
  have hdecode := decodeEntries_layout h hlayout.parts (fun part hpart => (hlayout.fields part hpart).2)
    (fun _ => false) fun _ _ _ _ => rfl
  simp only [Bool.or_false] at hdecode
  exact hdecode

/-- Nothing is lost if all that differs is written. -/
theorem pick_eq_self {written : FieldName → Bool} {c d : Config}
    (h : ∀ f, written f = false → FieldName.setting c f = FieldName.setting d f) :
    pick written c d = c := by
  have hfield {α : Type} {f : FieldName} {x y : α}
      (hinj : FieldName.setting c f = FieldName.setting d f → x = y) :
      (if written f then x else y) = x := by
    cases hwritten : written f with
    | true => rfl
    | false => exact (hinj (h f hwritten)).symm
  have hsinks := List.map_injective_iff.mpr sinkWord_injective
  obtain ⟨⟨filter, format, verbosity, sinks⟩, ⟨enabled, service, tracer, sampler, timeout⟩,
    ⟨exporting, address⟩⟩ := c
  simp only [pick, Config.mk.injEq, Logging.mk.injEq, Tracing.mk.injEq, Metrics.mk.injEq]
  refine ⟨⟨?_, ?_, ?_, ?_⟩, ⟨?_, ?_, ?_, ?_, ?_⟩, ?_, ?_⟩
  · exact hfield fun heq => Setting.text.inj heq
  · exact hfield fun heq => formatWord_injective (Setting.text.inj heq)
  · exact hfield fun heq => UInt32.toNat_inj.mp (Setting.number.inj heq)
  · exact hfield fun heq => hsinks (Setting.texts.inj heq)
  · exact hfield fun heq => Setting.flag.inj heq
  · exact hfield fun heq => Setting.text.inj heq
  · exact hfield fun heq => Setting.text.inj heq
  · exact hfield fun heq => samplerWord_injective (Setting.text.inj heq)
  · exact hfield fun heq => UInt64.toNat_inj.mp (Setting.number.inj heq)
  · exact hfield fun heq => Setting.flag.inj heq
  · exact hfield fun heq => Setting.text.inj heq

/-! ## Documents -/

/-- Sections and keys of a layout are distinct. -/
theorem distinct_outline {layout : Layout} {S : Set FieldName} (h : layout.Writes S) (c : Config) :
    (layout.outline c).Distinct where
  names := by
    have hnames : (layout.outline c).map (·.1) = (layout.map (·.1)).map Part.name := by
      rw [Layout.outline, List.map_map, List.map_map]
      rfl
    rw [hnames]
    exact h.parts.map Part.name_injective
  keys := by
    intro outlined hmem
    obtain ⟨part, hpart, rfl⟩ := List.mem_map.mp hmem
    obtain ⟨hnodup, hfields⟩ := h.fields part hpart
    rw [List.map_map]
    refine hnodup.map_on fun f hf g hg heq => ?_
    exact FieldName.eq_of_key ((hfields f hf).trans (hfields g hg).symm) heq

/-- A document holds all settings, if it holds the timeout. -/
theorem fits_outline {c : Config} (htimeout : c.tracing.shutdownTimeoutSecs.toNat ≤ 0x7FFFFFFFFFFFFFFF)
    (layout : Layout) : ∀ line ∈ (layout.outline c).lines, line.Fits := by
  have hfits (f : FieldName) : (f.setting c).Fits := by
    cases f with
    | verbosity =>
      have hlt := c.logging.verbosity.toNat_lt
      show c.logging.verbosity.toNat < 0x8000000000000000
      omega
    | shutdownTimeoutSecs => exact Nat.lt_succ_of_le htimeout
    | _ => trivial
  intro line hline
  obtain ⟨outlined, houtlined, hmem⟩ := List.mem_flatMap.mp hline
  obtain ⟨part, -, rfl⟩ := List.mem_map.mp houtlined
  rcases List.mem_cons.mp hmem with rfl | hmem
  · trivial
  · rw [List.map_map] at hmem
    obtain ⟨f, -, rfl⟩ := List.mem_map.mp hmem
    exact hfits f

/-- **A configuration written and read back.**  A configuration without problems is written with all the
fields of a set that has every field at which it differs from the defaults, and no others: sections and
fields in any order, in any layout of blanks and comments, its strings with any escapes.  The document is
read as just this configuration. -/
theorem parse_written {c : Config} (hvalid : c.problems = [])
    (htimeout : c.tracing.shutdownTimeoutSecs.toNat ≤ 0x7FFFFFFFFFFFFFFF) {S : Set FieldName}
    (hdefaults : ∀ f, FieldName.setting c f ≠ FieldName.setting {} f → f ∈ S) {layout : Layout}
    (hlayout : layout.Writes S) {text : String}
    (htext : Toml.DocumentText text.toList (layout.outline c).lines) : parse text = .ok c := by
  obtain ⟨root, hroot, hparts⟩ :=
    Toml.parse?_outline (distinct_outline hlayout c) htext (fits_outline htimeout layout)
  have hunwritten : ∀ f, layout.has f = false → FieldName.setting c f = FieldName.setting {} f := by
    intro f hf
    by_contra hdiffers
    obtain ⟨part, hpart, hmem⟩ := (hlayout.mem_iff f).mp (hdefaults f hdiffers)
    have hhas : layout.has f = true := List.any_eq_true.mpr ⟨part, hpart, by simpa using hmem⟩
    rw [hhas] at hf
    cases hf
  have hdecode : decode root = .ok c := by
    rw [decode_layout hlayout hparts, pick_eq_self hunwritten]
  have hchecked : checked c = .ok c := by rw [checked, hvalid]
  rw [parse, parseShape, hroot]
  simp only [hdecode]
  exact hchecked

/-- A configuration with quotes in a name. -/
def unevenConfig : Config :=
  { logging := { sinks := [.jsonStdout, .tracing], verbosity := 10 }
    tracing := { serviceName := "a\"b\"", sampler := .alwaysOff } }

/-- An order of some of its fields, of which one is as the defaults have it. -/
def unevenLayout : Layout :=
  [(.tracing, [.serviceName, .sampler, .tracingEnabled]), (.logging, [.sinks, .verbosity])]

/-- A document of that order, with comments, escapes of two forms, an array over two lines, and line ends
of both kinds but for the last line. -/
def unevenText : String :=
  "# telemetry\r\n\n[tracing]\nservice_name = \"a\\u0022b\\\"\" # quoted\n" ++
  "sampler=\"always_off\"\nenabled = false\n" ++
  "[ logging ]\r\nsinks = [\"json_stdout\",\n  \"tracing\", ]\n\"verbosity\"=1_0"

theorem documentText_uneven :
    Toml.DocumentText unevenText.toList (unevenLayout.outline unevenConfig).lines := by
  have hnone : Toml.Blanks [] := List.forall_mem_nil _
  have hblank : Toml.Blanks [' '] := List.forall_mem_singleton.mpr (.inl rfl)
  have hplain {s : List Char}
      (h : s.all (fun c => decide (Toml.InLine c ∧ c ≠ '"' ∧ c ≠ '\\')) = true) : Toml.BasicText s s := by
    have hchars : ∀ c ∈ s, Toml.InLine c ∧ c ≠ '"' ∧ c ≠ '\\' := by simpa using h
    simpa using Toml.BasicText.plain_append hchars .nil
  have hcomment {s : List Char} (h : s.all (fun c => decide (Toml.InLine c)) = true) :
      Toml.IsComment s := by simpa using h
  have htelemetry : Toml.Trailing ([] ++ '#' :: " telemetry".toList) := .comment hnone (hcomment rfl)
  have htracing : Toml.LineText _ (.header "tracing") :=
    .header hnone hnone (.bare_toList (by decide) (List.all_eq_true.mp rfl)) hnone
  have hdigits : List.Forall₂ Toml.IsHexDigit ['0', '0', '2', '2'] [0, 0, 2, 2] := by
    simp [Toml.IsHexDigit, Nat.digitChar]
  have hquotes : Toml.BasicText ('\\' :: 'u' :: (['0', '0', '2', '2'] ++ ['b', '\\', '"']))
      ['"', 'b', '"'] :=
    .code (.inl ⟨rfl, rfl⟩) hdigits rfl (.plain (by decide) (by decide) (by decide) (.letter .quote .nil))
  have hname : Toml.BasicText _ ['a', '"', 'b', '"'] :=
    .plain (by decide) (by decide) (by decide) hquotes
  have hservice : Toml.LineText _ (.entry "service_name" (.text "a\"b\"")) :=
    .entry hnone (.bare_toList (by decide) (List.all_eq_true.mp rfl)) hblank hblank (.text hname)
  have hoff : Toml.BasicText _ "always_off".toList := hplain rfl
  have hsampler : Toml.LineText _ (.entry "sampler" (.text (String.ofList "always_off".toList))) :=
    .entry hnone (.bare_toList (by decide) (List.all_eq_true.mp rfl)) hnone hnone (.text hoff)
  have hquoted : Toml.Trailing ([' '] ++ '#' :: " quoted".toList) := .comment hblank (hcomment rfl)
  have henabled : Toml.LineText _ (.entry "enabled" (.flag false)) :=
    .entry hnone (.bare_toList (by decide) (List.all_eq_true.mp rfl)) hblank hblank .no
  have hlogging : Toml.LineText _ (.header "logging") :=
    .header hnone hblank (.bare_toList (by decide) (List.all_eq_true.mp rfl)) hblank
  have hgap : Toml.Gap (['\n'] ++ [' ', ' ']) :=
    .newline .feed (.blank (.inl rfl) (.blank (.inl rfl) .nil))
  have hitems : Toml.ItemsText _ [String.ofList "json_stdout".toList, String.ofList "tracing".toList] :=
    .more .nil (hplain rfl) .nil
      (.more hgap (hplain rfl) .nil (@Toml.ItemsText.close [' '] (.blank (.inl rfl) .nil)))
  have hsinks : Toml.LineText _ (.entry "sinks" (.texts ["json_stdout", "tracing"])) :=
    .entry hnone (.bare_toList (by decide) (List.all_eq_true.mp rfl)) hblank hblank (.texts hitems)
  have hkey : Toml.KeyText _ (String.ofList "verbosity".toList) := .basic (hplain rfl)
  have hten : Toml.IntegerText ['1', '_', '0'] 10 := .plain (.underscore rfl (.last rfl))
  have hverbosity : Toml.LineText _ (.entry "verbosity" (.number 10)) :=
    .entry hnone hkey hnone hnone (.number hten)
  have hlines : (unevenLayout.outline unevenConfig).lines =
      [ .header "tracing", .entry "service_name" (.text "a\"b\""),
        .entry "sampler" (.text "always_off"), .entry "enabled" (.flag false),
        .header "logging", .entry "sinks" (.texts ["json_stdout", "tracing"]),
        .entry "verbosity" (.number 10) ] := rfl
  obtain ⟨cs, hdocument, htext⟩ :
      ∃ cs, Toml.DocumentText cs (unevenLayout.outline unevenConfig).lines ∧ cs = unevenText.toList := by
    rw [hlines]
    refine ⟨_, .blank htelemetry .carriage (.blank (.blanks hnone) .feed
      (.line htracing (.blanks hnone) .feed (.line hservice hquoted .feed
      (.line hsampler (.blanks hnone) .feed (.line henabled (.blanks hnone) .feed
      (.line hlogging (.blanks hnone) .carriage (.line hsinks (.blanks hnone) .feed
      (.last hverbosity (.blanks hnone))))))))), ?_⟩
    decide +kernel
  rw [← htext]
  exact hdocument

theorem parse_written_uneven : parse unevenText = .ok unevenConfig := by
  have hdefaults : ∀ f, FieldName.setting unevenConfig f ≠ FieldName.setting {} f →
      f ∈ ({f | unevenLayout.has f = true} : Set FieldName) := by
    intro f hdiffers
    cases f <;> first | rfl | exact absurd rfl hdiffers
  have hlayout : unevenLayout.Writes {f | unevenLayout.has f = true} := by
    refine ⟨by decide, by decide, fun f => ?_⟩
    show unevenLayout.has f = true ↔ _
    simp only [Layout.has, List.any_eq_true, decide_eq_true_eq]
  exact parse_written (by decide +kernel) (by decide) hdefaults hlayout documentText_uneven

end Observability.Config
