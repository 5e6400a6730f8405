import Observability.Json.Basic
import Observability.Text.Quoted

/-!
# Contexts

A context carries values along a chain of calls.  Each value lies in a slot, and a slot has one type of
value.  Applications name the slots of `AppSlot` and of the types they bring themselves; the others are
reserved for the library (`Slot.isOpen`).

A context is never changed: `Context.insert` gives a new one.  `storage` tells the contexts of different
insertions apart even if they hold the same values, and copies of one context share it.
-/

namespace Observability

/-- The token that unites the spans and log lines of one operation. -/
structure CorrelationId where
  text : String
  deriving DecidableEq, Repr, Inhabited

/-- A started span, by its place in the collector. -/
structure SpanHandle where
  index : Nat
  deriving DecidableEq, Repr, Inhabited

/-- The slots of the types that every application has. -/
inductive AppSlot where
  | count
  | flag
  | text
  | tenant
  /-- a correlation id as an ordinary value, apart from the one of the operation -/
  | correlationId
  deriving DecidableEq, Repr

/-- What a value of a context is for. -/
inductive Slot where
  | app (slot : AppSlot)
  /-- a type that an application brings itself, by its name -/
  | custom (type : String)
  /-- the correlation id of the operation -/
  | correlation
  /-- the current span -/
  | span
  /-- the exported span that new ones nest under, by its number if it has one -/
  | parent
  /-- the name of the recording facility that started the context -/
  | marker
  deriving DecidableEq, Repr

/-- Whether applications can name the slot. -/
def Slot.isOpen : Slot → Bool
  | .app _ | .custom _ => true
  | .correlation | .span | .parent | .marker => false

/-- The type of the values in a slot of `AppSlot`. -/
abbrev AppSlot.Value : AppSlot → Type
  | .count => UInt64
  | .flag => Bool
  | .text => String
  | .tenant => String
  | .correlationId => CorrelationId

/-- The type of the values in a slot. -/
abbrev Slot.Value : Slot → Type
  | .app slot => slot.Value
  | .custom _ => Json
  | .correlation => CorrelationId
  | .span => SpanHandle
  | .parent => Option Nat
  | .marker => String

/-- A slot with its value. -/
structure Cell where
  slot : Slot
  value : slot.Value

/-- What tells the contexts of different insertions apart. -/
abbrev StorageId := Nat

/-- Values by slot, each slot at most once. -/
structure Context where
  storage : StorageId
  cells : List Cell

namespace Context

/-- The value in `slot` among the cells. -/
def lookup (slot : Slot) : List Cell → Option slot.Value
  | [] => none
  | cell :: rest => if h : cell.slot = slot then some (h ▸ cell.value) else lookup slot rest

/-- The value in `slot`. -/
def get (ctx : Context) (slot : Slot) : Option slot.Value := lookup slot ctx.cells

/-- The context without values. -/
def empty (storage : StorageId) : Context := ⟨storage, []⟩

/-- A context that also carries `value`; one in the same slot is hidden. -/
def insert (ctx : Context) (storage : StorageId) (slot : Slot) (value : slot.Value) : Context :=
  ⟨storage, ⟨slot, value⟩ :: ctx.cells.filter fun cell => cell.slot ≠ slot⟩

/-- The number of values, those in reserved slots included. -/
def size (ctx : Context) : Nat := ctx.cells.length

def isEmpty (ctx : Context) : Bool := ctx.cells.isEmpty

/-- Whether both are copies of one context. -/
def same (a b : Context) : Bool := a.storage = b.storage

/-- The correlation id of the operation. -/
def correlationId? (ctx : Context) : Option CorrelationId := ctx.get .correlation

/-- The span stored last. -/
def span? (ctx : Context) : Option SpanHandle := ctx.get .span

/-! ## Laws of look-up -/

theorem lookup_filter_ne {slot other : Slot} (h : other ≠ slot) (cells : List Cell) :
    lookup other (cells.filter fun cell => cell.slot ≠ slot) = lookup other cells := by
  induction cells with
  | nil => rfl
  | cons cell rest ih =>
    by_cases hs : cell.slot = slot
    · have : cell.slot ≠ other := fun he => h (he ▸ hs)
      simp_all [lookup]
    · simp only [ne_eq, hs, not_false_eq_true, decide_true, List.filter_cons_of_pos, lookup]
      split
      · rfl
      · exact ih

/-- The value just inserted is found. -/
@[simp] theorem get_insert_self (ctx : Context) (storage : StorageId) (slot : Slot)
    (value : slot.Value) : (ctx.insert storage slot value).get slot = some value := by
  simp [get, insert, lookup]

/-- An insertion leaves the other slots alone. -/
theorem get_insert_of_ne (ctx : Context) (storage : StorageId) {slot other : Slot}
    (value : slot.Value) (h : other ≠ slot) :
    (ctx.insert storage slot value).get other = ctx.get other := by
  have hs : slot ≠ other := fun he => h he.symm
  simpa [get, insert, lookup, hs] using lookup_filter_ne h ctx.cells

@[simp] theorem correlationId?_insert_correlation (ctx : Context) (storage : StorageId)
    (id : CorrelationId) : (ctx.insert storage .correlation id).correlationId? = some id :=
  get_insert_self ctx storage .correlation id

theorem correlationId?_insert_of_ne (ctx : Context) (storage : StorageId) {slot : Slot}
    (value : slot.Value) (h : Slot.correlation ≠ slot) :
    (ctx.insert storage slot value).correlationId? = ctx.correlationId? :=
  get_insert_of_ne ctx storage value h

/-! ## What is shown of a context -/

/-- What an observer sees of a context. -/
structure Summary where
  size : Nat
  correlationId : Option String
  hasSpan : Bool
  deriving DecidableEq, Repr

def summary (ctx : Context) : Summary :=
  ⟨ctx.size, ctx.correlationId?.map (·.text), ctx.span?.isSome⟩

/-- The context in a message: its size and its correlation id. -/
def render (ctx : Context) : String :=
  let id := match ctx.correlationId? with
    | some id => "Some(CorrelationId(" ++ Text.quoted id.text ++ "))"
    | none => "None"
  "Context \x7b entries: " ++ toString ctx.size ++ ", correlation_id: " ++ id ++ " \x7d"

end Context

end Observability
