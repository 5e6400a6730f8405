import Observability.Text.Alphanumeric
import Observability.Text.Blank
import Observability.Text.Digit

/-!
# Log filters

A filter is a list of directives separated by commas: a level, a target, `target=level`, or the same
with a span and its fields, `target[span{field=value}]=level`.  `Filter.check` accepts a filter or gives
the first reason against it.

One directive is read by a machine of seven states.  The machine walks over the directive without the
blanks at its ends, but the level is then cut out of the directive *with* them, at the place the machine
counted.  So a blank behind a level spoils it, and a blank in front shifts the cut.

The value of a field may be a pattern.  Patterns are not read here: whatever stands between the braces is
taken, if it is not empty.  So a directive like `[{id=*}]=debug` is accepted, though its pattern is malformed
and a reader that builds the pattern refuses the filter for it.
-/

namespace Observability.Filter

/-- Why a filter is refused. -/
inductive Fault where
  /-- a directive is not formed as one -/
  | directive
  /-- what follows the equals sign is no level -/
  | level
  deriving DecidableEq, Repr

def Fault.message : Fault → String
  | .directive => "invalid filter directive"
  | .level =>
    "error parsing level filter: expected one of \"off\", \"error\", \"warn\", \"info\", \"debug\", " ++
    "\"trace\", or a number 0-5"

/-! ## Levels -/

/-- The words for levels, in lower case. -/
def levelWords : List String := ["off", "error", "warn", "info", "debug", "trace"]

/-- The natural number written in decimal digits. -/
def decimal? (cs : List Char) : Option Nat :=
  if cs.isEmpty then none else Text.ofDigits? 10 cs

/-- Whether the text is a level: a word in any case, or a number up to five, perhaps with a plus. -/
def isLevel (cs : List Char) : Bool :=
  levelWords.any (fun word => word.toList = cs.map Char.toLower) ||
  match decimal? (if cs.head? = some '+' then cs.tail else cs) with
  | some n => n ≤ 5
  | none => false

/-! ## Directives -/

/-- Where the reader of a directive stands. -/
inductive State where
  | start
  /-- inside a word that is a level or a target -/
  | word
  | span
  /-- inside the braces; whether nothing stands there yet -/
  | field (empty : Bool)
  /-- behind the closing brace -/
  | fields
  /-- behind the closing bracket -/
  | target
  /-- behind the equals sign; how many bytes were read up to it, itself included -/
  | level (offset : Nat)
  deriving DecidableEq, Repr

/-- Whether a directive may start with the character. -/
def startsWord (c : Char) : Bool := c = '-' || c = ':' || c = '_' || Text.isAlphanumeric c

/-- The state after `c`, of which `offset` is the place behind it; none if `c` cannot stand there. -/
def State.step (c : Char) (offset : Nat) : State → Option State
  | .start => if c = '[' then some .span else if startsWord c then some .word else none
  | .word => if c = '=' then some (.level offset) else if c = '[' then some .span else some .word
  | .span => if c = ']' then some .target else if c = '\x7b' then some (.field true) else some .span
  | .field empty => if c = '\x7d' then (if empty then none else some .fields) else some (.field false)
  | .fields => if c = ']' then some .target else none
  | .target => if c = '=' then some (.level offset) else none
  | .level place => some (.level place)

/-- The state after all characters, the first of which starts at `offset`. -/
def run (state : State) (offset : Nat) : List Char → Option State
  | [] => some state
  | c :: rest =>
    match state.step c (offset + c.utf8Size) with
    | some next => run next (offset + c.utf8Size) rest
    | none => none

/-- The characters behind the first `count` bytes. -/
def dropBytes (count : Nat) : List Char → List Char
  | [] => []
  | c :: rest => if count = 0 then c :: rest else dropBytes (count - c.utf8Size) rest

/-- Accepts one directive, or gives the reason against it. -/
def checkDirective (directive : List Char) : Except Fault Unit :=
  match run .start 0 (Text.trim directive) with
  | some .word | some .target => .ok ()
  | some (.level offset) =>
    let level := dropBytes offset directive
    if level.isEmpty || isLevel level then .ok () else .error .level
  | _ => .error .directive

/-- The pieces between commas. -/
def splitCommas : List Char → List (List Char)
  | [] => [[]]
  | c :: rest =>
    if c = ',' then [] :: splitCommas rest
    else
      match splitCommas rest with
      | piece :: pieces => (c :: piece) :: pieces
      | [] => [[c]]

/-- The directives of a filter: the pieces between commas that are not empty. -/
def directives (filter : String) : List (List Char) :=
  (splitCommas filter.toList).filter fun piece => !piece.isEmpty

/-- Accepts a filter, or gives the reason against its first directive that is refused. -/
def check (filter : String) : Except Fault Unit := (directives filter).forM checkDirective

end Observability.Filter
