import Observability.Json.Basic
import Observability.Text.Digit

/-!
# Reading JSON text

`Json.parse?` reads one value with blanks around it.  An integer in range stays an integer; any other
number becomes the nearest double, `-0` included, and a number beyond the range of doubles is refused.
Of members with one key the last counts.  A surrogate escape has to be followed by its other half.

The reader of strings is a machine that takes one character at a time (`StringState`), so it ends with
its input.  The reader of values takes fuel, of which the length of the text is enough.
-/

namespace Observability.Json

/-- Blanks between the parts of a value. -/
def isBlank (c : Char) : Bool := c = ' ' || c = '\n' || c = '\t' || c = '\r'

def skipBlanks (cs : List Char) : List Char := cs.dropWhile isBlank

/-! ## Strings -/

/-- Where the reader of a string stands. -/
inductive StringState where
  | plain
  /-- after a backslash -/
  | escape
  /-- inside `\uXXXX`: digits still to come, value so far, and the high half read before, if any -/
  | unicode (missing : Nat) (value : Nat) (high : Option Nat)
  /-- after a high half, which needs a backslash now -/
  | high (value : Nat)
  /-- after a high half and a backslash, which need a `u` now -/
  | highEscape (value : Nat)
  deriving DecidableEq, Repr

/-- The character of a one-letter escape. -/
def simpleEscape? (c : Char) : Option Char :=
  if c = '"' || c = '\\' || c = '/' then some c
  else if c = 'b' then some '\x08'
  else if c = 'f' then some '\x0c'
  else if c = 'n' then some '\n'
  else if c = 'r' then some '\r'
  else if c = 't' then some '\t'
  else none

def isHighHalf (n : Nat) : Bool := 0xD800 ≤ n && n < 0xDC00

def isLowHalf (n : Nat) : Bool := 0xDC00 ≤ n && n < 0xE000

/-- What a finished four-digit escape adds: a character, or the wait for the other half. -/
def finishUnicode (value : Nat) : Option Nat → Option (List Char × StringState)
  | some high =>
    if isLowHalf value then
      some ([Char.ofNat (0x10000 + (high - 0xD800) * 0x400 + (value - 0xDC00))], .plain)
    else none
  | none =>
    if isHighHalf value then some ([], .high value)
    else if isLowHalf value then none
    else some ([Char.ofNat value], .plain)

/-- One character read: the characters it completes and the next state. -/
def StringState.step (c : Char) : StringState → Option (List Char × StringState)
  | .plain =>
    if c = '\\' then some ([], .escape)
    else if c.toNat < 0x20 then none
    else some ([c], .plain)
  | .escape =>
    if c = 'u' then some ([], .unicode 4 0 none)
    else (simpleEscape? c).map fun d => ([d], .plain)
  | .unicode missing value half =>
    match Text.digit? 16 c with
    | none => none
    | some d =>
      if missing ≤ 1 then finishUnicode (value * 16 + d) half
      else some ([], .unicode (missing - 1) (value * 16 + d) half)
  | .high value => if c = '\\' then some ([], .highEscape value) else none
  | .highEscape value => if c = 'u' then some ([], .unicode 4 0 (some value)) else none

/-- Reads a string behind its opening quote: its characters and what follows the closing quote. -/
def readString (state : StringState) : List Char → Option (List Char × List Char)
  | [] => none
  | c :: rest =>
    if state = .plain ∧ c = '"' then some ([], rest)
    else
      match state.step c with
      | none => none
      | some (out, next) => (readString next rest).map fun (cs, tail) => (out ++ cs, tail)

/-! ## Numbers -/

/-- The natural that decimal digits stand for. -/
def digitsValue (cs : List Char) : Nat :=
  cs.foldl (fun n c => n * 10 + (c.toNat - '0'.toNat)) 0

/-- The digits behind a point, at least one if there is a point. -/
def readFraction : List Char → Option (List Char × List Char)
  | '.' :: rest =>
    let digits := rest.takeWhile Text.isDigit
    if digits.isEmpty then none else some (digits, rest.dropWhile Text.isDigit)
  | cs => some ([], cs)

/-- The exponent, with at least one digit if there is a mark. -/
def readExponent (cs : List Char) : Option (Option Int × List Char) :=
  match cs with
  | 'e' :: rest | 'E' :: rest =>
    let (negative, rest) :=
      match rest with
      | '-' :: more => (true, more)
      | '+' :: more => (false, more)
      | more => (false, more)
    let digits := rest.takeWhile Text.isDigit
    if digits.isEmpty then none
    else
      let n : Int := digitsValue digits
      some (some (if negative then -n else n), rest.dropWhile Text.isDigit)
  | cs => some (none, cs)

/-- The number with the given parts. -/
def number? (negative : Bool) (whole fraction : List Char) (exponent : Option Int) : Option Json :=
  let n := digitsValue whole
  let integer : Option Json :=
    if fraction.isEmpty ∧ exponent = none ∧ ¬(negative ∧ n = 0) then
      (Integer.ofInt? (if negative then -n else n)).map .int
    else none
  match integer with
  | some v => some v
  | none =>
    let x := Binary64.ofDecimal negative (digitsValue (whole ++ fraction))
      (exponent.getD 0 - fraction.length)
    match x.view with
    | .finite .. => some (.double x)
    | _ => none

/-- Reads a number behind its sign. -/
def readMagnitude (negative : Bool) (cs : List Char) : Option (Json × List Char) := do
  let whole := cs.takeWhile Text.isDigit
  if whole.isEmpty ∨ (whole.head? = some '0' ∧ 1 < whole.length) then none
  let (fraction, rest) ← readFraction (cs.dropWhile Text.isDigit)
  let (exponent, rest) ← readExponent rest
  let value ← number? negative whole fraction exponent
  return (value, rest)

def readNumber : List Char → Option (Json × List Char)
  | '-' :: rest => readMagnitude true rest
  | cs => readMagnitude false cs

/-! ## Values -/

/-- What follows `word`, if the text starts with it. -/
def dropWord (word cs : List Char) : Option (List Char) :=
  if word.isPrefixOf cs then some (cs.drop word.length) else none

mutual

/-- Reads a value; the text starts with its first character. -/
def readValue : Nat → List Char → Option (Json × List Char)
  | 0, _ => none
  | fuel + 1, cs =>
    match cs with
    | [] => none
    | 'n' :: _ => (dropWord ['n', 'u', 'l', 'l'] cs).map fun rest => (.null, rest)
    | 't' :: _ => (dropWord ['t', 'r', 'u', 'e'] cs).map fun rest => (.bool true, rest)
    | 'f' :: _ => (dropWord ['f', 'a', 'l', 's', 'e'] cs).map fun rest => (.bool false, rest)
    | '"' :: rest =>
      (readString .plain rest).map fun (s, tail) => (.string (String.ofList s), tail)
    | '[' :: rest =>
      match skipBlanks rest with
      | ']' :: tail => some (.array [], tail)
      | start => (readItems fuel start).map fun (items, tail) => (.array items, tail)
    | '{' :: rest =>
      match skipBlanks rest with
      | '}' :: tail => some (.object [], tail)
      | start => (readMembers fuel start).map fun (pairs, tail) => (ofPairs pairs, tail)
    | _ => readNumber cs

/-- Reads at least one item, up to the closing bracket. -/
def readItems : Nat → List Char → Option (List Json × List Char)
  | 0, _ => none
  | fuel + 1, cs => do
    let (value, rest) ← readValue fuel cs
    match skipBlanks rest with
    | ']' :: tail => return ([value], tail)
    | ',' :: tail =>
      let (values, tail) ← readItems fuel (skipBlanks tail)
      return (value :: values, tail)
    | _ => none

/-- Reads at least one member, up to the closing brace. -/
def readMembers : Nat → List Char → Option (List (String × Json) × List Char)
  | 0, _ => none
  | fuel + 1, cs =>
    match cs with
    | '"' :: rest => do
      let (key, rest) ← readString .plain rest
      match skipBlanks rest with
      | ':' :: rest =>
        let (value, rest) ← readValue fuel (skipBlanks rest)
        let pair := (String.ofList key, value)
        match skipBlanks rest with
        | '}' :: tail => return ([pair], tail)
        | ',' :: tail =>
          let (pairs, tail) ← readMembers fuel (skipBlanks tail)
          return (pair :: pairs, tail)
        | _ => none
      | _ => none
    | _ => none

end

/-- The value a text stands for, if it is JSON. -/
def parse? (text : String) : Option Json := do
  let cs := skipBlanks text.toList
  let (value, rest) ← readValue (cs.length + 1) cs
  if (skipBlanks rest).isEmpty then return value else none

end Observability.Json
