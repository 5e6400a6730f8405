import Observability.Text.Digit
import Observability.Toml.Basic

/-!
# Bare values of TOML

Booleans, numbers, dates and times are written without quotes.  Such a value ends where the first
character stands that none of them contains, so it is cut out as one token and judged as a whole
(`Scalar.ofToken?`).

An integer has sixty-four bits.  A float is the nearest double; one too large is refused, but a negative
one too large is the negative infinity.  A date has to exist in the calendar.
-/

namespace Observability.Toml

/-- Characters of bare values. -/
def isBareChar (c : Char) : Bool :=
  c.isAlphanum || c = '+' || c = '-' || c = '_' || c = '.' || c = ':'

/-- The digits without the underscores, each of which has to stand between two digits. -/
def dropUnderscores : List Char → Option (List Char)
  | [] => none
  | ['_'] => none
  | [c] => some [c]
  | '_' :: _ => none
  | c :: '_' :: rest => (dropUnderscores rest).map (c :: ·)
  | c :: rest => (dropUnderscores rest).map (c :: ·)

/-- A natural with underscores, in the given base. -/
def natural? (base : Nat) (cs : List Char) : Option Nat := dropUnderscores cs >>= Text.ofDigits? base

/-- Decimal digits of a whole number: no zero in front of others. -/
def wholeDigits? (cs : List Char) : Option (List Char) :=
  if cs.head? = some '0' ∧ 1 < cs.length then none
  else (dropUnderscores cs).bind fun ds => if ds.all Text.isDigit then some ds else none

/-- Decimal digits, at least one. -/
def partDigits? (cs : List Char) : Option (List Char) :=
  (dropUnderscores cs).bind fun ds => if ds.all Text.isDigit then some ds else none

/-- A sign at the front and what follows it. -/
def takeSign : List Char → Bool × List Char
  | '-' :: rest => (true, rest)
  | '+' :: rest => (false, rest)
  | cs => (false, cs)

/-- The integer as a scalar, if it has sixty-four bits. -/
def integer64? (n : Int) : Option Scalar :=
  if -0x8000000000000000 ≤ n ∧ n < 0x8000000000000000 then some (.integer n) else none

def integer? (token : List Char) : Option Scalar :=
  match token with
  | '0' :: 'x' :: digits => natural? 16 digits >>= fun n => integer64? n
  | '0' :: 'o' :: digits => natural? 8 digits >>= fun n => integer64? n
  | '0' :: 'b' :: digits => natural? 2 digits >>= fun n => integer64? n
  | _ => do
    let (negative, digits) := takeSign token
    let n ← wholeDigits? digits >>= Text.ofDigits? 10
    integer64? (if negative then -(n : Int) else n)

/-- The digits behind the point, none without a point. -/
def fraction? : List Char → Option (List Char)
  | [] => some []
  | '.' :: digits => partDigits? digits
  | _ => none

/-- The value behind the mark of the exponent, zero without a mark. -/
def exponent? : List Char → Option Int
  | [] => some 0
  | _ :: signed => do
    let (negative, digits) := takeSign signed
    let n ← partDigits? digits >>= Text.ofDigits? 10
    return if negative then -(n : Int) else n

/-- A float that is not the positive infinity. -/
def finiteOrNegative? (x : Binary64) : Option Scalar :=
  if x = Binary64.infinity false then none else some (.float x)

def float? (token : List Char) : Option Scalar :=
  let (negative, magnitude) := takeSign token
  if magnitude = ['i', 'n', 'f'] then some (.float (Binary64.infinity negative))
  else if magnitude = ['n', 'a', 'n'] then some (.float Binary64.nan)
  else do
    let isMark (c : Char) : Bool := c = 'e' || c = 'E'
    let mantissa := magnitude.takeWhile (fun c => !isMark c)
    let scale := magnitude.dropWhile (fun c => !isMark c)
    let whole := mantissa.takeWhile (· ≠ '.')
    let point := mantissa.dropWhile (· ≠ '.')
    if scale.isEmpty ∧ point.isEmpty then none
    let whole ← wholeDigits? whole
    let fraction ← fraction? point
    let exponent ← exponent? scale
    let digits ← Text.ofDigits? 10 (whole ++ fraction)
    finiteOrNegative? (Binary64.ofDecimal negative digits (exponent - fraction.length))

/-! ## Dates and times -/

/-- The number of two digits, if it is in range. -/
def two? (low high : Nat) : List Char → Option Nat
  | [a, b] =>
    if Text.isDigit a && Text.isDigit b then
      let n := (a.toNat - '0'.toNat) * 10 + (b.toNat - '0'.toNat)
      if low ≤ n ∧ n ≤ high then some n else none
    else none
  | _ => none

def isLeapYear (year : Nat) : Bool := year % 4 = 0 && (year % 100 ≠ 0 || year % 400 = 0)

def daysInMonth (year month : Nat) : Nat :=
  if month = 2 then (if isLeapYear year then 29 else 28)
  else if month ∈ [4, 6, 9, 11] then 30
  else 31

/-- Whether the ten characters are a date, year first. -/
def isDate : List Char → Bool
  | [y₁, y₂, y₃, y₄, '-', m₁, m₂, '-', d₁, d₂] =>
    match two? 0 99 [y₁, y₂], two? 0 99 [y₃, y₄], two? 1 12 [m₁, m₂], two? 1 31 [d₁, d₂] with
    | some century, some year, some month, some day => day ≤ daysInMonth (century * 100 + year) month
    | _, _, _, _ => false
  | _ => false

/-- Whether the characters are an hour and a minute. -/
def isHourMinute : List Char → Bool
  | [h₁, h₂, ':', m₁, m₂] => (two? 0 23 [h₁, h₂]).isSome && (two? 0 59 [m₁, m₂]).isSome
  | _ => false

/-- Whether the characters are an offset from universal time, or nothing. -/
def isOffset : List Char → Bool
  | [] => true
  | c :: rest =>
    if c = 'Z' ∨ c = 'z' then rest.isEmpty
    else if c = '+' ∨ c = '-' then isHourMinute rest
    else false

/-- What follows the digits of a fraction of a second; none if a point has no digit behind it. -/
def dropSecondFraction : List Char → Option (List Char)
  | '.' :: c :: rest => if Text.isDigit c then some (rest.dropWhile Text.isDigit) else none
  | '.' :: [] => none
  | cs => some cs

/-- Whether the characters are a time, with an offset if `offset` allows one. -/
def isTime (offset : Bool) (cs : List Char) : Bool :=
  match cs with
  | h₁ :: h₂ :: ':' :: m₁ :: m₂ :: ':' :: s₁ :: s₂ :: rest =>
    isHourMinute [h₁, h₂, ':', m₁, m₂] && (two? 0 60 [s₁, s₂]).isSome &&
    match dropSecondFraction rest with
    | some zone => if offset then isOffset zone else zone.isEmpty
    | none => false
  | _ => false

/-- Whether the token is a date, a time, or both with a `T` between them. -/
def isDateTime (token : List Char) : Bool :=
  isDate token || isTime false token ||
  (isDate (token.take 10) &&
    match token.drop 10 with
    | c :: time => (c = 'T' || c = 't') && isTime true time
    | [] => false)

/-- The scalar a bare token is, if it is one. -/
def Scalar.ofToken? (token : List Char) : Option Scalar :=
  if token = ['t', 'r', 'u', 'e'] then some (.boolean true)
  else if token = ['f', 'a', 'l', 's', 'e'] then some (.boolean false)
  else if isDateTime token then some .datetime
  else
    match float? token with
    | some x => some x
    | none => integer? token

/-- Reads a bare value.  A date may be followed by a blank and a time. -/
def readBare (cs : List Char) : Option (Scalar × List Char) :=
  let token := cs.takeWhile isBareChar
  let rest := cs.dropWhile isBareChar
  match rest with
  | ' ' :: c :: more =>
    if isDate token && Text.isDigit c then
      if isTime true ((c :: more).takeWhile isBareChar) then
        some (.datetime, (c :: more).dropWhile isBareChar)
      else none
    else (Scalar.ofToken? token).map fun s => (s, rest)
  | _ => (Scalar.ofToken? token).map fun s => (s, rest)

end Observability.Toml
