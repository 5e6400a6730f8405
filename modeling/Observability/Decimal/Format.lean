import Observability.Decimal.Shortest

/-!
# Number formats

A `Format` holds the decisions of a written form of doubles that the digits leave open: which exponents
are written positionally, and how ties between equally short digits go.  `Format.render` writes with it.

* `Format.json` -- the form used in JSON text.
* `Format.display` -- the form used in messages.
-/

namespace Observability.Decimal

/-- The decisions of a written form of doubles. -/
structure Format where
  /-- which of two equally short and equally near digit strings is taken -/
  tie : Tie
  /-- whether a value `d.ddd · 10^e` is written without an exponent -/
  positional : Int → Bool
  nan : String
  infinity : String
  negativeInfinity : String

namespace Format

/-- Digits with a point after the first `whole` of them, zeros filling both sides, and at least one
digit behind the point. -/
def pointed (digits : List Char) (whole : Int) : List Char :=
  let zeros (n : Int) : List Char := List.replicate n.toNat '0'
  if whole ≤ 0 then '0' :: '.' :: (zeros (-whole) ++ digits)
  else
    let front := digits.take whole.toNat
    let back := digits.drop whole.toNat
    front ++ zeros (whole - digits.length) ++ '.' :: (if back.isEmpty then ['0'] else back)

/-- One digit, the others behind a point, and a signed exponent. -/
def scientific (digits : List Char) (exponent : Int) : List Char :=
  let back := digits.drop 1
  let fraction := if back.isEmpty then [] else '.' :: back
  let sign := if exponent < 0 then '-' else '+'
  digits.take 1 ++ fraction ++ 'e' :: sign :: Nat.toDigits 10 exponent.natAbs

/-- A finite value above or at zero. -/
def magnitude (format : Format) (mantissa : Nat) (exponent : Int) : List Char :=
  if mantissa = 0 then ['0', '.', '0']
  else
    let shortest := Shortest.digits format.tie mantissa exponent
    let digits := Nat.toDigits 10 shortest.digits
    let lead := shortest.exponent + digits.length - 1
    if format.positional lead then pointed digits (lead + 1) else scientific digits lead

/-- The characters of a double. -/
def chars (format : Format) (x : Binary64) : List Char :=
  match x.view with
  | .nan => format.nan.toList
  | .infinite false => format.infinity.toList
  | .infinite true => format.negativeInfinity.toList
  | .finite false mantissa exponent => format.magnitude mantissa exponent
  | .finite true mantissa exponent => '-' :: format.magnitude mantissa exponent

def render (format : Format) (x : Binary64) : String := String.ofList (format.chars x)

/-- JSON text is positional from `0.00001` up to sixteen digits before the point, and has no text for
NaN and infinities but `null`. -/
def json : Format :=
  { tie := .toEven
    positional := fun e => -5 ≤ e && e < 16
    nan := "null"
    infinity := "null"
    negativeInfinity := "null" }

/-- Messages never use an exponent. -/
def display : Format :=
  { tie := .up
    positional := fun _ => true
    nan := "NaN"
    infinity := "inf"
    negativeInfinity := "-inf" }

end Format

end Observability.Decimal
