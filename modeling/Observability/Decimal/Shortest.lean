import Observability.Decimal.Binary64

/-!
# Shortest decimal digits

`Shortest.digits tie m q boundary` is the decimal with the fewest digits that reads back as the double
`m · 2^q`.  The reals that read back as it form an interval around it, whose ends belong to it exactly
when `m` is even.  For one digit, two digits and so on the two neighbours of the value on that decimal
grid are tried: the first grid with a neighbour inside the interval gives the answer, of two such
neighbours the nearer one, and `Tie` settles an exact tie.  Seventeen digits always suffice.

All comparisons are between naturals, in units of `2^(q-2)`, which makes the ends of the interval whole.
-/

namespace Observability.Decimal

/-- Which of two equally near neighbours is taken. -/
inductive Tie where
  | toEven
  | up
  deriving DecidableEq, Repr

/-- The decimal `digits · 10^exponent`. -/
structure Scaled where
  digits : Nat
  exponent : Int
  deriving DecidableEq, Repr

namespace Shortest

/-- The rounding interval of a double, in units of `2^unit`. -/
structure Interval where
  unit : Int
  low : Nat
  value : Nat
  high : Nat
  /-- whether the ends belong to it -/
  closed : Bool
  deriving Repr

/-- The reals that read back as `mantissa · 2^exponent`.  Below a power of two the doubles lie twice as
dense, so there the interval reaches down half as far: `boundary` says so. -/
def interval (mantissa : Nat) (exponent : Int) (boundary : Bool) : Interval :=
  { unit := exponent - 2
    low := 4 * mantissa - if boundary then 1 else 2
    value := 4 * mantissa
    high := 4 * mantissa + 2
    closed := mantissa % 2 = 0 }

/-- Both sides of the comparison of `digits · 10^p` with `count` units, as naturals. -/
def Interval.sides (i : Interval) (decimal : Scaled) (count : Nat) : Nat × Nat :=
  let ten := Binary64.power 10 decimal.exponent
  let two := Binary64.power 2 i.unit
  (decimal.digits * ten.1 * two.2, count * two.1 * ten.2)

/-- Whether the decimal reads back as the double. -/
def Interval.holds (i : Interval) (decimal : Scaled) : Bool :=
  let (x, low) := i.sides decimal i.low
  let (_, high) := i.sides decimal i.high
  if i.closed then low ≤ x && x ≤ high else low < x && x < high

/-- The integer part of `log₁₀ (n / d)`, for `n` and `d` above zero. -/
def floorLog10 (n d : Nat) : Int :=
  let guess : Int := (Nat.toDigits 10 n).length - (Nat.toDigits 10 d).length
  let unit := Binary64.power 10 guess
  if Binary64.ratioLe unit.1 unit.2 n d then guess else guess - 1

/-- The nearer of two neighbours on a grid, the value being `n / d` grid steps. -/
def nearer (tie : Tie) (n d below : Nat) : Nat :=
  let rest := 2 * (n % d)
  if rest < d then below
  else if rest = d then
    match tie with
    | .toEven => below + below % 2
    | .up => below + 1
  else below + 1

/-- The neighbour of the value on the grid of `10^p` that reads back, if one does. -/
def onGrid (tie : Tie) (i : Interval) (p : Int) : Option Scaled :=
  let two := Binary64.power 2 i.unit
  let ten := Binary64.power 10 p
  let n := i.value * two.1 * ten.2
  let d := two.2 * ten.1
  let below := n / d
  let best := nearer tie n d below
  let other := if best = below then below + 1 else below
  if i.holds ⟨best, p⟩ then some ⟨best, p⟩
  else if i.holds ⟨other, p⟩ then some ⟨other, p⟩
  else none

/-- Tries the grids with steps `10^p`, `10^(p-1)` and so on. -/
def search (tie : Tie) (i : Interval) : Nat → Int → Scaled
  | 0, p => ⟨i.value, p⟩
  | fuel + 1, p => (onGrid tie i p).getD (search tie i fuel (p - 1))

/-- Trailing zeros moved into the exponent. -/
def strip : Nat → Scaled → Scaled
  | 0, x => x
  | fuel + 1, x =>
    if x.digits ≠ 0 ∧ x.digits % 10 = 0 then strip fuel ⟨x.digits / 10, x.exponent + 1⟩ else x

/-- The fewest digits that read back as `mantissa · 2^exponent`, for a mantissa above zero. -/
def digits (tie : Tie) (mantissa : Nat) (exponent : Int) : Scaled :=
  let boundary := mantissa = Binary64.hiddenBit && -1074 < exponent
  let i := interval mantissa exponent boundary
  let two := Binary64.power 2 exponent
  let lead := floorLog10 (mantissa * two.1) two.2
  strip 20 (search tie i 17 lead)

end Shortest

end Observability.Decimal
