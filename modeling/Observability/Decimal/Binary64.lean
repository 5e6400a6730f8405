/-!
# Double-precision numbers

A double is its sixty-four bits.  Equality of doubles is therefore decidable, and reading and writing
them is exact arithmetic on naturals: nothing below rounds except `Binary64.ofRatio`, which rounds once.

* `Binary64` -- the bits.
* `Binary64.view` -- what the bits stand for: `±m · 2^q`, an infinity, or no number.
* `Binary64.ofRatio` -- the double nearest to `n / d`, a tie going to the even neighbour.
* `Binary64.ofDecimal` -- the double nearest to `digits · 10^exponent`.
-/

namespace Observability

/-- A double, as its bits: one sign bit, eleven exponent bits, fifty-two fraction bits. -/
structure Binary64 where
  bits : UInt64
  deriving DecidableEq, Repr, Inhabited

namespace Binary64

/-- What a double stands for. -/
inductive View where
  /-- not a number -/
  | nan
  | infinite (negative : Bool)
  /-- the value `±mantissa · 2^exponent`, with `mantissa < 2^53` -/
  | finite (negative : Bool) (mantissa : Nat) (exponent : Int)
  deriving DecidableEq, Repr

/-- The weight of the lowest bit of the exponent in the bits, and of the hidden bit in the mantissa:
`2^52`. -/
def hiddenBit : Nat := 0x10000000000000

/-- The weight of the bit of the sign: `2^63`. -/
def signBit : Nat := 0x8000000000000000

def isNegative (x : Binary64) : Bool := x.bits.toNat / signBit == 1

def exponentField (x : Binary64) : Nat := x.bits.toNat / hiddenBit % 2048

def fraction (x : Binary64) : Nat := x.bits.toNat % hiddenBit

/-- Field zero holds the numbers below the normal range, field 2047 holds infinities and NaN. -/
def view (x : Binary64) : View :=
  if x.exponentField = 2047 then
    if x.fraction = 0 then .infinite x.isNegative else .nan
  else if x.exponentField = 0 then .finite x.isNegative x.fraction (-1074)
  else .finite x.isNegative (hiddenBit + x.fraction) (x.exponentField - 1075)

/-- The sign bit put in front of the other sixty-three. -/
def ofMagnitude (negative : Bool) (magnitude : Nat) : Binary64 :=
  ⟨UInt64.ofNat (if negative then signBit + magnitude else magnitude)⟩

/-- The sixty-three bits of an infinity; every finite magnitude is smaller. -/
def infinityMagnitude : Nat := 2047 * hiddenBit

def infinity (negative : Bool) : Binary64 := ofMagnitude negative infinityMagnitude

def zero (negative : Bool) : Binary64 := ofMagnitude negative 0

/-- The quiet NaN with an empty payload. -/
def nan : Binary64 := ofMagnitude false (infinityMagnitude + hiddenBit / 2)

/-- The natural nearest to `n / d`; a tie goes to the even neighbour. -/
def roundDiv (n d : Nat) : Nat :=
  let below := n / d
  let rest := 2 * (n % d)
  if rest < d then below
  else if rest = d then below + below % 2
  else below + 1

/-- The fraction `base^exponent` as numerator and denominator. -/
def power (base : Nat) (exponent : Int) : Nat × Nat :=
  if 0 ≤ exponent then (Nat.pow base exponent.toNat, 1) else (1, Nat.pow base (-exponent).toNat)

/-- Whether `n / d ≤ a / b`. -/
def ratioLe (n d a b : Nat) : Bool := n * b ≤ a * d

/-- The double nearest to `±n / d`, a tie going to the even neighbour; too large a value is infinite.

The unit `2^q` is chosen so that the value has fifty-three binary digits of it, but never below
`2^-1074`.  With `m` units the magnitude bits are `(q + 1074) · 2^52 + m`: in the normal range the
leading one of `m` adds one to the exponent field, and a carry of the rounding does the same. -/
def ofRatio (negative : Bool) (n d : Nat) : Binary64 :=
  if n = 0 ∨ d = 0 then zero negative
  else
    let guess : Int := (n.log2 : Int) - d.log2
    let floorLog : Int :=
      let unit := power 2 guess
      if ratioLe unit.1 unit.2 n d then guess else guess - 1
    let q : Int := max (floorLog - 52) (-1074)
    let unit := power 2 q
    let m := roundDiv (n * unit.2) (d * unit.1)
    ofMagnitude negative (min ((q + 1074).toNat * hiddenBit + m) infinityMagnitude)

/-- The double nearest to `±digits · 10^exponent`.  A magnitude beyond `10^400` or below `10^-400` is
decided by its length alone, so a long exponent costs nothing. -/
def ofDecimal (negative : Bool) (digits : Nat) (exponent : Int) : Binary64 :=
  let size : Int := (Nat.toDigits 10 digits).length + exponent
  if digits = 0 ∨ size < -400 then zero negative
  else if 400 < size then infinity negative
  else
    let scale := power 10 exponent
    ofRatio negative (digits * scale.1) scale.2

/-- The double that is the integer `n`, rounded. -/
def ofInt (n : Int) : Binary64 := ofRatio (n < 0) n.natAbs 1

end Binary64

end Observability
