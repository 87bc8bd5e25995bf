import FabricAudit.Decimal.Digits

set_option autoImplicit false

/-! # Binary floating point numbers

The finite numbers of the IEEE 754 format binary64, as a sign and the remaining 63 bits read as a
natural number. In that reading the order of the naturals is the order of the absolute values, so
rounding can overflow into the next exponent by plain addition, and a number is finite exactly when
its magnitude is below `Binary64.infinite`.

Numbers enter as quotients of naturals and are rounded to the nearest one, a tie to the even one
(`ofRatio`). A decimal numeral is read in one of two ways: `ofDecimal` rounds its exact value once;
`scaled` rounds the digits first and then multiplies or divides by a rounded power of ten, which
is how the documents of this library are read.
-/

namespace FabricAudit

/-- A finite number in the format binary64. -/
structure Binary64 where
  /-- Whether the sign bit is set. Zero has both signs. -/
  negative : Bool
  /-- The exponent and fraction bits, as one number. -/
  magnitude : Nat
  /-- The exponent is not the one kept for infinities and for what is not a number. -/
  finite : magnitude < 0x7FF0000000000000
  deriving DecidableEq

namespace Binary64

/-- The magnitude of infinity: the first one that is not finite. -/
def infinite : Nat := 0x7FF0000000000000

/-- Two to the power 52, the weight of the hidden bit: the least magnitude with a full
significand. -/
def leastNormal : Nat := 0x10000000000000

def zero : Binary64 := ⟨false, 0, by decide⟩

instance : Inhabited Binary64 := ⟨zero⟩

def isZero (x : Binary64) : Bool := x.magnitude == 0

/-- Equality of values: the two zeros are equal, and nothing else differs from equality. -/
def same (x y : Binary64) : Bool :=
  (x.isZero && y.isZero) || (x.negative == y.negative && x.magnitude == y.magnitude)

/-- The significand, with the hidden bit when there is one. -/
def significand (x : Binary64) : Nat :=
  if x.magnitude < leastNormal then x.magnitude else leastNormal + x.magnitude % leastNormal

/-- The exponent: the absolute value is the significand times two to this power. -/
def exponent (x : Binary64) : Int :=
  if x.magnitude < leastNormal then -1074 else (x.magnitude / leastNormal : Nat) - 1075

/-- The quotient rounded to the nearest natural number, a tie to the even one. -/
def roundDiv (num den : Nat) : Nat :=
  let q := num / den
  let r := num % den
  if 2 * r < den then q
  else if den < 2 * r then q + 1
  else q + q % 2

/-- The magnitude nearest to `num / den`, for positive `den`: the significand has 53 bits unless
the number is so small that the exponent has reached its lower end. The answer is `infinite` or
more when the quotient is too large. -/
def magnitudeOfRatio (num den : Nat) : Nat :=
  if num = 0 then 0
  else
    let atPower (q : Int) : Nat × Nat :=
      if 0 ≤ q then (num, den * Nat.pow 2 q.toNat) else (num * Nat.pow 2 (-q).toNat, den)
    let guess : Int := (Nat.log2 num : Int) - (Nat.log2 den : Int) - 52
    let (n, d) := atPower guess
    let q := max (-1074) (if n / d < leastNormal then guess - 1 else guess)
    let (n, d) := atPower q
    let m := roundDiv n d
    if m < leastNormal then m else (q + 1074).toNat * leastNormal + m

/-- The number with the given sign and magnitude, unless that magnitude is infinite. -/
def ofMagnitude? (negative : Bool) (magnitude : Nat) : Option Binary64 :=
  if h : magnitude < 0x7FF0000000000000 then some ⟨negative, magnitude, h⟩ else none

/-- The number nearest to `num / den`, or `none` when it is too large to be finite. -/
def ofRatio (negative : Bool) (num den : Nat) : Option Binary64 :=
  ofMagnitude? negative (magnitudeOfRatio num den)

/-- The absolute value as a quotient of natural numbers. -/
def ratio (x : Binary64) : Nat × Nat :=
  if 0 ≤ x.exponent then (x.significand * Nat.pow 2 x.exponent.toNat, 1)
  else (x.significand, Nat.pow 2 (-x.exponent).toNat)

/-- The number nearest to a natural number below two to the power 1023. -/
def ofNat (n : Nat) : Binary64 := (ofRatio false n 1).getD zero

/-- The number nearest to `coefficient` times ten to `power`, or `none` when that is too large.
Powers far outside the range are answered without computing them. -/
def ofDecimal (negative : Bool) (coefficient : Nat) (power : Int) : Option Binary64 :=
  let places : Int := (Decimal.digits coefficient).length
  if coefficient = 0 then some ⟨negative, 0, by decide⟩
  else if 400 < places + power then none
  else if places + power < -400 then some ⟨negative, 0, by decide⟩
  else if 0 ≤ power then ofRatio negative (coefficient * Nat.pow 10 power.toNat) 1
  else ofRatio negative coefficient (Nat.pow 10 (-power).toNat)

/-- The quotient of two absolute values, rounded. -/
def divide (x y : Binary64) : Option Binary64 :=
  let (a, b) := x.ratio
  let (c, d) := y.ratio
  ofRatio false (a * d) (b * c)

/-- The product of two absolute values, rounded. -/
def multiply (x y : Binary64) : Option Binary64 :=
  let (a, b) := x.ratio
  let (c, d) := y.ratio
  ofRatio false (a * c) (b * d)

/-- The power of ten, rounded. -/
def powerOfTen (n : Nat) : Binary64 := (ofDecimal false 1 n).getD zero

/-- The largest power of ten that is finite. -/
def largestPower : Nat := 308

/-- `x` scaled by ten to `power` in steps of at most `largestPower`; `none` when it grows too
large. Two divisions by the largest step already reach zero. -/
def scaleBy : Nat → Binary64 → Int → Option Binary64
  | 0, x, _ => some x
  | steps + 1, x, power =>
    if power.natAbs ≤ largestPower then
      if 0 ≤ power then multiply x (powerOfTen power.toNat)
      else divide x (powerOfTen (-power).toNat)
    else if x.isZero then some x
    else if 0 ≤ power then none
    else (divide x (powerOfTen largestPower)).bind (scaleBy steps · (power + largestPower))

/-- The number written with the digits of `coefficient` and the given power of ten, computed in two
roundings: the coefficient first, then its product or quotient with a power of ten. -/
def scaled (negative : Bool) (coefficient : Nat) (power : Int) : Option Binary64 :=
  (scaleBy 4 (ofNat coefficient) power).map fun x => { x with negative }

/-- The integer part, toward zero. -/
def truncated (x : Binary64) : Int :=
  let (a, b) := x.ratio
  if x.negative then -(a / b : Nat) else (a / b : Nat)

end Binary64

end FabricAudit
