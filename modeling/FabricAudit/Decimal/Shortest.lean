import FabricAudit.Decimal.Binary64

set_option autoImplicit false

/-! # Shortest decimal text of a number

The text of a `Binary64` has the fewest significant digits that read back to the same number, and
of those the ones nearest to it. The digits are found by exact arithmetic: for one, two, … up to
seventeen digits the two neighbours of the value on that decimal grid are tested against the
interval of reals that round to the number.

How the digits are laid out is decided by a `Layout`: which decimal exponents are written
positionally, and whether a positive exponent carries a plus sign.
-/

namespace FabricAudit.Decimal

/-- Decimal digits and the power of ten of the first of them: the number `d.ddd × 10 ^ power`. -/
structure Scientific where
  /-- The significant digits, without trailing zeros. -/
  coefficient : List Char
  /-- The decimal exponent of the first digit. -/
  power : Int
  deriving Repr

/-- The quotient `(num · 10 ^ (-power)) / den` as numerator and denominator. -/
def shifted (num den : Nat) (power : Int) : Nat × Nat :=
  if 0 ≤ power then (num, den * Nat.pow 10 power.toNat)
  else (num * Nat.pow 10 (-power).toNat, den)

/-- The decimal exponent of the first digit of a positive quotient, searched downwards from a
`guess` that is not below it. -/
def leadingPower (num den : Nat) : Nat → Int → Int
  | 0, guess => guess
  | steps + 1, guess =>
    let (n, d) := shifted num den guess
    if d ≤ n then guess else leadingPower num den steps (guess - 1)

/-- Trailing zeros dropped, keeping at least one digit. -/
def withoutZeros (ds : List Char) : List Char :=
  match (ds.reverse.dropWhile (· == '0')).reverse with
  | [] => ['0']
  | kept => kept

/-- The reals that round to a given number, with every bound over the one denominator `den`. -/
structure RoundingInterval where
  /-- Numerator of the number itself. -/
  center : Nat
  /-- Numerator of the lower end. -/
  low : Nat
  /-- Numerator of the upper end. -/
  high : Nat
  /-- The common denominator. -/
  den : Nat
  /-- Whether the ends round to the number as well, which they do when its significand is even. -/
  closed : Bool

/-- The interval of a number that is not zero. Just above a power of two the lower half is only
half as wide, because the numbers below are twice as dense. -/
def RoundingInterval.of (x : Binary64) : RoundingInterval :=
  let m := x.significand
  let narrow := m = Binary64.leastNormal ∧ 2 * Binary64.leastNormal ≤ x.magnitude
  let scale (n : Nat) : Nat := if 2 ≤ x.exponent then n * Nat.pow 2 (x.exponent - 2).toNat else n
  { center := scale (4 * m)
    low := scale (if narrow then 4 * m - 1 else 4 * m - 2)
    high := scale (4 * m + 2)
    den := if 2 ≤ x.exponent then 1 else Nat.pow 2 (2 - x.exponent).toNat
    closed := m % 2 == 0 }

/-- Whether `n · 10 ^ power` lies in the interval. -/
def RoundingInterval.holds (i : RoundingInterval) (n : Nat) (power : Int) : Bool :=
  let (a, b) := if 0 ≤ power then (n * Nat.pow 10 power.toNat, 1)
    else (n, Nat.pow 10 (-power).toNat)
  if i.closed then i.low * b ≤ a * i.den && a * i.den ≤ i.high * b
  else i.low * b < a * i.den && a * i.den < i.high * b

/-- Of the two neighbours of the centre on the grid of step `10 ^ power`, the one to write: the
nearer of those that lie in the interval, if any does. -/
def RoundingInterval.onGrid (i : RoundingInterval) (power : Int) : Option Nat :=
  let (n, d) := shifted i.center i.den power
  let below := n / d
  let rest := n % d
  match i.holds below power, i.holds (below + 1) power with
  | true, true => some (if 2 * rest < d ∨ (2 * rest = d ∧ below % 2 = 0) then below else below + 1)
  | true, false => some below
  | false, true => some (below + 1)
  | false, false => none

/-- The first grid with a hit, from `count` digits upwards; the number's first digit stands at
`lead`. -/
def firstHit (i : RoundingInterval) (lead : Int) : Nat → Nat → Nat × Int
  | 0, count => (i.center / i.den, lead - count)
  | steps + 1, count =>
    let power := lead - (count : Int) + 1
    match i.onGrid power with
    | some n => (n, power)
    | none => firstHit i lead steps (count + 1)

/-- The shortest digits of the absolute value. -/
def shortest (x : Binary64) : Scientific :=
  if x.isZero then ⟨['0'], 0⟩
  else
    let i := RoundingInterval.of x
    let guess : Int := ((Nat.log2 i.center : Int) - Nat.log2 i.den + 1) * 30103 / 100000 + 1
    let lead := leadingPower i.center i.den 4 guess
    let (n, power) := firstHit i lead 17 1
    let ds := digits n
    ⟨withoutZeros ds, power + ds.length - 1⟩

/-- How the digits of a number are laid out. -/
structure Layout where
  /-- The least decimal exponent written positionally. -/
  least : Int
  /-- The first decimal exponent no longer written positionally. -/
  limit : Int
  /-- What stands before a positive exponent. -/
  plus : String

/-- The text of a number in the given layout. A positional text has at least one digit on either
side of the point. -/
def Layout.text (l : Layout) (x : Binary64) : String :=
  let s := shortest x
  let sign := if x.negative then "-" else ""
  let count : Int := s.coefficient.length
  if l.least ≤ s.power ∧ s.power < l.limit then
    if s.power < 0 then
      sign ++ "0." ++ String.ofList (List.replicate (-s.power - 1).toNat '0' ++ s.coefficient)
    else if count ≤ s.power + 1 then
      let zeros := List.replicate (s.power + 1 - count).toNat '0'
      sign ++ String.ofList (s.coefficient ++ zeros) ++ ".0"
    else
      sign ++ String.ofList (s.coefficient.take (s.power + 1).toNat) ++ "."
        ++ String.ofList (s.coefficient.drop (s.power + 1).toNat)
  else
    let tail := s.coefficient.drop 1
    let body := String.ofList (s.coefficient.take 1)
      ++ (if tail.isEmpty then "" else "." ++ String.ofList tail)
    sign ++ body ++ "e" ++ (if 0 ≤ s.power then l.plus else "") ++ ofInt s.power

end FabricAudit.Decimal
