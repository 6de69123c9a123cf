import SchemaBootstrap.Decimal.Double
import SchemaBootstrap.Decimal.Power

/-! # The shortest decimal of a double

A finite number other than zero is written with the fewest digits that read back
as the same number; among the decimals of that length the nearest one is taken,
and of two equally near ones the one that a `Tie` says (`Double.shortest`). All
arithmetic is on natural numbers: the number and the ends of the interval of reals
that round to it are brought to one denominator, and for one, two, up to seventeen
digits the two neighbours of the number on that decimal grid are tried.
-/

namespace SchemaBootstrap

/-- Which of two equally near decimals is taken. -/
inductive Tie where
  | toEven
  | awayFromZero
  deriving DecidableEq, Repr

/-- Whether a tie between a decimal and the next greater one goes to the greater. -/
def Tie.roundsUp (tie : Tie) (lower : Nat) : Bool :=
  match tie with
  | .toEven => lower % 2 != 0
  | .awayFromZero => true

/-- A decimal: its digits, the first of which is not zero, and the power of ten
by which the first digit counts. -/
structure Digits where
  digits : List Char
  power : Int

namespace Double

/-- The number of decimal digits of a natural number. -/
def digitCount (n : Nat) : Nat :=
  (Nat.toDigits 10 n).length

/-- Four times the significand over a power of two, as numerator and denominator,
with the distances down and up to the ends of the rounding interval. -/
structure Interval where
  value : Nat
  below : Nat
  above : Nat
  denominator : Nat
  /-- The ends round to the number itself. -/
  closed : Bool

/-- The rounding interval of a finite number. -/
def interval (x : Double) : Interval :=
  let shift := x.scale - 2
  let factor := if shift ≥ 0 then twoTo shift.toNat else 1
  let narrow := x.fractionField == 0 && x.exponentField > 1
  { value := 4 * x.significand * factor
    below := (if narrow then 1 else 2) * factor
    above := 2 * factor
    denominator := if shift ≥ 0 then 1 else twoTo (-shift).toNat
    closed := x.significand % 2 == 0 }

/-- The power of ten by which the first digit of a quotient counts, for quotients
above ten to the power of minus 400. -/
def leadingPower (numerator denominator : Nat) : Int :=
  (digitCount (numerator * tenTo 400 / denominator) : Int) - 401

/-- Whether a candidate, in the interval's unit, rounds to the number. -/
def Interval.holds (range : Interval) (candidate : Nat) : Bool :=
  if range.closed then
    range.value - range.below ≤ candidate && candidate ≤ range.value + range.above
  else
    range.value - range.below < candidate && candidate < range.value + range.above

/-- The better of the two neighbours of the number on the decimal grid of a unit,
if one of them rounds to the number. The unit is ten to the power `exponent`. -/
def Interval.onGrid (range : Interval) (tie : Tie) (exponent : Int) : Option Nat :=
  let up := tenTo (-exponent).toNat
  let step := tenTo exponent.toNat * range.denominator
  let scaled : Interval :=
    { range with value := range.value * up, below := range.below * up, above := range.above * up }
  let lower := scaled.value / step
  let rest := scaled.value % step
  let lowerHolds := scaled.holds (lower * step)
  let upperHolds := scaled.holds ((lower + 1) * step)
  match lowerHolds, upperHolds with
  | true, false => some lower
  | false, true => some (lower + 1)
  | true, true =>
    if 2 * rest < step then some lower
    else if step < 2 * rest then some (lower + 1)
    else some (if tie.roundsUp lower then lower + 1 else lower)
  | false, false => none

/-- The first grid of at least `count` digits, at most `count + fuel`, that has a
decimal rounding to the number. -/
def Interval.search (range : Interval) (tie : Tie) (power : Int) : (fuel count : Nat) → Nat × Int
  | 0, count => ((range.onGrid tie (power - count + 1)).getD 0, power - count + 1)
  | fuel + 1, count =>
    match range.onGrid tie (power - count + 1) with
    | some digits => (digits, power - count + 1)
    | none => range.search tie power fuel (count + 1)

/-- A list of digits without the zeros at its end. -/
def stripZeros (digits : List Char) : List Char :=
  (digits.reverse.dropWhile (· == '0')).reverse

/-- The shortest decimal of the magnitude of a finite number other than zero. -/
def shortest (x : Double) (tie : Tie) : Digits :=
  let range := x.interval
  let (number, exponent) := range.search tie (leadingPower range.value range.denominator) 16 1
  let digits := Nat.toDigits 10 number
  { digits := stripZeros digits
    power := exponent + digits.length - 1 }

end Double

end SchemaBootstrap
