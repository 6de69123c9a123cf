import SchemaBootstrap.Decimal.Power
import SchemaBootstrap.Decimal.Reading
import SchemaBootstrap.Json.Value

/-! # Numbers in JSON texts

A number without point and exponent that fits a machine integer is an integer, every
other one a double (`Json.number?`). A double is read in two steps: the digits that
fit into sixty-four bits are rounded as a whole number, and rounded again once they
are scaled by a power of ten (`Double.scaled?`). So a long number may differ from the
double that is nearest to it.
-/

namespace SchemaBootstrap

namespace Double

/-- The double nearest to a quotient that counts with a power of two. -/
def ofScaledQuotient (numerator denominator : Nat) (power : Int) : Double :=
  if power ≥ 0 then ofQuotient false (numerator * twoTo power.toNat) denominator
  else ofQuotient false numerator (denominator * twoTo (-power).toNat)

/-- A double, without its sign, times a power of ten that is rounded to a double. -/
def timesTenTo (x : Double) (power : Int) : Double :=
  let tens := ofDecimal false (tenTo power.natAbs) 0
  if power ≥ 0 then ofScaledQuotient (x.significand * tens.significand) 1 (x.scale + tens.scale)
  else ofScaledQuotient x.significand tens.significand (x.scale - tens.scale)

/-- The number of the greatest power of ten that is a double. -/
def greatestTens : Nat :=
  308

/-- A double, without its sign, scaled by a power of ten of any size: nothing if it gets
infinite. Small powers are reached by steps, of which three lead from any sixty-four bits
to zero. -/
def scaled? : (steps : Nat) → Double → (power : Int) → Option Double
  | 0, x, _ => some x
  | steps + 1, x, power =>
    if x.isZero then some x
    else if power < -greatestTens then
      scaled? steps (x.timesTenTo (-greatestTens)) (power + greatestTens)
    else if greatestTens < power then none
    else some (x.timesTenTo power) |>.filter (!·.isInfinite)

/-- A double without its sign, with another sign. -/
def withSign (x : Double) (negative : Bool) : Double :=
  ofFields negative x.exponentField x.fractionField

end Double

namespace Json

/-- The number that the first of some digits spell behind a number, as long as it fits into
sixty-four bits, and the digits left. -/
def leadingDigits (value : Nat) : List Char → Nat × List Char
  | [] => (value, [])
  | c :: rest =>
    let next := value * 10 + (c.toNat - '0'.toNat)
    if next < twoTo 64 then leadingDigits next rest else (value, c :: rest)

/-- The double with a sign that digits before and behind a point and an exponent spell. -/
def double? (minus : Bool) (whole fraction : List Char) (exponent : Int) : Option Json :=
  let (value, wholeLeft) := leadingDigits 0 whole
  let (value, fractionLeft) := leadingDigits value fraction
  let power := exponent + wholeLeft.length - (fraction.length - fractionLeft.length : Nat)
  (Double.scaled? 4 (Double.ofDecimal false value 0) power).map fun size =>
    .double (size.withSign minus)

/-- The number that digits spell: an integer if a machine word holds it. -/
def whole? (minus : Bool) (digits : List Char) : Option Json :=
  let size := Double.digitsValue digits
  if minus then
    if size = 0 ∨ twoTo 63 < size then double? minus digits [] 0 else some (.integer (-size))
  else if size < twoTo 64 then some (.integer size)
  else double? minus digits [] 0

/-- Whether a text is digits without a zero before others. -/
def isWhole : List Char → Bool
  | [] => false
  | ['0'] => true
  | c :: rest => c != '0' && (c :: rest).all Char.isDigit

/-- The digits behind a point, if there is one, and the text behind them. -/
def readFraction? : List Char → Option (List Char × List Char)
  | '.' :: rest =>
    let fraction := rest.takeWhile Char.isDigit
    if fraction.isEmpty then none else some (fraction, rest.dropWhile Char.isDigit)
  | rest => some ([], rest)

/-- The number that a text spells. -/
def number? (text : List Char) : Option Json :=
  let (minus, unsigned) := match text with
    | '-' :: rest => (true, rest)
    | text => (false, text)
  let whole := unsigned.takeWhile Char.isDigit
  let rest := unsigned.dropWhile Char.isDigit
  if !isWhole whole then none
  else if rest.isEmpty then whole? minus whole
  else
    (readFraction? rest).bind fun (fraction, rest) =>
      (Double.readExponent? rest).bind fun exponent => double? minus whole fraction exponent

end Json

end SchemaBootstrap
