import SchemaBootstrap.Decimal.Power

/-! # Double precision numbers

A number of the interchange format `binary64`, kept as its bits. Two numbers are
the same number (`Double.equal`) when neither is a NaN and their bits agree or
both are zero; so a NaN differs from itself and the two zeros agree.
-/

namespace SchemaBootstrap

/-- A double precision number, by its bits. -/
structure Double where
  bits : UInt64
  deriving DecidableEq, Repr

namespace Double

/-- Whether the sign bit is set. -/
def negative (x : Double) : Bool :=
  x.bits.toNat ≥ twoTo 63

/-- The biased exponent. -/
def exponentField (x : Double) : Nat :=
  x.bits.toNat / twoTo 52 % twoTo 11

/-- The bits of the significand behind the point. -/
def fractionField (x : Double) : Nat :=
  x.bits.toNat % twoTo 52

/-- Whether a number is none. -/
def isNaN (x : Double) : Bool :=
  x.exponentField == 2047 && x.fractionField != 0

/-- Whether a number is infinite. -/
def isInfinite (x : Double) : Bool :=
  x.exponentField == 2047 && x.fractionField == 0

/-- Whether a number is zero, with either sign. -/
def isZero (x : Double) : Bool :=
  x.exponentField == 0 && x.fractionField == 0

/-- Whether two numbers have the same value. -/
def equal (x y : Double) : Bool :=
  !x.isNaN && !y.isNaN && (x.bits == y.bits || (x.isZero && y.isZero))

/-- Whether a number is greater than zero. -/
def positive (x : Double) : Bool :=
  !x.isNaN && !x.isZero && !x.negative

/-- Whether a number is less than zero. -/
def belowZero (x : Double) : Bool :=
  !x.isNaN && !x.isZero && x.negative

/-- The magnitude of a finite number is its significand times two to the power of its scale. -/
def significand (x : Double) : Nat :=
  if x.exponentField = 0 then x.fractionField else x.fractionField + twoTo 52

/-- The power of two by which the significand of a finite number counts. -/
def scale (x : Double) : Int :=
  if x.exponentField = 0 then -1074 else (x.exponentField : Int) - 1075

/-- The number with a sign, a biased exponent and a fraction. -/
def ofFields (negative : Bool) (exponent fraction : Nat) : Double :=
  ⟨((if negative then twoTo 63 else 0) + exponent * twoTo 52 + fraction).toUInt64⟩

/-- The number that is none. -/
def nan : Double :=
  ofFields false 2047 (twoTo 51)

/-- The infinite number with a sign. -/
def infinity (negative : Bool) : Double :=
  ofFields negative 2047 0

/-- Zero with a sign. -/
def zero (negative : Bool) : Double :=
  ofFields negative 0 0

end Double

end SchemaBootstrap
