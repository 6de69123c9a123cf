import SchemaBootstrap.Decimal.Double
import SchemaBootstrap.Decimal.Power

/-! # Reading decimals

A decimal text is read as the nearest double, and of two equally near ones the
one with an even significand (`Double.ofDecimal`). A text consists of an optional
sign, digits with at most one point among them, at least one digit, and an
optional exponent (`Double.read?`).
-/

namespace SchemaBootstrap

namespace Double

/-- A quotient rounded to the nearest natural number, a half to the even one. -/
def roundQuotient (numerator denominator : Nat) : Nat :=
  let quotient := numerator / denominator
  let rest := numerator % denominator
  if 2 * rest < denominator then quotient
  else if denominator < 2 * rest then quotient + 1
  else if quotient % 2 = 0 then quotient
  else quotient + 1

/-- A quotient in the unit of a power of two, as numerator and denominator. -/
def rescaled (numerator denominator : Nat) (power : Int) : Nat × Nat :=
  if power ≥ 0 then (numerator, denominator * twoTo power.toNat)
  else (numerator * twoTo (-power).toNat, denominator)

/-- A quotient rounded in the unit of a power of two. -/
def roundedAt (numerator denominator : Nat) (power : Int) : Nat :=
  roundQuotient (rescaled numerator denominator power).1 (rescaled numerator denominator power).2

/-- The power of two in whose unit a quotient has fifty-three binary digits, unless it is too
small for that. -/
def binade (numerator denominator : Nat) : Int :=
  let first := (Nat.log2 numerator : Int) - (Nat.log2 denominator : Int) - 52
  let quotient := rescaled numerator denominator first
  max (if quotient.1 < quotient.2 * twoTo 52 then first - 1 else first) (-1074)

/-- The double with a sign and a significand in the unit of a power of two. -/
def encode (negative : Bool) (significand : Nat) (power : Int) : Double :=
  if power > 971 then infinity negative
  else if significand < twoTo 52 then ofFields negative 0 significand
  else ofFields negative (power + 1075).toNat (significand - twoTo 52)

/-- The double of a significand that may have grown to the least one of the next unit. -/
def encodeRounded (negative : Bool) (rounded : Nat) (power : Int) : Double :=
  if rounded = twoTo 53 then encode negative (twoTo 52) (power + 1)
  else encode negative rounded power

/-- The double with a sign nearest to a quotient of natural numbers. -/
def ofQuotient (negative : Bool) (numerator denominator : Nat) : Double :=
  if numerator = 0 then zero negative
  else
    encodeRounded negative (roundedAt numerator denominator (binade numerator denominator))
      (binade numerator denominator)

/-- The double nearest to a decimal, given by its digits and a power of ten. -/
def ofDecimal (negative : Bool) (digits : Nat) (power : Int) : Double :=
  if digits = 0 then zero negative
  else if power > 400 then infinity negative
  else if power < -20000 then zero negative
  else if power ≥ 0 then ofQuotient negative (digits * tenTo power.toNat) 1
  else ofQuotient negative digits (tenTo (-power).toNat)

/-- The number that decimal digits spell. -/
def digitsValue (digits : List Char) : Nat :=
  digits.foldl (fun value c => value * 10 + (c.toNat - '0'.toNat)) 0

/-- An optional sign and the rest of a text; `true` stands for a minus sign. -/
def readSign : List Char → Bool × List Char
  | '-' :: rest => (true, rest)
  | '+' :: rest => (false, rest)
  | text => (false, text)

/-- An exponent, which is absent from the empty text. -/
def readExponent? : List Char → Option Int
  | [] => some 0
  | c :: rest =>
    if c = 'e' ∨ c = 'E' then
      let (minus, digits) := readSign rest
      if digits.isEmpty || !digits.all Char.isDigit then none
      else
        let value := digitsValue (digits.dropWhile (· == '0') |>.take 6)
        some (if minus then -value else value)
    else none

/-- The double that a decimal text spells. -/
def read? (text : List Char) : Option Double :=
  let (minus, unsigned) := readSign text
  let whole := unsigned.takeWhile Char.isDigit
  let rest := unsigned.dropWhile Char.isDigit
  let (fraction, rest) := match rest with
    | '.' :: rest => (rest.takeWhile Char.isDigit, rest.dropWhile Char.isDigit)
    | rest => ([], rest)
  if whole.isEmpty && fraction.isEmpty then none
  else
    (readExponent? rest).map fun exponent =>
      ofDecimal minus (digitsValue (whole ++ fraction)) (exponent - fraction.length)

/-- The double that a text spells, with the names of the special values. -/
def readNamed? (text : List Char) : Option Double :=
  let (minus, unsigned) := readSign text
  match String.ofList (unsigned.map Char.toLower) with
  | "nan" => some nan
  | "inf" | "infinity" => some (infinity minus)
  | _ => read? text

end Double

end SchemaBootstrap
