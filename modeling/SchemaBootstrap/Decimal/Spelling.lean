import SchemaBootstrap.Decimal.Shortest

/-! # Spellings of a double

The digits of a double are its shortest decimal; a `Spelling` says how they are
chosen and set: which of two equally near decimals is taken, which powers of ten
are written with a positional point, whether a whole number keeps a point and a
zero, and whether a positive exponent has a sign.
-/

namespace SchemaBootstrap

/-- How the digits of a number are set. -/
structure Spelling where
  /-- The powers of the first digit that are written positionally; all if absent. -/
  positional : Option (Int × Int)
  /-- Whether a number without digits behind the point gets `.0`. -/
  pointed : Bool
  /-- Whether a positive exponent has a plus sign. -/
  plusSign : Bool
  /-- Which of two equally near decimals is taken. -/
  tie : Tie

namespace Spelling

/-- Always positional, and a whole number has no point. -/
def plain : Spelling where
  positional := none
  pointed := false
  plusSign := false
  tie := .awayFromZero

/-- Always positional, and a whole number ends with `.0`. -/
def wholePointed : Spelling where
  positional := none
  pointed := true
  plusSign := false
  tie := .awayFromZero

/-- Positional from a ten-thousandth up to sixteen whole digits. -/
def exact : Spelling where
  positional := some (-4, 15)
  pointed := true
  plusSign := false
  tie := .awayFromZero

/-- The spelling of numbers in JSON texts. -/
def json : Spelling where
  positional := some (-5, 15)
  pointed := true
  plusSign := true
  tie := .toEven

/-- Digits with a point behind the first `whole` of them, filled up with zeros. -/
def setPoint (pointed : Bool) (digits : List Char) (whole : Int) : List Char :=
  if whole ≤ 0 then
    '0' :: '.' :: (List.replicate (-whole).toNat '0' ++ digits)
  else if digits.length ≤ whole.toNat then
    digits ++ List.replicate (whole.toNat - digits.length) '0' ++ if pointed then ['.', '0'] else []
  else
    digits.take whole.toNat ++ '.' :: digits.drop whole.toNat

/-- Digits with a point behind the first and an exponent. -/
def setExponent (plusSign : Bool) (digits : List Char) (power : Int) : List Char :=
  let mantissa := match digits with
    | first :: second :: rest => first :: '.' :: second :: rest
    | short => short
  let sign := if power < 0 then ['-'] else if plusSign then ['+'] else []
  mantissa ++ 'e' :: (sign ++ Nat.toDigits 10 power.natAbs)

/-- The text of the magnitude of a finite number. -/
def magnitude (spelling : Spelling) (x : Double) : List Char :=
  if x.isZero then
    if spelling.pointed then ['0', '.', '0'] else ['0']
  else
    let decimal := x.shortest spelling.tie
    let positional := match spelling.positional with
      | none => true
      | some (least, greatest) => least ≤ decimal.power && decimal.power ≤ greatest
    if positional then
      setPoint spelling.pointed decimal.digits (decimal.power + 1)
    else
      setExponent spelling.plusSign decimal.digits decimal.power

/-- The text of a number. -/
def text (spelling : Spelling) (x : Double) : String :=
  if x.isNaN then "NaN"
  else
    let unsigned := if x.isInfinite then ['i', 'n', 'f'] else spelling.magnitude x
    String.ofList (if x.negative then '-' :: unsigned else unsigned)

end Spelling

end SchemaBootstrap
