/-! # Object identifiers and decimal numbers

Two scalar types of documents. An object identifier is a number of twenty-four
digits of base sixteen. A decimal has at most thirty-four digits and an exponent; it
is kept as written, so `1.0` and `1.00` differ. Only where the digits are too many or
the exponent is out of range do zeros move between the two (`Decimal128.ofDigits?`);
a decimal is never rounded.
-/

namespace SchemaBootstrap

/-- An object identifier: a number of 96 bits. -/
structure ObjectId where
  number : BitVec 96
  deriving DecidableEq, Repr

namespace ObjectId

/-- The value of a digit of base sixteen, in either case. -/
def digitValue? (c : Char) : Option Nat :=
  if c.isDigit then some (c.toNat - '0'.toNat)
  else if 'a' ≤ c ∧ c ≤ 'f' then some (c.toNat - 'a'.toNat + 10)
  else if 'A' ≤ c ∧ c ≤ 'F' then some (c.toNat - 'A'.toNat + 10)
  else none

/-- The number that digits of base sixteen spell, after those read already. -/
def digitsValue? : Nat → List Char → Option Nat
  | value, [] => some value
  | value, c :: rest => (digitValue? c).bind fun digit => digitsValue? (value * 16 + digit) rest

/-- The identifier that a text of twenty-four digits spells. -/
def ofText? (text : String) : Option ObjectId :=
  if text.toList.length = 24 then
    (digitsValue? 0 text.toList).map fun value => ⟨BitVec.ofNat 96 value⟩
  else none

/-- A natural number with a fixed count of digits of base sixteen. -/
def digits (number : Nat) : Nat → List Char
  | 0 => []
  | count + 1 => digits (number / 16) count ++ [Nat.digitChar (number % 16)]

/-- The twenty-four digits of an identifier. -/
def text (id : ObjectId) : String :=
  String.ofList (digits id.number.toNat 24)

end ObjectId

/-- A decimal number of the interchange format `decimal128`. -/
inductive Decimal128 where
  | nan (negative : Bool)
  | infinity (negative : Bool)
  | finite (negative : Bool) (digits : Nat) (exponent : Int)
  deriving DecidableEq, Repr

namespace Decimal128

/-- The greatest count of digits. -/
def mostDigits : Nat :=
  34

/-- The least exponent. -/
def leastExponent : Int :=
  -6176

/-- The greatest exponent. -/
def greatestExponent : Int :=
  6111

/-- The number that decimal digits spell. -/
def digitsValue (digits : List Char) : Nat :=
  digits.foldl (fun value c => value * 10 + (c.toNat - '0'.toNat)) 0

/-- The sign and the rest of a text. -/
def readSign : List Char → Bool × List Char
  | '-' :: rest => (true, rest)
  | '+' :: rest => (false, rest)
  | text => (false, text)

/-- Whether an exponent has sixteen bits at most. -/
def isShort (exponent : Int) : Bool :=
  -32768 ≤ exponent && exponent < 32768

/-- The exponent that a text spells, absent from the empty text. -/
def readExponent? : List Char → Option Int
  | [] => some 0
  | c :: rest =>
    if c = 'e' ∨ c = 'E' then
      let (minus, digits) := readSign rest
      if digits.isEmpty || !digits.all Char.isDigit then none
      else
        let value : Int := digitsValue digits
        some (if minus then -value else value)
    else none

/-- Digits without a number of zeros at their end; nothing if other digits stand there. -/
def dropZeros? (count : Nat) (digits : List Char) : Option (List Char) :=
  let kept := digits.length - count
  if count ≤ digits.length && (digits.drop kept).all (· = '0') then some (digits.take kept)
  else none

/-- Brings digits without leading zeros down to their greatest count. -/
def shorten? (digits : List Char) (exponent : Int) : Option (List Char × Int) :=
  let excess := digits.length - mostDigits
  (dropZeros? excess digits).map fun digits => (digits, exponent + excess)

/-- Brings an exponent up to the least one. -/
def raise? (digits : List Char) (exponent : Int) : Option (List Char × Int) :=
  if leastExponent ≤ exponent then some (digits, exponent)
  else if digits = ['0'] then some (digits, leastExponent)
  else (dropZeros? (leastExponent - exponent).toNat digits).map fun digits =>
    (digits, leastExponent)

/-- Brings an exponent down to the greatest one. -/
def lower? (digits : List Char) (exponent : Int) : Option (List Char × Int) :=
  let excess := (exponent - greatestExponent).toNat
  if excess = 0 then some (digits, exponent)
  else if digits = ['0'] then some (digits, greatestExponent)
  else if digits.length + excess ≤ mostDigits then
    some (digits ++ List.replicate excess '0', greatestExponent)
  else none

/-- The finite decimal of digits and an exponent, if it is one without rounding. -/
def ofDigits? (negative : Bool) (digits : List Char) (exponent : Int) : Option Decimal128 := do
  let significant := match digits.dropWhile (· = '0') with
    | [] => ['0']
    | significant => significant
  let (digits, exponent) ← shorten? significant exponent
  let (digits, exponent) ← raise? digits exponent
  let (digits, exponent) ← lower? digits exponent
  pure (finite negative (digitsValue digits) exponent)

/-- The decimal that a text spells. -/
def ofText? (text : String) : Option Decimal128 :=
  let (negative, unsigned) := readSign text.toList
  match String.ofList (unsigned.map Char.toLower) with
  | "nan" => some (nan negative)
  | "inf" | "infinity" => some (infinity negative)
  | _ =>
    let whole := unsigned.takeWhile Char.isDigit
    let rest := unsigned.dropWhile Char.isDigit
    let (fraction, rest) := match rest with
      | '.' :: rest => (rest.takeWhile Char.isDigit, rest.dropWhile Char.isDigit)
      | rest => ([], rest)
    if whole.isEmpty && fraction.isEmpty then none
    else
      (readExponent? rest).bind fun exponent =>
        let power := exponent - fraction.length
        if isShort exponent && isShort power then ofDigits? negative (whole ++ fraction) power
        else none

/-- The decimal whose 128 bits are given: a sign, an exponent, and digits of 113 bits.
Digits that are too many count as none. -/
def ofBits (bits : BitVec 128) : Decimal128 :=
  let negative := bits.getLsbD 127
  let finiteOf (field digits : Nat) : Decimal128 :=
    finite negative digits ((field : Int) + leastExponent)
  if bits.extractLsb' 123 4 = 15 then
    if bits.getLsbD 122 then nan negative else infinity negative
  else if bits.extractLsb' 125 2 = 3 then finiteOf (bits.extractLsb' 111 14).toNat 0
  else
    let digits := (bits.extractLsb' 0 113).toNat
    finiteOf (bits.extractLsb' 113 14).toNat
      (if (Nat.toDigits 10 digits).length ≤ mostDigits then digits else 0)

/-- The digits and exponent of a finite decimal, with a point among the digits when
the exponent is small. -/
def magnitude (digits : Nat) (exponent : Int) : List Char :=
  let text := Nat.toDigits 10 digits
  let power := exponent + text.length - 1
  if exponent ≤ 0 ∧ -6 ≤ power then
    let places := (-exponent).toNat
    if places = 0 then text
    else
      let padded := List.replicate (places + 1 - text.length) '0' ++ text
      padded.take (padded.length - places) ++ '.' :: padded.drop (padded.length - places)
  else
    let mantissa := match text with
      | first :: second :: rest => first :: '.' :: second :: rest
      | short => short
    let sign := if power < 0 then '-' else '+'
    mantissa ++ 'E' :: sign :: Nat.toDigits 10 power.natAbs

/-- The text of a decimal. -/
def text : Decimal128 → String
  | nan _ => "NaN"
  | infinity negative => if negative then "-Infinity" else "Infinity"
  | finite negative digits exponent =>
    String.ofList ((if negative then ['-'] else []) ++ magnitude digits exponent)

end Decimal128

end SchemaBootstrap
