/-! # Bytes in base 64

Three bytes are written with four digits of base 64 (`Text.base64`); equals signs
fill up the last group. Reading accepts what writing produces and nothing else
(`Text.bytesOfBase64?`): every group is complete, and the bits that the last digit
does not need are zero.
-/

namespace SchemaBootstrap

namespace Text

/-- The digits of base 64. -/
def base64Digits : List Char :=
  "ABCDEFGHIJKLMNOPQRSTUVWXYZabcdefghijklmnopqrstuvwxyz0123456789+/".toList

/-- A digit of base 64. -/
def base64Digit (n : Nat) : Char :=
  base64Digits.getD (n % 64) 'A'

/-- Bytes in base 64, three bytes in four digits. -/
def base64 : List UInt8 → List Char
  | [] => []
  | [a] => [base64Digit (a.toNat / 4), base64Digit (a.toNat * 16), '=', '=']
  | [a, b] =>
    let n := a.toNat * 256 + b.toNat
    [base64Digit (n / 1024), base64Digit (n / 16), base64Digit (n * 4), '=']
  | a :: b :: c :: rest =>
    let n := (a.toNat * 256 + b.toNat) * 256 + c.toNat
    base64Digit (n / 262144) :: base64Digit (n / 4096) :: base64Digit (n / 64) :: base64Digit n
      :: base64 rest

/-- The number of digits of base 64, the first counting most. -/
def base64Value? : Nat → List Char → Option Nat
  | value, [] => some value
  | value, c :: rest =>
    (base64Digits.idxOf? c).bind fun digit => base64Value? (value * 64 + digit) rest

/-- The bytes that digits of base 64 spell. -/
def bytesOfBase64? : List Char → Option (List UInt8)
  | [] => some []
  | [a, b, '=', '='] => (base64Value? 0 [a, b]).bind fun n =>
    if n % 16 = 0 then some [(n / 16).toUInt8] else none
  | [a, b, c, '='] => (base64Value? 0 [a, b, c]).bind fun n =>
    if n % 4 = 0 then some [(n / 1024).toUInt8, (n / 4).toUInt8] else none
  | a :: b :: c :: d :: rest => do
    let n ← base64Value? 0 [a, b, c, d]
    let bytes ← bytesOfBase64? rest
    pure ((n / 65536).toUInt8 :: (n / 256).toUInt8 :: n.toUInt8 :: bytes)
  | _ => none

end Text

end SchemaBootstrap
