import SchemaBootstrap.Decimal.Power
import SchemaBootstrap.Decimal.Reading
import SchemaBootstrap.Yaml.Token

/-! # The meaning of scalars

A plain scalar without a tag is nothing, a truth value, a number, or else a text
(`Scalar.ofPlain`). Digits after a leading zero are a text. A tag of the core types
asks for a meaning, which the text must have (`Scalar.ofTagged?`).
-/

namespace SchemaBootstrap

namespace Yaml

/-- What a scalar means. -/
inductive Scalar where
  | null
  | bool (value : Bool)
  /-- A number without a minus sign. -/
  | unsigned (value : Nat)
  /-- A number with a minus sign. -/
  | signed (value : Int)
  | double (value : Double)
  | string (value : String)
  deriving DecidableEq, Repr

namespace Scalar

/-- Whether a text stands for nothing. -/
def isNull (text : String) : Bool :=
  ["null", "Null", "NULL", "~"].contains text

/-- The truth value that a text stands for. -/
def bool? (text : String) : Option Bool :=
  if ["true", "True", "TRUE"].contains text then some true
  else if ["false", "False", "FALSE"].contains text then some false
  else none

/-- The value of a digit up to base sixteen. -/
def digitValue? (base : Nat) (c : Char) : Option Nat :=
  let value? :=
    if c.isDigit then some (c.toNat - '0'.toNat)
    else if 'a' ≤ c ∧ c ≤ 'f' then some (c.toNat - 'a'.toNat + 10)
    else if 'A' ≤ c ∧ c ≤ 'F' then some (c.toNat - 'A'.toNat + 10)
    else none
  value?.filter (· < base)

/-- The number that one or more digits spell. -/
def number? (base : Nat) (digits : List Char) : Option Nat :=
  if digits.isEmpty then none
  else digits.foldlM (fun value c => (digitValue? base c).map (value * base + ·)) 0

/-- The base that the start of a number names, and the digits behind it. -/
def based? : List Char → Option (Nat × List Char)
  | '0' :: 'x' :: digits => some (16, digits)
  | '0' :: 'o' :: digits => some (8, digits)
  | '0' :: 'b' :: digits => some (2, digits)
  | _ => none

/-- The magnitude that a text without a sign spells. A plain zero leads no digits. -/
def magnitude? (text : List Char) : Option Nat :=
  match based? text with
  | some (base, digits) => number? base digits
  | none =>
    match text with
    | '0' :: _ :: _ => none
    | _ => number? 10 text

/-- A text behind an optional plus sign. -/
def unsignedPart : List Char → List Char
  | '+' :: rest => rest
  | text => text

/-- The integer that a text spells, if it fits into 128 bits. -/
def integer? (text : List Char) : Option Scalar :=
  match text with
  | '-' :: rest =>
    (magnitude? rest).bind fun value => if value ≤ twoTo 127 then some (signed (-value)) else none
  | text =>
    (magnitude? (unsignedPart text)).bind fun value =>
      if value < twoTo 128 then some (unsigned value) else none

/-- Whether a text consists of a zero and further digits behind an optional sign. -/
def hasLeadingZero (text : List Char) : Bool :=
  let digits := match text with
    | '-' :: rest => rest
    | text => unsignedPart text
  match digits with
  | '0' :: c :: rest => (c :: rest).all Char.isDigit
  | _ => false

/-- The double that a text spells. -/
def double? (text : List Char) : Option Double :=
  let unsigned := unsignedPart text
  if [".inf", ".Inf", ".INF"].contains (String.ofList unsigned) then some (Double.infinity false)
  else if ["-.inf", "-.Inf", "-.INF"].contains (String.ofList text) then some (Double.infinity true)
  else if [".nan", ".NaN", ".NAN"].contains (String.ofList text) then some Double.nan
  else if text.length ≠ unsigned.length ∧ ['+', '-'].contains (unsigned.headD ' ') then none
  else (Double.read? unsigned).filter fun value => !value.isInfinite

/-- The meaning of a plain scalar without a tag. -/
def ofPlain (text : List Char) : Scalar :=
  let whole := String.ofList text
  if text.isEmpty || isNull whole then null
  else
    match bool? whole, integer? text with
    | some value, _ => bool value
    | none, some number => number
    | none, none =>
      if hasLeadingZero text then .string whole
      else
        match double? text with
        | some value => double value
        | none => .string whole

/-- The name of a core type. -/
def coreTag (name : String) : TagText :=
  ("tag:yaml.org,2002:" ++ name).toList.map some

/-- The meaning of a scalar with a tag; `none` if it does not have the type of the tag.
A tag that is not a core type leaves a text as it is. -/
def ofTagged? (tag : TagText) (text : List Char) : Option Scalar :=
  let whole := String.ofList text
  if tag = coreTag "bool" then (bool? whole).map bool
  else if tag = coreTag "int" then integer? text
  else if tag = coreTag "float" then (double? text).map double
  else if tag = coreTag "null" then (if isNull whole then some null else none)
  else some (.string whole)

end Scalar

end Yaml

end SchemaBootstrap
