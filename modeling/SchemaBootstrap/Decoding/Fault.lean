import SchemaBootstrap.Decimal.Spelling
import SchemaBootstrap.Text.Pieces
import SchemaBootstrap.Text.Quoted

/-! # Faults of decoding

A value that does not have the expected form is refused with a fault that says
what was found and what was expected. The causes are the same for every format a
value may come from; a `Wording` says how one format puts them into words.
-/

namespace SchemaBootstrap

/-- What stood where something else was expected. -/
inductive Found where
  | unit
  | bool (value : Bool)
  | unsigned (value : Nat)
  | signed (value : Int)
  | double (value : Double)
  | text (value : String)
  | bytes
  | sequence
  | map
  | other (description : String)
  deriving DecidableEq, Repr

/-- Why a value cannot be decoded. -/
inductive DecodeFault where
  | wrongType (found : Found) (expected : String)
  | wrongValue (found : Found) (expected : String)
  | wrongLength (length : Nat) (expected : String)
  | missingField (name : String)
  | unknownVariant (name : String) (expected : List String)
  | unknownField (name : String) (expected : List String)
  | other (description : String)
  /-- A fault inside the field or element with a name. -/
  | within (name : String) (fault : DecodeFault)
  deriving DecidableEq, Repr

/-- The names of the fields and elements that lead to a fault. -/
def DecodeFault.path : DecodeFault → List String
  | within name fault => name :: fault.path
  | _ => []

/-- A fault without the way that leads to it. -/
def DecodeFault.cause : DecodeFault → DecodeFault
  | within _ fault => fault.cause
  | fault => fault

/-- How a format words its faults. -/
structure Wording where
  found : Found → String
  /-- Stands before what was found in place of another type. -/
  typeLead : String
  /-- Stands before what was found in place of another value. -/
  valueLead : String

namespace Wording

/-- An integer between backquotes. -/
def ticked (text : String) : String :=
  "`" ++ text ++ "`"

/-- The text of an integer. -/
def integer : Int → String
  | .ofNat n => Nat.repr n
  | .negSucc n => "-" ++ Nat.repr (n + 1)

/-- The description of what was found, given the words for nothing and for doubles. -/
def describe (unit : String) (double : Double → String) : Found → String
  | .unit => unit
  | .bool value => "boolean " ++ ticked (if value then "true" else "false")
  | .unsigned value => "integer " ++ ticked (Nat.repr value)
  | .signed value => "integer " ++ ticked (integer value)
  | .double value => "floating point " ++ ticked (double value)
  | .text value => "string " ++ Text.quoted value
  | .bytes => "byte array"
  | .sequence => "sequence"
  | .map => "map"
  | .other description => description

/-- A double in positional notation with a point. -/
def pointedDouble (value : Double) : String :=
  Spelling.wholePointed.text value

/-- The wording for JSON values. -/
def json : Wording where
  found := describe "null" Spelling.json.text
  typeLead := "invalid type: "
  valueLead := "invalid value: "

/-- The wording for documents. -/
def document : Wording where
  found := describe "unit value" pointedDouble
  typeLead := "invalid type: "
  valueLead := "invalid value: "

/-- The description of a configuration value. -/
def describeSetting : Found → String
  | .unit => "unit"
  | .bool value => "bool " ++ if value then "true" else "false"
  | .unsigned value => "unsigned int " ++ ticked (Nat.repr value)
  | .signed value => "signed int " ++ ticked (integer value)
  | .double value => "float " ++ ticked (Spelling.plain.text value)
  | .text value => "string " ++ Text.quoted value
  | .bytes => "bytes"
  | .sequence => "sequence"
  | .map => "map"
  | .other description => description

/-- The wording for configuration values. -/
def setting : Wording where
  found := describeSetting
  typeLead := "invalid type: found "
  valueLead := "invalid value "

end Wording

/-- Alternatives, each between backquotes. -/
def alternatives : List String → String
  | [] => "no variants"
  | [one] => Wording.ticked one
  | [one, other] => Wording.ticked one ++ " or " ++ Wording.ticked other
  | several => "one of " ++ Text.joined ", " (several.map Wording.ticked)

/-- The text of a fault in a wording. -/
def DecodeFault.message (wording : Wording) : DecodeFault → String
  | .wrongType found expected =>
    wording.typeLead ++ wording.found found ++ ", expected " ++ expected
  | .wrongValue found expected =>
    wording.valueLead ++ wording.found found ++ ", expected " ++ expected
  | .wrongLength length expected =>
    "invalid length " ++ Nat.repr length ++ ", expected " ++ expected
  | .missingField name => "missing field " ++ Wording.ticked name
  | .unknownVariant name expected =>
    "unknown variant " ++ Wording.ticked name ++ ", expected " ++ alternatives expected
  | .unknownField name expected =>
    "unknown field " ++ Wording.ticked name ++ ", expected " ++ alternatives expected
  | .other description => description
  | .within _ fault => fault.message wording

end SchemaBootstrap
