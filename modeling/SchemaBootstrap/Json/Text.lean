import SchemaBootstrap.Decimal.Spelling
import SchemaBootstrap.Json.Value
import SchemaBootstrap.Text.Pieces

/-! # JSON texts

Values are written on one line without blanks (`Json.compact`) or with one member
or element on a line and two blanks for every level (`Json.pretty`). Only quotes,
backslashes and controls are escaped; a double that is no number is null.
-/

namespace SchemaBootstrap

namespace Json

/-- A digit of base sixteen. -/
def hexDigit (n : Nat) : Char :=
  Nat.digitChar (n % 16)

/-- A character inside a JSON string. -/
def escapedChar (c : Char) : List Char :=
  if c = '"' then ['\\', '"']
  else if c = '\\' then ['\\', '\\']
  else if c = '\n' then ['\\', 'n']
  else if c = '\r' then ['\\', 'r']
  else if c = '\t' then ['\\', 't']
  else if c.toNat = 8 then ['\\', 'b']
  else if c.toNat = 12 then ['\\', 'f']
  else if c.toNat < 32 then
    ['\\', 'u', '0', '0', hexDigit (c.toNat / 16), hexDigit c.toNat]
  else [c]

/-- A JSON string. -/
def stringText (value : String) : List Char :=
  '"' :: (value.toList.flatMap escapedChar ++ ['"'])

/-- A JSON number, or null for a double that is no number. -/
def doubleText (value : Double) : List Char :=
  if value.isNaN || value.isInfinite then "null".toList
  else (Spelling.json.text value).toList

/-- The decimal text of an integer. -/
def integerText : Int → List Char
  | .ofNat n => Nat.toDigits 10 n
  | .negSucc n => '-' :: Nat.toDigits 10 (n + 1)

mutual

/-- The characters of a value on one line. -/
def compactChars : Json → List Char
  | .null => "null".toList
  | .bool value => (if value then "true" else "false").toList
  | .integer value => integerText value
  | .double value => doubleText value
  | .string value => stringText value
  | .array elements => '[' :: (compactElements elements ++ [']'])
  | .object members => '\x7b' :: (compactMembers members ++ ['\x7d'])

/-- The elements of an array, separated by commas. -/
def compactElements : List Json → List Char
  | [] => []
  | [element] => compactChars element
  | element :: next :: rest => compactChars element ++ ',' :: compactElements (next :: rest)

/-- The members of an object, separated by commas. -/
def compactMembers : List (String × Json) → List Char
  | [] => []
  | [(name, value)] => stringText name ++ ':' :: compactChars value
  | (name, value) :: next :: rest =>
    stringText name ++ ':' :: (compactChars value ++ ',' :: compactMembers (next :: rest))

end

/-- The text of a value on one line. -/
def compact (value : Json) : String :=
  String.ofList (compactChars value)

/-- A line feed and the blanks at the start of a line on some level. -/
def indent (level : Nat) : List Char :=
  '\n' :: List.replicate (2 * level) ' '

mutual

/-- The characters of a value whose first line stands on a level. -/
def prettyChars (level : Nat) : Json → List Char
  | .null => "null".toList
  | .bool value => (if value then "true" else "false").toList
  | .integer value => integerText value
  | .double value => doubleText value
  | .string value => stringText value
  | .array [] => ['[', ']']
  | .array (element :: rest) =>
    '[' :: (prettyElements (level + 1) (element :: rest) ++ indent level ++ [']'])
  | .object [] => ['\x7b', '\x7d']
  | .object (member :: rest) =>
    '\x7b' :: (prettyMembers (level + 1) (member :: rest) ++ indent level ++ ['\x7d'])

/-- The elements of an array, each on a line of its own. -/
def prettyElements (level : Nat) : List Json → List Char
  | [] => []
  | [element] => indent level ++ prettyChars level element
  | element :: next :: rest =>
    indent level ++ prettyChars level element ++ ',' :: prettyElements level (next :: rest)

/-- The members of an object, each on a line of its own. -/
def prettyMembers (level : Nat) : List (String × Json) → List Char
  | [] => []
  | [(name, value)] => indent level ++ stringText name ++ ':' :: ' ' :: prettyChars level value
  | (name, value) :: next :: rest =>
    indent level ++ stringText name ++ ':' :: ' ' ::
      (prettyChars level value ++ ',' :: prettyMembers level (next :: rest))

end

/-- The text of a value over several lines. -/
def pretty (value : Json) : String :=
  String.ofList (prettyChars 0 value)

end Json

end SchemaBootstrap
