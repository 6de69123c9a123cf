import SchemaBootstrap.Bson.Scalar
import SchemaBootstrap.Config.Layer
import SchemaBootstrap.Decimal.Power
import SchemaBootstrap.Decimal.Reading
import SchemaBootstrap.Text.Case
import SchemaBootstrap.Text.Pieces

/-! # Layers from environment variables

A variable whose name starts with `TESTBENCH_`, in any case, sets the value that the
rest of its name leads to; two underscores or a point go one level down
(`Variable.path?`). Its value is written in a small notation of its own: truth values,
numbers, lists between brackets, groups between braces, texts between quotes and
single characters between apostrophes (`VariableValue.ofText`). A value that is not
written so is a text.
-/

namespace SchemaBootstrap

namespace VariableValue

/-- Whether a character is a blank around values. -/
def isSpace (c : Char) : Bool :=
  c = ' ' || c = '\t' || c = '\n' || c = '\x0c' || c = '\r'

/-- A text without the blanks at its start. -/
def skipSpace (text : List Char) : List Char :=
  text.dropWhile isSpace

/-- Whether a character ends a value without quotes. -/
def isDelimiter (c : Char) : Bool :=
  [',', '\x7b', '\x7d', '[', ']'].contains c

/-- Whether a character may occur in the name of a member. -/
def isNameChar (c : Char) : Bool :=
  c.isAlphanum || c = '_' || c = '-'

/-- The text behind a character at the start of a text. -/
def after? (c : Char) : List Char → Option (List Char)
  | [] => none
  | first :: rest => if first = c then some rest else none

/-- The text behind a word at the start of a text. -/
def afterWord? (word text : List Char) : Option (List Char) :=
  if word.isPrefixOf text then some (text.drop word.length) else none

/-- The integer that a text spells, behind a sign if there is one. -/
def integer? (text : List Char) : Option LayerValue :=
  let number? (digits : List Char) : Option Nat :=
    if !digits.isEmpty && digits.all Char.isDigit then some (Double.digitsValue digits) else none
  match text with
  | '-' :: digits =>
    (number? digits).bind fun value =>
      if value ≤ twoTo 63 then some (.signed (-value)) else none
  | '+' :: digits => unsigned? (number? digits)
  | digits => unsigned? (number? digits)
where
  unsigned? (value : Option Nat) : Option LayerValue :=
    value.bind fun value => if value < twoTo 64 then some (.unsigned value) else none

/-- The value of a text without quotes: a double if it has a point and spells one, an
integer if it spells one, and a text otherwise. -/
def ofWord (text : List Char) : LayerValue :=
  let word := Text.trim text
  let other := (integer? word).getD (.text (String.ofList word))
  if word.contains '.' then
    match Double.read? word with
    | some value => .double value
    | none => other
  else other

/-- The characters between double quotes, with their escapes, and the text behind them. -/
def takeQuoted? : List Char → Option (List Char × List Char)
  | [] => none
  | '"' :: rest => some ([], rest)
  | '\\' :: c :: rest => (takeQuoted? rest).map fun (inner, rest) => ('\\' :: c :: inner, rest)
  | c :: rest => (takeQuoted? rest).map fun (inner, rest) => (c :: inner, rest)

/-- The character that digits of base sixteen stand for. -/
def numbered? (digits : List Char) : Option Char :=
  if digits.all fun c => (ObjectId.digitValue? c).isSome then
    (ObjectId.digitsValue? 0 digits).bind fun code =>
      if 0x10FFFF < code ∨ (0xD800 ≤ code ∧ code < 0xE000) then none else some (Char.ofNat code)
  else none

/-- The characters that stand between quotes, once their escapes are resolved. Controls
other than tabs are refused. -/
def unescape? : List Char → Option (List Char)
  | [] => some []
  | '\\' :: '"' :: rest => (unescape? rest).map ('"' :: ·)
  | '\\' :: '\\' :: rest => (unescape? rest).map ('\\' :: ·)
  | '\\' :: 'b' :: rest => (unescape? rest).map ('\x08' :: ·)
  | '\\' :: 'f' :: rest => (unescape? rest).map ('\x0c' :: ·)
  | '\\' :: 'n' :: rest => (unescape? rest).map ('\n' :: ·)
  | '\\' :: 'r' :: rest => (unescape? rest).map ('\r' :: ·)
  | '\\' :: 't' :: rest => (unescape? rest).map ('\t' :: ·)
  | '\\' :: 'u' :: a :: b :: c :: d :: rest => do
    let char ← numbered? [a, b, c, d]
    let rest ← unescape? rest
    pure (char :: rest)
  | '\\' :: 'U' :: a :: b :: c :: d :: e :: f :: g :: h :: rest => do
    let char ← numbered? [a, b, c, d, e, f, g, h]
    let rest ← unescape? rest
    pure (char :: rest)
  | c :: rest =>
    if c = '\\' ∨ (c.toNat < 0x20 ∧ c ≠ '\t') ∨ c.toNat = 0x7F then none
    else (unescape? rest).map (c :: ·)

/-- The characters that are encoded in a number of bytes at the start of a text; `none` if
these end within a character. -/
def leadingBytes? : (count : Nat) → List Char → Option (List Char)
  | _, [] => some []
  | 0, _ => some []
  | count, c :: rest =>
    if c.utf8Size ≤ count then (leadingBytes? (count - c.utf8Size) rest).map (c :: ·) else none

/-- The text that characters between quotes stand for. Of those before the first escape
only as many bytes count as there are characters. -/
def unquoted? (inner : List Char) : Option (List Char) := do
  let chars ← unescape? inner
  let plain := inner.takeWhile (· ≠ '\\')
  if plain.length = inner.length then pure chars
  else
    let lead ← leadingBytes? plain.length plain
    pure (lead ++ chars.drop plain.length)

/-- A text between double quotes at the start of a text, and what is behind it. -/
def readQuoted? (text : List Char) : Option (String × List Char) := do
  let rest ← after? '"' text
  let (inner, rest) ← takeQuoted? rest
  let chars ← unquoted? inner
  pure (String.ofList chars, rest)

/-- The name of a member at the start of a text, and what is behind it. -/
def readName? (text : List Char) : Option (String × List Char) :=
  match text with
  | '"' :: _ => readQuoted? text
  | _ =>
    let name := text.takeWhile isNameChar
    if name.isEmpty then none else some (String.ofList name, text.dropWhile isNameChar)

mutual

/-- A value at the start of a text, with the blanks around it, and what is behind it. -/
def read? : (fuel : Nat) → List Char → Option (LayerValue × List Char)
  | 0, _ => none
  | fuel + 1, text => do
    let text := skipSpace text
    let (value, rest) ←
      match afterWord? "true".toList text, afterWord? "false".toList text with
      | some rest, _ => some (.bool true, rest)
      | none, some rest => some (.bool false, rest)
      | none, none =>
        match text with
        | '\x7b' :: rest => (readMembers? fuel [] rest).map fun (members, rest) =>
          (.group members, rest)
        | '[' :: rest => (readElements? fuel rest).map fun (elements, rest) =>
          (.list elements, rest)
        | '"' :: _ => (readQuoted? text).map fun (value, rest) => (.text value, rest)
        | '\'' :: c :: '\'' :: rest => some (.text (String.ofList [c]), rest)
        | '\'' :: _ => none
        | text => some (ofWord (text.takeWhile (!isDelimiter ·)), text.dropWhile (!isDelimiter ·))
    pure (value, skipSpace rest)

/-- The elements of a list up to its end. -/
def readElements? : (fuel : Nat) → List Char → Option (List LayerValue × List Char)
  | 0, _ => none
  | fuel + 1, text =>
    match text with
    | ']' :: rest => some ([], rest)
    | text => do
      let (element, rest) ← read? fuel text
      match rest with
      | ',' :: rest => do
        let (elements, rest) ← readElements? fuel rest
        pure (element :: elements, rest)
      | ']' :: rest => pure ([element], rest)
      | _ => none

/-- The members of a group up to its end, added to those before them. -/
def readMembers? : (fuel : Nat) → Layer → List Char → Option (Layer × List Char)
  | 0, _, _ => none
  | fuel + 1, members, text =>
    match text with
    | '\x7d' :: rest => some (members, rest)
    | text => do
      let (name, rest) ← readName? (skipSpace text)
      let rest ← after? '=' (skipSpace rest)
      let (value, rest) ← read? fuel rest
      let members := Catalog.put name value members
      match rest with
      | ',' :: rest => readMembers? fuel members rest
      | '\x7d' :: rest => pure (members, rest)
      | _ => none

end

/-- The value of a variable. -/
def ofText (text : String) : LayerValue :=
  match read? (2 * text.length + 2) text.toList with
  | some (value, []) => value
  | _ => .text text

end VariableValue

/-- An environment variable. -/
structure Variable where
  name : String
  value : String

namespace Variable

/-- What the names of variables for settings start with, in lower case. -/
def lead : List Char :=
  "testbench_".toList

/-- A name with each pair of underscores replaced by a point. -/
def pointed : List Char → List Char
  | [] => []
  | '_' :: '_' :: rest => '.' :: pointed rest
  | c :: rest => c :: pointed rest

/-- The path to the value that a variable sets. Blanks around the name, or around the
part of it behind what it starts with, do not count. -/
def path? (source : Variable) : Option (List String) :=
  let name := Text.lowerAscii (Text.trim source.name.toList)
  (VariableValue.afterWord? lead name).bind fun rest =>
    let segments := Text.pieces '.' (Text.trim (pointed rest))
    if segments.any List.isEmpty then none else some (segments.map String.ofList)

/-- A value at the end of a path of groups. -/
def nested (value : LayerValue) : List String → LayerValue
  | [] => value
  | name :: rest => .group [(name, nested value rest)]

/-- The layer that a variable alone makes up. -/
def layer (source : Variable) : Layer :=
  match source.path? with
  | some (name :: rest) => [(name, nested (VariableValue.ofText source.value) rest)]
  | _ => []

/-- The value of the variable with a name, which is the last one given to it. -/
def value? (name : String) (environment : List Variable) : Option String :=
  (environment.reverse.find? fun source => source.name = name).map Variable.value

end Variable

/-- The layer of several variables, a later one being higher. -/
def Layer.ofVariables (environment : List Variable) : Layer :=
  merged (environment.map Variable.layer)

end SchemaBootstrap
