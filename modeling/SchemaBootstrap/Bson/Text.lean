import SchemaBootstrap.Bson.Moment
import SchemaBootstrap.Bson.Value
import SchemaBootstrap.Decimal.Spelling
import SchemaBootstrap.Decoding.Fault
import SchemaBootstrap.Text.Base64

/-! # Documents in messages

The text of a document in a message: fields between braces, names and texts
between quotes without escapes, doubles in positional notation.
-/

namespace SchemaBootstrap

namespace Bson

mutual

/-- The text of a value. -/
def text : Bson → String
  | .null => "null"
  | .bool value => if value then "true" else "false"
  | .string value => "\"" ++ value ++ "\""
  | .int32 value => Wording.integer value.toInt
  | .int64 value => Wording.integer value.toInt
  | .double value => Spelling.plain.text value
  | .document [] => "\x7b\x7d"
  | .document (field :: rest) => "\x7b " ++ fieldsText (field :: rest) ++ " \x7d"
  | .array elements => "[" ++ elementsText elements ++ "]"
  | .objectId id => "ObjectId(\"" ++ id.text ++ "\")"
  | .dateTime milliseconds =>
    "DateTime(\"" ++ (Moment.text? milliseconds.toInt).getD (Wording.integer milliseconds.toInt)
      ++ "\")"
  | .decimal value => value.text
  | .binary subtype bytes =>
    "Binary(0x" ++ String.ofList (Nat.toDigits 16 subtype.toNat) ++ ", "
      ++ String.ofList (Text.base64 bytes) ++ ")"
  | .regex pattern options => "/" ++ pattern ++ "/" ++ options
  | .timestamp time increment =>
    "Timestamp(" ++ Nat.repr time.toNat ++ ", " ++ Nat.repr increment.toNat ++ ")"
  | .symbol name => "Symbol(\"" ++ name ++ "\")"
  | .javaScript code => code
  | .scopedJavaScript code _ => code
  | .pointer collection id => "DbPointer(" ++ collection ++ ", " ++ id.text ++ ")"
  | .minKey => "MinKey"
  | .maxKey => "MaxKey"
  | .undefined => "undefined"

/-- The fields of a document, separated by commas. -/
def fieldsText : List (String × Bson) → String
  | [] => ""
  | [(name, value)] => "\"" ++ name ++ "\": " ++ text value
  | (name, value) :: next :: rest =>
    "\"" ++ name ++ "\": " ++ text value ++ ", " ++ fieldsText (next :: rest)

/-- The elements of an array, separated by commas. -/
def elementsText : List Bson → String
  | [] => ""
  | [element] => text element
  | element :: next :: rest => text element ++ ", " ++ elementsText (next :: rest)

end

end Bson

/-- The text of a document. -/
def Document.text (document : Document) : String :=
  Bson.text (.document document)

end SchemaBootstrap
