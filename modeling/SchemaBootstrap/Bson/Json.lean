import SchemaBootstrap.Bson.Text
import SchemaBootstrap.Json.Value

/-! # Documents as JSON

Numbers, texts, arrays and documents become their JSON counterparts, and plain
bytes an array of numbers; the types that JSON lacks become objects whose one
member is named after the type with a dollar sign.
-/

namespace SchemaBootstrap

namespace Bson

/-- An object with one member. -/
def tagged (name : String) (value : Json) : Json :=
  .object [(name, value)]

mutual

/-- The JSON form of a value. -/
def toJson : Bson → Json
  | .null => .null
  | .bool value => .bool value
  | .string value => .string value
  | .int32 value => .integer value.toInt
  | .int64 value => .integer value.toInt
  | .double value => .double value
  | .document fields => .object (fieldsToJson fields)
  | .array elements => .array (elementsToJson elements)
  | .objectId id => tagged "$oid" (.string id.text)
  | .dateTime milliseconds =>
    tagged "$date" (tagged "$numberLong" (.string (Wording.integer milliseconds.toInt)))
  | .decimal value => tagged "$numberDecimal" (.string value.text)
  | .binary 0 bytes => .array (bytes.map fun byte => .integer (byte.toNat : Int))
  | .binary subtype bytes =>
    tagged "$binary" (.object
      [("base64", .string (String.ofList (Text.base64 bytes))),
        ("subType", .string (String.ofList (ObjectId.digits subtype.toNat 2)))])
  | .regex pattern options =>
    tagged "$regularExpression"
      (.object [("pattern", .string pattern), ("options", .string options)])
  | .timestamp time increment =>
    tagged "$timestamp"
      (.object [("t", .integer (time.toNat : Int)), ("i", .integer (increment.toNat : Int))])
  | .symbol name => tagged "$symbol" (.string name)
  | .javaScript code => tagged "$code" (.string code)
  | .scopedJavaScript code scope =>
    .object [("$code", .string code), ("$scope", .object (fieldsToJson scope))]
  | .pointer collection id =>
    tagged "$dbPointer"
      (.object [("$ref", .string collection), ("$id", tagged "$oid" (.string id.text))])
  | .minKey => tagged "$minKey" (.integer 1)
  | .maxKey => tagged "$maxKey" (.integer 1)
  | .undefined => tagged "$undefined" (.bool true)

/-- The JSON forms of the fields of a document. -/
def fieldsToJson : List (String × Bson) → List (String × Json)
  | [] => []
  | (name, value) :: rest => (name, toJson value) :: fieldsToJson rest

/-- The JSON forms of the elements of an array. -/
def elementsToJson : List Bson → List Json
  | [] => []
  | element :: rest => toJson element :: elementsToJson rest

end

end Bson

/-- The JSON form of a document. -/
def Document.toJson (document : Document) : Json :=
  Bson.toJson (.document document)

end SchemaBootstrap
