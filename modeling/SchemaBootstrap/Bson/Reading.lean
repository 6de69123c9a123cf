import SchemaBootstrap.Bson.Text
import SchemaBootstrap.Decoding.Fields

/-! # Reading the values of documents

Readers for texts, truth values and integers, and for records. A value of a type
that texts of documents lack is presented as a map with one member, which is named
after the type with a dollar sign (`Bson.extended?`).
-/

namespace SchemaBootstrap

namespace Bson

/-- What a value is, in a fault. A type of its own right counts as a map. -/
def found : Bson → Found
  | .null => .unit
  | .bool value => .bool value
  | .string value => .text value
  | .int32 value => .signed value.toInt
  | .int64 value => .signed value.toInt
  | .double value => .double value
  | .array _ => .sequence
  | .binary 0 _ => .bytes
  | _ => .map

/-- The map as which a value is presented, if it is presented as one. -/
def extended? : Bson → Option Document
  | .document fields => some fields
  | .objectId id => some [("$oid", .string id.text)]
  | .dateTime milliseconds =>
    some [("$date", .document
      [("$numberLong", .string (Wording.integer milliseconds.toInt))])]
  | .decimal value => some [("$numberDecimal", .string value.text)]
  | .binary 0 _ => none
  | .binary subtype bytes =>
    some [("$binary", .document
      [("base64", .string (String.ofList (Text.base64 bytes))),
        ("subType", .string (String.ofList (ObjectId.digits subtype.toNat 2)))])]
  | .regex pattern options =>
    some [("$regularExpression", .document
      [("pattern", .string pattern), ("options", .string options)])]
  | .timestamp time increment =>
    some [("$timestamp", .document
      [("t", .int64 (Int64.ofNat time.toNat)), ("i", .int64 (Int64.ofNat increment.toNat))])]
  | .symbol name => some [("$symbol", .string name)]
  | .javaScript code => some [("$code", .string code)]
  | .scopedJavaScript code scope => some [("$code", .string code), ("$scope", .document scope)]
  | .pointer collection id =>
    some [("$dbPointer", .document
      [("$ref", .string collection), ("$id", .document [("$oid", .string id.text)])])]
  | .minKey => some [("$minKey", .int32 1)]
  | .maxKey => some [("$maxKey", .int32 1)]
  | .undefined => some [("$undefined", .bool true)]
  | _ => none

/-- Refuses a value in favour of what was expected. -/
def refuse (expected : String) (value : Bson) : Except DecodeFault α :=
  .error (.wrongType value.found expected)

/-- Reads a text, which may be given by its bytes. -/
def readText : Bson → Except DecodeFault String
  | .string value => .ok value
  | .binary 0 bytes =>
    match String.fromUTF8? ⟨bytes.toArray⟩ with
    | some value => .ok value
    | none => .error (.wrongValue .bytes "a string")
  | value => refuse "a string" value

/-- Reads a truth value. -/
def readBool : Bson → Except DecodeFault Bool
  | .bool value => .ok value
  | value => refuse "a boolean" value

/-- Reads an integer of either width. -/
def readInteger : Bson → Except DecodeFault Int64
  | .int32 value => .ok value.toInt64
  | .int64 value => .ok value
  | value => refuse "i64" value

/-- Reads a natural number below a bound, which belongs to the type with a name. -/
def readBounded (type : String) (bound : Nat) (value : Bson) : Except DecodeFault Nat :=
  let within (number : Int) : Except DecodeFault Nat :=
    if 0 ≤ number ∧ number < bound then .ok number.toNat
    else .error (.wrongValue (.signed number) type)
  match value with
  | .int32 number => within number.toInt
  | .int64 number => within number.toInt
  | value => refuse type value

/-- The number of some bytes, the first counting most. -/
def bytesValue (bytes : List UInt8) : Nat :=
  bytes.foldl (fun value byte => value * 256 + byte.toNat) 0

/-- Reads null as absence and any other value as a present one. -/
def readOption (read : Bson → Except DecodeFault α) : Bson → Except DecodeFault (Option α)
  | .null => .ok none
  | value => (read value).map some

/-- Reads the elements of an array. -/
def readList (read : Bson → Except DecodeFault α) : Bson → Except DecodeFault (List α)
  | .array elements => readEach read elements
  | value => refuse "a sequence" value

/-- What a record with a name and a count of fields is, in a fault. -/
def recordWording (name : String) (count : Nat) : String :=
  "struct " ++ name ++ " with " ++ Nat.repr count
    ++ if count = 1 then " element" else " elements"

/-- Reads a record with a name and a count of declared fields from a map or from an
array of its fields. -/
def readRecord (name : String) (count : Nat) (fields : Fields Bson α) (value : Bson) :
    Except DecodeFault α :=
  match value, value.extended? with
  | _, some entries => fields.run (.pairs entries)
  | .array elements, none => fields.run (.elements elements (recordWording name count))
  | value, none => refuse ("struct " ++ name) value

/-- Reads a record that has no other fields than those with some names. -/
def readClosedRecord (name : String) (names : List String) (fields : Fields Bson α)
    (value : Bson) : Except DecodeFault α :=
  match value, value.extended? with
  | _, some entries => fields.runClosed names entries
  | .array elements, none => fields.run (.elements elements (recordWording name names.length))
  | value, none => refuse ("struct " ++ name) value

end Bson

end SchemaBootstrap
