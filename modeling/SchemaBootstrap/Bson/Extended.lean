import SchemaBootstrap.Bson.Reading
import SchemaBootstrap.Bson.Uuid
import SchemaBootstrap.Decimal.Reading

/-! # Extended notation

An embedded document with a field whose name is a type with a dollar sign stands for
a value of that type. Where any value may stand, documents are resolved to the values
they stand for, at every depth (`Bson.resolve`). The fields are read in order: the
first one that names a type decides, and those behind it do not count, except for the
scope of a piece of code.
-/

namespace SchemaBootstrap

namespace Bson

/-! ## Values behind a type -/

/-- The integer between two bounds that a text spells, with a sign or without. -/
def integer? (least greatest : Int) (text : String) : Option Int :=
  let (minus, digits) := Double.readSign text.toList
  let magnitude : Int := Double.digitsValue digits
  let value := if minus then -magnitude else magnitude
  if !digits.isEmpty && digits.all Char.isDigit && least ≤ value && value ≤ greatest then
    some value
  else none

/-- The integer of 32 bits that a text spells. -/
def int32? (text : String) : Option Int32 :=
  (integer? Int32.minValue.toInt Int32.maxValue.toInt text).map Int32.ofInt

/-- The integer of 64 bits that a text spells. -/
def int64? (text : String) : Option Int64 :=
  (integer? Int64.minValue.toInt Int64.maxValue.toInt text).map Int64.ofInt

/-- The double that a text spells. -/
def double? (text : String) : Option Double :=
  Double.readNamed? text.toList

/-- What a text stands for, or the fault that it does not spell what was expected. -/
def spelled (expected : String) (parse : String → Option α) (text : String) :
    Except DecodeFault α :=
  match parse text with
  | some value => .ok value
  | none => .error (.wrongValue (.text text) expected)

/-- Reads a text that spells a value. -/
def readSpelled (expected : String) (parse : String → Option α) (value : Bson) :
    Except DecodeFault α :=
  (readText value).bind (spelled expected parse)

/-- The options of a regular expression, in order. -/
def sortedOptions (options : String) : String :=
  String.ofList (options.toList.mergeSort fun a b => a.toNat ≤ b.toNat)

/-- The fault of bytes that do not have a certain length. -/
def unfitBytes : DecodeFault :=
  .other "could not convert slice to array"

/-- Reads an object identifier from its digits or its bytes. -/
def readIdDigits : Bson → Except DecodeFault ObjectId
  | .string text => spelled "24-character, big-endian hex string" ObjectId.ofText? text
  | .binary 0 bytes =>
    if bytes.length = 12 then .ok ⟨BitVec.ofNat 96 (bytesValue bytes)⟩ else .error unfitBytes
  | value => refuse "hexstring or byte array" value

/-- The binary value of its bytes in base 64 and its subtype in two digits. -/
def binaryOf (base64 subtype : String) : Except DecodeFault Bson := do
  let bytes ← spelled "base64 encoded bytes" (fun text => Text.bytesOfBase64? text.toList) base64
  let subtypes ←
    spelled "hexadecimal number as a string" (fun text => Uuid.pairsOfDigits? text.toList) subtype
  match subtypes with
  | [subtype] => pure (.binary subtype bytes)
  | _ => .error (.wrongValue .bytes "one byte subtype")

/-- Reads the content of a binary value. -/
def readBinary (value : Bson) : Except DecodeFault Bson := do
  let (base64, subtype) ← readClosedRecord "BinaryBody" ["base64", "subType"]
    (Prod.mk <$> Fields.required "base64" readText <*> Fields.required "subType" readText) value
  binaryOf base64 subtype

/-- Reads an identifier of sixteen bytes. -/
def readUuid (value : Bson) : Except DecodeFault Bson := do
  let bytes ← readSpelled
    "$uuid value does not follow RFC 4122 format regarding length and hyphens" Uuid.bytes? value
  pure (.binary 4 bytes)

/-- Reads the content of a timestamp. -/
def readTimestamp (value : Bson) : Except DecodeFault Bson := do
  let word := readBounded "u32" 4294967296
  let (time, increment) ← readClosedRecord "TimestampBody" ["t", "i"]
    (Prod.mk <$> Fields.required "t" word <*> Fields.required "i" word) value
  pure (.timestamp time.toUInt32 increment.toUInt32)

/-- Reads the content of a regular expression. -/
def readRegex (value : Bson) : Except DecodeFault Bson := do
  let (pattern, options) ← readClosedRecord "RegexBody" ["pattern", "options"]
    (Prod.mk <$> Fields.required "pattern" readText <*> Fields.required "options" readText) value
  pure (.regex pattern (sortedOptions options))

/-- The fault of an object identifier whose digits are of a wrong number. -/
def idLengthFault (text : String) : DecodeFault :=
  .other ("provided hex string representation must be exactly 12 bytes, instead got: \""
    ++ text ++ "\", length " ++ Nat.repr text.utf8ByteSize)

/-- The fault of an object identifier that is not well written. Without a pair for every
digit only the length is at fault; else the first byte that is no digit. -/
def idFault (text : String) : DecodeFault :=
  let chars := text.toUTF8.toList.map fun byte => Char.ofNat byte.toNat
  if chars.length % 2 ≠ 0 then idLengthFault text
  else
    match chars.findIdx? fun c => (ObjectId.digitValue? c).isNone with
    | none => idLengthFault text
    | some place =>
      .other ("invalid character '" ++ String.ofList ((chars.drop place).take 1)
        ++ "' was found at index " ++ Nat.repr place ++ " in the provided hex string: \""
        ++ text ++ "\"")

/-- Reads the content of a pointer to a document of a collection. -/
def readPointer (value : Bson) : Except DecodeFault Bson := do
  let digits := readClosedRecord "ObjectId" ["$oid"] (Fields.required "$oid" readText)
  let (collection, id) ← readClosedRecord "DbPointerBody" ["$ref", "$id"]
    (Prod.mk <$> Fields.required "$ref" readText <*> Fields.required "$id" digits) value
  match ObjectId.ofText? id with
  | some id => pure (.pointer collection id)
  | none => .error (idFault id)

/-- The text of the milliseconds in the content of a point in time. -/
def milliseconds? : Bson → Option String
  | .document [("$numberLong", value)] => (readText value).toOption
  | .array [value] => (readText value).toOption
  | _ => none

/-- Reads the content of a point in time: milliseconds, or a date with a time of day. -/
def readMoment (value : Bson) : Except DecodeFault Bson :=
  match milliseconds? value, readText value with
  | some text, _ => (spelled "i64 as a string" int64? text).map .dateTime
  | none, .ok text =>
    (spelled "rfc3339 formatted utc datetime" Moment.ofText? text).map fun milliseconds =>
      .dateTime (Int64.ofInt milliseconds)
  | none, .error _ =>
    .error (.other "data did not match any variant of untagged enum DateTimeBody")

/-- Reads the content of the least or the greatest key, which is the number one. -/
def readKey (name : String) (key value : Bson) : Except DecodeFault Bson :=
  (readBounded "u8" 256 value).bind fun number =>
    if number = 1 then .ok key
    else
      .error (.wrongValue (.unsigned number) ("value of " ++ name ++ " should always be 1"))

/-- Reads the content of an undefined value, which is true. -/
def readUndefined (value : Bson) : Except DecodeFault Bson :=
  (readBool value).bind fun isTrue =>
    if isTrue then .ok .undefined
    else .error (.wrongValue (.bool false) "$undefined should always be true")

/-- Reads bytes, which may be given by a text or by their numbers. -/
def readBytes : Bson → Except DecodeFault (List UInt8)
  | .binary 0 bytes => .ok bytes
  | .string text => .ok text.toUTF8.toList
  | .array elements =>
    (readEach (readBounded "u8" 256) elements).map fun numbers => numbers.map Nat.toUInt8
  | value => refuse "byte array" value

/-- Reads the bytes of a decimal, the last counting most. -/
def readDecimalBytes (value : Bson) : Except DecodeFault Bson :=
  (readBytes value).bind fun bytes =>
    if bytes.length = 16 then
      .ok (.decimal (.ofBits (BitVec.ofNat 128 (bytesValue bytes.reverse))))
    else .error unfitBytes

/-- The value of a type that the name of a field names, read from what stands in the field;
nothing for a name that names no type. Code is not among these types. -/
def typed? (name : String) (value : Bson) : Option (Except DecodeFault Bson) :=
  match name with
  | "$oid" => some ((readIdDigits value).map .objectId)
  | "$symbol" => some ((readText value).map .symbol)
  | "$numberInt" =>
    some ((readSpelled "32-bit signed integer as a string" int32? value).map .int32)
  | "$numberLong" =>
    some ((readSpelled "64-bit signed integer as a string" int64? value).map .int64)
  | "$numberDouble" =>
    some ((readSpelled "64-bit signed integer as a string" double? value).map .double)
  | "$numberDecimal" =>
    some ((readSpelled "decimal128 as a string" Decimal128.ofText? value).map .decimal)
  | "$numberDecimalBytes" => some (readDecimalBytes value)
  | "$binary" => some (readBinary value)
  | "$uuid" => some (readUuid value)
  | "$timestamp" => some (readTimestamp value)
  | "$regularExpression" => some (readRegex value)
  | "$dbPointer" => some (readPointer value)
  | "$date" => some (readMoment value)
  | "$minKey" => some (readKey "$minKey" .minKey value)
  | "$maxKey" => some (readKey "$maxKey" .maxKey value)
  | "$undefined" => some (readUndefined value)
  | _ => none

/-! ## Documents -/

/-- The document that a resolved value is. -/
def asDocument : Bson → Except DecodeFault Document
  | .document fields => .ok fields
  | value =>
    .error (.wrongType .map
      ("expected document, found extended JSON data type: " ++ value.text))

mutual

/-- The value that a value stands for. -/
def resolve : Bson → Except DecodeFault Bson
  | .document fields => resolveFields [] fields
  | .array elements => (resolveElements elements).map .array
  | .scopedJavaScript code scope =>
    ((resolveFields [] scope).bind asDocument).map (.scopedJavaScript code)
  | .regex pattern options => .ok (.regex pattern (sortedOptions options))
  | value => .ok value

/-- The value that the fields of a document stand for, after some that have been resolved. -/
def resolveFields (taken : Document) : List (String × Bson) → Except DecodeFault Bson
  | [] => .ok (.document taken)
  | [("$code", value)] => (readText value).map .javaScript
  | ("$code", value) :: (name, scope) :: _ => do
    let code ← readText value
    if name = "$scope" then
      ((resolve scope).bind asDocument).map (.scopedJavaScript code)
    else .error (.unknownField name ["$scope"])
  | [("$scope", scope)] => do
    let _ ← (resolve scope).bind asDocument
    .error (.missingField "$code")
  | ("$scope", scope) :: (name, value) :: _ => do
    let scope ← (resolve scope).bind asDocument
    if name = "$code" then (readText value).map (.scopedJavaScript · scope)
    else .error (.unknownField name ["$code"])
  | (name, value) :: rest =>
    match typed? name value with
    | some result => result
    | none => (resolve value).bind fun value => resolveFields (Document.put taken name value) rest

/-- The values that the elements of an array stand for. -/
def resolveElements : List Bson → Except DecodeFault (List Bson)
  | [] => .ok []
  | element :: rest => do
    let first ← resolve element
    let others ← resolveElements rest
    pure (first :: others)

end

/-- Reads an embedded document. -/
def readDocument (value : Bson) : Except DecodeFault Document :=
  (resolve value).bind asDocument

/-- Reads an object identifier, which may be given by its digits or its bytes, or in
extended notation. -/
def readObjectId (value : Bson) : Except DecodeFault ObjectId :=
  match value with
  | .objectId id => .ok id
  | .string text => spelled "24-character, big-endian hex string" ObjectId.ofText? text
  | .binary 0 bytes =>
    if bytes.length = 12 then .ok ⟨BitVec.ofNat 96 (bytesValue bytes)⟩
    else .error (.wrongLength bytes.length "12 bytes")
  | value =>
    if value.found = .map then
      (resolve value).bind fun value =>
        match value with
        | .objectId id => .ok id
        | value =>
          .error (.other
            ("expected map containing extended-JSON formatted ObjectId, instead found "
              ++ value.text))
    else refuse "expecting an ObjectId" value

end Bson

end SchemaBootstrap
