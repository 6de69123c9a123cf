import SchemaBootstrap.Decoding.Fields
import SchemaBootstrap.Json.Value

/-! # Decoding JSON values

Readers for the types that schemas and settings are made of. A record may be
written as an object, or as an array of its fields in the order in which they are
declared; such an array may be short of fields that have defaults, never too long.
-/

namespace SchemaBootstrap

namespace Json

/-- What a value is, in a fault. -/
def found : Json → Found
  | .null => .unit
  | .bool value => .bool value
  | .integer value => if value < 0 then .signed value else .unsigned value.toNat
  | .double value => .double value
  | .string value => .text value
  | .array _ => .sequence
  | .object _ => .map

/-- Refuses a value in favour of what was expected. -/
def refuse (expected : String) (value : Json) : Except DecodeFault α :=
  .error (.wrongType value.found expected)

/-- Reads a text. -/
def readText : Json → Except DecodeFault String
  | .string value => .ok value
  | value => refuse "a string" value

/-- Reads a truth value. -/
def readBool : Json → Except DecodeFault Bool
  | .bool value => .ok value
  | value => refuse "a boolean" value

/-- Reads a natural number below two to the power of sixty-four. -/
def readWord : Json → Except DecodeFault UInt64
  | .integer value =>
    if value < 0 then .error (.wrongValue (.signed value) "u64")
    else .ok value.toNat.toUInt64
  | value => refuse "u64" value

/-- Reads the name of a directory. -/
def readDirectory : Json → Except DecodeFault String
  | .string value => .ok value
  | value => refuse "path string" value

/-- Reads null as absence and any other value as a present one. -/
def readOption (read : Json → Except DecodeFault α) : Json → Except DecodeFault (Option α)
  | .null => .ok none
  | value => (read value).map some

/-- Reads a list, element by element. -/
def readList (read : Json → Except DecodeFault α) : Json → Except DecodeFault (List α)
  | .array elements => readEach read elements
  | value => refuse "a sequence" value

/-- Reads one of the values that have names. An object whose one member has such a
name and the value null stands for the name. -/
def readNamed (values : List (String × α)) : Json → Except DecodeFault α
  | .string name => choose name
  | .object [(name, content)] =>
    match choose name, content with
    | .error fault, _ => .error fault
    | .ok value, .null => .ok value
    | .ok _, content => refuse "unit" content
  | .object _ => .error (.wrongValue .map "map with a single key")
  | value => refuse "string or map" value
where
  choose (name : String) : Except DecodeFault α :=
    match values.lookup name with
    | some value => .ok value
    | none => .error (.unknownVariant name (values.map Prod.fst))

/-- Reads a record with a name and a count of declared fields. -/
def readRecord (name : String) (count : Nat) (fields : Fields Json α) :
    Json → Except DecodeFault α
  | .object members => fields.run (.pairs members)
  | .array elements =>
    match fields.run (.elements elements (expectation name count)) with
    | .error fault => .error fault
    | .ok value =>
      if count < elements.length then
        .error (.wrongLength elements.length "fewer elements in array")
      else .ok value
  | value => refuse ("struct " ++ name) value
where
  expectation (name : String) (count : Nat) : String :=
    "struct " ++ name ++ " with " ++ Nat.repr count ++ if count = 1 then " element" else " elements"

end Json

end SchemaBootstrap
