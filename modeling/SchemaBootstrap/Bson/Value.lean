import SchemaBootstrap.Bson.Scalar
import SchemaBootstrap.Decimal.Double

/-! # Documents and their values

A document is a list of fields in order, each name occurring once: putting a field
under a name that is there already replaces the value in place. Two values are the
same for a unique index (`Bson.same`) when they have the same type and content:
the types of numbers never mix, a NaN differs from itself, and documents are
compared without regard to the order of their fields.
-/

namespace SchemaBootstrap

/-- A value of a document. -/
inductive Bson where
  | null
  | bool (value : Bool)
  | string (value : String)
  | int32 (value : Int32)
  | int64 (value : Int64)
  | double (value : Double)
  | document (fields : List (String × Bson))
  | array (elements : List Bson)
  | objectId (id : ObjectId)
  | dateTime (milliseconds : Int64)
  | decimal (value : Decimal128)
  | binary (subtype : UInt8) (bytes : List UInt8)
  | regex (pattern options : String)
  | timestamp (time increment : UInt32)
  | symbol (name : String)
  | javaScript (code : String)
  | scopedJavaScript (code : String) (scope : List (String × Bson))
  | pointer (collection : String) (id : ObjectId)
  | minKey
  | maxKey
  | undefined
  deriving Inhabited, Repr

/-- A document: its fields in order. -/
abbrev Document := List (String × Bson)

namespace Document

/-- The value of a field. -/
def get? (document : Document) (name : String) : Option Bson :=
  List.lookup name document

/-- Puts a field at the end, or in the place of the one with its name. -/
def put : Document → String → Bson → Document
  | [], name, value => [(name, value)]
  | (other, old) :: rest, name, value =>
    if other = name then (name, value) :: rest else (other, old) :: put rest name value

/-- The document that arises by putting fields one after the other. -/
def ofFields (fields : List (String × Bson)) : Document :=
  fields.foldl (fun document field => put document field.1 field.2) []

/-- The names of the fields, in order. -/
def names (document : Document) : List String :=
  document.map Prod.fst

end Document

namespace Bson

mutual

/-- Whether two values are the same value. -/
def same : Bson → Bson → Bool
  | .null, .null => true
  | .bool a, .bool b => a == b
  | .string a, .string b => a == b
  | .int32 a, .int32 b => a == b
  | .int64 a, .int64 b => a == b
  | .double a, .double b => a.equal b
  | .document a, .document b => a.length == b.length && sameFields a b
  | .array a, .array b => sameElements a b
  | .objectId a, .objectId b => a == b
  | .dateTime a, .dateTime b => a == b
  | .decimal a, .decimal b => a == b
  | .binary subtype bytes, .binary subtype' bytes' => subtype == subtype' && bytes == bytes'
  | .regex pattern options, .regex pattern' options' => pattern == pattern' && options == options'
  | .timestamp time increment, .timestamp time' increment' =>
    time == time' && increment == increment'
  | .symbol a, .symbol b => a == b
  | .javaScript a, .javaScript b => a == b
  | .scopedJavaScript code scope, .scopedJavaScript code' scope' =>
    code == code' && scope.length == scope'.length && sameFields scope scope'
  | .pointer collection id, .pointer collection' id' => collection == collection' && id == id'
  | .minKey, .minKey => true
  | .maxKey, .maxKey => true
  | .undefined, .undefined => true
  | _, _ => false

/-- Whether every field of one document has the same value in another one. -/
def sameFields : List (String × Bson) → List (String × Bson) → Bool
  | [], _ => true
  | (name, value) :: rest, other =>
    (match other.lookup name with
      | some value' => same value value'
      | none => false) && sameFields rest other

/-- Whether two lists have the same values in the same order. -/
def sameElements : List Bson → List Bson → Bool
  | [], [] => true
  | a :: rest, b :: rest' => same a b && sameElements rest rest'
  | _, _ => false

end

end Bson

end SchemaBootstrap
