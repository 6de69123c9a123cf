import SchemaBootstrap.Bson.Value
import SchemaBootstrap.Text.Pieces

/-! # Dotted paths

A path names a field, or with dots a field of an embedded document. Only embedded
documents are entered: an array has no fields, and a field whose own name contains
a dot is out of reach.
-/

namespace SchemaBootstrap

namespace Document

/-- The value below a value at the end of a chain of field names. -/
def descend : Bson → List String → Option Bson
  | value, [] => some value
  | .document fields, name :: rest => (get? fields name).bind fun value => descend value rest
  | _, _ :: _ => none

/-- The field names of a path. -/
def segments (path : String) : List String :=
  (Text.pieces '.' path.toList).map String.ofList

/-- The value at a path of a document. -/
def lookup (document : Document) (path : String) : Option Bson :=
  descend (.document document) (segments path)

end Document

end SchemaBootstrap
