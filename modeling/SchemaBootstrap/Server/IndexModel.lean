import SchemaBootstrap.Schema.Index

/-! # Indexes as a server describes them

A server describes an index by its keys and options, which may be absent. An index
is asked for under its default name, and uniqueness is only mentioned when it is
asked for. Among the indexes of a collection the one that every collection has on
its identifiers is passed over, and so are indexes without a name.
-/

namespace SchemaBootstrap

/-- The description of an index. -/
structure IndexModel where
  keys : Document
  name : Option String
  unique : Option Bool
  deriving Repr

/-- The name of the index that every collection has. -/
def IndexModel.identifierIndex : String :=
  "_id_"

/-- The description under which an index is asked for. -/
def IndexSpec.model (spec : IndexSpec) : IndexModel where
  keys := spec.keys
  name := some spec.name
  unique := if spec.unique then some true else none

namespace IndexModel

/-- The document of a description. -/
def document (model : IndexModel) : Document :=
  ("key", .document model.keys)
    :: (model.name.toList.map fun name => ("name", .string name))
    ++ (model.unique.toList.map fun unique => ("unique", .bool unique))

/-- The index that a description with a name tells of. -/
def existing? (model : IndexModel) : Option ExistingIndex :=
  model.name.map fun name => ⟨name, model.keys, model.unique.getD false⟩

/-- The indexes that the descriptions of a collection's indexes tell of. -/
def existing (models : List IndexModel) : List ExistingIndex :=
  (models.filterMap existing?).filter fun index => index.name != identifierIndex

end IndexModel

end SchemaBootstrap
