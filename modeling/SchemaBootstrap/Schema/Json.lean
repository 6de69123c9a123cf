import SchemaBootstrap.Bson.Json
import SchemaBootstrap.Json.Decoding
import SchemaBootstrap.Schema.Definition

/-! # Schemas as JSON

Every part of a schema is written as an object with its fields in declaration
order and read back from it. Uniqueness and the list of indexes may be absent;
other members are passed over.
-/

namespace SchemaBootstrap

namespace SortOrder

/-- The name of a direction. -/
def label : SortOrder → String
  | ascending => "ascending"
  | descending => "descending"

/-- The JSON form of a direction. -/
def toJson (order : SortOrder) : Json :=
  .string order.label

/-- Reads a direction from its JSON form. -/
def ofJson : Json → Except DecodeFault SortOrder :=
  Json.readNamed [("ascending", ascending), ("descending", descending)]

end SortOrder

namespace IndexField

/-- The JSON form of a field of an index. -/
def toJson (field : IndexField) : Json :=
  .object [("path", .string field.path), ("order", field.order.toJson)]

/-- Reads a field of an index from its JSON form. -/
def ofJson : Json → Except DecodeFault IndexField :=
  Json.readRecord "IndexField" 2
    (mk <$> Fields.required "path" Json.readText <*> Fields.required "order" SortOrder.ofJson)

end IndexField

namespace IndexSpec

/-- The JSON form of a specification of an index. -/
def toJson (spec : IndexSpec) : Json :=
  .object [("fields", Json.list IndexField.toJson spec.fields), ("unique", .bool spec.unique)]

/-- Reads a specification of an index from its JSON form. -/
def ofJson : Json → Except DecodeFault IndexSpec :=
  Json.readRecord "IndexSpec" 2
    (mk <$> Fields.required "fields" (Json.readList IndexField.ofJson)
      <*> Fields.defaulted "unique" false Json.readBool)

end IndexSpec

namespace CollectionSpec

/-- The JSON form of a specification of a collection. -/
def toJson (collection : CollectionSpec) : Json :=
  .object
    [("name", .string collection.name),
      ("indexes", Json.list IndexSpec.toJson collection.indexes)]

/-- Reads a specification of a collection from its JSON form. -/
def ofJson : Json → Except DecodeFault CollectionSpec :=
  Json.readRecord "CollectionSpec" 2
    (mk <$> Fields.required "name" Json.readText
      <*> Fields.defaulted "indexes" [] (Json.readList IndexSpec.ofJson))

end CollectionSpec

namespace SchemaDefinition

/-- The JSON form of a definition. -/
def toJson (definition : SchemaDefinition) : Json :=
  .object
    [("database", .string definition.database),
      ("collections", Json.list CollectionSpec.toJson definition.collections)]

/-- Reads a definition from its JSON form. -/
def ofJson : Json → Except DecodeFault SchemaDefinition :=
  Json.readRecord "SchemaDefinition" 2
    (mk <$> Fields.required "database" Json.readText
      <*> Fields.required "collections" (Json.readList CollectionSpec.ofJson))

end SchemaDefinition

/-- The JSON form of an index that a store reports. -/
def ExistingIndex.toJson (index : ExistingIndex) : Json :=
  .object
    [("name", .string index.name), ("keys", index.keys.toJson), ("unique", .bool index.unique)]

end SchemaBootstrap
