import SchemaBootstrap.Schema.Index
import SchemaBootstrap.Text.Blank

/-! # Schema definitions

A schema names a database and lists its collections in the order in which they are
to be created, each with its indexes. A definition is valid when no name is blank,
no collection is declared twice, and every index has fields and repeats none of
them; `SchemaDefinition.validate` reports the first violation in declaration order.
-/

namespace SchemaBootstrap

/-- A collection and the indexes declared on it. -/
structure CollectionSpec where
  name : String
  indexes : List IndexSpec
  deriving DecidableEq, Repr

/-- The collections to create in one database. -/
structure SchemaDefinition where
  database : String
  collections : List CollectionSpec
  deriving DecidableEq, Repr

/-- Why a definition is not valid. -/
inductive SchemaViolation where
  | emptyDatabaseName
  | emptyCollectionName
  | duplicateCollection (name : String)
  | emptyIndex (collection : String)
  | repeatedField (collection field : String)
  deriving DecidableEq, Repr

/-- The text of a violation. -/
def SchemaViolation.message : SchemaViolation → String
  | emptyDatabaseName => "database name cannot be empty"
  | emptyCollectionName => "collection name cannot be empty"
  | duplicateCollection name => "collection '" ++ name ++ "' is declared more than once"
  | emptyIndex collection => "index on '" ++ collection ++ "' has no fields"
  | repeatedField collection field =>
    "index on '" ++ collection ++ "' repeats field '" ++ field ++ "'"

namespace SchemaDefinition

/-- The database of the pipeline services. -/
def defaultDatabase : String :=
  "pocket-ml-testbench"

/-- The metadata store of the evaluation pipeline. The results carry no index. -/
def testbench : SchemaDefinition where
  database := defaultDatabase
  collections :=
    [⟨"tokenizers", [.ascending ["hash"]]⟩,
      ⟨"tasks",
        [.ascending
          ["tasks", "framework", "requester_args.address", "requester_args.service", "done"]]⟩,
      ⟨"instances", [.ascending ["task_id", "done"]]⟩,
      ⟨"prompts", [.ascending ["task_id", "instance_id", "done"]]⟩,
      ⟨"responses", [.ascending ["task_id", "instance_id", "prompt_id", "ok"]]⟩,
      ⟨"nodes", [(IndexSpec.ascending ["address", "service"]).asUnique]⟩,
      ⟨"results", []⟩]

/-- The same collections in another database. -/
def withDatabase (definition : SchemaDefinition) (database : String) : SchemaDefinition :=
  { definition with database }

/-- The declared collection with a name. -/
def collection? (definition : SchemaDefinition) (name : String) : Option CollectionSpec :=
  definition.collections.find? (·.name == name)

/-- The number of declared indexes. -/
def indexCount (definition : SchemaDefinition) : Nat :=
  (definition.collections.flatMap CollectionSpec.indexes).length

/-- The first entry of a list that occurs earlier in it, or among those seen before. -/
def firstRepeated (seen : List String) : List String → Option String
  | [] => none
  | entry :: rest =>
    if seen.contains entry then some entry else firstRepeated (entry :: seen) rest

/-- The first violation among the indexes of a collection. -/
def indexViolation? (collection : String) : List IndexSpec → Option SchemaViolation
  | [] => none
  | index :: rest =>
    if index.fields.isEmpty then some (.emptyIndex collection)
    else
      match firstRepeated [] index.paths with
      | some path => some (.repeatedField collection path)
      | none => indexViolation? collection rest

/-- The first violation among collections, after those with the names seen before. -/
def collectionViolation? (seen : List String) : List CollectionSpec → Option SchemaViolation
  | [] => none
  | collection :: rest =>
    if Text.allBlank collection.name then some .emptyCollectionName
    else if seen.contains collection.name then some (.duplicateCollection collection.name)
    else
      match indexViolation? collection.name collection.indexes with
      | some violation => some violation
      | none => collectionViolation? (collection.name :: seen) rest

/-- The first violation of a definition. -/
def violation? (definition : SchemaDefinition) : Option SchemaViolation :=
  if Text.allBlank definition.database then some .emptyDatabaseName
  else collectionViolation? [] definition.collections

/-- Accepts a valid definition and refuses any other with its first violation. -/
def validate (definition : SchemaDefinition) : Except SchemaViolation Unit :=
  match definition.violation? with
  | some violation => .error violation
  | none => .ok ()

end SchemaDefinition

end SchemaBootstrap
