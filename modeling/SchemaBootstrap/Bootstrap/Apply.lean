import SchemaBootstrap.Bootstrap.Presence
import SchemaBootstrap.Schema.Definition
import SchemaBootstrap.Store.Program

/-! # Carrying out a definition

Collections are created in declaration order, each before its indexes, and the
first error ends the run; what has been created by then stays. Creating an index
that is there already changes nothing, so every declared index is asked for, and
the report tells those that were there before from the others.
-/

namespace SchemaBootstrap

/-- A collection or an index that is there after a run. -/
structure Ensured where
  name : String
  /-- Whether the run brought it about. -/
  created : Bool
  deriving DecidableEq, Repr

namespace Ensured

/-- The names of those that the run brought about. -/
def createdNames (entries : List Ensured) : List String :=
  (entries.filter (·.created)).map Ensured.name

/-- The names of those that were there before. -/
def existingNames (entries : List Ensured) : List String :=
  (entries.filter (!·.created)).map Ensured.name

end Ensured

/-- What a run has done, in declaration order. -/
structure BootstrapReport where
  database : String
  collections : List Ensured
  /-- The indexes, each named after its collection and itself. -/
  indexes : List Ensured
  deriving DecidableEq, Repr

/-- Whether the run brought anything about. -/
def BootstrapReport.changedAnything (report : BootstrapReport) : Bool :=
  (report.collections ++ report.indexes).any Ensured.created

/-- The name of an index together with its collection. -/
def qualifiedName (collection index : String) : String :=
  collection ++ "." ++ index

/-- Creates the indexes of a collection, given those that were there before. -/
def ensureIndexes (collection : String) (present : List ExistingIndex) :
    List IndexSpec → Program StoreError (List Ensured)
  | [] => pure []
  | spec :: rest => do
    let name ← Program.request (.createIndex collection spec)
    let entry : Ensured :=
      { name := qualifiedName collection name
        created := !(IndexPresence.classify present spec).isSatisfied }
    let later ← ensureIndexes collection present rest
    pure (entry :: later)

/-- Creates a collection unless the store lists it. -/
def ensureCollection (listed : List String) (name : String) : Program StoreError Ensured :=
  if listed.contains name then pure ⟨name, false⟩
  else do
    let outcome ← Program.request (.createCollection name)
    pure ⟨name, outcome == .created⟩

/-- Creates a collection's declared indexes; one without any is not asked about. -/
def ensureDeclared (declared : CollectionSpec) : Program StoreError (List Ensured) :=
  if declared.indexes.isEmpty then pure []
  else do
    let present ← Program.request (.listIndexes declared.name)
    ensureIndexes declared.name present declared.indexes

/-- Creates collections and their indexes, given the collections that the store lists. -/
def ensureCollections (listed : List String) :
    List CollectionSpec → Program StoreError (List Ensured × List Ensured)
  | [] => pure ([], [])
  | declared :: rest => do
    let collection ← ensureCollection listed declared.name
    let indexes ← ensureDeclared declared
    let later ← ensureCollections listed rest
    pure (collection :: later.1, indexes ++ later.2)

/-- Creates what a definition declares. -/
def SchemaDefinition.apply (definition : SchemaDefinition) :
    Program StoreError BootstrapReport := do
  let listed ← Program.request .listCollections
  let (collections, indexes) ← ensureCollections listed definition.collections
  pure ⟨definition.database, collections, indexes⟩

end SchemaBootstrap
