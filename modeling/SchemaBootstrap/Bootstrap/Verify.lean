import SchemaBootstrap.Bootstrap.Apply

/-! # Comparing a store with a definition

A comparison lists the collections that are missing, the indexes that are missing,
and those that are there under the expected name or keys but differ. It asks the
store what there is and changes nothing.
-/

namespace SchemaBootstrap

/-- An index in the way of a declared one. -/
structure IndexMismatch where
  collection : String
  expected : IndexSpec
  actual : ExistingIndex
  deriving Repr

/-- What a store lacks of a definition. -/
structure Shortfall where
  collections : List String
  /-- The missing indexes, each named after its collection and itself. -/
  indexes : List String
  mismatches : List IndexMismatch
  deriving Repr

namespace Shortfall

/-- Nothing is lacking. -/
def none : Shortfall where
  collections := []
  indexes := []
  mismatches := []

/-- What is lacking in one part and in another one after it. -/
def append (first second : Shortfall) : Shortfall where
  collections := first.collections ++ second.collections
  indexes := first.indexes ++ second.indexes
  mismatches := first.mismatches ++ second.mismatches

instance : Append Shortfall where
  append := append

/-- What is lacking when a collection is not there. -/
def ofAbsent (declared : CollectionSpec) : Shortfall where
  collections := [declared.name]
  indexes := declared.indexes.map fun spec => qualifiedName declared.name spec.name
  mismatches := []

/-- What is lacking of one declared index. -/
def ofIndex (collection : String) (present : List ExistingIndex) (spec : IndexSpec) : Shortfall :=
  match IndexPresence.classify present spec with
  | .satisfied => none
  | .mismatched actual => { none with mismatches := [⟨collection, spec, actual⟩] }
  | .missing => { none with indexes := [qualifiedName collection spec.name] }

/-- What is lacking of the declared indexes of a collection. -/
def ofIndexes (collection : String) (present : List ExistingIndex) :
    List IndexSpec → Shortfall
  | [] => none
  | spec :: rest => ofIndex collection present spec ++ ofIndexes collection present rest

end Shortfall

/-- The result of a comparison. -/
structure Verification where
  database : String
  shortfall : Shortfall
  deriving Repr

/-- Whether the store has everything as declared. -/
def Verification.isSatisfied (verification : Verification) : Bool :=
  verification.shortfall.collections.isEmpty && verification.shortfall.indexes.isEmpty
    && verification.shortfall.mismatches.isEmpty

/-- Compares declared collections, given those that the store lists. -/
def verifyCollections (listed : List String) :
    List CollectionSpec → Program StoreError Shortfall
  | [] => pure .none
  | declared :: rest => do
    let here ←
      if listed.contains declared.name then do
        let present ← Program.request (.listIndexes declared.name)
        pure (Shortfall.ofIndexes declared.name present declared.indexes)
      else pure (Shortfall.ofAbsent declared)
    let later ← verifyCollections listed rest
    pure (here ++ later)

/-- Compares a store with a definition. -/
def SchemaDefinition.verify (definition : SchemaDefinition) : Program StoreError Verification := do
  let listed ← Program.request .listCollections
  let shortfall ← verifyCollections listed definition.collections
  pure ⟨definition.database, shortfall⟩

end SchemaBootstrap
