import SchemaBootstrap.Proofs.Schema.Validity
import SchemaBootstrap.Proofs.Store.Contents
import SchemaBootstrap.Proofs.Store.IndexCreation

/-! # Stores with what is declared

Bringing about declared collections one after the other adds to a store what is
missing and touches nothing else (`MemoryStore.extends_withCollections`). If no
declared index is refused, all of them are there in the end
(`MemoryStore.meets_withCollections`), and bringing them about once more changes nothing
(`MemoryStore.withCollections_of_meets`).
-/

namespace SchemaBootstrap

namespace MemoryStore

/-- A store in which a declared collection is there and has its indexes. -/
def withCollection (store : MemoryStore) (declared : CollectionSpec) : MemoryStore :=
  store.set declared.name ((store.collection declared.name).withIndexes declared.indexes)

/-- A store in which declared collections are there and have their indexes. -/
def withCollections (store : MemoryStore) (collections : List CollectionSpec) : MemoryStore :=
  collections.foldl withCollection store

theorem withCollections_cons (store : MemoryStore) (declared : CollectionSpec)
    (rest : List CollectionSpec) :
    store.withCollections (declared :: rest) =
      (store.withCollection declared).withCollections rest :=
  rfl

theorem withCollections_append (store : MemoryStore) (first second : List CollectionSpec) :
    store.withCollections (first ++ second) =
      (store.withCollections first).withCollections second :=
  List.foldl_append

/-- Adding a declared collection leaves the other ones alone. -/
theorem get?_withCollection_of_ne (store : MemoryStore) {declared : CollectionSpec}
    {name : String} (differ : name ≠ declared.name) :
    (store.withCollection declared).collections.get? name = store.collections.get? name := by
  rw [withCollection, get?_set, if_neg differ]

/-- Collections that are not declared are left as they are. -/
theorem get?_withCollections_of_not_mem (store : MemoryStore)
    {collections : List CollectionSpec} {name : String}
    (other : name ∉ collections.map CollectionSpec.name) :
    (store.withCollections collections).collections.get? name = store.collections.get? name := by
  induction collections generalizing store with
  | nil => rfl
  | cons declared rest ih =>
      obtain ⟨differ, others⟩ := not_or.mp fun member => other (List.mem_cons.mpr member)
      rw [withCollections_cons, ih _ others, get?_withCollection_of_ne _ differ]

/-- What a declared collection is in the end. -/
theorem get?_withCollections_of_mem (store : MemoryStore) {collections : List CollectionSpec}
    (distinct : (collections.map CollectionSpec.name).Nodup) {declared : CollectionSpec}
    (member : declared ∈ collections) :
    (store.withCollections collections).collections.get? declared.name =
      some ((store.collection declared.name).withIndexes declared.indexes) := by
  induction collections generalizing store with
  | nil => cases member
  | cons first rest ih =>
      obtain ⟨fresh, distinct⟩ := List.nodup_cons.mp distinct
      rw [withCollections_cons]
      rcases List.mem_cons.mp member with rfl | member
      · rw [get?_withCollections_of_not_mem _ fresh, withCollection, get?_set, if_pos rfl]
      · have differ : declared.name ≠ first.name := fun same =>
          fresh (List.mem_map.mpr ⟨declared, member, same⟩)
        rw [ih _ distinct member, withCollection, collection_set_of_ne store _ differ]

/-- Of several declared collections, each gets its own indexes. -/
theorem collection_withCollections_of_mem (store : MemoryStore)
    {collections : List CollectionSpec}
    (distinct : (collections.map CollectionSpec.name).Nodup) {declared : CollectionSpec}
    (member : declared ∈ collections) :
    (store.withCollections collections).collection declared.name =
      (store.collection declared.name).withIndexes declared.indexes :=
  collection_of_get? (get?_withCollections_of_mem store distinct member)

/-- Every declared collection is there after they have been added. -/
theorem contains_withCollections_of_mem (store : MemoryStore)
    {collections : List CollectionSpec}
    (distinct : (collections.map CollectionSpec.name).Nodup) {declared : CollectionSpec}
    (member : declared ∈ collections) :
    (store.withCollections collections).collections.contains declared.name = true := by
  rw [Catalog.contains, get?_withCollections_of_mem store distinct member, Option.isSome_some]

/-- No declared collection refuses one of its indexes. -/
def Admits (store : MemoryStore) (collections : List CollectionSpec) : Prop :=
  ∀ declared ∈ collections,
    (store.collection declared.name).AdmitsInOrder declared.indexes

/-- All declared collections are there, with all their indexes as declared. -/
def Meets (store : MemoryStore) (collections : List CollectionSpec) : Prop :=
  ∀ declared ∈ collections, store.collections.contains declared.name = true ∧
    ∀ spec ∈ declared.indexes,
      IndexPresence.classify (store.collection declared.name).indexes spec = .satisfied

/-- A store differs from an earlier one by what is declared and nothing else: declared
collections keep their documents and their indexes and have those indexes added at the
end whose names are new. -/
structure Extends (store earlier : MemoryStore) (collections : List CollectionSpec) :
    Prop where
  database : store.database = earlier.database
  pings : store.unavailablePings = earlier.unavailablePings
  others : ∀ name ∉ collections.map CollectionSpec.name,
    store.collections.get? name = earlier.collections.get? name
  declared : ∀ declared ∈ collections, store.collections.get? declared.name = some
    { indexes := (earlier.collection declared.name).indexes ++
        (IndexSpec.unnamed ((earlier.collection declared.name).indexes.map ExistingIndex.name)
          declared.indexes).map ExistingIndex.ofSpec
      documents := earlier.documents declared.name }

/-- Adding collections changes neither the database nor the pings. -/
theorem database_withCollections (store : MemoryStore) (collections : List CollectionSpec) :
    (store.withCollections collections).database = store.database ∧
      (store.withCollections collections).unavailablePings = store.unavailablePings := by
  induction collections generalizing store with
  | nil => exact ⟨rfl, rfl⟩
  | cons declared rest ih => exact ih (store.withCollection declared)

/-- A store with declared collections added extends the one without them. -/
theorem extends_withCollections (store : MemoryStore) {collections : List CollectionSpec}
    (distinct : (collections.map CollectionSpec.name).Nodup) :
    (store.withCollections collections).Extends store collections where
  database := (store.database_withCollections collections).1
  pings := (store.database_withCollections collections).2
  others := fun _ other => store.get?_withCollections_of_not_mem other
  declared := fun declared member => by
    rw [store.get?_withCollections_of_mem distinct member, ← MemoryCollection.withIndexes_indexes,
      documents, ← MemoryCollection.withIndexes_documents _ declared.indexes]

/-- Where declared indexes are admitted, all of them are there in the end. -/
theorem meets_withCollections (store : MemoryStore) {collections : List CollectionSpec}
    (declarable : Declarable collections) (admitted : store.Admits collections) :
    (store.withCollections collections).Meets collections := by
  intro declared member
  refine ⟨store.contains_withCollections_of_mem declarable.names member, ?_⟩
  rw [store.collection_withCollections_of_mem declarable.names member]
  exact MemoryCollection.classify_withIndexes (declarable.paths declared member)
    (admitted declared member)

/-- A store that meets collections admits them. -/
theorem admits_of_meets {store : MemoryStore} {collections : List CollectionSpec}
    (meets : store.Meets collections) : store.Admits collections :=
  fun declared member =>
    (MemoryCollection.admitsInOrder_of_satisfied (meets declared member).2).1

/-- Bringing about what is there already changes nothing. -/
theorem withCollections_of_meets {store : MemoryStore} {collections : List CollectionSpec}
    (meets : store.Meets collections) : store.withCollections collections = store := by
  induction collections with
  | nil => rfl
  | cons declared rest ih =>
      obtain ⟨⟨there, found⟩, others⟩ := List.forall_mem_cons.mp meets
      rw [withCollections_cons, withCollection,
        (MemoryCollection.admitsInOrder_of_satisfied found).2, set_collection_of_contains there,
        ih others]

end MemoryStore

end SchemaBootstrap
