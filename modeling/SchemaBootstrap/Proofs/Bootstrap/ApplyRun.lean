import Mathlib.Data.List.Basic
import SchemaBootstrap.Bootstrap.Bootstrapper
import SchemaBootstrap.Proofs.Bootstrap.DeclaredStore
import SchemaBootstrap.Proofs.Store.ProgramRun

/-! # Carrying out a definition before a store in memory

The collections of a valid definition have different names, so each is created on
what the store kept for it at the start. Where every collection admits its indexes
the run ends with the report on the starting store and leaves the store with what is
declared (`SchemaDefinition.apply_run_of_admits`). Otherwise there is a first refused
index (`Obstacle`); the run ends with its error and leaves the store with what is
declared before it (`SchemaDefinition.apply_run_of_obstacle`).
-/

namespace SchemaBootstrap

open Program

section Indexes

variable {store : MemoryStore} {name : String} {collection : MemoryCollection}

/-- An admitted index is created, or is there already, and the reply is its name. -/
theorem createIndex_run_of_admits {spec : IndexSpec} (admitted : collection.Admits spec) :
    (request (.createIndex name spec)).run MemoryStore.asStore (store.set name collection) =
      (.ok spec.name, store.set name (collection.withIndex spec)) := by
  have created : ((store.set name collection).collection name).createIndex name spec =
      .ok (collection.withIndex spec) := by
    rw [MemoryStore.collection_set_self]
    exact MemoryCollection.createIndex_of_admits admitted
  exact (MemoryStore.answer_createIndex_of_ok created).trans (by rw [MemoryStore.set_set])

/-- A refused index leaves the collection as it is. -/
theorem createIndex_run_of_refused {spec : IndexSpec} {error : StoreError}
    (refused : collection.createIndex name spec = .error error) :
    (request (.createIndex name spec)).run MemoryStore.asStore (store.set name collection) =
      (.error error, store.set name collection) := by
  have failed : ((store.set name collection).collection name).createIndex name spec =
      .error error := by
    rw [MemoryStore.collection_set_self]
    exact refused
  exact (MemoryStore.answer_createIndex_of_error failed).trans
    (by rw [MemoryStore.collection_set_self, MemoryStore.set_set])

/-- Indexes that are admitted one after the other are all ensured, each reported by what was found
before the first of them. -/
theorem ensureIndexes_run_of_admits (present : List ExistingIndex) {specs : List IndexSpec}
    (admitted : collection.AdmitsInOrder specs) :
    (ensureIndexes name present specs).run MemoryStore.asStore (store.set name collection) =
      (.ok (specs.map fun spec =>
          ⟨qualifiedName name spec.name, !(IndexPresence.classify present spec).isSatisfied⟩),
        store.set name (collection.withIndexes specs)) := by
  induction specs generalizing collection with
  | nil => rfl
  | cons spec rest ih =>
      rw [ensureIndexes, run_bind_of_ok (createIndex_run_of_admits admitted.1),
        run_bind_of_ok (ih admitted.2), run_pure, MemoryCollection.withIndexes_cons,
        List.map_cons]

/-- Ensuring indexes ends at the first refused one, with the earlier ones in place. -/
theorem ensureIndexes_run_of_refused (present : List ExistingIndex)
    {earlier later : List IndexSpec} {spec : IndexSpec} {error : StoreError}
    (admitted : collection.AdmitsInOrder earlier)
    (refused : (collection.withIndexes earlier).createIndex name spec = .error error) :
    (ensureIndexes name present (earlier ++ spec :: later)).run MemoryStore.asStore
        (store.set name collection) =
      (.error error, store.set name (collection.withIndexes earlier)) := by
  induction earlier generalizing collection with
  | nil =>
      have stopped : collection.createIndex name spec = .error error := refused
      rw [List.nil_append, ensureIndexes, run_bind_of_error (createIndex_run_of_refused stopped)]
      rfl
  | cons first rest ih =>
      rw [List.cons_append, ensureIndexes,
        run_bind_of_ok (createIndex_run_of_admits admitted.1),
        run_bind_of_error (ih admitted.2 refused), MemoryCollection.withIndexes_cons]

end Indexes

/-- What a run has done for the indexes of a declared collection, given those that were
there before. -/
def CollectionSpec.ensured (declared : CollectionSpec) (present : List ExistingIndex) :
    List Ensured :=
  declared.indexes.map fun spec =>
    ⟨qualifiedName declared.name spec.name, !(IndexPresence.classify present spec).isSatisfied⟩

section Collections

variable {store : MemoryStore} {listed : List String}

/-- A collection is created on what the store keeps for it. -/
theorem ensureCollection_run {name : String}
    (accurate : listed.contains name = store.collections.contains name) :
    (ensureCollection listed name).run MemoryStore.asStore store =
      (.ok ⟨name, !store.collections.contains name⟩, store.set name (store.collection name)) := by
  rw [ensureCollection, accurate]
  by_cases there : store.collections.contains name = true
  · simp only [there, ↓reduceIte, run_pure, MemoryStore.set_collection_of_contains there,
      Bool.not_true]
  · have created : (request (.createCollection name)).run MemoryStore.asStore store =
        (.ok .created, store.set name (store.collection name)) := by
      have answered := MemoryStore.answer_createCollection store name
      rwa [if_neg there] at answered
    rw [if_neg there, run_bind_of_ok created, run_pure, Bool.eq_false_iff.mpr there]
    rfl

variable {declared : CollectionSpec}

/-- A declared collection whose indexes are admitted in their order gets all of them. -/
theorem ensureDeclared_run_of_admits
    (admitted : (store.collection declared.name).AdmitsInOrder declared.indexes) :
    (ensureDeclared declared).run MemoryStore.asStore
        (store.set declared.name (store.collection declared.name)) =
      (.ok (declared.ensured (store.collection declared.name).indexes),
        store.withCollection declared) := by
  rw [ensureDeclared, CollectionSpec.ensured, MemoryStore.withCollection]
  by_cases empty : declared.indexes.isEmpty = true
  · rw [if_pos empty, run_pure, List.isEmpty_iff.mp empty, MemoryCollection.withIndexes,
      List.foldl_nil, List.map_nil]
  · rw [if_neg empty, run_bind_of_ok (run_listIndexes _ _), MemoryStore.collection_set_self,
      ensureIndexes_run_of_admits _ admitted]

/-- A declared collection gets its indexes up to the first refused one. -/
theorem ensureDeclared_run_of_refused {earlier later : List IndexSpec} {spec : IndexSpec}
    {error : StoreError} (split : declared.indexes = earlier ++ spec :: later)
    (admitted : (store.collection declared.name).AdmitsInOrder earlier)
    (refused : ((store.collection declared.name).withIndexes earlier).createIndex
      declared.name spec = .error error) :
    (ensureDeclared declared).run MemoryStore.asStore
        (store.set declared.name (store.collection declared.name)) =
      (.error error, store.withCollection { declared with indexes := earlier }) := by
  have nonempty : ¬ declared.indexes.isEmpty = true := by
    rw [split, List.isEmpty_iff]
    exact List.append_ne_nil_of_right_ne_nil _ (List.cons_ne_nil _ _)
  rw [ensureDeclared, if_neg nonempty, run_bind_of_ok (run_listIndexes _ _), split,
    MemoryStore.collection_set_self, ensureIndexes_run_of_refused _ admitted refused,
    MemoryStore.withCollection]

/-- Creating one collection leaves what is known of the others. -/
theorem accurate_withCollection {rest : List CollectionSpec}
    (fresh : declared.name ∉ rest.map CollectionSpec.name)
    (accurate : ∀ other ∈ rest,
      listed.contains other.name = store.collections.contains other.name) :
    ∀ other ∈ rest, listed.contains other.name =
      (store.withCollection declared).collections.contains other.name := by
  intro other member
  have differ : other.name ≠ declared.name := fun same =>
    fresh (List.mem_map.mpr ⟨other, member, same⟩)
  rw [accurate other member, Catalog.contains, Catalog.contains,
    MemoryStore.get?_withCollection_of_ne store differ]

/-- Where every collection admits its indexes, all are created. -/
theorem ensureCollections_run_of_admits {collections : List CollectionSpec}
    (distinct : (collections.map CollectionSpec.name).Nodup)
    (accurate : ∀ other ∈ collections,
      listed.contains other.name = store.collections.contains other.name)
    (admitted : store.Admits collections) :
    (ensureCollections listed collections).run MemoryStore.asStore store =
      (.ok (collections.map fun other => ⟨other.name, !store.collections.contains other.name⟩,
          collections.flatMap fun other => other.ensured (store.collection other.name).indexes),
        store.withCollections collections) := by
  induction collections generalizing store with
  | nil => rfl
  | cons declared rest ih =>
      obtain ⟨fresh, distinct⟩ := List.nodup_cons.mp distinct
      obtain ⟨known, accurate⟩ := List.forall_mem_cons.mp accurate
      obtain ⟨admits, admitted⟩ := List.forall_mem_cons.mp admitted
      -- The names differ, so the collections that follow are as they were at the start.
      have differ : ∀ other ∈ rest, other.name ≠ declared.name := fun other member same =>
        fresh (List.mem_map.mpr ⟨other, member, same⟩)
      have later := ih distinct (accurate_withCollection fresh accurate) fun other member => by
        rw [MemoryStore.withCollection, MemoryStore.collection_set_of_ne _ _ (differ other member)]
        exact admitted other member
      rw [ensureCollections, run_bind_of_ok (ensureCollection_run known),
        run_bind_of_ok (ensureDeclared_run_of_admits admits), run_bind_of_ok later, run_pure,
        MemoryStore.withCollections_cons, List.map_cons, List.flatMap_cons]
      refine Prod.ext (congrArg Except.ok (Prod.ext (congrArg (List.cons _) ?_)
        (congrArg (List.append _) ?_))) rfl
      · refine List.map_congr_left fun other member => ?_
        rw [Catalog.contains, MemoryStore.get?_withCollection_of_ne _ (differ other member),
          Catalog.contains]
      · refine List.flatMap_congr fun other member => ?_
        rw [MemoryStore.withCollection, MemoryStore.collection_set_of_ne _ _ (differ other member)]

/-- At the first refused index the run ends, and what is declared before it is there. -/
theorem ensureCollections_run_of_refused {before after : List CollectionSpec}
    (distinct : ((before ++ declared :: after).map CollectionSpec.name).Nodup)
    (accurate : ∀ other ∈ before ++ declared :: after,
      listed.contains other.name = store.collections.contains other.name)
    (admitted_before : store.Admits before)
    {earlier later : List IndexSpec} {spec : IndexSpec} {error : StoreError}
    (split : declared.indexes = earlier ++ spec :: later)
    (admitted : (store.collection declared.name).AdmitsInOrder earlier)
    (refused : ((store.collection declared.name).withIndexes earlier).createIndex
      declared.name spec = .error error) :
    (ensureCollections listed (before ++ declared :: after)).run MemoryStore.asStore store =
      (.error error,
        (store.withCollections before).withCollection { declared with indexes := earlier }) := by
  induction before generalizing store with
  | nil =>
      have known := accurate declared List.mem_cons_self
      rw [List.nil_append, ensureCollections, run_bind_of_ok (ensureCollection_run known),
        run_bind_of_error (ensureDeclared_run_of_refused split admitted refused)]
      rfl
  | cons first rest ih =>
      rw [List.cons_append] at distinct accurate ⊢
      obtain ⟨fresh, distinct⟩ := List.nodup_cons.mp distinct
      obtain ⟨known, accurate⟩ := List.forall_mem_cons.mp accurate
      obtain ⟨admits, admitted_before⟩ := List.forall_mem_cons.mp admitted_before
      have differ : ∀ other ∈ rest ++ declared :: after, other.name ≠ first.name :=
        fun other member same => fresh (List.mem_map.mpr ⟨other, member, same⟩)
      have apart : ∀ other ∈ rest ++ declared :: after,
          (store.withCollection first).collection other.name = store.collection other.name :=
        fun other member => MemoryStore.collection_set_of_ne _ _ (differ other member)
      have inside : declared ∈ rest ++ declared :: after :=
        List.mem_append_right _ List.mem_cons_self
      -- The other collections are as they were, so the obstacle is the same one after the first.
      have later := ih distinct (accurate_withCollection fresh accurate)
        (fun other member => by
          rw [apart other (List.mem_append_left _ member)]
          exact admitted_before other member)
        (by rw [apart declared inside]; exact admitted)
        (by rw [apart declared inside]; exact refused)
      rw [ensureCollections, run_bind_of_ok (ensureCollection_run known),
        run_bind_of_ok (ensureDeclared_run_of_admits admits), run_bind_of_error later,
        MemoryStore.withCollections_cons]

end Collections

/-- The first refused index among declared collections: those before it are admitted,
and it is refused where they are created. -/
structure Obstacle (store : MemoryStore) (collections : List CollectionSpec) where
  before : List CollectionSpec
  declared : CollectionSpec
  after : List CollectionSpec
  earlier : List IndexSpec
  spec : IndexSpec
  later : List IndexSpec
  error : StoreError
  collections_eq : collections = before ++ declared :: after
  indexes_eq : declared.indexes = earlier ++ spec :: later
  admitted_before : store.Admits before
  admitted : (store.collection declared.name).AdmitsInOrder earlier
  refused : ((store.collection declared.name).withIndexes earlier).createIndex
    declared.name spec = .error error

namespace Obstacle

variable {store : MemoryStore} {collections : List CollectionSpec}

/-- What is declared before the refused index. -/
def cleared (obstacle : Obstacle store collections) : List CollectionSpec :=
  obstacle.before ++ [{ obstacle.declared with indexes := obstacle.earlier }]

/-- The store that has what is declared before the refused index. -/
def result (obstacle : Obstacle store collections) : MemoryStore :=
  store.withCollections obstacle.cleared

/-- What is done before an obstacle is the creation of declared collections, of which the last one
is cut short. -/
theorem result_eq (obstacle : Obstacle store collections) :
    obstacle.result = (store.withCollections obstacle.before).withCollection
      { obstacle.declared with indexes := obstacle.earlier } := by
  rw [result, cleared, MemoryStore.withCollections_append]
  rfl

end Obstacle

/-- All declared collections admit their indexes, or there is a first refused one. -/
theorem admitted_or_obstacle (store : MemoryStore) (collections : List CollectionSpec) :
    store.Admits collections ∨ Nonempty (Obstacle store collections) := by
  induction collections with
  | nil => exact Or.inl (List.forall_mem_nil _)
  | cons declared rest ih =>
      rcases (store.collection declared.name).admitsInOrder_or_refused declared.name
        declared.indexes with admitted | ⟨earlier, spec, later, error, split, admitted, refused⟩
      · rcases ih with others | ⟨⟨obstacle⟩⟩
        · exact Or.inl (List.forall_mem_cons.mpr ⟨admitted, others⟩)
        · exact Or.inr <| Nonempty.intro { obstacle with
            before := declared :: obstacle.before
            collections_eq := by rw [List.cons_append, ← obstacle.collections_eq]
            admitted_before := List.forall_mem_cons.mpr ⟨admitted, obstacle.admitted_before⟩ }
      · exact Or.inr <| Nonempty.intro {
          before := [], declared, after := rest, earlier, spec, later, error
          collections_eq := rfl
          indexes_eq := split
          admitted_before := List.forall_mem_nil _
          admitted, refused }

namespace SchemaDefinition

variable {definition : SchemaDefinition}

/-- The report of a run that brings about what is missing in a store. -/
def reportOn (definition : SchemaDefinition) (store : MemoryStore) : BootstrapReport where
  database := definition.database
  collections := definition.collections.map fun declared =>
    ⟨declared.name, !store.collections.contains declared.name⟩
  indexes := definition.collections.flatMap fun declared =>
    declared.ensured (store.collection declared.name).indexes

/-- A run on a store that admits what is declared. -/
theorem apply_run_of_admits (valid : definition.violation? = none) {store : MemoryStore}
    (admitted : store.Admits definition.collections) :
    definition.apply.run MemoryStore.asStore store =
      (.ok (definition.reportOn store), store.withCollections definition.collections) := by
  have created := ensureCollections_run_of_admits (declarable valid).names
    (fun declared _ => store.collections.contains_names declared.name) admitted
  rw [apply, run_bind_of_ok (run_listCollections store), run_bind_of_ok created]
  rfl

/-- A run on a store with an obstacle to what is declared. -/
theorem apply_run_of_obstacle (valid : definition.violation? = none) {store : MemoryStore}
    (obstacle : Obstacle store definition.collections) :
    definition.apply.run MemoryStore.asStore store = (.error obstacle.error, obstacle.result) := by
  have stopped := ensureCollections_run_of_refused
    (obstacle.collections_eq ▸ (declarable valid).names)
    (fun declared _ => store.collections.contains_names declared.name)
    obstacle.admitted_before obstacle.indexes_eq obstacle.admitted obstacle.refused
  rw [← obstacle.collections_eq] at stopped
  rw [apply, run_bind_of_ok (run_listCollections store), run_bind_of_error stopped,
    obstacle.result_eq]

/-- Every run ends in one of these two ways. -/
theorem apply_run_cases (valid : definition.violation? = none) (store : MemoryStore) :
    (store.Admits definition.collections ∧
      definition.apply.run MemoryStore.asStore store =
        (.ok (definition.reportOn store), store.withCollections definition.collections)) ∨
      ∃ obstacle : Obstacle store definition.collections,
        definition.apply.run MemoryStore.asStore store =
          (.error obstacle.error, obstacle.result) := by
  rcases admitted_or_obstacle store definition.collections with admitted | ⟨⟨obstacle⟩⟩
  · exact Or.inl ⟨admitted, apply_run_of_admits valid admitted⟩
  · exact Or.inr ⟨obstacle, apply_run_of_obstacle valid obstacle⟩

end SchemaDefinition

namespace Bootstrapper

/-- A bootstrapper only holds definitions that can be declared. -/
theorem declarable (bootstrapper : Bootstrapper) :
    Declarable bootstrapper.definition.collections :=
  SchemaDefinition.declarable bootstrapper.valid

/-- The run of a bootstrapper is the run of its definition. -/
theorem apply_run (bootstrapper : Bootstrapper) (store : Store σ) (state : σ) :
    bootstrapper.apply.run store state =
      ((bootstrapper.definition.apply.run store state).1.mapError .store,
        (bootstrapper.definition.apply.run store state).2) :=
  run_mapError store _ _ state

end Bootstrapper

end SchemaBootstrap
