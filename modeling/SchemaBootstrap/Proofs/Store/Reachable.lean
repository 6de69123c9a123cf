import Mathlib.Data.List.Nodup
import SchemaBootstrap.Proofs.Store.UniqueKeys

/-! # Reachable stores

A store in memory is reached from an empty one by requests and by indexes that are put into
a collection without regard to the others (`MemoryStore.Reachable`). However a store is
reached, no two indexes of one collection have the same name
(`MemoryStore.Reachable.namesDistinct`), so that the first index with a name is the only
one. An operation on one collection leaves every other collection as it is
(`MemoryStore.get?_perform_of_ne`).
-/

namespace SchemaBootstrap

/-- What can happen to a store in memory. -/
inductive Operation where
  | request (request : Request)
  /-- An index is put into a collection without regard to the others. -/
  | forceIndex (collection : String) (index : ExistingIndex)

/-- The collection that a request is about. -/
def Request.collection? : Request → Option String
  | ping => none
  | listCollections => none
  | createCollection name => some name
  | listIndexes name => some name
  | createIndex name _ => some name
  | insertDocument name _ => some name

/-- The collection that an operation is about. -/
def Operation.collection? : Operation → Option String
  | request asked => asked.collection?
  | forceIndex name _ => some name

namespace MemoryCollection

/-- No two indexes of a collection have the same name. -/
def NamesDistinct (collection : MemoryCollection) : Prop :=
  (collection.indexes.map ExistingIndex.name).Nodup

theorem namesDistinct_empty : empty.NamesDistinct :=
  List.nodup_nil

/-- A new name keeps the names distinct. -/
theorem nodup_names_append {indexes : List ExistingIndex} {index : ExistingIndex}
    (distinct : (indexes.map ExistingIndex.name).Nodup)
    (fresh : index.name ∉ indexes.map ExistingIndex.name) :
    ((indexes ++ [index]).map ExistingIndex.name).Nodup := by
  rw [List.map_append, List.map_singleton, ← List.concat_eq_append]
  exact distinct.concat fresh

namespace NamesDistinct

variable {collection : MemoryCollection}

/-- Adding an index keeps the names distinct. -/
theorem withIndex (distinct : collection.NamesDistinct) (spec : IndexSpec) :
    (collection.withIndex spec).NamesDistinct := by
  unfold MemoryCollection.withIndex
  by_cases taken : spec.name ∈ collection.indexes.map ExistingIndex.name
  · rw [if_pos taken]
    exact distinct
  · rw [if_neg taken]
    exact nodup_names_append distinct taken

/-- An index that is put into a collection takes the place of the one with its name. -/
theorem forceIndex (distinct : collection.NamesDistinct) (index : ExistingIndex) :
    (collection.forceIndex index).NamesDistinct := by
  have fresh : index.name ∉ (collection.indexes.filter
      (fun present => present.name != index.name)).map ExistingIndex.name := by
    intro member
    obtain ⟨present, kept, same⟩ := List.mem_map.mp member
    have differ := (List.mem_filter.mp kept).2
    rw [same, bne_self_eq_false] at differ
    exact Bool.noConfusion differ
  exact nodup_names_append (distinct.sublist (List.filter_sublist.map _)) fresh

/-- Where names are distinct, the first index with a name is the only one. -/
theorem find?_eq_some_iff (distinct : collection.NamesDistinct) (name : String)
    (index : ExistingIndex) :
    collection.indexes.find? (·.name == name) = some index ↔
      index ∈ collection.indexes ∧ index.name = name := by
  constructor
  · intro found
    have same := List.find?_some found
    exact ⟨List.mem_of_find?_eq_some found, beq_iff_eq.mp same⟩
  · rintro ⟨member, rfl⟩
    cases found : collection.indexes.find? (·.name == index.name) with
    | none =>
        have differ := List.find?_eq_none.mp found index member
        exact absurd (beq_self_eq_true _) differ
    | some first =>
        have inside := List.mem_of_find?_eq_some found
        have same := List.find?_some found
        rw [List.inj_on_of_nodup_map distinct inside member (beq_iff_eq.mp same)]

/-- A specification is satisfied when the collection has its index. -/
theorem classify_eq_satisfied_iff (distinct : collection.NamesDistinct) (spec : IndexSpec) :
    IndexPresence.classify collection.indexes spec = .satisfied ↔
      ∃ index ∈ collection.indexes, index.name = spec.name ∧
        index.keys.readKeys = spec.directedPaths ∧ index.unique = spec.unique := by
  rw [IndexPresence.classify_eq_satisfied_iff]
  apply exists_congr
  intro index
  rw [distinct.find?_eq_some_iff, ExistingIndex.satisfies_iff, and_assoc]

end NamesDistinct

end MemoryCollection

namespace MemoryStore

/-- The store after an operation. -/
def perform (store : MemoryStore) : Operation → MemoryStore
  | .request request => (store.answer request).2
  | .forceIndex name index => store.forceIndex name index

/-- The stores that operations lead to from an empty one. -/
inductive Reachable : MemoryStore → Prop
  | empty (database : String) (pings : Nat) : Reachable (.empty database pings)
  | perform {store : MemoryStore} (reachable : Reachable store) (operation : Operation) :
      Reachable (store.perform operation)

/-- The store after operations, one after the other. -/
def performAll (store : MemoryStore) (operations : List Operation) : MemoryStore :=
  operations.foldl perform store

/-- What operations lead to from a reachable store is reachable. -/
theorem Reachable.performAll {store : MemoryStore} (reachable : store.Reachable)
    (operations : List Operation) : (store.performAll operations).Reachable := by
  induction operations generalizing store with
  | nil => exact reachable
  | cons operation rest ih => exact ih (reachable.perform operation)

section Elsewhere

variable {store : MemoryStore} {name : String}

theorem get?_set_of_ne {other : String} (differ : name ≠ other) (collection : MemoryCollection) :
    (store.set other collection).collections.get? name = store.collections.get? name := by
  rw [get?_set, if_neg differ]

/-- A change of one collection leaves the other ones alone. -/
theorem get?_change_of_ne {other : String} (differ : name ≠ other) (reply : α)
    (step : MemoryCollection → Except StoreError MemoryCollection) :
    (store.change other reply step).2.collections.get? name = store.collections.get? name := by
  unfold change
  split <;> exact get?_set_of_ne differ _

/-- A request leaves the collections that it is not about as they are. -/
theorem get?_answer_of_ne {request : Request} (elsewhere : request.collection? ≠ some name) :
    (store.answer request).2.collections.get? name = store.collections.get? name := by
  have differ : ∀ {other : String}, request.collection? = some other → name ≠ other := by
    intro other about same
    exact elsewhere (about.trans (congrArg some same.symm))
  cases request with
  | ping =>
      unfold answer
      split <;> rfl
  | listCollections => rfl
  | createCollection other =>
      rw [answer_createCollection]
      exact get?_set_of_ne (differ rfl) _
  | listIndexes other => rfl
  | createIndex other spec => exact get?_change_of_ne (differ rfl) _ _
  | insertDocument other document => exact get?_change_of_ne (differ rfl) _ _

/-- An operation on one collection leaves the other ones alone. -/
theorem get?_perform_of_ne {operation : Operation}
    (elsewhere : operation.collection? ≠ some name) :
    (store.perform operation).collections.get? name = store.collections.get? name := by
  cases operation with
  | request request => exact get?_answer_of_ne elsewhere
  | forceIndex other index =>
      apply get?_set_of_ne
      intro same
      exact elsewhere (congrArg some same.symm)

end Elsewhere

/-- No two indexes of one collection have the same name. -/
def NamesDistinct (store : MemoryStore) : Prop :=
  ∀ name, (store.collection name).NamesDistinct

/-- Every operation preserves that names are distinct. -/
theorem NamesDistinct.perform {store : MemoryStore} (distinct : store.NamesDistinct)
    (operation : Operation) : (store.perform operation).NamesDistinct := by
  intro name
  cases operation with
  | request request =>
      unfold MemoryStore.perform
      rcases store.collection_answer request name with
        same | ⟨spec, -, created⟩ | ⟨document, -, inserted⟩
      · rw [same]
        exact distinct name
      · rw [(MemoryCollection.createIndex_eq_ok_iff.mp created).2]
        exact (distinct name).withIndex spec
      · rw [(MemoryCollection.insert_eq_ok_iff.mp inserted).2]
        exact distinct name
  | forceIndex other index =>
      unfold MemoryStore.perform MemoryStore.forceIndex
      rw [collection_set]
      split
      · exact (distinct other).forceIndex index
      · exact distinct name

/-- In a reachable store, no two indexes of a collection have one name. -/
theorem Reachable.namesDistinct {store : MemoryStore} (reachable : store.Reachable) :
    store.NamesDistinct := by
  induction reachable with
  | empty database pings => exact fun _ => MemoryCollection.namesDistinct_empty
  | perform _ operation ih => exact ih.perform operation

end MemoryStore

end SchemaBootstrap
