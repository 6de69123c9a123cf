import SchemaBootstrap.Store.Memory

/-! # What a store in memory keeps

Replacing what is kept for one collection leaves every other collection alone
(`MemoryStore.get?_set`), and the last replacement counts. A store is determined by
its database, its pings and what it keeps under each name (`MemoryStore.ext_get?`).
A request changes a collection in one of two ways only: an index is created in it or a
document is inserted into it (`MemoryStore.collection_answer`).
-/

namespace SchemaBootstrap

namespace Catalog

theorem mem_names_iff (catalog : Catalog α) (name : String) :
    name ∈ catalog.names ↔ catalog.contains name = true := by
  rw [names, contains, get?, List.lookup_isSome_iff, List.mem_map]
  constructor
  · rintro ⟨entry, member, rfl⟩
    exact ⟨entry, member, beq_self_eq_true _⟩
  · rintro ⟨entry, member, same⟩
    exact ⟨entry, member, (beq_iff_eq.mp same).symm⟩

theorem contains_names (catalog : Catalog α) (name : String) :
    catalog.names.contains name = catalog.contains name := by
  rw [Bool.eq_iff_iff, List.contains_iff_mem, mem_names_iff]

end Catalog

namespace MemoryStore

/-- A store is what it has under each name, besides its database and pings. -/
theorem ext_get? {first second : MemoryStore} (database : first.database = second.database)
    (pings : first.unavailablePings = second.unavailablePings)
    (agree : ∀ name, first.collections.get? name = second.collections.get? name) :
    first = second := by
  cases first
  cases second
  cases database
  cases pings
  cases Catalog.ext_get? agree
  rfl

variable (store : MemoryStore) (name : String)

theorem get?_set (collection : MemoryCollection) (other : String) :
    (store.set name collection).collections.get? other =
      if other = name then some collection else store.collections.get? other :=
  Catalog.get?_set store.collections name collection other

theorem collection_set (collection : MemoryCollection) (other : String) :
    (store.set name collection).collection other =
      if other = name then collection else store.collection other := by
  rw [MemoryStore.collection, get?_set, MemoryStore.collection]
  by_cases same : other = name <;> simp only [same, ↓reduceIte, Option.getD_some]

@[simp] theorem collection_set_self (collection : MemoryCollection) :
    (store.set name collection).collection name = collection := by
  rw [collection_set, if_pos rfl]

/-- Replacing a collection leaves the other ones alone. -/
theorem collection_set_of_ne (collection : MemoryCollection) {name other : String}
    (differ : other ≠ name) :
    (store.set name collection).collection other = store.collection other := by
  rw [collection_set, if_neg differ]

/-- The last replacement counts. -/
@[simp] theorem set_set (first second : MemoryCollection) :
    (store.set name first).set name second = store.set name second := by
  refine ext_get? rfl rfl fun other => ?_
  rw [get?_set, get?_set, get?_set]
  split <;> rfl

/-- A collection that is there is what is kept for it. -/
theorem collection_of_get? {store : MemoryStore} {name : String} {kept : MemoryCollection}
    (found : store.collections.get? name = some kept) : store.collection name = kept := by
  rw [MemoryStore.collection, found, Option.getD_some]

/-- Nothing is kept for a collection that is not there. -/
theorem collection_of_absent {store : MemoryStore} {name : String}
    (absent : ¬ store.collections.contains name = true) :
    store.collection name = .empty := by
  rw [Catalog.contains, Option.not_isSome_iff_eq_none] at absent
  rw [MemoryStore.collection, absent, Option.getD_none]

/-- Putting back what is kept for a collection that is there changes nothing. -/
theorem set_collection_of_contains {store : MemoryStore} {name : String}
    (there : store.collections.contains name = true) :
    store.set name (store.collection name) = store := by
  obtain ⟨kept, found⟩ := Option.isSome_iff_exists.mp there
  refine ext_get? rfl rfl fun other => ?_
  rw [get?_set, collection_of_get? found]
  split
  · next same => rw [same, found]
  · rfl

/-- Creating a collection puts down what is kept for it, and tells whether it was absent. -/
theorem answer_createCollection :
    store.answer (.createCollection name) =
      (.ok (if store.collections.contains name then .alreadyExists else .created),
        store.set name (store.collection name)) := by
  by_cases there : store.collections.contains name = true
  · simp only [answer, there, ↓reduceIte, set_collection_of_contains there]
  · simp only [answer, there, Bool.false_eq_true, ↓reduceIte, collection_of_absent there]

theorem answer_createIndex (spec : IndexSpec) :
    store.answer (.createIndex name spec) = store.change name spec.name
      fun collection => collection.createIndex name spec :=
  rfl

theorem answer_insertDocument (document : Document) :
    store.answer (.insertDocument name document) = store.change name ()
      fun collection => collection.insert name document :=
  rfl

variable {store name}

/-- A collection that has an index is there. -/
theorem contains_of_index_mem {index : ExistingIndex}
    (member : index ∈ (store.collection name).indexes) :
    store.collections.contains name = true := by
  refine Decidable.not_not.mp fun absent => ?_
  rw [collection_of_absent absent] at member
  cases member

/-- A created index is answered with its name. -/
theorem answer_createIndex_of_ok {collection : MemoryCollection} {spec : IndexSpec}
    (created : (store.collection name).createIndex name spec = .ok collection) :
    store.answer (.createIndex name spec) = (.ok spec.name, store.set name collection) := by
  simp only [answer, change, created]

/-- A refused creation is answered with its error. -/
theorem answer_createIndex_of_error {error : StoreError} {spec : IndexSpec}
    (refused : (store.collection name).createIndex name spec = .error error) :
    store.answer (.createIndex name spec) =
      (.error error, store.set name (store.collection name)) := by
  simp only [answer, change, refused]

/-- An inserted document is kept. -/
theorem answer_insertDocument_of_ok {collection : MemoryCollection} {document : Document}
    (inserted : (store.collection name).insert name document = .ok collection) :
    store.answer (.insertDocument name document) = (.ok (), store.set name collection) := by
  simp only [answer, change, inserted]

/-- A refused insertion is answered with its error. -/
theorem answer_insertDocument_of_error {error : StoreError} {document : Document}
    (refused : (store.collection name).insert name document = .error error) :
    store.answer (.insertDocument name document) =
      (.error error, store.set name (store.collection name)) := by
  simp only [answer, change, refused]

/-- A change is seen in its own collection, if it is granted. -/
theorem collection_change (store : MemoryStore) (name : String) (reply : α)
    (step : MemoryCollection → Except StoreError MemoryCollection) (other : String) :
    (store.change name reply step).2.collection other = store.collection other ∨
      other = name ∧ step (store.collection name) =
        .ok ((store.change name reply step).2.collection other) := by
  rw [change]
  cases outcome : step (store.collection name) with
  | error error =>
      refine Or.inl ?_
      rw [collection_set]
      split
      · next same => rw [same]
      · rfl
  | ok collection =>
      by_cases same : other = name
      · exact Or.inr ⟨same, by rw [collection_set, if_pos same]⟩
      · exact Or.inl (collection_set_of_ne store collection same)

/-- What a request does to a collection: it stays as it is, an index is created in it, or
a document is inserted into it. -/
theorem collection_answer (store : MemoryStore) (request : Request) (name : String) :
    (store.answer request).2.collection name = store.collection name ∨
      (∃ spec, request = .createIndex name spec ∧
        (store.collection name).createIndex name spec =
          .ok ((store.answer request).2.collection name)) ∨
      ∃ document, request = .insertDocument name document ∧
        (store.collection name).insert name document =
          .ok ((store.answer request).2.collection name) := by
  cases request with
  | ping =>
      rw [answer]
      split <;> exact Or.inl rfl
  | listCollections => exact Or.inl rfl
  | createCollection other =>
      refine Or.inl ?_
      rw [answer_createCollection, collection_set]
      split
      · next same => rw [same]
      · rfl
  | listIndexes other => exact Or.inl rfl
  | createIndex other spec =>
      rcases store.collection_change other spec.name (fun collection =>
        collection.createIndex other spec) name with same | ⟨rfl, created⟩
      · exact Or.inl same
      · exact Or.inr (Or.inl ⟨spec, rfl, created⟩)
  | insertDocument other document =>
      rcases store.collection_change other () (fun collection =>
        collection.insert other document) name with same | ⟨rfl, inserted⟩
      · exact Or.inl same
      · exact Or.inr (Or.inr ⟨document, rfl, inserted⟩)

end MemoryStore

end SchemaBootstrap
