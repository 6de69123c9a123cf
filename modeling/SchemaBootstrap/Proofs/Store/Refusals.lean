import SchemaBootstrap.Proofs.Store.UniqueKeys

/-! # Refused requests

A collection comes into being as soon as an index or a document is to be put into it, before
anything is checked. Yet a refusal never leaves one behind: in a collection without indexes
and documents nothing stands in the way (`MemoryCollection.createIndex_empty`,
`MemoryCollection.insert_empty`), so only a collection that was there can refuse. Except for
a ping, which is counted, a refused request leaves the store as it was
(`MemoryStore.refused_leaves_store`).
-/

namespace SchemaBootstrap

namespace MemoryCollection

variable (name : String)

/-- An empty collection takes every index. -/
theorem createIndex_empty (spec : IndexSpec) :
    empty.createIndex name spec = .ok ⟨[.ofSpec spec], []⟩ := by
  have missing : IndexPresence.classify empty.indexes spec = .missing := rfl
  have fits : (ExistingIndex.ofSpec spec).Separates empty.documents :=
    ExistingIndex.separates_nil _
  rw [createIndex_of_admits (Or.inr ⟨missing, fun _ => fits⟩), withIndex_of_missing missing]
  rfl

/-- An empty collection takes every document. -/
theorem insert_empty (document : Document) :
    empty.insert name document = .ok ⟨[], [document]⟩ :=
  rfl

end MemoryCollection

namespace MemoryStore

variable {store : MemoryStore} {name : String}

/-- A change that would be made to an empty collection is refused by one that is there only,
and a refusal changes nothing. -/
theorem change_eq_error {reply : α} {step : MemoryCollection → Except StoreError MemoryCollection}
    {begun : MemoryCollection} (begins : step .empty = .ok begun) {error : StoreError}
    {later : MemoryStore} (refused : store.change name reply step = (.error error, later)) :
    later = store ∧ store.collections.contains name = true := by
  unfold change at refused
  have there : store.collections.contains name = true := by
    by_contra absent
    simp only [collection_of_absent absent, begins, Prod.mk.injEq, reduceCtorEq,
      false_and] at refused
  refine ⟨?_, there⟩
  cases outcome : step (store.collection name) with
  | ok changed => simp only [outcome, Prod.mk.injEq, reduceCtorEq, false_and] at refused
  | error reason =>
      simp only [outcome, Prod.mk.injEq] at refused
      rw [← refused.2, set_collection_of_contains there]

/-- A collection that is absent comes into being with its first change. -/
theorem change_of_absent {reply : α} {step : MemoryCollection → Except StoreError MemoryCollection}
    {begun : MemoryCollection} (begins : step .empty = .ok begun)
    (absent : store.collections.contains name = false) :
    store.change name reply step = (.ok reply, store.set name begun) := by
  have nothing : store.collection name = .empty :=
    collection_of_absent (Bool.eq_false_iff.mp absent)
  unfold change
  rw [nothing, begins]

/-- A refusal is that of a ping, or it leaves the store as it is, with the collection that it is
about there. -/
theorem refusal_cases {request : Request} {error : StoreError} {later : MemoryStore}
    (refused : store.answer request = (.error error, later)) :
    request = .ping ∨ later = store ∧ ∃ name, store.collections.contains name = true ∧
      ((∃ spec, request = .createIndex name spec) ∨
        ∃ document, request = .insertDocument name document) := by
  cases request with
  | ping => exact Or.inl rfl
  | listCollections => cases refused
  | createCollection name =>
      rw [answer_createCollection] at refused
      cases refused
  | listIndexes name => cases refused
  | createIndex name spec =>
      rw [answer_createIndex] at refused
      have kept := change_eq_error (MemoryCollection.createIndex_empty name spec) refused
      exact Or.inr ⟨kept.1, name, kept.2, Or.inl ⟨spec, rfl⟩⟩
  | insertDocument name document =>
      rw [answer_insertDocument] at refused
      have kept := change_eq_error (MemoryCollection.insert_empty name document) refused
      exact Or.inr ⟨kept.1, name, kept.2, Or.inr ⟨document, rfl⟩⟩

/-- **Refused requests.** In any state of a store, a refused request other than a ping leaves
the store as it was, and asks to create an index in a collection that is there or to insert a
document into one. Where a collection is not there, both are granted and it comes into being
with the index or the document alone; the creation of a collection is always granted. -/
theorem refused_leaves_store (store : MemoryStore) :
    (∀ request error later, request ≠ .ping → store.answer request = (.error error, later) →
      later = store ∧ ∃ name, store.collections.contains name = true ∧
        ((∃ spec, request = .createIndex name spec) ∨
          ∃ document, request = .insertDocument name document)) ∧
    (∀ name, store.collections.contains name = false →
      (∀ spec, store.answer (.createIndex name spec) =
        (.ok spec.name, store.set name ⟨[.ofSpec spec], []⟩)) ∧
      ∀ document, store.answer (.insertDocument name document) =
        (.ok (), store.set name ⟨[], [document]⟩)) ∧
    ∀ name, store.answer (.createCollection name) =
      (.ok (if store.collections.contains name then .alreadyExists else .created),
        store.set name (store.collection name)) := by
  refine ⟨?_, ?_, fun name => answer_createCollection store name⟩
  · intro request error later asked refused
    exact (refusal_cases refused).resolve_left asked
  · intro name absent
    refine ⟨fun spec => ?_, fun document => ?_⟩
    · rw [answer_createIndex]
      exact change_of_absent (MemoryCollection.createIndex_empty name spec) absent
    · rw [answer_insertDocument]
      exact change_of_absent (MemoryCollection.insert_empty name document) absent

end MemoryStore

end SchemaBootstrap
