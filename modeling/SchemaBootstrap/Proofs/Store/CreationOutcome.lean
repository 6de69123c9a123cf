import SchemaBootstrap.Proofs.Store.Refusals

/-! # What becomes of the creation of an index

Whoever looks at the indexes of a collection can tell what the store will answer to the
creation of another one: the presence of the index among them decides
(`MemoryStore.createIndex_cases`). Only whether a missing unique index can be built depends on
the documents as well. Conversely the answer, together with what it leaves of the collection,
tells what the presence was (`MemoryStore.presence_foretells_creation`).
-/

namespace SchemaBootstrap

open IndexPresence

/-- A collection with one more index is another one. -/
theorem MemoryCollection.append_index_ne (collection : MemoryCollection) (index : ExistingIndex) :
    { collection with indexes := collection.indexes ++ [index] } ≠ collection := by
  intro same
  have longer := congrArg (fun kept => kept.indexes.length) same
  simp only [List.length_append, List.length_singleton] at longer
  omega

namespace MemoryStore

variable {store : MemoryStore} {name : String} {spec : IndexSpec}

/-- The creation of an index that is satisfied changes nothing. -/
theorem answer_createIndex_of_satisfied
    (found : classify (store.collection name).indexes spec = .satisfied) :
    store.answer (.createIndex name spec) = (.ok spec.name, store) := by
  obtain ⟨index, named, -⟩ := (classify_eq_satisfied_iff _ spec).mp found
  have there := contains_of_index_mem (List.mem_of_find?_eq_some named)
  rw [answer_createIndex_of_ok (MemoryCollection.createIndex_of_satisfied found),
    set_collection_of_contains there]

/-- A refused creation leaves the store as it is. -/
theorem answer_createIndex_eq_error {error : StoreError}
    (refused : (store.collection name).createIndex name spec = .error error) :
    store.answer (.createIndex name spec) = (.error error, store) := by
  have answered := answer_createIndex_of_error refused
  have kept := (refusal_cases answered).resolve_left nofun
  rw [answered, kept.1]

/-- What becomes of the creation of an index, by its presence and, if it is missing and
unique, by the documents. -/
theorem createIndex_cases (store : MemoryStore) (name : String) (spec : IndexSpec) :
    (classify (store.collection name).indexes spec = .satisfied ∧
      store.answer (.createIndex name spec) = (.ok spec.name, store)) ∨
    (∃ actual detail, classify (store.collection name).indexes spec = .mismatched actual ∧
      store.answer (.createIndex name spec) =
        (.error (.indexConflict name spec.name detail), store)) ∨
    (classify (store.collection name).indexes spec = .missing ∧
      (spec.unique = true → (ExistingIndex.ofSpec spec).Separates (store.documents name)) ∧
      store.answer (.createIndex name spec) =
        (.ok spec.name, store.set name { store.collection name with
          indexes := (store.collection name).indexes ++ [.ofSpec spec] })) ∨
    (classify (store.collection name).indexes spec = .missing ∧ spec.unique = true ∧
      ¬ (ExistingIndex.ofSpec spec).Separates (store.documents name) ∧
      ∃ detail, store.answer (.createIndex name spec) =
        (.error (.duplicateKey name detail), store)) := by
  cases found : classify (store.collection name).indexes spec with
  | satisfied => exact Or.inl ⟨rfl, answer_createIndex_of_satisfied found⟩
  | mismatched actual =>
      obtain ⟨detail, refused⟩ := MemoryCollection.createIndex_of_mismatched name found
      exact Or.inr (Or.inl ⟨actual, detail, rfl, answer_createIndex_eq_error refused⟩)
  | missing =>
      refine Or.inr (Or.inr ?_)
      have outcome : (store.collection name).createIndex name spec = _ :=
        MemoryCollection.createIndex_of_missing found
      cases built : spec.unique && (ExistingIndex.ofSpec spec).repeatsKey []
          (store.collection name).documents with
      | false =>
          rw [built, if_neg Bool.false_ne_true] at outcome
          refine Or.inl ⟨rfl, fun unique => ?_, answer_createIndex_of_ok outcome⟩
          rw [unique, Bool.true_and] at built
          exact (ExistingIndex.repeatsKey_nil_eq_false_iff _ _).mp built
      | true =>
          rw [built, if_pos rfl] at outcome
          obtain ⟨unique, repeats⟩ := Bool.and_eq_true_iff.mp built
          refine Or.inr ⟨rfl, unique, fun separated => ?_, _, answer_createIndex_eq_error outcome⟩
          have fresh := (ExistingIndex.repeatsKey_nil_eq_false_iff _ _).mpr separated
          cases repeats.symm.trans fresh

/-- **Presence foretells creation.** Take the indexes that a store lists for a collection, and
any specification. It is satisfied exactly when the store grants its creation and leaves the
collection as it is; mismatched exactly when the creation is refused as a conflict of indexes;
and missing exactly when the creation either adds just the index of the specification at the
end, or is refused on behalf of a key that two documents share. The latter happens exactly to
a missing unique index under which two of the documents have the same key. -/
theorem presence_foretells_creation (store : MemoryStore) (name : String) (spec : IndexSpec) :
    let collection := store.collection name
    let presence := classify collection.indexes spec
    let answered := store.answer (.createIndex name spec)
    let later := answered.2.collection name
    store.answer (.listIndexes name) = (.ok collection.indexes, store) ∧
    (presence = .satisfied ↔ (∃ reply, answered.1 = .ok reply) ∧ later = collection) ∧
    ((∃ actual, presence = .mismatched actual) ↔
      ∃ about index detail, answered.1 = .error (.indexConflict about index detail)) ∧
    (presence = .missing ↔
      ((∃ reply, answered.1 = .ok reply) ∧
        later = { collection with indexes := collection.indexes ++ [.ofSpec spec] }) ∨
      ∃ about detail, answered.1 = .error (.duplicateKey about detail)) ∧
    ((∃ about detail, answered.1 = .error (.duplicateKey about detail)) ↔
      presence = .missing ∧ spec.unique = true ∧
        ∃ (i j : Nat) (first second : Document), i < j ∧
          collection.documents[i]? = some first ∧ collection.documents[j]? = some second ∧
          (ExistingIndex.ofSpec spec).sameKey first second = true) := by
  intro collection presence answered later
  refine ⟨rfl, ?_⟩
  rw [← ExistingIndex.not_separates_iff]
  have grown := collection.append_index_ne (.ofSpec spec)
  -- The four outcomes exclude each other, so each equivalence is decided by the one at hand.
  rcases store.createIndex_cases name spec with
    ⟨found, made⟩ | ⟨actual, detail, found, made⟩ | ⟨found, separated, made⟩ |
      ⟨found, unique, crowded, detail, made⟩
  · have same : later = collection := congrArg (fun outcome => outcome.2.collection name) made
    have present : presence = .satisfied := found
    have replied : answered.1 = .ok spec.name := congrArg Prod.fst made
    simp only [present, replied, same, grown.symm, reduceCtorEq, Except.ok.injEq, exists_eq',
      exists_false, and_self, and_false, false_and, or_self]
  · have present : presence = .mismatched actual := found
    have replied : answered.1 = .error (.indexConflict name spec.name detail) :=
      congrArg Prod.fst made
    simp only [present, replied, reduceCtorEq, IndexPresence.mismatched.injEq, Except.error.injEq,
      StoreError.indexConflict.injEq, exists_eq', exists_false, exists_and_left, and_true,
      false_and, or_self]
  · have added : later = { collection with indexes := collection.indexes ++ [.ofSpec spec] } := by
      change (store.answer (.createIndex name spec)).2.collection name = _
      rw [made, collection_set_self]
    have present : presence = .missing := found
    have replied : answered.1 = .ok spec.name := congrArg Prod.fst made
    simp only [present, replied, added, grown, reduceCtorEq, Except.ok.injEq, exists_eq',
      exists_false, and_self, and_false, or_false, true_and, false_iff, not_and, not_not]
    exact separated
  · have present : presence = .missing := found
    have replied : answered.1 = .error (.duplicateKey name detail) := congrArg Prod.fst made
    have shared : ¬ (ExistingIndex.ofSpec spec).Separates collection.documents := crowded
    simp only [present, replied, unique, shared, reduceCtorEq, Except.error.injEq,
      StoreError.duplicateKey.injEq, exists_eq', exists_false, exists_and_left, not_false_eq_true,
      and_self, and_true, false_and, or_true]

end MemoryStore

end SchemaBootstrap
