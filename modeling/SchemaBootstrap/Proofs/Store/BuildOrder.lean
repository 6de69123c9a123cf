import SchemaBootstrap.Proofs.Store.Recreation
import SchemaBootstrap.Proofs.Store.Refusals

/-! # An index before or after the documents

A unique index is enforced in two ways: its creation scans the documents that are there, and
the insertion of a document looks at the indexes that are there. Inserting documents one after
the other amounts to going on with the scan of each unique index from the documents that were
there before (`MemoryCollection.TakesAll`, `MemoryStore.grantsAll_inserts_iff`), and a scan can
be interrupted anywhere (`ExistingIndex.repeatsKey_append`). So it makes no difference whether
an index is created before or after documents are inserted
(`MemoryStore.create_before_or_after_inserts`).
-/

namespace SchemaBootstrap

namespace MemoryCollection

open IndexPresence

/-- A collection with further documents at the end. -/
def withDocuments (collection : MemoryCollection) (documents : List Document) :
    MemoryCollection :=
  { collection with documents := collection.documents ++ documents }

/-- No unique index meets a key twice among documents that are added one after the other. -/
def TakesAll (collection : MemoryCollection) (documents : List Document) : Prop :=
  ∀ index ∈ collection.indexes, index.unique = true →
    index.repeatsKey collection.documents documents = false

variable {collection : MemoryCollection} {spec : IndexSpec}

theorem takesAll_nil (collection : MemoryCollection) : collection.TakesAll [] :=
  fun _ _ _ => rfl

theorem withDocuments_nil (collection : MemoryCollection) :
    collection.withDocuments [] = collection := by
  rw [withDocuments, List.append_nil]

theorem withDocuments_append (collection : MemoryCollection) (first second : List Document) :
    (collection.withDocuments first).withDocuments second =
      collection.withDocuments (first ++ second) := by
  simp only [withDocuments, List.append_assoc]

/-- A document violates no index if it clashes under none of the unique ones. -/
theorem violated?_eq_none_iff (document : Document) :
    collection.violated? document = none ↔ ∀ index ∈ collection.indexes, index.unique = true →
      index.clashes collection.documents document = false := by
  rw [violated?, List.find?_eq_none]
  refine forall₂_congr fun index member => ?_
  rw [Bool.not_eq_true, Bool.and_eq_false_imp]

/-- The first of some documents is looked at beside those that are there, the others beside
this one as well. -/
theorem takesAll_cons (document : Document) (rest : List Document) :
    collection.TakesAll (document :: rest) ↔
      collection.violated? document = none ∧
        (collection.withDocuments [document]).TakesAll rest := by
  rw [violated?_eq_none_iff]
  constructor
  · intro taken
    have parts := fun index member unique =>
      Bool.or_eq_false_iff.mp (taken index member unique)
    exact ⟨fun index member unique => (parts index member unique).1,
      fun index member unique => (parts index member unique).2⟩
  · rintro ⟨fresh, others⟩ index member unique
    rw [ExistingIndex.repeatsKey, fresh index member unique, Bool.false_or]
    exact others index member unique

/-- An index and documents can be put into a collection in either order. -/
theorem withIndex_withDocuments (collection : MemoryCollection) (spec : IndexSpec)
    (documents : List Document) :
    (collection.withDocuments documents).withIndex spec =
      (collection.withIndex spec).withDocuments documents := by
  by_cases taken : spec.name ∈ collection.indexes.map ExistingIndex.name
  · rw [withIndex, withIndex, if_pos taken]
    exact if_pos taken
  · rw [withIndex, withIndex, if_neg taken]
    exact if_neg taken

/-- A new unique index goes on with its own scan of the documents. -/
theorem takesAll_withIndex_iff
    (clear : ∀ actual, classify collection.indexes spec ≠ .mismatched actual)
    (documents : List Document) :
    (collection.withIndex spec).TakesAll documents ↔
      collection.TakesAll documents ∧
        (spec.unique = true → classify collection.indexes spec = .missing →
          (ExistingIndex.ofSpec spec).repeatsKey collection.documents documents = false) := by
  cases found : classify collection.indexes spec with
  | satisfied =>
      rw [withIndex_of_satisfied found]
      simp only [reduceCtorEq, false_implies, implies_true, and_true]
  | mismatched actual => exact absurd found (clear actual)
  | missing =>
      rw [withIndex_of_missing found]
      simp only [TakesAll, List.forall_mem_append, List.forall_mem_singleton, true_implies]
      rfl

/-- A collection takes documents and then admits an index exactly when it admits the index and
then takes the documents. -/
theorem takesAll_and_admits_iff (collection : MemoryCollection) (spec : IndexSpec)
    (documents : List Document) :
    collection.TakesAll documents ∧ (collection.withDocuments documents).Admits spec ↔
      collection.Admits spec ∧ (collection.withIndex spec).TakesAll documents := by
  rw [admits_iff, admits_iff]
  constructor
  · rintro ⟨taken, clear, separated⟩
    have parts := fun unique missing =>
      (ExistingIndex.separates_append _ _ _).mp (separated unique missing)
    have unobstructed : ∀ actual, classify collection.indexes spec ≠ .mismatched actual := clear
    refine ⟨⟨clear, fun unique missing => (parts unique missing).1⟩, ?_⟩
    rw [takesAll_withIndex_iff unobstructed]
    exact ⟨taken, fun unique missing => (parts unique missing).2⟩
  · rintro ⟨⟨clear, separated⟩, taken⟩
    obtain ⟨taken, fresh⟩ := (takesAll_withIndex_iff clear documents).mp taken
    refine ⟨taken, clear, fun unique missing => ?_⟩
    exact (ExistingIndex.separates_append _ _ _).mpr
      ⟨separated unique missing, fresh unique missing⟩

end MemoryCollection

namespace MemoryStore

variable {store : MemoryStore} {name : String}

/-- The creation of an index is granted if the collection admits it. -/
theorem granted_createIndex_iff (spec : IndexSpec) :
    (∃ reply, (store.answer (.createIndex name spec)).1 = .ok reply) ↔
      (store.collection name).Admits spec := by
  constructor
  · rintro ⟨reply, granted⟩
    have answered : store.answer (.createIndex name spec) =
        (.ok reply, (store.answer (.createIndex name spec)).2) := Prod.ext granted rfl
    exact (answer_createIndex_eq_ok_iff.mp answered).1
  · intro admitted
    rw [answer_createIndex_of_ok (MemoryCollection.createIndex_of_admits admitted)]
    exact ⟨_, rfl⟩

theorem answer_insertDocument_of_fits {document : Document}
    (fits : (store.collection name).violated? document = none) :
    store.answer (.insertDocument name document) =
      (.ok (), store.set name ((store.collection name).withDocuments [document])) :=
  answer_insertDocument_of_ok (MemoryCollection.insert_eq_ok_iff.mpr ⟨fits, rfl⟩)

/-- An insertion is granted if it violates no index. -/
theorem granted_insertDocument_iff (document : Document) :
    (∃ reply, (store.answer (.insertDocument name document)).1 = .ok reply) ↔
      (store.collection name).violated? document = none := by
  constructor
  · rintro ⟨reply, granted⟩
    cases outcome : (store.collection name).insert name document with
    | ok result => exact (MemoryCollection.insert_eq_ok_iff.mp outcome).1
    | error error =>
        rw [answer_insertDocument_of_error outcome] at granted
        cases granted
  · intro fits
    rw [answer_insertDocument_of_fits fits]
    exact ⟨_, rfl⟩

/-- The insertion of documents into a collection, one after the other. -/
def inserts (name : String) (documents : List Document) : List Request :=
  documents.map (.insertDocument name)

/-- Insertions are all granted if the collection takes all documents. -/
theorem grantsAll_inserts_iff (store : MemoryStore) (name : String) (documents : List Document) :
    asStore.GrantsAll (inserts name documents) store ↔
      (store.collection name).TakesAll documents := by
  induction documents generalizing store with
  | nil => exact iff_of_true trivial (MemoryCollection.takesAll_nil _)
  | cons document rest ih =>
      rw [MemoryCollection.takesAll_cons, ← granted_insertDocument_iff]
      refine and_congr_right fun granted => ?_
      have fits := (granted_insertDocument_iff document).mp granted
      refine (ih _).trans ?_
      change ((store.answer (.insertDocument name document)).2.collection name).TakesAll rest ↔ _
      rw [answer_insertDocument_of_fits fits, collection_set_self]

/-- After insertions, a collection has the documents behind its own. -/
theorem collection_after_inserts (documents : List Document)
    (taken : (store.collection name).TakesAll documents) :
    (asStore.after (inserts name documents) store).collection name =
      (store.collection name).withDocuments documents := by
  induction documents generalizing store with
  | nil => exact (MemoryCollection.withDocuments_nil _).symm
  | cons document rest ih =>
      obtain ⟨fits, others⟩ := (MemoryCollection.takesAll_cons document rest).mp taken
      change (asStore.after (inserts name rest)
        (store.answer (.insertDocument name document)).2).collection name = _
      rw [answer_insertDocument_of_fits fits, ih (by rwa [collection_set_self]),
        collection_set_self, MemoryCollection.withDocuments_append, List.singleton_append]

/-- Insertions change one collection only. -/
theorem set_after_inserts (store : MemoryStore) (name : String) (documents : List Document)
    (collection : MemoryCollection) :
    (asStore.after (inserts name documents) store).set name collection =
      store.set name collection := by
  induction documents generalizing store with
  | nil => rfl
  | cons document rest ih =>
      refine (ih _).trans ?_
      change (store.answer (.insertDocument name document)).2.set name collection = _
      rw [answer_insertDocument, change]
      split <;> exact set_set store name _ collection

/-- Insertions with a creation behind them are granted if the documents are taken and the index is
admitted after that. -/
theorem grantsAll_inserts_create_iff (store : MemoryStore) (name : String) (spec : IndexSpec)
    (documents : List Document) :
    asStore.GrantsAll (inserts name documents ++ [.createIndex name spec]) store ↔
      (store.collection name).TakesAll documents ∧
        ((store.collection name).withDocuments documents).Admits spec := by
  rw [Store.grantsAll_append, grantsAll_inserts_iff]
  refine and_congr_right fun taken => ?_
  rw [← collection_after_inserts documents taken, ← granted_createIndex_iff]
  exact and_iff_left trivial

/-- A creation with insertions behind it is granted if the index is admitted and the documents are
taken after that. -/
theorem grantsAll_create_inserts_iff (store : MemoryStore) (name : String) (spec : IndexSpec)
    (documents : List Document) :
    asStore.GrantsAll (.createIndex name spec :: inserts name documents) store ↔
      (store.collection name).Admits spec ∧
        ((store.collection name).withIndex spec).TakesAll documents := by
  rw [Store.GrantsAll, ← granted_createIndex_iff]
  refine and_congr_right fun granted => (grantsAll_inserts_iff _ name documents).trans ?_
  have admitted := (granted_createIndex_iff spec).mp granted
  change ((store.answer (.createIndex name spec)).2.collection name).TakesAll documents ↔ _
  rw [answer_createIndex_of_ok (MemoryCollection.createIndex_of_admits admitted),
    collection_set_self]

/-- What insertions and a creation behind them leave is the collection with both. -/
theorem after_inserts_create {spec : IndexSpec} {documents : List Document}
    (taken : (store.collection name).TakesAll documents)
    (admitted : ((store.collection name).withDocuments documents).Admits spec) :
    asStore.after (inserts name documents ++ [.createIndex name spec]) store =
      store.set name (((store.collection name).withDocuments documents).withIndex spec) := by
  rw [← collection_after_inserts documents taken] at admitted ⊢
  rw [asStore.after_append, ← set_after_inserts store name documents]
  change ((asStore.after (inserts name documents) store).answer (.createIndex name spec)).2 = _
  rw [answer_createIndex_of_ok (MemoryCollection.createIndex_of_admits admitted)]

/-- What a creation and insertions behind it leave is the collection with both. -/
theorem after_create_inserts {spec : IndexSpec} {documents : List Document}
    (admitted : (store.collection name).Admits spec)
    (taken : ((store.collection name).withIndex spec).TakesAll documents) :
    asStore.after (.createIndex name spec :: inserts name documents) store =
      store.set name (((store.collection name).withIndex spec).withDocuments documents) := by
  change asStore.after (inserts name documents) (store.answer (.createIndex name spec)).2 = _
  rw [answer_createIndex_of_ok (MemoryCollection.createIndex_of_admits admitted)]
  generalize made : store.set name ((store.collection name).withIndex spec) = created
  have kept : created.collection name = (store.collection name).withIndex spec := by
    rw [← made, collection_set_self]
  -- The collection is there even if no document is inserted, so putting it back is harmless.
  have there : (asStore.after (inserts name documents) created).collections.contains name =
      true := (grows_after created _).contains name (made ▸ contains_set_self store name _)
  rw [← set_collection_of_contains there, set_after_inserts,
    collection_after_inserts documents (kept ▸ taken), kept, ← made, set_set]

/-- **An index before or after the documents.** In any state of a store, documents can be
inserted into a collection and an index be created there afterwards without a refusal exactly
when the index can be created first and the documents be inserted afterwards. Both ways lead
to the same store. -/
theorem create_before_or_after_inserts (store : MemoryStore) (name : String) (spec : IndexSpec)
    (documents : List Document) :
    let documentsFirst := inserts name documents ++ [.createIndex name spec]
    let indexFirst := .createIndex name spec :: inserts name documents
    (asStore.GrantsAll documentsFirst store ↔ asStore.GrantsAll indexFirst store) ∧
      (asStore.GrantsAll documentsFirst store →
        asStore.after documentsFirst store = asStore.after indexFirst store) := by
  intro documentsFirst indexFirst
  rw [grantsAll_inserts_create_iff, grantsAll_create_inserts_iff]
  have agree := (store.collection name).takesAll_and_admits_iff spec documents
  refine ⟨agree, fun documents_first => ?_⟩
  have index_first := agree.mp documents_first
  calc asStore.after documentsFirst store
      = store.set name (((store.collection name).withDocuments documents).withIndex spec) :=
        after_inserts_create documents_first.1 documents_first.2
    _ = store.set name (((store.collection name).withIndex spec).withDocuments documents) := by
        rw [MemoryCollection.withIndex_withDocuments]
    _ = asStore.after indexFirst store :=
        (after_create_inserts index_first.1 index_first.2).symm

end MemoryStore

end SchemaBootstrap
