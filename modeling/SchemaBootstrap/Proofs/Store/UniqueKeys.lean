import SchemaBootstrap.Proofs.Store.Contents
import SchemaBootstrap.Proofs.Store.IndexCreation
import SchemaBootstrap.Proofs.Store.ProgramRun

/-! # Unique indexes of a store in memory

Every unique index separates the documents of its collection
(`MemoryStore.KeysUnique`). This holds of a store without collections, and each
request preserves it: the creation of an index looks at the documents that are there,
and the insertion of a document looks at the indexes that are there. A document is
refused exactly when one of the unique indexes would no longer separate the documents,
and the first such index is named.
-/

namespace SchemaBootstrap

namespace MemoryCollection

/-- Every unique index of a collection separates its documents. -/
def KeysUnique (collection : MemoryCollection) : Prop :=
  ∀ index ∈ collection.indexes, index.unique = true → index.Separates collection.documents

/-- A document can be added so that all unique indexes separate the documents. -/
def HasRoomFor (collection : MemoryCollection) (document : Document) : Prop :=
  ∀ index ∈ collection.indexes, index.unique = true →
    index.Separates (collection.documents ++ [document])

theorem keysUnique_empty : empty.KeysUnique :=
  List.forall_mem_nil _

variable {collection result : MemoryCollection}

/-- A created index leaves the keys unique. -/
theorem KeysUnique.createIndex (unique : collection.KeysUnique) {name : String}
    {spec : IndexSpec} (created : collection.createIndex name spec = .ok result) :
    result.KeysUnique := by
  obtain ⟨admitted, rfl⟩ := createIndex_eq_ok_iff.mp created
  rcases admitted with found | ⟨found, room⟩
  · rwa [withIndex_of_satisfied found]
  · rw [withIndex_of_missing found]
    refine List.forall_mem_append.mpr ⟨unique, List.forall_mem_singleton.mpr ?_⟩
    exact room

/-- Where the indexes separate the documents, an index is passed over exactly when it
would still separate them with the new document. -/
theorem KeysUnique.passes_iff (unique : collection.KeysUnique) {index : ExistingIndex}
    (member : index ∈ collection.indexes) (document : Document) :
    (index.unique && index.clashes collection.documents document) = false ↔
      (index.unique = true → index.Separates (collection.documents ++ [document])) := by
  rw [Bool.and_eq_false_imp]
  refine forall_congr' fun restricts => ?_
  rw [ExistingIndex.separates_append_singleton]
  exact ⟨fun fresh => ⟨unique index member restricts, fresh⟩, And.right⟩

/-- A document violates no index if there is room for its key under each unique one. -/
theorem KeysUnique.violated?_eq_none_iff (unique : collection.KeysUnique)
    (document : Document) :
    collection.violated? document = none ↔ collection.HasRoomFor document := by
  rw [violated?, List.find?_eq_none]
  refine forall₂_congr fun index member => ?_
  rw [Bool.not_eq_true, unique.passes_iff member]

/-- The violated index is the first unique one under which the key of the document is taken. -/
theorem KeysUnique.violated?_eq_some_iff (unique : collection.KeysUnique)
    (document : Document) (index : ExistingIndex) :
    collection.violated? document = some index ↔
      ∃ earlier later, collection.indexes = earlier ++ index :: later ∧
        index.unique = true ∧ ¬ index.Separates (collection.documents ++ [document]) ∧
        ∀ other ∈ earlier, other.unique = true →
          other.Separates (collection.documents ++ [document]) := by
  rw [violated?, List.find?_eq_some_iff_append, ← exists_and_left]
  refine exists_congr fun earlier => ?_
  rw [← exists_and_left]
  refine exists_congr fun later => ?_
  rw [and_left_comm]
  refine and_congr_right fun split => ?_
  have member : index ∈ collection.indexes := split ▸ List.mem_append_right _ List.mem_cons_self
  have inside : ∀ other ∈ earlier, other ∈ collection.indexes :=
    fun other before => split ▸ List.mem_append_left _ before
  rw [← and_assoc, ← Classical.not_imp, ← unique.passes_iff member, Bool.not_eq_false]
  refine and_congr_right fun _ => forall₂_congr fun other before => ?_
  rw [Bool.not_eq_true', unique.passes_iff (inside other before)]

/-- An insertion succeeds if no index is violated, and puts the document behind the others. -/
theorem insert_eq_ok_iff {name : String} {document : Document} :
    collection.insert name document = .ok result ↔
      collection.violated? document = none ∧
        result = { collection with documents := collection.documents ++ [document] } := by
  rw [MemoryCollection.insert]
  cases collection.violated? document with
  | some index => simp only [reduceCtorEq, false_and]
  | none =>
      simp only [Except.ok.injEq, true_and]
      exact eq_comm

/-- An inserted document leaves the keys unique. -/
theorem KeysUnique.insert (unique : collection.KeysUnique) {name : String}
    {document : Document} (inserted : collection.insert name document = .ok result) :
    result.KeysUnique := by
  obtain ⟨found, rfl⟩ := insert_eq_ok_iff.mp inserted
  exact (unique.violated?_eq_none_iff document).mp found

end MemoryCollection

namespace MemoryStore

/-- Every unique index of every collection separates its documents. -/
def KeysUnique (store : MemoryStore) : Prop :=
  ∀ name, (store.collection name).KeysUnique

theorem keysUnique_empty (database : String) (pings : Nat) :
    (empty database pings).KeysUnique :=
  fun _ => MemoryCollection.keysUnique_empty

variable {store : MemoryStore}

/-- Every request preserves the uniqueness of keys. -/
theorem KeysUnique.answer (unique : store.KeysUnique) (request : Request) :
    (store.answer request).2.KeysUnique := by
  intro name
  rcases store.collection_answer request name with
    same | ⟨spec, -, created⟩ | ⟨document, -, inserted⟩
  · rw [same]
    exact unique name
  · exact (unique name).createIndex created
  · exact (unique name).insert inserted

/-- Keys stay unique in the course of requests. -/
theorem KeysUnique.after (unique : store.KeysUnique) (history : List Request) :
    (asStore.after history store).KeysUnique :=
  asStore.invariant_after (fun _ request unique => unique.answer request) history unique

/-- Indexes stay where they are; new ones come at the end. -/
theorem indexes_prefix_answer (store : MemoryStore) (request : Request) (name : String) :
    (store.collection name).indexes <+:
      ((store.answer request).2.collection name).indexes := by
  rcases store.collection_answer request name with
    same | ⟨spec, -, created⟩ | ⟨document, -, inserted⟩
  · simp only [same, List.prefix_rfl]
  · rw [(MemoryCollection.createIndex_eq_ok_iff.mp created).2]
    exact MemoryCollection.indexes_prefix_withIndex _ spec
  · simp only [(MemoryCollection.insert_eq_ok_iff.mp inserted).2, List.prefix_rfl]

/-- No request takes an index away or puts one before it. -/
theorem indexes_prefix_after (store : MemoryStore) (history : List Request) (name : String) :
    (store.collection name).indexes <+:
      ((asStore.after history store).collection name).indexes := by
  induction history generalizing store with
  | nil => exact List.prefix_rfl
  | cons request rest ih => exact (store.indexes_prefix_answer request name).trans (ih _)

/-- The insertion of a document is refused on behalf of the first unique index that would
no longer separate the documents, and adds the document at the end if there is none. -/
theorem KeysUnique.answer_insertDocument (unique : store.KeysUnique) (name : String)
    (document : Document) :
    ((store.collection name).HasRoomFor document ∧
      store.answer (.insertDocument name document) =
        (.ok (), store.set name { store.collection name with
          documents := store.documents name ++ [document] })) ∨
    ∃ earlier index later, (store.collection name).indexes = earlier ++ index :: later ∧
      index.unique = true ∧ ¬ index.Separates (store.documents name ++ [document]) ∧
      (∀ other ∈ earlier, other.unique = true →
        other.Separates (store.documents name ++ [document])) ∧
      store.answer (.insertDocument name document) =
        (.error (.duplicateKey name ("E11000 duplicate key error index: " ++ index.name)),
          store) := by
  cases found : (store.collection name).violated? document with
  | none =>
      refine Or.inl ⟨((unique name).violated?_eq_none_iff document).mp found, ?_⟩
      exact answer_insertDocument_of_ok (MemoryCollection.insert_eq_ok_iff.mpr ⟨found, rfl⟩)
  | some index =>
      obtain ⟨earlier, later, split, restricts, broken, passed⟩ :=
        ((unique name).violated?_eq_some_iff document index).mp found
      refine Or.inr ⟨earlier, index, later, split, restricts, broken, passed, ?_⟩
      have refused : (store.collection name).insert name document =
          .error (.duplicateKey name ("E11000 duplicate key error index: " ++ index.name)) := by
        simp only [MemoryCollection.insert, found]
      rw [answer_insertDocument_of_error refused]
      have member : index ∈ (store.collection name).indexes :=
        split ▸ List.mem_append_right _ List.mem_cons_self
      rw [set_collection_of_contains (contains_of_index_mem member)]

/-- **Unique keys.** After any requests to a store that was empty at first, whoever made
them: indexes have come at the end, every unique index separates the documents of its
collection, and the insertion of a document is refused exactly when it would end this, on
behalf of the first index for which it would. -/
theorem unique_keys_after (database : String) (pings : Nat) (history : List Request) :
    let store := asStore.after history (.empty database pings)
    (∀ earlier later, history = earlier ++ later → ∀ name,
      ((asStore.after earlier (.empty database pings)).collection name).indexes <+:
        (store.collection name).indexes) ∧
    (∀ name, ∀ index ∈ (store.collection name).indexes, index.unique = true →
      index.Separates (store.documents name) ∧
      ∀ (i j : Nat) (first second : Document), (store.documents name)[i]? = some first →
        (store.documents name)[j]? = some second → i ≠ j → Bson.ProperFields first →
        Bson.ProperFields second → index.sameKey first second = false) ∧
    ∀ name document,
      ((∀ index ∈ (store.collection name).indexes, index.unique = true →
          index.Separates (store.documents name ++ [document])) ∧
        store.answer (.insertDocument name document) =
          (.ok (), store.set name { store.collection name with
            documents := store.documents name ++ [document] })) ∨
      ∃ earlier index later, (store.collection name).indexes = earlier ++ index :: later ∧
        index.unique = true ∧ ¬ index.Separates (store.documents name ++ [document]) ∧
        (∀ other ∈ earlier, other.unique = true →
          other.Separates (store.documents name ++ [document])) ∧
        store.answer (.insertDocument name document) =
          (.error (.duplicateKey name ("E11000 duplicate key error index: " ++ index.name)),
            store) := by
  intro store
  have unique : store.KeysUnique := (keysUnique_empty database pings).after history
  refine ⟨fun earlier later split name => ?_, fun name index member restricts => ?_,
    unique.answer_insertDocument⟩
  · have reached : store = asStore.after later (asStore.after earlier (.empty database pings)) := by
      rw [← asStore.after_append, ← split]
    rw [reached]
    exact indexes_prefix_after _ later name
  · have separated := unique name index member restricts
    exact ⟨separated, fun i j first second found found' differ =>
      separated.sameKey_eq_false found found' differ⟩

end MemoryStore

end SchemaBootstrap
