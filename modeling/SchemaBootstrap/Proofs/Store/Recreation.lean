import SchemaBootstrap.Proofs.Store.Growth

/-! # Creating an index again

An index that a store has accepted stays in front of those that come later, so its
creation is answered again in the same way whatever happens in between. Whether the answer
is a success depends on how the index reads that was made from the specification: it is
as specified unless the specification repeats a path, because its key document has one
field for each path (`MemoryCollection.exists_named_withIndex`). So creating an index again
succeeds and changes nothing when its paths are different, and is refused as a conflict of
the index with itself when they are not (`MemoryStore.createIndex_again`).
-/

namespace SchemaBootstrap

/-- Where no key document has two fields with one name, a specification that is there
repeats no path. -/
theorem IndexPresence.nodup_paths_of_classify {present : List ExistingIndex} {spec : IndexSpec}
    (proper : ∀ index ∈ present, index.keys.names.Nodup)
    (found : classify present spec = .satisfied) : spec.paths.Nodup := by
  obtain ⟨index, named, satisfies⟩ := (classify_eq_satisfied_iff present spec).mp found
  rw [← ExistingIndex.names_keys_of_satisfies satisfies]
  exact proper index (List.mem_of_find?_eq_some named)

namespace MemoryCollection

open IndexPresence

variable {collection : MemoryCollection} {spec : IndexSpec}

/-- An index whose name is taken is there already, or is a conflict. -/
theorem createIndex_of_named (name : String) {index : ExistingIndex}
    (named : collection.indexes.find? (·.name == spec.name) = some index) :
    collection.createIndex name spec =
      if index.satisfies spec then .ok collection
      else .error (.indexConflict name spec.name
        "an index with the same name but different options exists") := by
  simp only [createIndex, named]

/-- What is found under the name of an index after its creation: the index as specified,
unless it has just been made from a specification that repeats a path. -/
theorem exists_named_withIndex (admitted : collection.Admits spec) :
    ∃ index, (collection.withIndex spec).indexes.find? (·.name == spec.name) = some index ∧
      (index.satisfies spec = true ↔
        spec.paths.Nodup ∨ classify collection.indexes spec = .satisfied) := by
  rcases admitted with found | ⟨found, _⟩
  · obtain ⟨index, named, satisfies⟩ := (classify_eq_satisfied_iff _ spec).mp found
    rw [withIndex_of_satisfied found]
    exact ⟨index, named, iff_of_true satisfies (Or.inr found)⟩
  · have unnamed := ((classify_eq_missing_iff _ spec).mp found).1
    rw [withIndex_of_missing found]
    refine ⟨ExistingIndex.ofSpec spec, ?_, ?_⟩
    · rw [List.find?_append, unnamed, Option.none_or]
      exact List.find?_cons_of_pos (beq_self_eq_true _)
    · rw [ExistingIndex.ofSpec_satisfies_self_iff, found]
      exact (or_iff_left IndexPresence.noConfusion).symm

end MemoryCollection

namespace MemoryStore

open IndexPresence

variable {store created : MemoryStore} {name : String} {spec : IndexSpec} {reply : String}

/-- The creation of an index is answered with a reply if the collection admits it, and then leaves
the collection with the index. -/
theorem answer_createIndex_eq_ok_iff :
    store.answer (.createIndex name spec) = (.ok reply, created) ↔
      (store.collection name).Admits spec ∧ reply = spec.name ∧
        created = store.set name ((store.collection name).withIndex spec) := by
  rcases (store.collection name).admits_or_createIndex_eq_error name spec with
    admitted | ⟨error, refused⟩
  · rw [answer_createIndex_of_ok (MemoryCollection.createIndex_of_admits admitted)]
    simp only [Prod.mk.injEq, Except.ok.injEq, admitted, true_and]
    exact and_congr eq_comm eq_comm
  · have obstructed : ¬ (store.collection name).Admits spec := by
      intro admitted
      rw [MemoryCollection.createIndex_of_admits admitted] at refused
      cases refused
    rw [answer_createIndex_of_error refused]
    simp only [Prod.mk.injEq, reduceCtorEq, false_and, obstructed]

/-- A collection that is there answers the creation of an index whose name it has without
a change. -/
theorem answer_createIndex_of_named {index : ExistingIndex}
    (there : store.collections.contains name = true)
    (named : (store.collection name).indexes.find? (·.name == spec.name) = some index) :
    store.answer (.createIndex name spec) =
      (if index.satisfies spec then .ok spec.name
        else .error (.indexConflict name spec.name
          "an index with the same name but different options exists"), store) := by
  have answered := MemoryCollection.createIndex_of_named name named
  cases satisfies : index.satisfies spec with
  | true =>
      rw [satisfies, if_pos rfl] at answered
      rw [answer_createIndex_of_ok answered, set_collection_of_contains there, if_pos rfl]
  | false =>
      rw [satisfies, if_neg Bool.false_ne_true] at answered
      rw [answer_createIndex_of_error answered, set_collection_of_contains there,
        if_neg Bool.false_ne_true]

/-- **Creating an index again.** Once an index has been created, its creation changes
nothing any more, whatever requests come in between. It succeeds with the same name if the
specification repeats no path, or if the index was there before it was created. Otherwise
it is refused, as a conflict of the index with itself; and a specification that repeats a
path is only there before if a key document has two fields with one name. -/
theorem createIndex_again (store : MemoryStore) (name : String) (spec : IndexSpec)
    (reply : String) (created : MemoryStore)
    (first : store.answer (.createIndex name spec) = (.ok reply, created))
    (history : List Request) :
    let later := asStore.after history created
    let there := classify (store.collection name).indexes spec = .satisfied
    (spec.paths.Nodup ∨ there → later.answer (.createIndex name spec) = (.ok reply, later)) ∧
    (¬ (spec.paths.Nodup ∨ there) → later.answer (.createIndex name spec) =
      (.error (.indexConflict name spec.name
        "an index with the same name but different options exists"), later)) ∧
    ((∀ index ∈ (store.collection name).indexes, index.keys.names.Nodup) → there →
      spec.paths.Nodup) := by
  intro later there
  obtain ⟨admitted, rfl, rfl⟩ := answer_createIndex_eq_ok_iff.mp first
  obtain ⟨index, named, satisfies⟩ := MemoryCollection.exists_named_withIndex admitted
  have grown := grows_after (store.set name ((store.collection name).withIndex spec)) history
  have contained : later.collections.contains name = true :=
    grown.contains name (contains_set_self store name _)
  -- Later indexes come behind the one that is found under the name.
  have still : (later.collection name).indexes.find? (·.name == spec.name) = some index := by
    have extended := grown.indexes name
    rw [collection_set_self] at extended
    exact extended.find?_eq_some named
  have answered := answer_createIndex_of_named contained still
  refine ⟨fun found => ?_, fun missing => ?_, IndexPresence.nodup_paths_of_classify⟩
  · rw [answered, if_pos (satisfies.mpr found)]
  · rw [answered, if_neg (mt satisfies.mp missing)]

/-- An index is created again after another one, a document and a collection. -/
theorem createIndex_again_behind_others :
    let created := ((empty "db" 0).answer (.createIndex "c" (.ascending ["a"]))).2
    let history : List Request :=
      [.createIndex "c" (.ascending ["a", "b"]), .insertDocument "c" [("a", .bool true)],
        .createCollection "d"]
    (empty "db" 0).answer (.createIndex "c" (.ascending ["a"])) = (.ok "a_1", created) ∧
      (asStore.after history created).answer (.createIndex "c" (.ascending ["a"])) =
        (.ok "a_1", asStore.after history created) := by
  have first : (empty "db" 0).answer (.createIndex "c" (.ascending ["a"])) =
      (.ok "a_1", ((empty "db" 0).answer (.createIndex "c" (.ascending ["a"]))).2) := rfl
  refine ⟨first, (createIndex_again _ _ _ _ _ first _).1 (Or.inl ?_)⟩
  decide

/-- An index on a path that occurs twice is created once and then refused. -/
theorem createIndex_refused_again_for_repeated_path :
    ¬ ∀ (store : MemoryStore) (name : String) (spec : IndexSpec) (reply : String)
        (created : MemoryStore),
      store.answer (.createIndex name spec) = (.ok reply, created) →
        ∀ history : List Request,
          (asStore.after history created).answer (.createIndex name spec) =
            (.ok reply, asStore.after history created) := by
  intro always
  have again := always (empty "db" 0) "c" (.ascending ["a", "a"]) "a_1_a_1" _ rfl []
  have succeeds := congrArg (fun answered => answered.1.toBool) again
  revert succeeds
  decide

end MemoryStore

end SchemaBootstrap
