import Mathlib.Data.List.Nodup
import SchemaBootstrap.Proofs.Bootstrap.DeclaredStore
import SchemaBootstrap.Proofs.Store.Growth

/-! # Stores on the way to what is declared

While runs of one definition are under way, every declared collection is as it was at the
start, or it has the first few of its declared indexes, whichever run they come from
(`MemoryStore.Underway`). In such a store no run is refused its next step, and the step
leads to such a store again (`MemoryStore.Underway.createCollection`,
`MemoryStore.Underway.createIndex`). The only one that has everything as declared is the
one that a single run brings about (`MemoryStore.Underway.eq_of_meets`).
-/

namespace SchemaBootstrap

namespace MemoryStore

/-- A store differs from an earlier one in that some declared collections are there, with
some of their declared indexes created in order. -/
structure Underway (store earlier : MemoryStore) (collections : List CollectionSpec) :
    Prop where
  database : store.database = earlier.database
  pings : store.unavailablePings = earlier.unavailablePings
  others : ∀ name ∉ collections.map CollectionSpec.name,
    store.collections.get? name = earlier.collections.get? name
  declared : ∀ declared ∈ collections,
    store.collections.get? declared.name = earlier.collections.get? declared.name ∨
      ∃ created, created <+: declared.indexes ∧ store.collections.get? declared.name =
        some ((earlier.collection declared.name).withIndexes created)

/-- A store is under way from itself. -/
theorem underway_self (store : MemoryStore) (collections : List CollectionSpec) :
    store.Underway store collections :=
  ⟨rfl, rfl, fun _ _ => rfl, fun _ _ => Or.inl rfl⟩

/-- A grown store meets what it met before. -/
theorem Grows.meets {store later : MemoryStore} {collections : List CollectionSpec}
    (grown : store.Grows later) (meets : store.Meets collections) : later.Meets collections :=
  fun declared member => ⟨grown.contains _ (meets declared member).1, fun spec inside =>
    grown.classify_eq_satisfied ((meets declared member).2 spec inside)⟩

namespace Underway

variable {store earlier : MemoryStore} {collections : List CollectionSpec}
  {declared : CollectionSpec}

/-- Some first declared indexes may have been created in a declared collection. -/
theorem set (underway : store.Underway earlier collections)
    (distinct : (collections.map CollectionSpec.name).Nodup) (member : declared ∈ collections)
    {created : List IndexSpec} (first : created <+: declared.indexes) :
    (store.set declared.name ((earlier.collection declared.name).withIndexes created)).Underway
      earlier collections where
  database := underway.database
  pings := underway.pings
  others := fun name other => by
    have differ : name ≠ declared.name := fun same =>
      other (List.mem_map.mpr ⟨declared, member, same.symm⟩)
    rw [get?_set, if_neg differ, underway.others name other]
  declared := fun other inside => by
    rw [get?_set]
    by_cases same : other.name = declared.name
    · obtain rfl := List.inj_on_of_nodup_map distinct inside member same
      exact Or.inr ⟨created, first, if_pos rfl⟩
    · rw [if_neg same]
      exact underway.declared other inside

/-- What is there of a declared collection, given that some first indexes are there as
declared: it has these and perhaps further ones. -/
theorem exists_created (underway : store.Underway earlier collections)
    (member : declared ∈ collections) (there : store.collections.contains declared.name = true)
    {done : List IndexSpec} (first : done <+: declared.indexes)
    (found : ∀ spec ∈ done, IndexPresence.classify
      (store.collection declared.name).indexes spec = .satisfied) :
    ∃ created, done <+: created ∧ created <+: declared.indexes ∧
      store.collections.get? declared.name =
        some ((earlier.collection declared.name).withIndexes created) := by
  obtain ⟨created, before, kept⟩ : ∃ created, created <+: declared.indexes ∧
      store.collections.get? declared.name =
        some ((earlier.collection declared.name).withIndexes created) := by
    rcases underway.declared declared member with same | changed
    · obtain ⟨kept, present⟩ := Option.isSome_iff_exists.mp there
      rw [same] at present
      refine ⟨[], List.nil_prefix, ?_⟩
      rw [same, collection_of_get? present, present]
      rfl
    · exact changed
  rcases List.prefix_or_prefix_of_prefix first before with behind | ⟨rest, rfl⟩
  · exact ⟨created, behind, before, kept⟩
  · -- The further indexes of `done` were there before, so that creating them adds nothing.
    refine ⟨created ++ rest, List.prefix_rfl, first, ?_⟩
    rw [collection_of_get? kept] at found
    rw [kept, MemoryCollection.withIndexes_append, (MemoryCollection.admitsInOrder_of_satisfied
      fun spec inside => found spec (List.mem_append_right _ inside)).2]

/-- With everything as declared the store is the one that a single run leaves. -/
theorem eq_of_meets (underway : store.Underway earlier collections)
    (distinct : (collections.map CollectionSpec.name).Nodup) (meets : store.Meets collections) :
    store = earlier.withCollections collections := by
  obtain ⟨database, pings⟩ := earlier.database_withCollections collections
  refine ext_get? (underway.database.trans database.symm) (underway.pings.trans pings.symm)
    fun name => ?_
  by_cases named : name ∈ collections.map CollectionSpec.name
  · obtain ⟨declared, member, rfl⟩ := List.mem_map.mp named
    obtain ⟨there, found⟩ := meets declared member
    obtain ⟨created, behind, before, kept⟩ :=
      underway.exists_created member there List.prefix_rfl found
    rw [kept, get?_withCollections_of_mem earlier distinct member,
      behind.eq_of_length_le before.length_le]
  · rw [underway.others name named, get?_withCollections_of_not_mem earlier named]

/-- Creating a declared collection keeps a store under way. -/
theorem createCollection (underway : store.Underway earlier collections)
    (distinct : (collections.map CollectionSpec.name).Nodup) (member : declared ∈ collections) :
    (store.set declared.name (store.collection declared.name)).Underway earlier collections := by
  by_cases there : store.collections.contains declared.name = true
  · rwa [set_collection_of_contains there]
  · have absent : store.collections.get? declared.name = none :=
      Option.not_isSome_iff_eq_none.mp there
    -- A collection that is not there yet was not there at the start.
    have kept : earlier.collection declared.name = .empty := by
      rcases underway.declared declared member with same | ⟨created, -, present⟩
      · rw [MemoryStore.collection, ← same, absent, Option.getD_none]
      · rw [absent] at present
        cases present
    have empty := underway.set distinct member (List.nil_prefix (l := declared.indexes))
    rw [kept] at empty
    rwa [collection_of_absent there]

/-- The creation of the next declared index is granted, be it that another run has created
it already. -/
theorem createIndex (underway : store.Underway earlier collections)
    (declarable : Declarable collections) (admitted : earlier.Admits collections)
    (member : declared ∈ collections) (there : store.collections.contains declared.name = true)
    {done later : List IndexSpec} {spec : IndexSpec}
    (split : declared.indexes = done ++ spec :: later)
    (found : ∀ other ∈ done, IndexPresence.classify
      (store.collection declared.name).indexes other = .satisfied) :
    ∃ next, store.answer (.createIndex declared.name spec) = (.ok spec.name, next) ∧
      next.Underway earlier collections ∧
      IndexPresence.classify (next.collection declared.name).indexes spec = .satisfied := by
  have first : done <+: declared.indexes := ⟨spec :: later, split.symm⟩
  obtain ⟨created, ⟨further, rfl⟩, before, kept⟩ :=
    underway.exists_created member there first found
  have paths := declarable.paths declared member
  have in_order := admitted declared member
  -- Either no run has come to this index yet, or another one has created it before.
  cases further with
  | nil =>
      rw [List.append_nil] at kept
      rw [split, MemoryCollection.admitsInOrder_append] at in_order
      have admits := in_order.2.1
      have proper : spec.paths.Nodup :=
        paths spec (split ▸ List.mem_append_right _ List.mem_cons_self)
      have made : (store.collection declared.name).createIndex declared.name spec =
          .ok ((earlier.collection declared.name).withIndexes (done ++ [spec])) := by
        rw [collection_of_get? kept, MemoryCollection.withIndexes_append]
        exact MemoryCollection.createIndex_of_admits admits
      refine ⟨_, answer_createIndex_of_ok made, underway.set declarable.names member ?_, ?_⟩
      · exact ⟨later, by rw [split, List.append_assoc, List.singleton_append]⟩
      · rw [collection_set_self, MemoryCollection.withIndexes_append]
        exact MemoryCollection.classify_withIndex_self proper admits
  | cons other rest =>
      rw [split, List.prefix_append_right_inj, List.cons_prefix_cons] at before
      obtain ⟨rfl, behind⟩ := before
      have satisfied : IndexPresence.classify
          (store.collection declared.name).indexes other = .satisfied := by
        obtain ⟨unreached, rfl⟩ := behind
        rw [split, ← List.cons_append, ← List.append_assoc,
          MemoryCollection.admitsInOrder_append] at in_order
        rw [collection_of_get? kept]
        refine MemoryCollection.classify_withIndexes (fun spec inside => paths spec ?_)
          in_order.1 other (List.mem_append_right _ List.mem_cons_self)
        rw [split, ← List.cons_append, ← List.append_assoc]
        exact List.mem_append_left _ inside
      refine ⟨store, ?_, underway, satisfied⟩
      rw [answer_createIndex_of_ok (MemoryCollection.createIndex_of_satisfied satisfied),
        set_collection_of_contains there]

end Underway

end MemoryStore

end SchemaBootstrap
