import Mathlib.Algebra.Order.BigOperators.Group.List
import Mathlib.Algebra.Order.Group.Nat
import Mathlib.Data.List.Nodup
import SchemaBootstrap.Proofs.Bootstrap.Effect
import SchemaBootstrap.Proofs.Store.IndexCount

/-! # What a report says and what a run has done

A report lists as created the collections and indexes that a run brings about, and as
existing those that were there before. Whether an index is new is judged by the indexes that
a collection had before the run came to it, so an index that a collection declares twice and
does not have is listed twice, though it is created once. Apart from this a report tells
exactly what a run has added to the store (`Bootstrapper.apply_reports_what_it_added`).
-/

namespace SchemaBootstrap

/-- The declared indexes with names that a collection does not have, in order. -/
def CollectionSpec.lacking (declared : CollectionSpec) (present : List ExistingIndex) :
    List IndexSpec :=
  declared.indexes.filter fun spec => spec.name ∉ present.map ExistingIndex.name

namespace IndexSpec

variable {taken : List String} {specs : List IndexSpec}

/-- Of the specifications with new names, one for each name is kept. -/
theorem unnamed_sublist_filter (taken : List String) (specs : List IndexSpec) :
    (unnamed taken specs).Sublist (specs.filter fun spec => spec.name ∉ taken) := by
  have kept : (unnamed taken specs).filter (fun spec => spec.name ∉ taken) =
      unnamed taken specs := by
    rw [List.filter_eq_self]
    intro spec member
    exact decide_eq_true (name_not_mem_of_mem_unnamed member)
  rw [← kept]
  exact (unnamed_sublist taken specs).filter _

/-- All specifications with new names are kept when none of them occurs twice. -/
theorem length_unnamed_eq_iff
    (apart : ∀ first ∈ specs, ∀ second ∈ specs, first.name = second.name → first = second) :
    (unnamed taken specs).length = (specs.filter fun spec => spec.name ∉ taken).length ↔
      (specs.filter fun spec => spec.name ∉ taken).Nodup := by
  have sublist := unnamed_sublist_filter taken specs
  constructor
  · intro length
    rw [← sublist.eq_of_length length]
    exact List.Nodup.of_map IndexSpec.name (nodup_names_unnamed taken specs)
  · intro once
    have within : (specs.filter fun spec => spec.name ∉ taken) ⊆ unnamed taken specs := by
      intro spec member
      obtain ⟨listed, free⟩ := List.mem_filter.mp member
      exact (mem_unnamed_iff apart listed).mpr (of_decide_eq_true free)
    exact Nat.le_antisymm sublist.length_le (List.subperm_of_subset once within).length_le

end IndexSpec

namespace MemoryCollection

/-- An admitted index is there as declared exactly when its name is taken. -/
theorem Admits.isSatisfied_iff {collection : MemoryCollection} {spec : IndexSpec}
    (admitted : collection.Admits spec) :
    (IndexPresence.classify collection.indexes spec).isSatisfied = true ↔
      spec.name ∈ collection.indexes.map ExistingIndex.name := by
  rcases admitted with found | ⟨found, -⟩
  · obtain ⟨index, named, -⟩ := (IndexPresence.classify_eq_satisfied_iff _ spec).mp found
    have same := List.find?_some named
    rw [found]
    refine iff_of_true rfl (List.mem_map.mpr ⟨index, List.mem_of_find?_eq_some named, ?_⟩)
    exact beq_iff_eq.mp same
  · have named := ((IndexPresence.classify_eq_missing_iff _ spec).mp found).1
    rw [found]
    exact iff_of_false Bool.noConfusion ((find?_name_eq_none_iff _ _).mp named)

end MemoryCollection

namespace CollectionSpec

variable (declared : CollectionSpec)

/-- The indexes reported as created for a collection are those that it was lacking before. -/
theorem createdNames_ensured {collection : MemoryCollection}
    (admitted : ∀ spec ∈ declared.indexes, collection.Admits spec) :
    Ensured.createdNames (declared.ensured collection.indexes) =
      (declared.lacking collection.indexes).map fun spec =>
        qualifiedName declared.name spec.name := by
  unfold Ensured.createdNames ensured lacking
  rw [List.filter_map, List.map_map]
  refine congrArg (List.map _) (List.filter_congr fun spec member => ?_)
  rw [Function.comp_apply, Bool.eq_iff_iff, Bool.not_eq_true', decide_eq_true_iff,
    ← (admitted spec member).isSatisfied_iff, Bool.not_eq_true]

/-- What is reported as existing has been there, under the name it is reported with. -/
theorem exists_index_of_mem_existingNames {present : List ExistingIndex} {entry : String}
    (listed : entry ∈ Ensured.existingNames (declared.ensured present)) :
    ∃ index ∈ present, entry = qualifiedName declared.name index.name := by
  obtain ⟨ensured, member, rfl⟩ := List.mem_map.mp listed
  obtain ⟨inside, existing⟩ := List.mem_filter.mp member
  obtain ⟨spec, -, rfl⟩ := List.mem_map.mp inside
  rw [Bool.not_not, IndexPresence.isSatisfied_iff] at existing
  obtain ⟨index, named, -⟩ := (IndexPresence.classify_eq_satisfied_iff present spec).mp existing
  have same := List.find?_some named
  exact ⟨index, List.mem_of_find?_eq_some named, by rw [beq_iff_eq.mp same]⟩

end CollectionSpec

namespace MemoryStore

variable (store : MemoryStore)

/-- A declared collection adds an index for each of its names that was not taken. -/
theorem indexCount_withCollection (declared : CollectionSpec) :
    (store.withCollection declared).indexCount = store.indexCount +
      (IndexSpec.unnamed ((store.collection declared.name).indexes.map ExistingIndex.name)
        declared.indexes).length := by
  have counted := store.indexCount_set declared.name
    ((store.collection declared.name).withIndexes declared.indexes)
  rw [MemoryCollection.withIndexes_indexes, List.length_append, List.length_map] at counted
  unfold withCollection
  omega

/-- Bringing about what is declared adds one index for each declared name that is new. -/
theorem indexCount_withCollections {collections : List CollectionSpec}
    (distinct : (collections.map CollectionSpec.name).Nodup) :
    (store.withCollections collections).indexCount = store.indexCount +
      (collections.map fun declared => (IndexSpec.unnamed
        ((store.collection declared.name).indexes.map ExistingIndex.name)
        declared.indexes).length).sum := by
  induction collections generalizing store with
  | nil => rfl
  | cons declared rest ih =>
      obtain ⟨fresh, distinct⟩ := List.nodup_cons.mp distinct
      have same : ∀ other ∈ rest,
          (store.withCollection declared).collection other.name = store.collection other.name := by
        intro other member
        apply collection_set_of_ne
        intro named
        exact fresh (List.mem_map.mpr ⟨other, member, named⟩)
      have later : (rest.map fun other => (IndexSpec.unnamed
          (((store.withCollection declared).collection other.name).indexes.map ExistingIndex.name)
          other.indexes).length) = rest.map fun other => (IndexSpec.unnamed
            ((store.collection other.name).indexes.map ExistingIndex.name)
            other.indexes).length := by
        refine List.map_congr_left fun other member => ?_
        rw [same other member]
      rw [withCollections_cons, ih _ distinct, later, indexCount_withCollection, List.map_cons,
        List.sum_cons, Nat.add_assoc]

end MemoryStore

/-- Where one list is nowhere above another one, the sums agree when the entries do. -/
theorem sum_map_eq_iff_of_le {first second : α → Nat} {entries : List α}
    (le : ∀ entry ∈ entries, first entry ≤ second entry) :
    (entries.map first).sum = (entries.map second).sum ↔
      ∀ entry ∈ entries, first entry = second entry := by
  induction entries with
  | nil => exact iff_of_true rfl (List.forall_mem_nil _)
  | cons entry rest ih =>
      obtain ⟨here, others⟩ := List.forall_mem_cons.mp le
      have below : (rest.map first).sum ≤ (rest.map second).sum := List.sum_le_sum others
      rw [List.forall_mem_cons, ← ih others, List.map_cons, List.map_cons, List.sum_cons,
        List.sum_cons]
      omega

namespace SchemaDefinition

variable {definition : SchemaDefinition} {store : MemoryStore}

/-- No collection declares an index twice that it does not have. -/
def DeclaresMissingOnce (definition : SchemaDefinition) (store : MemoryStore) : Prop :=
  ∀ declared ∈ definition.collections,
    (declared.lacking (store.collection declared.name).indexes).Nodup

/-- The indexes that a report lists as created, each with its collection. -/
def creations (definition : SchemaDefinition) (store : MemoryStore) : List (String × String) :=
  definition.collections.flatMap fun declared =>
    (declared.lacking (store.collection declared.name).indexes).map fun spec =>
      (declared.name, spec.name)

/-- The indexes reported as created are the creations of the definition. -/
theorem createdNames_indexes_reportOn
    (admitted : ∀ declared ∈ definition.collections, ∀ spec ∈ declared.indexes,
      (store.collection declared.name).Admits spec) :
    Ensured.createdNames (definition.reportOn store).indexes =
      (definition.creations store).map fun creation =>
        qualifiedName creation.1 creation.2 := by
  unfold Ensured.createdNames reportOn creations
  rw [List.filter_flatMap, List.map_flatMap, List.map_flatMap]
  refine List.flatMap_congr fun declared member => ?_
  rw [List.map_map]
  exact declared.createdNames_ensured (admitted declared member)

/-- A creation is a name that an index has in the final store and none had in the first. -/
theorem mem_creations_iff (names : (definition.collections.map CollectionSpec.name).Nodup)
    (apart : definition.NamesApart) (collection name : String) :
    (collection, name) ∈ definition.creations store ↔
      name ∈ ((store.withCollections definition.collections).collection
          collection).indexes.map ExistingIndex.name ∧
        name ∉ (store.collection collection).indexes.map ExistingIndex.name := by
  constructor
  · intro created
    obtain ⟨declared, member, inside⟩ := List.mem_flatMap.mp created
    obtain ⟨spec, lacking, same⟩ := List.mem_map.mp inside
    obtain ⟨rfl, rfl⟩ := Prod.mk.inj same
    obtain ⟨listed, free⟩ := List.mem_filter.mp lacking
    have fresh := of_decide_eq_true free
    have added := (IndexSpec.mem_unnamed_iff (apart declared member) listed).mpr fresh
    rw [store.collection_withCollections_of_mem names member,
      MemoryCollection.withIndexes_indexes, List.map_append, List.map_map]
    exact ⟨List.mem_append_right _ (List.mem_map.mpr ⟨spec, added, rfl⟩), fresh⟩
  · rintro ⟨there, fresh⟩
    by_cases declares : collection ∈ definition.collections.map CollectionSpec.name
    · obtain ⟨declared, member, rfl⟩ := List.mem_map.mp declares
      rw [store.collection_withCollections_of_mem names member,
        MemoryCollection.withIndexes_indexes, List.map_append, List.map_map] at there
      have added := (List.mem_append.mp there).resolve_left fresh
      obtain ⟨spec, kept, rfl⟩ := List.mem_map.mp added
      have listed := (IndexSpec.unnamed_sublist _ _).subset kept
      refine List.mem_flatMap.mpr ⟨declared, member, List.mem_map.mpr ⟨spec, ?_, rfl⟩⟩
      exact List.mem_filter.mpr ⟨listed, decide_eq_true fresh⟩
    · have same : (store.withCollections definition.collections).collection collection =
          store.collection collection := by
        unfold MemoryStore.collection
        rw [store.get?_withCollections_of_not_mem declares]
      rw [same] at there
      exact absurd there fresh

/-- A report lists no index twice exactly when no missing one is declared twice. -/
theorem nodup_creations_iff (names : (definition.collections.map CollectionSpec.name).Nodup)
    (apart : definition.NamesApart) :
    (definition.creations store).Nodup ↔ definition.DeclaresMissingOnce store := by
  have disjoint : definition.collections.Pairwise (Function.onFun List.Disjoint fun declared =>
      (declared.lacking (store.collection declared.name).indexes).map fun spec =>
        (declared.name, spec.name)) := by
    refine (List.pairwise_map.mp names).imp fun differ creation first second => differ ?_
    obtain ⟨spec, -, rfl⟩ := List.mem_map.mp first
    obtain ⟨spec', -, same⟩ := List.mem_map.mp second
    exact (congrArg Prod.fst same).symm
  unfold creations DeclaresMissingOnce
  rw [List.nodup_flatMap, and_iff_left disjoint]
  refine forall₂_congr fun declared member => ?_
  constructor
  · exact List.Nodup.of_map _
  · intro once
    refine once.map_on fun first inside second inside' same => ?_
    exact apart declared member first (List.mem_of_mem_filter inside) second
      (List.mem_of_mem_filter inside') (congrArg Prod.snd same)

/-- A report lists as many indexes as a run adds exactly when no missing one is declared
twice. -/
theorem indexCount_eq_iff (names : (definition.collections.map CollectionSpec.name).Nodup)
    (apart : definition.NamesApart) :
    (store.withCollections definition.collections).indexCount =
        store.indexCount + (definition.creations store).length ↔
      definition.DeclaresMissingOnce store := by
  have length : (definition.creations store).length =
      (definition.collections.map fun declared =>
        (declared.lacking (store.collection declared.name).indexes).length).sum := by
    unfold creations
    rw [List.length_flatMap]
    simp only [List.length_map]
  rw [store.indexCount_withCollections names, length, Nat.add_left_cancel_iff,
    sum_map_eq_iff_of_le fun declared _ =>
      (IndexSpec.unnamed_sublist_filter _ declared.indexes).length_le]
  exact forall₂_congr fun declared member => IndexSpec.length_unnamed_eq_iff (apart declared member)

/-- No collection is reported as created twice. -/
theorem nodup_createdNames_collections_reportOn
    (names : (definition.collections.map CollectionSpec.name).Nodup) :
    (Ensured.createdNames (definition.reportOn store).collections).Nodup := by
  have all := names_collections_reportOn definition store
  rw [← all] at names
  exact names.sublist (List.filter_sublist.map _)

/-- A collection is reported as created if it is declared and was not there. -/
theorem mem_createdNames_collections_reportOn_iff (name : String) :
    name ∈ Ensured.createdNames (definition.reportOn store).collections ↔
      name ∈ definition.collections.map CollectionSpec.name ∧
        store.collections.contains name = false := by
  constructor
  · intro created
    obtain ⟨entry, kept, rfl⟩ := List.mem_map.mp created
    obtain ⟨inside, new⟩ := List.mem_filter.mp kept
    obtain ⟨declared, member, rfl⟩ := List.mem_map.mp inside
    rw [Bool.not_eq_true'] at new
    exact ⟨List.mem_map.mpr ⟨declared, member, rfl⟩, new⟩
  · rintro ⟨declares, absent⟩
    obtain ⟨declared, member, rfl⟩ := List.mem_map.mp declares
    refine List.mem_map.mpr ⟨⟨declared.name, !store.collections.contains declared.name⟩, ?_, rfl⟩
    refine List.mem_filter.mpr ⟨List.mem_map.mpr ⟨declared, member, rfl⟩, ?_⟩
    rw [absent, Bool.not_false]

/-- The declared collections that were absent are those that are there after a run only. -/
theorem contains_withCollections_iff
    (names : (definition.collections.map CollectionSpec.name).Nodup) (name : String) :
    (store.withCollections definition.collections).collections.contains name = true ↔
      name ∈ definition.collections.map CollectionSpec.name ∨
        store.collections.contains name = true := by
  by_cases declares : name ∈ definition.collections.map CollectionSpec.name
  · obtain ⟨declared, member, rfl⟩ := List.mem_map.mp declares
    exact iff_of_true (store.contains_withCollections_of_mem names member) (Or.inl declares)
  · unfold Catalog.contains
    rw [store.get?_withCollections_of_not_mem declares]
    exact (or_iff_right declares).symm

end SchemaDefinition

namespace Bootstrapper

/-- **What a report tells of a run.** The collections listed as created are those that are
there after the run only, each listed once. An index listed as existing has been there
before. The indexes listed as created are those that are there after the run only; each of
them is listed once, and their number is that of the indexes added to the store, exactly
when no collection declares an index twice that it does not have. -/
theorem apply_reports_what_it_added (bootstrapper : Bootstrapper) (store : MemoryStore)
    (report : BootstrapReport) (result : MemoryStore)
    (done : bootstrapper.apply.run MemoryStore.asStore store = (.ok report, result)) :
    (Ensured.createdNames report.collections).Nodup ∧
    (∀ name, name ∈ Ensured.createdNames report.collections ↔
      result.collections.contains name = true ∧ store.collections.contains name = false) ∧
    (∀ entry ∈ Ensured.existingNames report.indexes,
      ∃ collection, ∃ index ∈ (store.collection collection).indexes,
        entry = qualifiedName collection index.name) ∧
    ∃ created : List (String × String),
      Ensured.createdNames report.indexes =
        created.map (fun creation => qualifiedName creation.1 creation.2) ∧
      (∀ collection name, (collection, name) ∈ created ↔
        name ∈ (result.collection collection).indexes.map ExistingIndex.name ∧
          name ∉ (store.collection collection).indexes.map ExistingIndex.name) ∧
      (created.Nodup ↔ bootstrapper.definition.DeclaresMissingOnce store) ∧
      (result.indexCount = store.indexCount + created.length ↔
        bootstrapper.definition.DeclaresMissingOnce store) := by
  obtain ⟨admitted, rfl, rfl⟩ := apply_run_eq_ok_iff.mp done
  have names := bootstrapper.declarable.names
  have apart := ((SchemaDefinition.admits_iff bootstrapper.valid store).mp admitted).2.1
  have each : ∀ declared ∈ bootstrapper.definition.collections, ∀ spec ∈ declared.indexes,
      (store.collection declared.name).Admits spec := by
    intro declared member
    have paths := bootstrapper.declarable.paths declared member
    exact ((MemoryCollection.admitsInOrder_iff paths).mp (admitted declared member)).1
  refine ⟨SchemaDefinition.nodup_createdNames_collections_reportOn names, fun name => ?_,
    fun entry listed => ?_, bootstrapper.definition.creations store,
    SchemaDefinition.createdNames_indexes_reportOn each,
    SchemaDefinition.mem_creations_iff names apart,
    SchemaDefinition.nodup_creations_iff names apart,
    SchemaDefinition.indexCount_eq_iff names apart⟩
  · rw [SchemaDefinition.mem_createdNames_collections_reportOn_iff,
      SchemaDefinition.contains_withCollections_iff names]
    refine and_congr_left fun absent => ?_
    rw [absent, or_iff_left Bool.false_ne_true]
  · obtain ⟨ensured, kept, rfl⟩ := List.mem_map.mp listed
    obtain ⟨inside, existing⟩ := List.mem_filter.mp kept
    obtain ⟨declared, -, here⟩ := List.mem_flatMap.mp inside
    have reported : ensured.name ∈ Ensured.existingNames
        (declared.ensured (store.collection declared.name).indexes) :=
      List.mem_map.mpr ⟨ensured, List.mem_filter.mpr ⟨here, existing⟩, rfl⟩
    exact ⟨declared.name, declared.exists_index_of_mem_existingNames reported⟩

/-- The run of the testbench on a store with some of the indexes adds as many as it lists. -/
theorem apply_reports_what_it_added_to_partlyBuilt :
    ∃ report result,
      (⟨.testbench, rfl⟩ : Bootstrapper).apply.run MemoryStore.asStore partlyBuilt =
        (.ok report, result) ∧
      result.indexCount =
        partlyBuilt.indexCount + (Ensured.createdNames report.indexes).length := by
  obtain ⟨report, result, done⟩ := exists_apply_partlyBuilt
  obtain ⟨-, -, -, created, listed, -, -, counted⟩ :=
    apply_reports_what_it_added _ partlyBuilt report result done
  have once : (SchemaDefinition.testbench).DeclaresMissingOnce partlyBuilt := by
    unfold SchemaDefinition.DeclaresMissingOnce
    decide +kernel
  refine ⟨report, result, done, ?_⟩
  rw [listed, List.length_map]
  exact counted.mpr once

/-- A definition that declares one index twice. -/
def doubled : Bootstrapper where
  definition := ⟨"db", [⟨"c", [.ascending ["a"], .ascending ["a"]]⟩]⟩
  valid := rfl

/-- The index that is declared twice is created once and listed as created twice. -/
theorem apply_lists_doubled_index_twice :
    ∃ report result,
      doubled.apply.run MemoryStore.asStore (.empty "db" 0) = (.ok report, result) ∧
      Ensured.createdNames report.indexes = ["c.a_1", "c.a_1"] ∧
      (result.collection "c").indexes.map ExistingIndex.name = ["a_1"] ∧
      result.indexCount = 1 := by
  refine ⟨_, _, rfl, ?_, ?_, ?_⟩ <;> decide +kernel

end Bootstrapper

end SchemaBootstrap
