import SchemaBootstrap.Proofs.Bootstrap.Convergence

/-! # What a successful run changes

A run that succeeds adds to a store what is declared and missing, and nothing else:
undeclared collections stay as they are, documents stay as they are, and declared
indexes with new names come after those that were there. What is there as declared is
reported as such (`SchemaDefinition.created_eq_false_of_meets`), so a second run finds
everything there and changes nothing.
-/

namespace SchemaBootstrap

theorem Ensured.existingNames_eq {entries : List Ensured}
    (existing : ∀ entry ∈ entries, entry.created = false) :
    existingNames entries = entries.map Ensured.name := by
  rw [existingNames, List.filter_eq_self.mpr]
  intro entry member
  rw [existing entry member, Bool.not_false]

namespace SchemaDefinition

/-- The names of the declared indexes, each with its collection, in order. -/
def indexNames (definition : SchemaDefinition) : List String :=
  definition.collections.flatMap fun declared =>
    declared.indexes.map fun spec => qualifiedName declared.name spec.name

variable (definition : SchemaDefinition) (store : MemoryStore)

/-- A report names the declared collections in their order. -/
theorem names_collections_reportOn :
    (definition.reportOn store).collections.map Ensured.name =
      definition.collections.map CollectionSpec.name := by
  simp only [reportOn, List.map_map, Function.comp_def]

/-- A report names the declared indexes in their order. -/
theorem names_indexes_reportOn :
    (definition.reportOn store).indexes.map Ensured.name = definition.indexNames := by
  simp only [reportOn, CollectionSpec.ensured, indexNames, List.map_flatMap, List.map_map,
    Function.comp_def]

variable {definition store}

/-- Nothing that is there as declared is reported as created. -/
theorem created_eq_false_of_meets (meets : store.Meets definition.collections) :
    ∀ entry ∈ (definition.reportOn store).collections ++ (definition.reportOn store).indexes,
      entry.created = false := by
  intro entry member
  rcases List.mem_append.mp member with collection | index
  · obtain ⟨declared, inside, rfl⟩ := List.mem_map.mp collection
    simp only [(meets declared inside).1, Bool.not_true]
  · obtain ⟨declared, inside, index⟩ := List.mem_flatMap.mp index
    obtain ⟨spec, listed, rfl⟩ := List.mem_map.mp index
    simp only [(meets declared inside).2 spec listed, IndexPresence.isSatisfied, Bool.not_true]

end SchemaDefinition

namespace Bootstrapper

/-- **The effect of a successful run.** Nothing but the declared collections changes; each
of them is there, with its documents and its indexes as they were, followed by those
declared indexes whose names are new, in declaration order and under each name once. -/
theorem apply_adds_what_is_missing (bootstrapper : Bootstrapper) (store : MemoryStore)
    (report : BootstrapReport) (result : MemoryStore)
    (done : bootstrapper.apply.run MemoryStore.asStore store = (.ok report, result)) :
    (result.database = store.database ∧ result.unavailablePings = store.unavailablePings) ∧
    (∀ name ∉ bootstrapper.definition.collections.map CollectionSpec.name,
      result.collections.get? name = store.collections.get? name) ∧
    ∀ declared ∈ bootstrapper.definition.collections,
      let taken := (store.collection declared.name).indexes.map ExistingIndex.name
      let added := IndexSpec.unnamed taken declared.indexes
      result.collections.get? declared.name = some
        { indexes := (store.collection declared.name).indexes ++ added.map ExistingIndex.ofSpec
          documents := store.documents declared.name } ∧
      added.Sublist declared.indexes ∧ (added.map IndexSpec.name).Nodup ∧
      ∀ spec ∈ declared.indexes, spec ∈ added ↔ spec.name ∉ taken := by
  obtain ⟨admitted, -, rfl⟩ := apply_run_eq_ok_iff.mp done
  have extended := store.extends_withCollections bootstrapper.declarable.names
  have apart := ((SchemaDefinition.admits_iff bootstrapper.valid store).mp admitted).2.1
  refine ⟨⟨extended.database, extended.pings⟩, extended.others, ?_⟩
  intro declared member taken added
  refine ⟨extended.declared declared member, IndexSpec.unnamed_sublist _ _,
    IndexSpec.nodup_names_unnamed _ _, fun spec inside => ?_⟩
  exact IndexSpec.mem_unnamed_iff (apart declared member) inside

/-- A store in which the tokenizers have their index, with an undeclared collection and a
document of a declared one. -/
def partlyBuilt : MemoryStore :=
  let built := ((MemoryStore.empty "pocket-ml-testbench" 0).forceIndex "tokenizers"
    ⟨"hash_1", [("hash", .int32 1)], false⟩).forceIndex "audit"
      ⟨"day_1", [("day", .int32 1)], true⟩
  (built.answer (.insertDocument "nodes" [("address", .string "a")])).2

/-- The definition can be applied to the partly built store. -/
theorem exists_apply_partlyBuilt : ∃ report result,
    (⟨.testbench, rfl⟩ : Bootstrapper).apply.run MemoryStore.asStore partlyBuilt =
      (.ok report, result) := by
  obtain ⟨report, done⟩ := exists_eq_ok_of_toBool (by decide +kernel :
    ((⟨.testbench, rfl⟩ : Bootstrapper).apply.run MemoryStore.asStore partlyBuilt).1.toBool = true)
  exact ⟨report, _, Prod.ext done rfl⟩

/-- The undeclared collection stays as it is, and so does the one that is complete. -/
theorem apply_adds_what_is_missing_to_partlyBuilt :
    ∃ report result,
      (⟨.testbench, rfl⟩ : Bootstrapper).apply.run MemoryStore.asStore partlyBuilt =
        (.ok report, result) ∧
      result.collections.get? "audit" = partlyBuilt.collections.get? "audit" ∧
      result.collections.get? "tokenizers" = partlyBuilt.collections.get? "tokenizers" := by
  obtain ⟨report, result, done⟩ := exists_apply_partlyBuilt
  obtain ⟨-, others, declared⟩ := apply_adds_what_is_missing _ partlyBuilt report result done
  refine ⟨report, result, done, others "audit" (by decide), ?_⟩
  exact (declared ⟨"tokenizers", [.ascending ["hash"]]⟩ List.mem_cons_self).1

/-- **Running again.** After a successful run another one succeeds, leaves the store as it
is, and reports everything that is declared as there before. -/
theorem apply_again_changes_nothing (bootstrapper : Bootstrapper) (store : MemoryStore)
    (report : BootstrapReport) (result : MemoryStore)
    (done : bootstrapper.apply.run MemoryStore.asStore store = (.ok report, result)) :
    ∃ again, bootstrapper.apply.run MemoryStore.asStore result = (.ok again, result) ∧
      again.changedAnything = false ∧
      Ensured.existingNames again.collections =
        bootstrapper.definition.collections.map CollectionSpec.name ∧
      Ensured.existingNames again.indexes = bootstrapper.definition.indexNames := by
  obtain ⟨admitted, -, rfl⟩ := apply_run_eq_ok_iff.mp done
  have meets := store.meets_withCollections bootstrapper.declarable admitted
  have existing := SchemaDefinition.created_eq_false_of_meets meets
  refine ⟨_, apply_run_eq_ok_iff.mpr ⟨MemoryStore.admits_of_meets meets, rfl,
    (MemoryStore.withCollections_of_meets meets).symm⟩, ?_, ?_, ?_⟩
  · rw [BootstrapReport.changedAnything, List.any_eq_false]
    intro entry member
    rw [existing entry member]
    exact Bool.noConfusion
  · rw [Ensured.existingNames_eq fun entry member =>
      existing entry (List.mem_append_left _ member), SchemaDefinition.names_collections_reportOn]
  · rw [Ensured.existingNames_eq fun entry member =>
      existing entry (List.mem_append_right _ member), SchemaDefinition.names_indexes_reportOn]

/-- The second run on the partly built store finds everything in place. -/
theorem apply_again_on_partlyBuilt :
    ∃ report result again,
      (⟨.testbench, rfl⟩ : Bootstrapper).apply.run MemoryStore.asStore partlyBuilt =
        (.ok report, result) ∧
      (⟨.testbench, rfl⟩ : Bootstrapper).apply.run MemoryStore.asStore result =
        (.ok again, result) ∧
      again.changedAnything = false := by
  obtain ⟨report, result, done⟩ := exists_apply_partlyBuilt
  obtain ⟨again, run, unchanged, -⟩ :=
    apply_again_changes_nothing _ partlyBuilt report result done
  exact ⟨report, result, again, done, run, unchanged⟩

end Bootstrapper

end SchemaBootstrap
