import SchemaBootstrap.Proofs.Bootstrap.ApplyRun

/-! # What a failed run leaves behind

A run of a valid definition fails at the first declared index that the store refuses
(`Obstacle`). What is declared before that index is there by then, and nothing else
has changed. The obstacle stands in a repeated run as well: what comes before it is
there already, so that the run passes over it (`Obstacle.again`) and ends in the same
error and the same store.
-/

namespace SchemaBootstrap

namespace Obstacle

variable {store : MemoryStore} {collections : List CollectionSpec}

/-- A condition on the cleared collections is one on those before the obstacle and on the part of
its own. -/
theorem forall_mem_cleared (obstacle : Obstacle store collections)
    {condition : CollectionSpec → Prop} :
    (∀ declared ∈ obstacle.cleared, condition declared) ↔
      (∀ declared ∈ obstacle.before, condition declared) ∧
        condition { obstacle.declared with indexes := obstacle.earlier } := by
  rw [cleared, List.forall_mem_append, List.forall_mem_singleton]

/-- The cleared collections and those after the obstacle are all that are declared. -/
theorem names_eq (obstacle : Obstacle store collections) :
    collections.map CollectionSpec.name =
      obstacle.cleared.map CollectionSpec.name ++ obstacle.after.map CollectionSpec.name := by
  refine (congrArg (List.map CollectionSpec.name) obstacle.collections_eq).trans ?_
  rw [cleared, List.map_append, List.map_append, List.map_cons, List.map_singleton,
    List.append_assoc, List.singleton_append]

/-- The cleared collections can be declared on their own. -/
theorem declarable_cleared (obstacle : Obstacle store collections)
    (declarable : Declarable collections) : Declarable obstacle.cleared := by
  obtain ⟨names, paths⟩ := declarable
  constructor
  · rw [obstacle.names_eq] at names
    exact (List.nodup_append.mp names).1
  · rw [obstacle.collections_eq] at paths
    refine obstacle.forall_mem_cleared.mpr ⟨fun declared member =>
      paths declared (List.mem_append_left _ member), fun spec inside => ?_⟩
    refine paths obstacle.declared (List.mem_append_right _ List.mem_cons_self) spec ?_
    rw [obstacle.indexes_eq]
    exact List.mem_append_left _ inside

/-- The store at an obstacle extends the first one by the cleared collections. -/
theorem result_extends (obstacle : Obstacle store collections)
    (declarable : Declarable collections) : obstacle.result.Extends store obstacle.cleared :=
  store.extends_withCollections (obstacle.declarable_cleared declarable).names

/-- The store at an obstacle meets the cleared collections. -/
theorem result_meets (obstacle : Obstacle store collections)
    (declarable : Declarable collections) : obstacle.result.Meets obstacle.cleared :=
  store.meets_withCollections (obstacle.declarable_cleared declarable)
    (obstacle.forall_mem_cleared.mpr ⟨obstacle.admitted_before, obstacle.admitted⟩)

/-- The refusal comes again once what is declared before it is there. -/
theorem refused_on_result (obstacle : Obstacle store collections)
    (declarable : Declarable collections) :
    (obstacle.result.collection obstacle.declared.name).createIndex obstacle.declared.name
      obstacle.spec = .error obstacle.error := by
  have last : { obstacle.declared with indexes := obstacle.earlier } ∈ obstacle.cleared :=
    List.mem_append_right _ List.mem_cons_self
  have there := store.collection_withCollections_of_mem
    (obstacle.declarable_cleared declarable).names last
  rw [result, there]
  exact obstacle.refused

/-- An obstacle is one in the store that it leaves, too. -/
def again (obstacle : Obstacle store collections) (declarable : Declarable collections) :
    Obstacle obstacle.result collections :=
  have passed := obstacle.forall_mem_cleared.mp (obstacle.result_meets declarable)
  { obstacle with
    admitted_before := MemoryStore.admits_of_meets passed.1
    admitted := (MemoryCollection.admitsInOrder_of_satisfied passed.2.2).1
    refused := by
      rw [(MemoryCollection.admitsInOrder_of_satisfied passed.2.2).2]
      exact obstacle.refused_on_result declarable }

/-- A repeated run leaves the store as it is. -/
theorem again_result (obstacle : Obstacle store collections)
    (declarable : Declarable collections) :
    (obstacle.again declarable).result = obstacle.result :=
  MemoryStore.withCollections_of_meets (obstacle.result_meets declarable)

end Obstacle

namespace Bootstrapper

/-- **A failed run.** The run ends at a declared index; what is declared before it is
there, nothing else has changed, and the error is the one with which the store left
behind refuses the index. Another run ends in the same error and changes nothing. -/
theorem apply_stops_at_refused_index (bootstrapper : Bootstrapper) (store : MemoryStore)
    (error : BootstrapError) (result : MemoryStore)
    (failed : bootstrapper.apply.run MemoryStore.asStore store = (.error error, result)) :
    ∃ before declared after earlier spec later cause,
      bootstrapper.definition.collections = before ++ declared :: after ∧
      declared.indexes = earlier ++ spec :: later ∧
      error = .store cause ∧
      result.Meets (before ++ [{ declared with indexes := earlier }]) ∧
      result.Extends store (before ++ [{ declared with indexes := earlier }]) ∧
      result.answer (.createIndex declared.name spec) = (.error cause, result) ∧
      bootstrapper.apply.run MemoryStore.asStore result = (.error error, result) := by
  have declarable := bootstrapper.declarable
  rw [apply_run] at failed
  rcases SchemaDefinition.apply_run_cases bootstrapper.valid store with
    ⟨_, run⟩ | ⟨obstacle, run⟩
  · rw [run] at failed
    cases (Prod.mk.inj failed).1
  · rw [run] at failed
    obtain ⟨raised, rfl⟩ := Prod.mk.inj failed
    obtain rfl := Except.error.inj raised
    have meets := obstacle.result_meets declarable
    have there := (obstacle.forall_mem_cleared.mp meets).2.1
    refine ⟨obstacle.before, obstacle.declared, obstacle.after, obstacle.earlier, obstacle.spec,
      obstacle.later, obstacle.error, obstacle.collections_eq, obstacle.indexes_eq, rfl, meets,
      obstacle.result_extends declarable, ?_, ?_⟩
    · rw [MemoryStore.answer_createIndex_of_error (obstacle.refused_on_result declarable),
        MemoryStore.set_collection_of_contains there]
    · rw [apply_run, SchemaDefinition.apply_run_of_obstacle bootstrapper.valid
        (obstacle.again declarable), obstacle.again_result declarable]
      rfl

/-- The run of the testbench fails where the nodes have its index without uniqueness. -/
theorem apply_stops_at_index_without_uniqueness :
    ∃ error result,
      (⟨.testbench, rfl⟩ : Bootstrapper).apply.run MemoryStore.asStore
          ((MemoryStore.empty "pocket-ml-testbench" 0).forceIndex "nodes"
            ⟨"address_1_service_1", [("address", .int32 1), ("service", .int32 1)], false⟩) =
        (.error error, result) ∧
      (⟨.testbench, rfl⟩ : Bootstrapper).apply.run MemoryStore.asStore result =
        (.error error, result) := by
  obtain ⟨error, failed⟩ : ∃ error,
      ((⟨.testbench, rfl⟩ : Bootstrapper).apply.run MemoryStore.asStore
        ((MemoryStore.empty "pocket-ml-testbench" 0).forceIndex "nodes"
          ⟨"address_1_service_1", [("address", .int32 1), ("service", .int32 1)],
            false⟩)).1 = .error error :=
    ⟨_, rfl⟩
  obtain ⟨_, _, _, _, _, _, _, _, _, _, _, _, _, again⟩ :=
    apply_stops_at_refused_index _ _ error _ (Prod.ext failed rfl)
  exact ⟨error, _, Prod.ext failed rfl, again⟩

end Bootstrapper

end SchemaBootstrap
