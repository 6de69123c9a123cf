import SchemaBootstrap.Proofs.Bootstrap.Effect

/-! # A plan predicts the run

A plan and a run go through a definition in the same order, but a plan looks at a store
that stays as it is, and a run at one that it changes on the way. Since collections do
not get into each other's way, a run that succeeds reports of every step what the plan
says of it (`SchemaDefinition.collections_reportOn`, `SchemaDefinition.indexes_reportOn`):
what is pending is created, and what is satisfied was there before. So the store is
another one after a run exactly when a step is pending
(`MemoryStore.withCollections_ne_iff`).
-/

namespace SchemaBootstrap

namespace PlannedStep

/-- The name under which a report lists what a step is about. -/
def name : PlannedStep → String
  | collection name _ => name
  | index parent spec _ => qualifiedName parent spec.name

/-- Whether a step is about a collection, and not about an index. -/
def isCollection : PlannedStep → Bool
  | collection _ _ => true
  | index _ _ _ => false

def isSatisfied (step : PlannedStep) : Bool :=
  step.state == .satisfied

/-- A step is satisfied or pending, and not both. -/
theorem isSatisfied_eq_not_isPending (step : PlannedStep) :
    step.isSatisfied = !step.isPending := by
  rw [isSatisfied, isPending]
  cases step.state <;> rfl

/-- What a run that takes a step where it is pending reports of it. -/
def ensured (step : PlannedStep) : Ensured where
  name := step.name
  created := step.isPending

/-- What a plan has pending is what a run reports as created. -/
theorem createdNames_map_ensured (steps : List PlannedStep) :
    Ensured.createdNames (steps.map ensured) = (steps.filter isPending).map name := by
  simp only [Ensured.createdNames, List.filter_map, List.map_map]
  rfl

/-- What a plan has satisfied is what a run reports as existing. -/
theorem existingNames_map_ensured (steps : List PlannedStep) :
    Ensured.existingNames (steps.map ensured) = (steps.filter isSatisfied).map name := by
  simp only [Ensured.existingNames, List.filter_map, List.map_map,
    funext isSatisfied_eq_not_isPending]
  rfl

/-- A run reports a creation if and only if a step of the plan is pending. -/
theorem any_created_map_ensured (steps : List PlannedStep) :
    (((steps.filter isCollection).map ensured ++
      (steps.filter fun step => !step.isCollection).map ensured).any Ensured.created) =
      steps.any isPending := by
  rw [Bool.eq_iff_iff]
  simp only [List.any_append, List.any_map, Bool.or_eq_true, List.any_eq_true, List.mem_filter,
    Bool.not_eq_true']
  constructor
  · rintro (⟨step, ⟨member, -⟩, pending⟩ | ⟨step, ⟨member, -⟩, pending⟩) <;>
      exact ⟨step, member, pending⟩
  · rintro ⟨step, member, pending⟩
    cases kind : step.isCollection with
    | true => exact Or.inl ⟨step, ⟨member, kind⟩, pending⟩
    | false => exact Or.inr ⟨step, ⟨member, kind⟩, pending⟩

/-- A collection is pending unless it is there. -/
theorem isPending_collection (name : String) (there : Bool) :
    (collection name (.ofSatisfied there)).isPending = !there := by
  cases there <;> rfl

/-- An index is pending unless it is satisfied. -/
theorem isPending_index (parent : String) (spec : IndexSpec) (there : Bool) :
    (index parent spec (.ofSatisfied there)).isPending = !there := by
  cases there <;> rfl

end PlannedStep

/-- The steps that need not be taken. -/
def BootstrapPlan.satisfied (plan : BootstrapPlan) : List PlannedStep :=
  plan.steps.filter PlannedStep.isSatisfied

namespace CollectionSpec

variable (declared : CollectionSpec) (there : Bool) (present : List ExistingIndex)

theorem filter_collection_steps :
    (declared.steps there present).filter PlannedStep.isCollection =
      [.collection declared.name (.ofSatisfied there)] := by
  rw [steps, List.filter_cons_of_pos rfl, List.filter_eq_nil_iff.mpr]
  intro step member
  obtain ⟨spec, -, rfl⟩ := List.mem_map.mp member
  exact Bool.noConfusion

/-- The other steps for a declared collection are those for its indexes. -/
theorem filter_index_steps :
    (declared.steps there present).filter (!·.isCollection) =
      declared.indexes.map fun spec => .index declared.name spec
        (.ofSatisfied (IndexPresence.classify present spec).isSatisfied) := by
  rw [steps, List.filter_cons_of_neg (by exact Bool.noConfusion), List.filter_eq_self.mpr]
  intro step member
  obtain ⟨spec, -, rfl⟩ := List.mem_map.mp member
  rfl

/-- The step for a collection says what the report of its creation says. -/
theorem collection_steps :
    ((declared.steps there present).filter PlannedStep.isCollection).map PlannedStep.ensured =
      [⟨declared.name, !there⟩] := by
  rw [filter_collection_steps, List.map_singleton, PlannedStep.ensured,
    PlannedStep.isPending_collection]
  rfl

/-- The steps for indexes say what the report of their creation says. -/
theorem index_steps :
    ((declared.steps there present).filter fun step => !step.isCollection).map
        PlannedStep.ensured = declared.ensured present := by
  rw [filter_index_steps, List.map_map, ensured]
  refine List.map_congr_left fun spec _ => ?_
  rw [Function.comp_apply, PlannedStep.ensured, PlannedStep.isPending_index, PlannedStep.name]

end CollectionSpec

namespace SchemaDefinition

variable (definition : SchemaDefinition) (store : MemoryStore)

/-- A report says of every collection what the plan says of its step. -/
theorem collections_reportOn :
    (definition.reportOn store).collections =
      ((definition.planOn store).steps.filter PlannedStep.isCollection).map
        PlannedStep.ensured := by
  simp only [reportOn, planOn, List.filter_flatMap, List.map_flatMap,
    CollectionSpec.collection_steps]
  exact List.map_eq_flatMap

/-- A report says of every index what the plan says of its step. -/
theorem indexes_reportOn :
    (definition.reportOn store).indexes =
      ((definition.planOn store).steps.filter fun step => !step.isCollection).map
        PlannedStep.ensured := by
  simp only [reportOn, planOn, List.filter_flatMap, List.map_flatMap, CollectionSpec.index_steps]

end SchemaDefinition

namespace Bootstrapper

/-- Creating what is declared changes a store that admits it exactly when a plan says that there is
something to do. -/
theorem withCollections_ne_iff (bootstrapper : Bootstrapper) {store : MemoryStore}
    (admitted : store.Admits bootstrapper.definition.collections) :
    store.withCollections bootstrapper.definition.collections ≠ store ↔
      (bootstrapper.definition.planOn store).isUpToDate = false := by
  rw [← Bool.not_eq_true, SchemaDefinition.isUpToDate_planOn_iff, Ne, not_iff_not]
  constructor
  · intro same
    have meets := store.meets_withCollections bootstrapper.declarable admitted
    rwa [same] at meets
  · exact MemoryStore.withCollections_of_meets

/-- **The dry run predicts the run.** Where a run succeeds, a plan made beforehand tells what
it reports: the pending collections and indexes are those that it creates, the satisfied
ones those that were there, all in the order of the plan. So a run reports that it has changed
something, and has changed the store, exactly when the plan is not up to date. -/
theorem plan_predicts_apply (bootstrapper : Bootstrapper) (store : MemoryStore)
    (report : BootstrapReport) (result : MemoryStore)
    (done : bootstrapper.apply.run MemoryStore.asStore store = (.ok report, result)) :
    ∃ plan, bootstrapper.plan.run MemoryStore.asStore store = (.ok plan, store) ∧
      (Ensured.createdNames report.collections =
          (plan.pending.filter (·.isCollection)).map PlannedStep.name ∧
        Ensured.existingNames report.collections =
          (plan.satisfied.filter (·.isCollection)).map PlannedStep.name) ∧
      (Ensured.createdNames report.indexes =
          (plan.pending.filter (!·.isCollection)).map PlannedStep.name ∧
        Ensured.existingNames report.indexes =
          (plan.satisfied.filter (!·.isCollection)).map PlannedStep.name) ∧
      (report.changedAnything = true ↔ plan.isUpToDate = false) ∧
      (result ≠ store ↔ plan.isUpToDate = false) := by
  obtain ⟨admitted, rfl, rfl⟩ := apply_run_eq_ok_iff.mp done
  refine ⟨_, plan_run bootstrapper store, ⟨?_, ?_⟩, ⟨?_, ?_⟩, ?_, ?_⟩
  · rw [SchemaDefinition.collections_reportOn, PlannedStep.createdNames_map_ensured,
      List.filter_comm]
    rfl
  · rw [SchemaDefinition.collections_reportOn, PlannedStep.existingNames_map_ensured,
      List.filter_comm]
    rfl
  · rw [SchemaDefinition.indexes_reportOn, PlannedStep.createdNames_map_ensured,
      List.filter_comm]
    rfl
  · rw [SchemaDefinition.indexes_reportOn, PlannedStep.existingNames_map_ensured,
      List.filter_comm]
    rfl
  · rw [BootstrapReport.changedAnything, SchemaDefinition.collections_reportOn,
      SchemaDefinition.indexes_reportOn, PlannedStep.any_created_map_ensured,
      BootstrapPlan.isUpToDate, BootstrapPlan.pending, List.isEmpty_eq_false_iff, ne_eq,
      List.filter_eq_nil_iff]
    simp only [List.any_eq_true, not_forall, not_not, exists_prop]
  · exact bootstrapper.withCollections_ne_iff admitted

theorem plan_predicts_apply_to_partlyBuilt :
    ∃ report result plan,
      (⟨.testbench, rfl⟩ : Bootstrapper).apply.run MemoryStore.asStore partlyBuilt =
        (.ok report, result) ∧
      (⟨.testbench, rfl⟩ : Bootstrapper).plan.run MemoryStore.asStore partlyBuilt =
        (.ok plan, partlyBuilt) ∧
      Ensured.existingNames report.indexes =
        (plan.satisfied.filter (!·.isCollection)).map PlannedStep.name ∧
      (result ≠ partlyBuilt ↔ plan.isUpToDate = false) := by
  obtain ⟨report, result, done⟩ := exists_apply_partlyBuilt
  obtain ⟨plan, planned, -, ⟨-, existing⟩, -, changed⟩ :=
    plan_predicts_apply _ partlyBuilt report result done
  exact ⟨report, result, plan, done, planned, existing, changed⟩

end Bootstrapper

end SchemaBootstrap
