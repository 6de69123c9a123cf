import SchemaBootstrap.Proofs.Bootstrap.DryRun
import SchemaBootstrap.Proofs.Store.Reachable

/-! # A plan and a comparison agree

A plan and a comparison go through a definition in different ways: where a collection is
absent, the one goes on with no indexes and the other reports all declared ones at once.
They come to the same: what a comparison lacks of a collection can be read off its indexes
whether it is there or not (`MemoryStore.lacks_eq`), and every pending index of a plan is
either missing or in conflict with an index that is there (`PendingSplit`).
-/

namespace SchemaBootstrap

open PlannedStep

namespace Shortfall

/-- Where there are no indexes, all declared ones are missing. -/
theorem ofIndexes_nil (collection : String) (specs : List IndexSpec) :
    ofIndexes collection [] specs =
      { none with indexes := specs.map fun spec => qualifiedName collection spec.name } := by
  induction specs with
  | nil => rfl
  | cons spec rest ih =>
      rw [ofIndexes, ih]
      rfl

end Shortfall

namespace MemoryStore

/-- What is lacking of a collection, in terms of its indexes alone. -/
theorem lacks_eq (store : MemoryStore) (declared : CollectionSpec) :
    store.lacks declared =
      { Shortfall.ofIndexes declared.name (store.collection declared.name).indexes
          declared.indexes with
        collections :=
          if store.collections.contains declared.name then [] else [declared.name] } := by
  unfold lacks
  by_cases there : store.collections.contains declared.name = true
  · have none := Shortfall.collections_ofIndexes declared.name
      (store.collection declared.name).indexes declared.indexes
    simp only [there, ↓reduceIte, ← none]
  · have nothing : (store.collection declared.name).indexes = [] := by
      rw [collection_of_absent there]
      rfl
    simp only [there, Bool.false_eq_true, ↓reduceIte, nothing, Shortfall.ofIndexes_nil]
    rfl

end MemoryStore

/-- Pending indexes in the order of a plan, split in order into those that a store does not
have at all and those that are in conflict with an index that it has. -/
inductive PendingSplit (store : MemoryStore) :
    List PlannedStep → List String → List IndexMismatch → Prop
  | nil : PendingSplit store [] [] []
  | missing {steps : List PlannedStep} {names : List String} {mismatches : List IndexMismatch}
      (collection : String) (spec : IndexSpec)
      (absent : IndexPresence.classify (store.collection collection).indexes spec = .missing)
      (rest : PendingSplit store steps names mismatches) :
      PendingSplit store (.index collection spec .pending :: steps)
        (qualifiedName collection spec.name :: names) mismatches
  | mismatched {steps : List PlannedStep} {names : List String}
      {mismatches : List IndexMismatch} (mismatch : IndexMismatch)
      (differs : IndexPresence.classify (store.collection mismatch.collection).indexes
        mismatch.expected = .mismatched mismatch.actual)
      (rest : PendingSplit store steps names mismatches) :
      PendingSplit store (.index mismatch.collection mismatch.expected .pending :: steps)
        names (mismatch :: mismatches)

namespace PendingSplit

variable {store : MemoryStore}

/-- Splits of pending steps are joined like the lists that they split. -/
theorem append {steps steps' : List PlannedStep} {names names' : List String}
    {mismatches mismatches' : List IndexMismatch}
    (first : PendingSplit store steps names mismatches)
    (second : PendingSplit store steps' names' mismatches') :
    PendingSplit store (steps ++ steps') (names ++ names') (mismatches ++ mismatches') := by
  induction first with
  | nil => exact second
  | missing collection spec absent _ ih => exact .missing collection spec absent ih
  | mismatched mismatch differs _ ih => exact .mismatched mismatch differs ih

/-- Splits for each declared collection make up one for all of them. -/
theorem flatMap {collections : List CollectionSpec}
    {steps : CollectionSpec → List PlannedStep} {names : CollectionSpec → List String}
    {mismatches : CollectionSpec → List IndexMismatch}
    (each : ∀ declared ∈ collections,
      PendingSplit store (steps declared) (names declared) (mismatches declared)) :
    PendingSplit store (collections.flatMap steps) (collections.flatMap names)
      (collections.flatMap mismatches) := by
  induction collections with
  | nil => exact .nil
  | cons declared rest ih =>
      obtain ⟨here, others⟩ := List.forall_mem_cons.mp each
      simp only [List.flatMap_cons]
      exact here.append (ih others)

/-- The pending indexes of one collection are split as a comparison lists them. -/
theorem ofIndexes (store : MemoryStore) (collection : String) (specs : List IndexSpec) :
    let present := (store.collection collection).indexes
    PendingSplit store
      ((specs.map fun spec => PlannedStep.index collection spec
        (.ofSatisfied (IndexPresence.classify present spec).isSatisfied)).filter isPending)
      (Shortfall.ofIndexes collection present specs).indexes
      (Shortfall.ofIndexes collection present specs).mismatches := by
  intro present
  induction specs with
  | nil => exact .nil
  | cons spec rest ih =>
      rw [List.map_cons, Shortfall.ofIndexes, Shortfall.indexes_append,
        Shortfall.mismatches_append, Shortfall.ofIndex]
      cases found : IndexPresence.classify present spec with
      | satisfied =>
          rw [List.filter_cons_of_neg (by exact Bool.noConfusion)]
          exact ih
      | mismatched actual =>
          rw [List.filter_cons_of_pos rfl]
          exact .mismatched ⟨collection, spec, actual⟩ found ih
      | missing =>
          rw [List.filter_cons_of_pos rfl]
          exact .missing collection spec found ih

end PendingSplit

namespace SchemaDefinition

variable (definition : SchemaDefinition) (store : MemoryStore)

/-- The pending collections of a plan are those that a comparison does not find. -/
theorem pending_collections_planOn :
    ((definition.planOn store).pending.filter (·.isCollection)).map PlannedStep.name =
      (definition.verificationOn store).shortfall.collections := by
  simp only [planOn, verificationOn, BootstrapPlan.pending, List.filter_flatMap,
    List.map_flatMap]
  refine List.flatMap_congr fun declared _ => ?_
  rw [List.filter_comm, CollectionSpec.filter_collection_steps, MemoryStore.lacks_eq]
  cases store.collections.contains declared.name <;> rfl

/-- The pending index steps of a plan split into the missing and the mismatched indexes of the
verification. -/
theorem pendingSplit_planOn :
    PendingSplit store ((definition.planOn store).pending.filter (!·.isCollection))
      (definition.verificationOn store).shortfall.indexes
      (definition.verificationOn store).shortfall.mismatches := by
  simp only [planOn, verificationOn, BootstrapPlan.pending, List.filter_flatMap,
    MemoryStore.lacks_eq]
  refine PendingSplit.flatMap fun declared _ => ?_
  rw [List.filter_comm, CollectionSpec.filter_index_steps]
  exact PendingSplit.ofIndexes store declared.name declared.indexes

end SchemaDefinition

namespace MemoryStore

/-- What it means that everything is as declared, where no two indexes share a name. -/
theorem NamesDistinct.meets_iff {store : MemoryStore} (distinct : store.NamesDistinct)
    (collections : List CollectionSpec) :
    store.Meets collections ↔
      ∀ declared ∈ collections, store.collections.contains declared.name = true ∧
        ∀ spec ∈ declared.indexes, ∃ index ∈ (store.collection declared.name).indexes,
          index.name = spec.name ∧ index.keys.readKeys = spec.directedPaths ∧
            index.unique = spec.unique := by
  unfold Meets
  refine forall₂_congr fun declared _ => and_congr_right fun _ => ?_
  exact forall₂_congr fun spec _ => (distinct declared.name).classify_eq_satisfied_iff spec

end MemoryStore

namespace Bootstrapper

/-- **A plan and a comparison agree.** The pending collections of a plan are the missing ones
of a comparison, and its pending indexes are the missing and the mismatched ones, in their
order. So the plan is up to date exactly when the comparison is satisfied, and this is when
every declared collection is there and has every declared index under its default name, with
the declared paths, directions and uniqueness. -/
theorem plan_agrees_with_verify (bootstrapper : Bootstrapper) (store : MemoryStore)
    (reachable : store.Reachable) :
    ∃ plan verification,
      bootstrapper.plan.run MemoryStore.asStore store = (.ok plan, store) ∧
      bootstrapper.verify.run MemoryStore.asStore store = (.ok verification, store) ∧
      verification.shortfall.collections =
        (plan.pending.filter (·.isCollection)).map PlannedStep.name ∧
      PendingSplit store (plan.pending.filter (!·.isCollection))
        verification.shortfall.indexes verification.shortfall.mismatches ∧
      (plan.isUpToDate = true ↔ verification.isSatisfied = true) ∧
      (verification.isSatisfied = true ↔
        ∀ declared ∈ bootstrapper.definition.collections,
          store.collections.contains declared.name = true ∧
          ∀ spec ∈ declared.indexes, ∃ index ∈ (store.collection declared.name).indexes,
            index.name = spec.name ∧ index.keys.readKeys = spec.directedPaths ∧
              index.unique = spec.unique) := by
  have satisfied := bootstrapper.definition.isSatisfied_verificationOn_iff store
  have upToDate := bootstrapper.definition.isUpToDate_planOn_iff store
  refine ⟨_, _, plan_run bootstrapper store, verify_run bootstrapper store, ?_, ?_, ?_, ?_⟩
  · exact (bootstrapper.definition.pending_collections_planOn store).symm
  · exact bootstrapper.definition.pendingSplit_planOn store
  · rw [upToDate, satisfied]
  · rw [satisfied]
    exact reachable.namesDistinct.meets_iff _

/-- The store that is partly built, with the index of the nodes not unique. -/
def loosened : MemoryStore :=
  partlyBuilt.forceIndex "nodes"
    ⟨"address_1_service_1", [("address", .int32 1), ("service", .int32 1)], false⟩

/-- The loosened store is reached by ordinary operations. -/
theorem loosened_reachable : loosened.Reachable := by
  apply MemoryStore.Reachable.perform _ (.forceIndex "nodes" _)
  apply MemoryStore.Reachable.perform _ (.request (.insertDocument "nodes" _))
  apply MemoryStore.Reachable.perform _ (.forceIndex "audit" _)
  apply MemoryStore.Reachable.perform _ (.forceIndex "tokenizers" _)
  exact .empty _ _

/-- Some of the indexes are missing and one is not unique, and the plan has them all. -/
theorem plan_agrees_with_verify_on_loosened :
    loosened.Reachable ∧ ∃ plan verification,
      (⟨.testbench, rfl⟩ : Bootstrapper).plan.run MemoryStore.asStore loosened =
        (.ok plan, loosened) ∧
      (⟨.testbench, rfl⟩ : Bootstrapper).verify.run MemoryStore.asStore loosened =
        (.ok verification, loosened) ∧
      PendingSplit loosened (plan.pending.filter (!·.isCollection))
        verification.shortfall.indexes verification.shortfall.mismatches ∧
      verification.shortfall.indexes.length = 4 ∧
      verification.shortfall.mismatches.length = 1 := by
  have reachable := loosened_reachable
  obtain ⟨plan, verification, planned, verified, -, split, -⟩ :=
    plan_agrees_with_verify ⟨.testbench, rfl⟩ loosened reachable
  refine ⟨reachable, plan, verification, planned, verified, split, ?_⟩
  have same := (Prod.mk.inj (verified.symm.trans (verify_run _ loosened))).1
  rw [Except.ok.inj same]
  decide +kernel

end Bootstrapper

end SchemaBootstrap
