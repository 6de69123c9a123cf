import SchemaBootstrap.Bootstrap.Bootstrapper
import SchemaBootstrap.Proofs.Bootstrap.DeclaredStore
import SchemaBootstrap.Proofs.Store.ProgramRun

/-! # Looking at a store in memory

Making a plan and comparing a store with a definition leave the store as it is and
come to results that are read off collection by collection
(`SchemaDefinition.plan_run`, `SchemaDefinition.verify_run`). Both find nothing to do
exactly when every declared collection is there and every declared index is there as
declared (`SchemaDefinition.isUpToDate_planOn_iff`,
`SchemaDefinition.isSatisfied_verificationOn_iff`).
-/

namespace SchemaBootstrap

open Program

theorem IndexPresence.isSatisfied_iff (presence : IndexPresence) :
    presence.isSatisfied = true ↔ presence = .satisfied := by
  cases presence <;> simp only [isSatisfied, Bool.false_eq_true, reduceCtorEq]

theorem StepState.ofSatisfied_eq_pending_iff (satisfied : Bool) :
    ofSatisfied satisfied = .pending ↔ satisfied = false := by
  cases satisfied <;> simp only [ofSatisfied, Bool.false_eq_true, ↓reduceIte, reduceCtorEq]

namespace Shortfall

theorem collections_append (first second : Shortfall) :
    (first ++ second).collections = first.collections ++ second.collections :=
  rfl

theorem indexes_append (first second : Shortfall) :
    (first ++ second).indexes = first.indexes ++ second.indexes :=
  rfl

theorem mismatches_append (first second : Shortfall) :
    (first ++ second).mismatches = first.mismatches ++ second.mismatches :=
  rfl

theorem collections_ofIndexes (collection : String) (present : List ExistingIndex)
    (specs : List IndexSpec) : (ofIndexes collection present specs).collections = [] := by
  induction specs with
  | nil => rfl
  | cons spec rest ih =>
      rw [ofIndexes, collections_append, ih, List.append_nil, ofIndex]
      split <;> rfl

theorem indexes_ofIndexes (collection : String) (present : List ExistingIndex)
    (specs : List IndexSpec) : (ofIndexes collection present specs).indexes =
      specs.flatMap fun spec => (ofIndex collection present spec).indexes := by
  induction specs with
  | nil => rfl
  | cons spec rest ih => rw [ofIndexes, indexes_append, ih, List.flatMap_cons]

theorem mismatches_ofIndexes (collection : String) (present : List ExistingIndex)
    (specs : List IndexSpec) : (ofIndexes collection present specs).mismatches =
      specs.flatMap fun spec => (ofIndex collection present spec).mismatches := by
  induction specs with
  | nil => rfl
  | cons spec rest ih => rw [ofIndexes, mismatches_append, ih, List.flatMap_cons]

/-- Nothing is lacking of an index exactly when it is there as declared. -/
theorem ofIndex_eq_nil_iff (collection : String) (present : List ExistingIndex)
    (spec : IndexSpec) :
    (ofIndex collection present spec).indexes = [] ∧
        (ofIndex collection present spec).mismatches = [] ↔
      IndexPresence.classify present spec = .satisfied := by
  rw [ofIndex]
  split <;> simp only [*, none, reduceCtorEq, List.cons_ne_nil, and_false, false_and, and_self]

/-- An index is no mismatch unless it is classified as one. -/
theorem mismatches_ofIndex_eq_nil_iff (collection : String) (present : List ExistingIndex)
    (spec : IndexSpec) : (ofIndex collection present spec).mismatches = [] ↔
      ∀ actual, IndexPresence.classify present spec ≠ .mismatched actual := by
  rw [ofIndex]
  split
  · next found => simp only [found, none, ne_eq, reduceCtorEq, not_false_eq_true, implies_true]
  · next actual found =>
      simp only [found, List.cons_ne_nil, false_iff]
      exact fun differ => differ actual rfl
  · next found => simp only [found, none, ne_eq, reduceCtorEq, not_false_eq_true, implies_true]

end Shortfall

/-- What a store lacks of a declared collection. -/
def MemoryStore.lacks (store : MemoryStore) (declared : CollectionSpec) : Shortfall :=
  if store.collections.contains declared.name then
    .ofIndexes declared.name (store.collection declared.name).indexes declared.indexes
  else .ofAbsent declared

namespace MemoryStore

/-- A store lacks nothing of a declared collection if it is there with all its indexes satisfied.
-/
theorem lacks_eq_nil_iff (store : MemoryStore) (declared : CollectionSpec) :
    ((store.lacks declared).collections = [] ∧ (store.lacks declared).indexes = [] ∧
        (store.lacks declared).mismatches = []) ↔
      store.collections.contains declared.name = true ∧ ∀ spec ∈ declared.indexes,
        IndexPresence.classify (store.collection declared.name).indexes spec = .satisfied := by
  rw [lacks]
  by_cases there : store.collections.contains declared.name = true
  · simp only [there, ↓reduceIte, Shortfall.collections_ofIndexes, Shortfall.indexes_ofIndexes,
      Shortfall.mismatches_ofIndexes, List.flatMap_eq_nil_iff, true_and,
      ← Shortfall.ofIndex_eq_nil_iff declared.name]
    exact ⟨fun none spec member => ⟨none.1 spec member, none.2 spec member⟩, fun none =>
      ⟨fun spec member => (none spec member).1, fun spec member => (none spec member).2⟩⟩
  · simp only [there, Bool.false_eq_true, ↓reduceIte, Shortfall.ofAbsent, List.cons_ne_nil,
      false_and]

/-- A collection that is not there has nothing that differs. -/
theorem mismatches_lacks_eq_nil_iff (store : MemoryStore) (declared : CollectionSpec) :
    (store.lacks declared).mismatches = [] ↔ ∀ spec ∈ declared.indexes, ∀ actual,
      IndexPresence.classify (store.collection declared.name).indexes spec ≠
        .mismatched actual := by
  rw [lacks]
  by_cases there : store.collections.contains declared.name = true
  · simp only [there, ↓reduceIte, Shortfall.mismatches_ofIndexes, List.flatMap_eq_nil_iff,
      Shortfall.mismatches_ofIndex_eq_nil_iff]
  · have missing : ∀ spec, IndexPresence.classify [] spec = .missing := fun _ => rfl
    simp only [there, Bool.false_eq_true, ↓reduceIte, Shortfall.ofAbsent,
      collection_of_absent there, MemoryCollection.empty, missing, ne_eq, reduceCtorEq,
      not_false_eq_true, implies_true]

end MemoryStore

section Collections

variable {store : MemoryStore} {listed : List String}

/-- Where the listing of collections is accurate, the verification of collections finds what the
store lacks of each. -/
theorem verifyCollections_run {collections : List CollectionSpec}
    (accurate : ∀ declared ∈ collections,
      listed.contains declared.name = store.collections.contains declared.name) :
    (verifyCollections listed collections).run MemoryStore.asStore store =
      (.ok
        { collections := collections.flatMap fun declared => (store.lacks declared).collections
          indexes := collections.flatMap fun declared => (store.lacks declared).indexes
          mismatches := collections.flatMap fun declared => (store.lacks declared).mismatches },
        store) := by
  induction collections with
  | nil => rfl
  | cons declared rest ih =>
      obtain ⟨known, accurate⟩ := List.forall_mem_cons.mp accurate
      have later := ih accurate
      rw [verifyCollections, known]
      simp only [List.flatMap_cons, MemoryStore.lacks]
      by_cases there : store.collections.contains declared.name = true
      · simp only [if_pos there]
        rw [run_bind_of_ok (run_listIndexes _ _), run_bind_of_ok (run_pure _ _ _),
          run_bind_of_ok later, run_pure]
        rfl
      · simp only [if_neg there]
        rw [run_bind_of_ok (run_pure _ _ _), run_bind_of_ok later, run_pure]
        rfl

/-- Where the listing of collections is accurate, the plan has the steps for each of them. -/
theorem planCollections_run {collections : List CollectionSpec}
    (accurate : ∀ declared ∈ collections,
      listed.contains declared.name = store.collections.contains declared.name) :
    (planCollections listed collections).run MemoryStore.asStore store =
      (.ok (collections.flatMap fun declared =>
          declared.steps (store.collections.contains declared.name)
            (store.collection declared.name).indexes),
        store) := by
  induction collections with
  | nil => rfl
  | cons declared rest ih =>
      obtain ⟨known, accurate⟩ := List.forall_mem_cons.mp accurate
      have later := ih accurate
      rw [planCollections, known, List.flatMap_cons]
      by_cases there : store.collections.contains declared.name = true
      · rw [if_pos there, run_bind_of_ok (run_listIndexes _ _), run_bind_of_ok later, run_pure]
      · rw [if_neg there, run_bind_of_ok (run_pure _ _ _), run_bind_of_ok later, run_pure,
          MemoryStore.collection_of_absent there]
        rfl

end Collections

namespace SchemaDefinition

/-- The comparison of a definition with a store. -/
def verificationOn (definition : SchemaDefinition) (store : MemoryStore) : Verification where
  database := definition.database
  shortfall :=
    { collections := definition.collections.flatMap fun declared =>
        (store.lacks declared).collections
      indexes := definition.collections.flatMap fun declared => (store.lacks declared).indexes
      mismatches := definition.collections.flatMap fun declared =>
        (store.lacks declared).mismatches }

/-- The plan of a definition for a store. -/
def planOn (definition : SchemaDefinition) (store : MemoryStore) : BootstrapPlan where
  database := definition.database
  steps := definition.collections.flatMap fun declared =>
    declared.steps (store.collections.contains declared.name)
      (store.collection declared.name).indexes

variable (definition : SchemaDefinition) (store : MemoryStore)

/-- A verification leaves a store in memory as it is. -/
theorem verify_run :
    definition.verify.run MemoryStore.asStore store =
      (.ok (definition.verificationOn store), store) := by
  have compared := verifyCollections_run (fun declared (_ : declared ∈ definition.collections) =>
    store.collections.contains_names declared.name)
  rw [verify, run_bind_of_ok (run_listCollections store), run_bind_of_ok compared]
  rfl

/-- A plan leaves a store in memory as it is. -/
theorem plan_run :
    definition.plan.run MemoryStore.asStore store = (.ok (definition.planOn store), store) := by
  have planned := planCollections_run (fun declared (_ : declared ∈ definition.collections) =>
    store.collections.contains_names declared.name)
  rw [plan, run_bind_of_ok (run_listCollections store), run_bind_of_ok planned]
  rfl

/-- A comparison finds nothing lacking exactly when everything is there as declared. -/
theorem isSatisfied_verificationOn_iff :
    (definition.verificationOn store).isSatisfied = true ↔ store.Meets definition.collections := by
  simp only [Verification.isSatisfied, verificationOn, Bool.and_eq_true, List.isEmpty_iff,
    List.flatMap_eq_nil_iff, MemoryStore.Meets, ← MemoryStore.lacks_eq_nil_iff]
  exact ⟨fun none declared member =>
      ⟨none.1.1 declared member, none.1.2 declared member, none.2 declared member⟩,
    fun none => ⟨⟨fun declared member => (none declared member).1,
      fun declared member => (none declared member).2.1⟩,
      fun declared member => (none declared member).2.2⟩⟩

/-- A verification has no mismatch unless a declared index is classified as one. -/
theorem mismatches_verificationOn_eq_nil_iff :
    (definition.verificationOn store).shortfall.mismatches = [] ↔
      ∀ declared ∈ definition.collections, ∀ spec ∈ declared.indexes, ∀ actual,
        IndexPresence.classify (store.collection declared.name).indexes spec ≠
          .mismatched actual := by
  simp only [verificationOn, List.flatMap_eq_nil_iff, MemoryStore.mismatches_lacks_eq_nil_iff]

/-- A plan has nothing to do exactly when everything is there as declared. -/
theorem isUpToDate_planOn_iff :
    (definition.planOn store).isUpToDate = true ↔ store.Meets definition.collections := by
  simp only [BootstrapPlan.isUpToDate, BootstrapPlan.pending, planOn, List.isEmpty_iff,
    List.filter_eq_nil_iff, List.mem_flatMap, CollectionSpec.steps, List.mem_cons, List.mem_map,
    PlannedStep.isPending, beq_iff_eq, forall_exists_index, and_imp, MemoryStore.Meets]
  constructor
  · intro done declared member
    have here := done _ declared member (Or.inl rfl)
    rw [PlannedStep.state, StepState.ofSatisfied_eq_pending_iff, Bool.not_eq_false] at here
    refine ⟨here, fun spec inside => ?_⟩
    have index := done _ declared member (Or.inr ⟨spec, inside, rfl⟩)
    rw [PlannedStep.state, StepState.ofSatisfied_eq_pending_iff, Bool.not_eq_false] at index
    exact (IndexPresence.isSatisfied_iff _).mp index
  · intro meets step declared member taken
    obtain ⟨there, found⟩ := meets declared member
    rcases taken with rfl | ⟨spec, inside, rfl⟩
    · rw [PlannedStep.state, StepState.ofSatisfied_eq_pending_iff, there]
      exact Bool.noConfusion
    · rw [PlannedStep.state, StepState.ofSatisfied_eq_pending_iff, found spec inside]
      exact Bool.noConfusion

end SchemaDefinition

namespace Bootstrapper

/-- The comparison of a bootstrapper with a store in memory. -/
theorem verify_run (bootstrapper : Bootstrapper) (store : MemoryStore) :
    bootstrapper.verify.run MemoryStore.asStore store =
      (.ok (bootstrapper.definition.verificationOn store), store) := by
  rw [verify, run_mapError, SchemaDefinition.verify_run]
  rfl

/-- The plan of a bootstrapper for a store in memory. -/
theorem plan_run (bootstrapper : Bootstrapper) (store : MemoryStore) :
    bootstrapper.plan.run MemoryStore.asStore store =
      (.ok (bootstrapper.definition.planOn store), store) := by
  rw [plan, run_mapError, SchemaDefinition.plan_run]
  rfl

end Bootstrapper

end SchemaBootstrap
