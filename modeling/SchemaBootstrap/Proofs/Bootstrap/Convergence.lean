import SchemaBootstrap.Proofs.Bootstrap.ApplyRun
import SchemaBootstrap.Proofs.Bootstrap.Inspection

/-! # What a successful run brings about

A run of a valid definition that succeeds leaves a store in memory with everything as
declared, so that a comparison finds nothing lacking and a plan nothing to do. Which
runs succeed can be read off the store before the run: nothing may differ from its
declaration, no collection may declare two indexes with one name, and no missing
unique index may meet documents with the same key.
-/

namespace SchemaBootstrap

namespace SchemaDefinition

variable {definition : SchemaDefinition}

/-- No collection declares two different indexes with one name. -/
def NamesApart (definition : SchemaDefinition) : Prop :=
  ∀ declared ∈ definition.collections, ∀ first ∈ declared.indexes,
    ∀ second ∈ declared.indexes, first.name = second.name → first = second

/-- What is in the way of declared indexes: one that differs, one with the same name, and
documents with the same key. -/
theorem admits_iff (valid : definition.violation? = none) (store : MemoryStore) :
    store.Admits definition.collections ↔
      (∀ declared ∈ definition.collections, ∀ spec ∈ declared.indexes, ∀ actual,
        IndexPresence.classify (store.collection declared.name).indexes spec ≠
          .mismatched actual) ∧
      definition.NamesApart ∧
      ∀ declared ∈ definition.collections, ∀ spec ∈ declared.indexes, spec.unique = true →
        IndexPresence.classify (store.collection declared.name).indexes spec = .missing →
        (ExistingIndex.ofSpec spec).Separates (store.collection declared.name).documents := by
  have each : ∀ declared ∈ definition.collections,
      ((store.collection declared.name).AdmitsInOrder declared.indexes ↔ _) :=
    fun declared member =>
      MemoryCollection.admitsInOrder_iff ((declarable valid).paths declared member)
  simp only [MemoryCollection.admits_iff] at each
  constructor
  · intro admitted
    refine ⟨fun declared member spec inside => ?_, fun declared member => ?_,
      fun declared member spec inside => ?_⟩
    · exact (((each declared member).mp (admitted declared member)).1 spec inside).1
    · exact ((each declared member).mp (admitted declared member)).2
    · exact (((each declared member).mp (admitted declared member)).1 spec inside).2
  · rintro ⟨clear, apart, room⟩ declared member
    refine (each declared member).mpr ⟨fun spec inside => ?_, apart declared member⟩
    exact ⟨clear declared member spec inside, room declared member spec inside⟩

end SchemaDefinition

namespace Bootstrapper

variable {bootstrapper : Bootstrapper} {store : MemoryStore}

/-- A run succeeds exactly on the stores that admit what is declared, with the report on
the store before it. -/
theorem apply_run_eq_ok_iff {report : BootstrapReport} {result : MemoryStore} :
    bootstrapper.apply.run MemoryStore.asStore store = (.ok report, result) ↔
      store.Admits bootstrapper.definition.collections ∧
      report = bootstrapper.definition.reportOn store ∧
      result = store.withCollections bootstrapper.definition.collections := by
  rw [apply_run]
  constructor
  · intro done
    rcases SchemaDefinition.apply_run_cases bootstrapper.valid store with
      ⟨admitted, run⟩ | ⟨obstacle, run⟩
    · rw [run] at done
      obtain ⟨reported, reached⟩ := Prod.mk.inj done
      exact ⟨admitted, (Except.ok.inj reported).symm, reached.symm⟩
    · rw [run] at done
      cases (Prod.mk.inj done).1
  · rintro ⟨admitted, rfl, rfl⟩
    rw [SchemaDefinition.apply_run_of_admits bootstrapper.valid admitted]
    rfl

/-- A definition can be applied exactly where the store admits its collections. -/
theorem exists_apply_eq_ok_iff :
    (∃ report, (bootstrapper.apply.run MemoryStore.asStore store).1 = .ok report) ↔
      store.Admits bootstrapper.definition.collections := by
  constructor
  · rintro ⟨report, done⟩
    exact (apply_run_eq_ok_iff.mp (Prod.ext done rfl)).1
  · intro admitted
    exact ⟨_, congrArg Prod.fst (apply_run_eq_ok_iff.mpr ⟨admitted, rfl, rfl⟩)⟩

/-- **Convergence.** After a successful run a comparison is satisfied, a plan is up to
date, and every declared collection is there with every declared index under its default
name, with the declared paths, directions and uniqueness. -/
theorem apply_converges (bootstrapper : Bootstrapper) (store : MemoryStore)
    (report : BootstrapReport) (result : MemoryStore)
    (done : bootstrapper.apply.run MemoryStore.asStore store = (.ok report, result)) :
    (∃ verification,
      bootstrapper.verify.run MemoryStore.asStore result = (.ok verification, result) ∧
        verification.isSatisfied = true) ∧
    (∃ plan, bootstrapper.plan.run MemoryStore.asStore result = (.ok plan, result) ∧
      plan.isUpToDate = true) ∧
    ∀ declared ∈ bootstrapper.definition.collections,
      result.collections.contains declared.name = true ∧
      ∀ spec ∈ declared.indexes, ∃ index,
        (result.collection declared.name).indexes.find? (·.name == spec.name) = some index ∧
          index.keys.readKeys = spec.directedPaths ∧ index.unique = spec.unique := by
  obtain ⟨admitted, -, rfl⟩ := apply_run_eq_ok_iff.mp done
  have meets := store.meets_withCollections bootstrapper.declarable admitted
  refine ⟨⟨_, verify_run _ _, ?_⟩, ⟨_, plan_run _ _, ?_⟩, ?_⟩
  · exact (SchemaDefinition.isSatisfied_verificationOn_iff _ _).mpr meets
  · exact (SchemaDefinition.isUpToDate_planOn_iff _ _).mpr meets
  · intro declared member
    obtain ⟨there, found⟩ := meets declared member
    refine ⟨there, fun spec inside => ?_⟩
    obtain ⟨index, named, satisfies⟩ :=
      (IndexPresence.classify_eq_satisfied_iff _ spec).mp (found spec inside)
    exact ⟨index, named, (ExistingIndex.satisfies_iff index spec).mp satisfies⟩

/-- The run of the testbench succeeds beside an index that is not declared. -/
theorem apply_converges_beside_undeclared :
    ∃ report result,
      (⟨.testbench, rfl⟩ : Bootstrapper).apply.run MemoryStore.asStore
          ((MemoryStore.empty "pocket-ml-testbench" 0).forceIndex "nodes"
            ⟨"by_port", [("port", .int32 1)], true⟩) =
        (.ok report, result) ∧
      ∃ verification,
        (⟨.testbench, rfl⟩ : Bootstrapper).verify.run MemoryStore.asStore result =
          (.ok verification, result) ∧ verification.isSatisfied = true := by
  obtain ⟨report, done⟩ : ∃ report,
      ((⟨.testbench, rfl⟩ : Bootstrapper).apply.run MemoryStore.asStore
        ((MemoryStore.empty "pocket-ml-testbench" 0).forceIndex "nodes"
          ⟨"by_port", [("port", .int32 1)], true⟩)).1 = .ok report :=
    ⟨_, rfl⟩
  exact ⟨report, _, Prod.ext done rfl, (apply_converges _ _ report _ (Prod.ext done rfl)).1⟩

/-- **Which runs succeed.** A run succeeds exactly when a comparison beforehand finds no
index that differs from its declaration, no collection declares two indexes with one
name, and the documents of every collection leave room for its missing unique indexes.
On a store without collections only the names count. -/
theorem exists_apply_eq_ok_iff_unobstructed (bootstrapper : Bootstrapper)
    (store : MemoryStore) :
    ((∃ report, (bootstrapper.apply.run MemoryStore.asStore store).1 = .ok report) ↔
      (∃ verification,
        (bootstrapper.verify.run MemoryStore.asStore store).1 = .ok verification ∧
          verification.shortfall.mismatches = []) ∧
      bootstrapper.definition.NamesApart ∧
      ∀ declared ∈ bootstrapper.definition.collections,
        store.collections.contains declared.name = true →
        ∀ spec ∈ declared.indexes, spec.unique = true →
          IndexPresence.classify (store.collection declared.name).indexes spec = .missing →
          (ExistingIndex.ofSpec spec).Separates (store.documents declared.name)) ∧
    ∀ database pings,
      (∃ report, (bootstrapper.apply.run MemoryStore.asStore
          (.empty database pings)).1 = .ok report) ↔
        bootstrapper.definition.NamesApart := by
  refine ⟨?_, fun database pings => ?_⟩
  · rw [exists_apply_eq_ok_iff, SchemaDefinition.admits_iff bootstrapper.valid,
      verify_run, ← SchemaDefinition.mismatches_verificationOn_eq_nil_iff]
    simp only [Except.ok.injEq, exists_eq_left']
    refine and_congr_right fun _ => and_congr_right fun _ => ?_
    refine forall₂_congr fun declared member => ?_
    by_cases there : store.collections.contains declared.name = true
    · simp only [there, true_implies, MemoryStore.documents]
    · simp only [there, Bool.false_eq_true, false_implies, MemoryStore.collection_of_absent there,
        MemoryCollection.empty, ExistingIndex.separates_nil, implies_true]
  · have nothing : ∀ name, (MemoryStore.empty database pings).collection name = .empty :=
      fun name => rfl
    have missing : ∀ spec, IndexPresence.classify [] spec = .missing := fun _ => rfl
    rw [exists_apply_eq_ok_iff, SchemaDefinition.admits_iff bootstrapper.valid]
    simp only [nothing, missing, MemoryCollection.empty, ExistingIndex.separates_nil, ne_eq,
      reduceCtorEq, not_false_eq_true, implies_true, true_and, and_true]

end Bootstrapper

end SchemaBootstrap
