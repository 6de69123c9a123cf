import SchemaBootstrap.Proofs.Bootstrap.Effect
import SchemaBootstrap.Proofs.Bootstrap.Underway

/-! # Runs beside each other

Runs of one definition that share a store do not get into each other's way. Whatever
another run does in between, the store grows and stays on the way to what is declared
(`MemoryStore.growth`), so each part of a run is granted all its requests and ends with
its part of the declaration brought about (`SchemaDefinition.apply_assures`). Hence any
number of runs, of which some may be broken off, lead to the store that a single run
leaves, as soon as one of them has finished
(`Bootstrapper.state_together_of_finished`).
-/

namespace SchemaBootstrap

open Program

/-- What runs of a definition may do to the store that they share. -/
def MemoryStore.growth (earlier : MemoryStore) (collections : List CollectionSpec) :
    Interference MemoryStore where
  allows store later :=
    store.Grows later ∧
      (store.Underway earlier collections → later.Underway earlier collections)
  refl store := ⟨.refl store, id⟩
  trans first second := ⟨first.1.trans second.1, fun underway => second.2 (first.2 underway)⟩

/-- A name is among the created ones by the first entry or by a later one. -/
theorem Ensured.mem_createdNames_cons {entry : Ensured} {rest : List Ensured} {name : String} :
    name ∈ createdNames (entry :: rest) ↔
      (entry.created = true ∧ name = entry.name) ∨ name ∈ createdNames rest := by
  rw [createdNames, createdNames, List.filter_cons]
  cases entry.created with
  | true => simp only [↓reduceIte, List.map_cons, List.mem_cons, true_and]
  | false => simp only [Bool.false_eq_true, ↓reduceIte, false_and, false_or]

section Parts

variable {earlier store : MemoryStore} {collections : List CollectionSpec}
  {declared : CollectionSpec} {calls : List Call}

/-- Ensuring indexes beside other runs ends with each of them in place, those included that were
there before. -/
theorem ensureIndexes_assures (declarable : Declarable collections)
    (admitted : earlier.Admits collections) (member : declared ∈ collections)
    (present : List ExistingIndex) {done specs : List IndexSpec}
    (split : declared.indexes = done ++ specs)
    (underway : store.Underway earlier collections)
    (there : store.collections.contains declared.name = true)
    (found : ∀ spec ∈ done, IndexPresence.classify
      (store.collection declared.name).indexes spec = .satisfied) :
    (ensureIndexes declared.name present specs).Assures MemoryStore.asStore
      (earlier.growth collections)
      (fun _ _ later => ∀ spec ∈ declared.indexes, IndexPresence.classify
        (later.collection declared.name).indexes spec = .satisfied) calls store := by
  induction specs generalizing done calls store with
  | nil =>
      rw [split, List.append_nil]
      exact found
  | cons spec rest ih =>
      have created : (request (.createIndex declared.name spec)).Assures MemoryStore.asStore
          (earlier.growth collections) (fun _ _ later => IndexPresence.classify
            (later.collection declared.name).indexes spec = .satisfied) calls store := by
        refine assures_request fun later moved => ?_
        obtain ⟨grown, kept⟩ := moved
        obtain ⟨next, answered, underway', satisfied⟩ :=
          (kept underway).createIndex declarable admitted member (grown.contains _ there) split
            fun other inside => grown.classify_eq_satisfied (found other inside)
        have grown' := later.grows_answer (.createIndex declared.name spec)
        rw [answered] at grown'
        exact ⟨spec.name, next, answered, ⟨grown', fun _ => underway'⟩, satisfied⟩
      rw [ensureIndexes]
      refine created.bind fun name made later _ moved satisfied => ?_
      obtain ⟨grown, kept⟩ := moved
      have found' : ∀ other ∈ done ++ [spec], IndexPresence.classify
          (later.collection declared.name).indexes other = .satisfied := by
        rw [List.forall_mem_append, List.forall_mem_singleton]
        exact ⟨fun other inside => grown.classify_eq_satisfied (found other inside), satisfied⟩
      refine (ih ?_ (kept underway) (grown.contains _ there) found').bind fun _ _ _ _ _ all => all
      rw [split, List.append_assoc, List.singleton_append]

/-- Ensuring a declared collection beside other runs ends with all its indexes in place. -/
theorem ensureDeclared_assures (declarable : Declarable collections)
    (admitted : earlier.Admits collections) (member : declared ∈ collections)
    (underway : store.Underway earlier collections)
    (there : store.collections.contains declared.name = true) :
    (ensureDeclared declared).Assures MemoryStore.asStore (earlier.growth collections)
      (fun _ _ later => ∀ spec ∈ declared.indexes, IndexPresence.classify
        (later.collection declared.name).indexes spec = .satisfied) calls store := by
  rw [ensureDeclared]
  by_cases empty : declared.indexes.isEmpty = true
  · rw [if_pos empty]
    intro spec inside
    rw [List.isEmpty_iff.mp empty] at inside
    exact absurd inside List.not_mem_nil
  · have listed : (request (.listIndexes declared.name)).Assures MemoryStore.asStore
        (earlier.growth collections) (fun _ _ _ => True) calls store :=
      assures_request fun later _ =>
        ⟨_, later, rfl, (earlier.growth collections).refl later, trivial⟩
    rw [if_neg empty]
    refine listed.bind fun present made later _ moved _ => ?_
    obtain ⟨grown, kept⟩ := moved
    exact ensureIndexes_assures declarable admitted member present (List.nil_append _).symm
      (kept underway) (grown.contains _ there) (List.forall_mem_nil _)

/-- A collection is there after it has been ensured beside other runs, and reported as created
only by the run that created it. -/
theorem ensureCollection_assures {listed : List String}
    (distinct : (collections.map CollectionSpec.name).Nodup) (member : declared ∈ collections)
    (accurate : listed.contains declared.name = true →
      store.collections.contains declared.name = true) :
    (ensureCollection listed declared.name).Assures MemoryStore.asStore
      (earlier.growth collections)
      (fun entry made later => later.collections.contains declared.name = true ∧
        entry.name = declared.name ∧
        (entry.created = true → Call.created declared.name ∈ made)) calls store := by
  rw [ensureCollection]
  by_cases known : listed.contains declared.name = true
  · rw [if_pos known]
    exact ⟨accurate known, rfl, fun created => by cases created⟩
  · have created : (request (.createCollection declared.name)).Assures MemoryStore.asStore
        (earlier.growth collections) (fun outcome made later =>
          later.collections.contains declared.name = true ∧
          (outcome = .created → Call.created declared.name ∈ made)) calls store := by
      refine assures_request fun later _ => ?_
      have answered := later.answer_createCollection declared.name
      have grown := later.grows_answer (.createCollection declared.name)
      rw [answered] at grown
      refine ⟨_, _, answered,
        ⟨grown, fun before => before.createCollection distinct member⟩,
        MemoryStore.contains_set_self _ _ _, fun outcome => ?_⟩
      rw [outcome]
      exact List.mem_append_right _ (List.mem_singleton_self _)
    rw [if_neg known]
    refine created.bind fun outcome made later _ _ ended => ⟨ended.1, rfl, fun said => ?_⟩
    exact ended.2 (beq_iff_eq.mp said)

/-- A part of a run brings about what is declared there, and of the collections that it
reports as created it has been told so. -/
theorem ensureCollections_assures (declarable : Declarable collections)
    (admitted : earlier.Admits collections) {listed : List String} {rest : List CollectionSpec}
    (part : rest ⊆ collections)
    (accurate : ∀ name, listed.contains name = true → store.collections.contains name = true)
    (underway : store.Underway earlier collections) :
    (ensureCollections listed rest).Assures MemoryStore.asStore (earlier.growth collections)
      (fun entries made later => later.Meets rest ∧
        ∀ name ∈ Ensured.createdNames entries.1, Call.created name ∈ made) calls store := by
  induction rest generalizing calls store with
  | nil =>
      exact ⟨List.forall_mem_nil _, List.forall_mem_nil _⟩
  | cons declared rest ih =>
      obtain ⟨member, part⟩ := List.cons_subset.mp part
      rw [ensureCollections]
      refine (ensureCollection_assures declarable.names member (accurate declared.name)).bind
        fun entry made₁ store₁ _ moved₁ ended => ?_
      obtain ⟨there, named, told⟩ := ended
      have underway₁ := moved₁.2 underway
      refine (ensureDeclared_assures declarable admitted member underway₁ there).bind
        fun indexes made₂ store₂ included₂ moved₂ found => ?_
      have accurate₂ : ∀ name, listed.contains name = true →
          store₂.collections.contains name = true := fun name known =>
        moved₂.1.contains _ (moved₁.1.contains _ (accurate name known))
      refine (ih part accurate₂ (moved₂.2 underway₁)).bind
        fun later made₃ store₃ included₃ moved₃ ended => ?_
      obtain ⟨meets, others⟩ := ended
      -- The store has grown and calls have been added since, so what held then holds now.
      refine ⟨?_, fun name created => ?_⟩
      · refine List.forall_mem_cons.mpr ⟨⟨?_, fun spec inside => ?_⟩, meets⟩
        · exact moved₃.1.contains _ (moved₂.1.contains _ there)
        · exact moved₃.1.classify_eq_satisfied (found spec inside)
      · rcases Ensured.mem_createdNames_cons.mp created with ⟨now, rfl⟩ | before
        · rw [named]
          exact included₃ (included₂ (told now))
        · exact others name before

end Parts

namespace SchemaDefinition

variable {definition : SchemaDefinition} {earlier store : MemoryStore}

/-- Everything declared is there, and of the collections that a report lists as created the
run has been told so. -/
def Completed (definition : SchemaDefinition) (report : BootstrapReport) (calls : List Call)
    (store : MemoryStore) : Prop :=
  store.Meets definition.collections ∧
    ∀ name ∈ Ensured.createdNames report.collections, Call.created name ∈ calls

/-- What a run has completed stays so while other runs go on. -/
theorem Completed.of_allows {report : BootstrapReport} {calls : List Call}
    {store later : MemoryStore} (completed : definition.Completed report calls store)
    (moved : (earlier.growth definition.collections).allows store later) :
    definition.Completed report calls later :=
  ⟨moved.1.meets completed.1, completed.2⟩

/-- A run beside other runs of the definition is granted all its requests and completes. -/
theorem apply_assures (valid : definition.violation? = none)
    (admitted : earlier.Admits definition.collections)
    (underway : store.Underway earlier definition.collections) :
    definition.apply.Assures MemoryStore.asStore (earlier.growth definition.collections)
      definition.Completed [] store := by
  have listed : (request .listCollections).Assures MemoryStore.asStore
      (earlier.growth definition.collections)
      (fun listed _ later => ∀ name, listed.contains name = true →
        later.collections.contains name = true) [] store := by
    refine assures_request fun later _ =>
      ⟨_, later, rfl, (earlier.growth definition.collections).refl later, fun name known => ?_⟩
    rwa [later.collections.contains_names] at known
  refine listed.bind fun names made later _ moved accurate => ?_
  exact (ensureCollections_assures (declarable valid) admitted (List.Subset.refl _) accurate
    (moved.2 underway)).bind fun _ _ _ _ _ completed => completed

end SchemaDefinition

namespace Bootstrapper

/-- What becomes of a store and of runs that share it, in the course of moves. -/
def together (bootstrapper : Bootstrapper) (count : Nat) (store : MemoryStore)
    (moves : List Move) : Interleaving MemoryStore BootstrapError BootstrapReport :=
  (Interleaving.start store (List.replicate count bootstrapper.apply)).after
    MemoryStore.asStore moves

variable {bootstrapper : Bootstrapper} {store : MemoryStore}

/-- Runs beside each other only let the store grow towards the definition, and each of them stays
assured of its end. -/
theorem assured_together (admitted : store.Admits bootstrapper.definition.collections)
    (count : Nat) (moves : List Move) :
    (store.growth bootstrapper.definition.collections).allows store
        (bootstrapper.together count store moves).state ∧
      (bootstrapper.together count store moves).Assured MemoryStore.asStore
        (store.growth bootstrapper.definition.collections) bootstrapper.definition.Completed := by
  refine Interleaving.Assured.after (fun _ _ _ _ completed moved => completed.of_allows moved)
    (Interleaving.assured_start fun program member => ?_) moves
  rw [List.eq_of_mem_replicate member]
  exact (SchemaDefinition.apply_assures bootstrapper.valid admitted
    (store.underway_self _)).mapError BootstrapError.store

section Finished

variable {count : Nat} {moves : List Move} {run : Run BootstrapError BootstrapReport}

/-- Once one run has finished, the store is the one that a run alone leaves behind, and it stays
so. -/
theorem state_together_of_finished (admitted : store.Admits bootstrapper.definition.collections)
    (member : run ∈ (bootstrapper.together count store moves).runs)
    (finished : run.finished = true) (later : List Move) :
    (bootstrapper.together count store (moves ++ later)).state =
      store.withCollections bootstrapper.definition.collections := by
  obtain ⟨moved, assured⟩ := assured_together admitted count moves
  obtain ⟨outcome, ended⟩ := Run.finished_iff.mp finished
  obtain ⟨i, found⟩ := List.getElem?_of_mem member
  obtain ⟨-, -, meets, -⟩ := assured.done found ended
  -- Later moves leave everything declared there, and there is only one such store underway.
  rw [together, Interleaving.after_append]
  obtain ⟨⟨grown, kept⟩, -⟩ := assured.after
    (fun _ _ _ _ completed moved => completed.of_allows moved) later
  exact (kept (moved.2 (store.underway_self _))).eq_of_meets bootstrapper.declarable.names
    (grown.meets meets)

/-- A run reports a collection as created only where the store has told it so. -/
theorem created_of_reported (admitted : store.Admits bootstrapper.definition.collections)
    {i : Nat} (found : (bootstrapper.together count store moves).runs[i]? = some run)
    {reported : BootstrapReport} (ended : run.rest = .done (.ok reported)) {name : String}
    (listed : name ∈ Ensured.createdNames reported.collections) :
    Call.created name ∈ run.calls := by
  obtain ⟨-, assured⟩ := assured_together admitted count moves
  obtain ⟨_, same, -, told⟩ := assured.done found ended
  cases same
  exact told name listed

end Finished

/-- **Runs beside each other converge.** Where a single run succeeds, any number of runs that
share the store may make their requests in any order and stop at any time: no request is
refused, every run that finishes succeeds, and once one has finished the store is the one
that the single run leaves. Two finished runs never report the same collection as created. -/
theorem interleaved_applies_converge (bootstrapper : Bootstrapper) (store : MemoryStore)
    (report : BootstrapReport) (result : MemoryStore)
    (done : bootstrapper.apply.run MemoryStore.asStore store = (.ok report, result))
    (count : Nat) (moves : List Move) :
    (∀ run ∈ (bootstrapper.together count store moves).runs,
      (∀ call ∈ run.calls, call.Granted) ∧
        ∀ outcome, run.rest = .done outcome → ∃ reported, outcome = .ok reported) ∧
    ((∃ run ∈ (bootstrapper.together count store moves).runs, run.finished = true) →
      ∀ later, (bootstrapper.together count store (moves ++ later)).state = result) ∧
    ∀ (name : String) (i j : Nat) (first second : Run BootstrapError BootstrapReport)
      (reported reported' : BootstrapReport),
      (bootstrapper.together count store moves).runs[i]? = some first →
      (bootstrapper.together count store moves).runs[j]? = some second →
      first.rest = .done (.ok reported) → second.rest = .done (.ok reported') →
      name ∈ Ensured.createdNames reported.collections →
      name ∈ Ensured.createdNames reported'.collections → i = j := by
  obtain ⟨admitted, -, rfl⟩ := apply_run_eq_ok_iff.mp done
  refine ⟨fun run member => ?_, ?_, ?_⟩
  · obtain ⟨-, assured⟩ := assured_together admitted count moves
    obtain ⟨i, found⟩ := List.getElem?_of_mem member
    refine ⟨(assured i run found).1, fun outcome ended => ?_⟩
    obtain ⟨reported, succeeded, -⟩ := assured.done found ended
    exact ⟨reported, succeeded⟩
  · rintro ⟨run, member, finished⟩ later
    exact state_together_of_finished admitted member finished later
  · intro name i j first second reported reported' found found' ended ended' created created'
    have once := MemoryStore.created_once store (List.replicate count bootstrapper.apply) moves name
    exact once.once i j first second found found' (created_of_reported admitted found ended created)
      (created_of_reported admitted found' ended' created')

/-- One run is broken off after five requests, one goes on, and a third one starts then. -/
theorem interleaved_applies_converge_on_partlyBuilt :
    ∃ report result,
      (⟨.testbench, rfl⟩ : Bootstrapper).apply.run MemoryStore.asStore partlyBuilt =
        (.ok report, result) ∧
      ∀ later, ((⟨.testbench, rfl⟩ : Bootstrapper).together 3 partlyBuilt
        ((List.replicate 5 [.call 0, .call 1]).flatten ++ [.stop 0] ++
          (List.replicate 30 [.call 1, .call 2]).flatten ++ later)).state = result := by
  obtain ⟨report, result, done⟩ := exists_apply_partlyBuilt
  obtain ⟨-, converged, -⟩ := interleaved_applies_converge _ partlyBuilt report result done 3
    ((List.replicate 5 [.call 0, .call 1]).flatten ++ [.stop 0] ++
      (List.replicate 30 [.call 1, .call 2]).flatten)
  refine ⟨report, result, done, converged (List.any_eq_true.mp ?_)⟩
  decide +kernel

end Bootstrapper

end SchemaBootstrap
