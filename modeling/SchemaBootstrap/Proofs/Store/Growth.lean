import SchemaBootstrap.Proofs.Store.Interleaving
import SchemaBootstrap.Proofs.Store.UniqueKeys

/-! # A store in memory only grows

No request removes a collection or an index (`MemoryStore.grows_answer`), so what is
found there as declared stays so. Of programs that share the store, at most one is ever
told that it created a certain collection (`MemoryStore.created_once`).
-/

namespace SchemaBootstrap

namespace MemoryStore

/-- Collections are still there later, and their indexes still in front. -/
structure Grows (store later : MemoryStore) : Prop where
  contains : ∀ name, store.collections.contains name = true →
    later.collections.contains name = true
  indexes : ∀ name, (store.collection name).indexes <+: (later.collection name).indexes

theorem Grows.refl (store : MemoryStore) : store.Grows store :=
  ⟨fun _ there => there, fun _ => List.prefix_rfl⟩

theorem Grows.trans {first second third : MemoryStore} (grown : first.Grows second)
    (further : second.Grows third) : first.Grows third :=
  ⟨fun name there => further.contains name (grown.contains name there),
    fun name => (grown.indexes name).trans (further.indexes name)⟩

variable {store : MemoryStore} {name : String}

/-- A satisfied index stays so in a grown store. -/
theorem Grows.classify_eq_satisfied {later : MemoryStore} (grown : store.Grows later)
    {spec : IndexSpec}
    (found : IndexPresence.classify (store.collection name).indexes spec = .satisfied) :
    IndexPresence.classify (later.collection name).indexes spec = .satisfied :=
  IndexPresence.classify_eq_satisfied_of_prefix (grown.indexes name) found

/-- A collection that is set is there. -/
theorem contains_set_self (store : MemoryStore) (name : String)
    (collection : MemoryCollection) :
    (store.set name collection).collections.contains name = true := by
  rw [Catalog.contains, get?_set, if_pos rfl, Option.isSome_some]

/-- Setting a collection removes none. -/
theorem contains_set_of_contains {other : String} (collection : MemoryCollection)
    (there : store.collections.contains other = true) :
    (store.set name collection).collections.contains other = true := by
  rw [Catalog.contains, get?_set]
  by_cases same : other = name
  · rw [if_pos same, Option.isSome_some]
  · rwa [if_neg same]

/-- A change removes no collection. -/
theorem contains_change {reply : α} {step : MemoryCollection → Except StoreError MemoryCollection}
    {other : String} (there : store.collections.contains other = true) :
    (store.change name reply step).2.collections.contains other = true := by
  rw [change]
  split <;> exact contains_set_of_contains _ there

/-- No request removes a collection. -/
theorem contains_answer (request : Request) {other : String}
    (there : store.collections.contains other = true) :
    (store.answer request).2.collections.contains other = true := by
  cases request with
  | ping =>
      rw [answer]
      split <;> exact there
  | listCollections => exact there
  | createCollection name =>
      rw [answer_createCollection]
      exact contains_set_of_contains _ there
  | listIndexes name => exact there
  | createIndex name spec => exact contains_change there
  | insertDocument name document => exact contains_change there

/-- A store only grows by a request. -/
theorem grows_answer (store : MemoryStore) (request : Request) :
    store.Grows (store.answer request).2 :=
  ⟨fun _ there => contains_answer request there, store.indexes_prefix_answer request⟩

/-- A store only grows in the course of requests. -/
theorem grows_after (store : MemoryStore) (history : List Request) :
    store.Grows (asStore.after history store) := by
  have step : ∀ later request, store.Grows later → store.Grows (asStore.answer later request).2 :=
    fun later request grown => grown.trans (later.grows_answer request)
  exact asStore.invariant_after step history (.refl store)

end MemoryStore

/-- The call by which a collection was created. -/
def Call.created (name : String) : Call :=
  ⟨.createCollection name, .ok .created⟩

namespace MemoryStore

/-- A collection is created where it is not there, and then is there. -/
theorem absent_of_created {store : MemoryStore} {request : Request} {name : String}
    (created : (⟨request, (store.answer request).1⟩ : Call) = Call.created name) :
    store.collections.contains name = false ∧
      (store.answer request).2.collections.contains name = true := by
  obtain ⟨rfl, replied⟩ := Sigma.mk.inj created
  rw [heq_eq_eq, answer_createCollection] at replied
  cases there : store.collections.contains name with
  | true =>
      rw [there] at replied
      cases replied
  | false =>
      refine ⟨rfl, ?_⟩
      rw [answer_createCollection]
      exact contains_set_self _ _ _

variable {system : Interleaving MemoryStore ε α} {name : String}

/-- At most one program has created a collection, which is there since. -/
structure CreatedOnce (system : Interleaving MemoryStore ε α) (name : String) : Prop where
  there : ∀ (i : Nat) (run : Run ε α), system.runs[i]? = some run →
    Call.created name ∈ run.calls → system.state.collections.contains name = true
  once : ∀ (i j : Nat) (first second : Run ε α), system.runs[i]? = some first →
    system.runs[j]? = some second → Call.created name ∈ first.calls →
    Call.created name ∈ second.calls → i = j

/-- Whatever a run does next, it does not create a collection a second time. -/
theorem CreatedOnce.move (once : CreatedOnce system name) (move : Move) :
    CreatedOnce (system.move asStore move) name := by
  rcases system.move_cases asStore move with
    ⟨same, runs⟩ | ⟨caller, calls, request, next, ready, answered, runs⟩
  · constructor
    · intro i run found created
      obtain ⟨earlier, before, made, -⟩ := runs i run found
      rw [same]
      exact once.there i earlier before (made ▸ created)
    · intro i j first second found found' created created'
      obtain ⟨earlier, before, made, -⟩ := runs i first found
      obtain ⟨earlier', before', made', -⟩ := runs j second found'
      exact once.once i j earlier earlier' before before' (made ▸ created) (made' ▸ created')
  · -- A run that has created the collection has done so before, or just now.
    have origin : ∀ (i : Nat) (run : Run ε α),
        (system.move asStore move).runs[i]? = some run → Call.created name ∈ run.calls →
        (∃ earlier : Run ε α, system.runs[i]? = some earlier ∧
          Call.created name ∈ earlier.calls) ∨
        i = caller ∧
          (⟨request, (system.state.answer request).1⟩ : Call) = Call.created name := by
      intro i run found created
      rcases runs i run found with ⟨rfl, made, -⟩ | before
      · rw [made] at created
        rcases List.mem_append.mp created with earlier | now
        · exact Or.inl ⟨_, ready, earlier⟩
        · exact Or.inr ⟨rfl, (List.mem_singleton.mp now).symm⟩
      · exact Or.inl ⟨run, before, created⟩
    constructor
    · intro i run found created
      rw [answered]
      rcases origin i run found created with ⟨earlier, before, made⟩ | ⟨-, now⟩
      · exact contains_answer request (once.there i earlier before made)
      · exact (absent_of_created now).2
    · -- Two creators, one of them just now, would have found the collection absent and there.
      intro i j first second found found' created created'
      rcases origin i first found created with ⟨earlier, before, made⟩ | ⟨rfl, now⟩ <;>
        rcases origin j second found' created' with ⟨earlier', before', made'⟩ | ⟨rfl, now'⟩
      · exact once.once i j earlier earlier' before before' made made'
      · have there := once.there i earlier before made
        rw [(absent_of_created now').1] at there
        cases there
      · have there := once.there j earlier' before' made'
        rw [(absent_of_created now).1] at there
        cases there
      · rfl

/-- Whatever the programs are, at most one of them is told that it created a collection. -/
theorem created_once (store : MemoryStore) (programs : List (Program ε α)) (moves : List Move)
    (name : String) :
    CreatedOnce ((Interleaving.start store programs).after asStore moves) name := by
  have initial : CreatedOnce (Interleaving.start store programs) name := by
    have none : ∀ (i : Nat) (run : Run ε α),
        (Interleaving.start store programs).runs[i]? = some run →
        Call.created name ∉ run.calls := by
      intro i run found
      obtain ⟨program, -, rfl⟩ := Option.map_eq_some_iff.mp (List.getElem?_map ▸ found)
      exact List.not_mem_nil
    exact ⟨fun i run found created => absurd created (none i run found),
      fun i _ first _ found _ created _ => absurd created (none i first found)⟩
  generalize Interleaving.start store programs = system at initial
  induction moves generalizing system with
  | nil => exact initial
  | cons first rest ih => exact ih _ (initial.move first)

end MemoryStore

end SchemaBootstrap
