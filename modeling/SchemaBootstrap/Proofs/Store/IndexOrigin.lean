import SchemaBootstrap.Proofs.Store.Reachable

/-! # Where indexes come from

As long as no index is put into a store without regard to the others, every index of a
collection is made from a specification that was to be created there
(`MemoryStore.IndexesFrom`). If these specifications repeat no path, each index satisfies the
one that it is made from and no other one, and different indexes have different keys: two
specifications with the same directed paths have the same name, and no name occurs twice
(`MemoryCollection.nodup_readKeys`).
-/

namespace SchemaBootstrap

/-- The directed paths of a specification determine its name. -/
theorem IndexSpec.name_eq_of_directedPaths {first second : IndexSpec}
    (same : first.directedPaths = second.directedPaths) : first.name = second.name := by
  have fields := directedPaths_inj.mp same
  rw [name, fields, name]

/-- An index from a specification without repeated paths satisfies exactly one. -/
theorem ExistingIndex.existsUnique_satisfies {spec : IndexSpec} (distinct : spec.paths.Nodup) :
    ∃! other, (ofSpec spec).satisfies other = true := by
  refine ⟨spec, (ofSpec_satisfies_self_iff spec).mpr distinct, fun other satisfies => ?_⟩
  exact ((ofSpec_satisfies_iff distinct other).mp satisfies).symm

namespace MemoryCollection

variable {collection : MemoryCollection} {allowed : IndexSpec → Prop}

/-- The indexes of a collection are made from specifications of one kind. -/
def IndexesFrom (collection : MemoryCollection) (allowed : IndexSpec → Prop) : Prop :=
  ∀ index ∈ collection.indexes, ∃ spec, allowed spec ∧ index = .ofSpec spec

/-- Adding an index from an allowed specification keeps to the allowed ones. -/
theorem IndexesFrom.withIndex (made : collection.IndexesFrom allowed) {spec : IndexSpec}
    (permitted : allowed spec) : (collection.withIndex spec).IndexesFrom allowed := by
  by_cases taken : spec.name ∈ collection.indexes.map ExistingIndex.name
  · rw [MemoryCollection.withIndex, if_pos taken]
    exact made
  · rw [MemoryCollection.withIndex, if_neg taken]
    intro index member
    rcases List.mem_append.mp member with before | added
    · exact made index before
    · exact ⟨spec, permitted, List.mem_singleton.mp added⟩

/-- Indexes under different names that come from specifications without repeated paths list
different directed paths. -/
theorem nodup_readKeys (named : collection.NamesDistinct)
    (made : collection.IndexesFrom fun spec => spec.paths.Nodup) :
    (collection.indexes.map fun index => index.keys.readKeys).Nodup := by
  refine (List.Nodup.of_map _ named).map_on fun first inside second inside' same => ?_
  obtain ⟨spec, distinct, rfl⟩ := made first inside
  obtain ⟨spec', distinct', rfl⟩ := made second inside'
  have paths : spec.directedPaths = spec'.directedPaths := by
    rw [← IndexSpec.readKeys_keys distinct, ← IndexSpec.readKeys_keys distinct']
    exact same
  have names := IndexSpec.name_eq_of_directedPaths paths
  exact List.inj_on_of_nodup_map named inside inside' names

end MemoryCollection

/-- Indexes are only created, and only from specifications that are allowed in their
collection. -/
def Operation.Creates (allowed : String → IndexSpec → Prop) : Operation → Prop
  | .request (.createIndex name spec) => allowed name spec
  | .request _ => True
  | .forceIndex _ _ => False

namespace MemoryStore

variable {store : MemoryStore} {allowed : String → IndexSpec → Prop}

/-- The indexes of every collection are made from specifications that are allowed there. -/
def IndexesFrom (store : MemoryStore) (allowed : String → IndexSpec → Prop) : Prop :=
  ∀ name, (store.collection name).IndexesFrom (allowed name)

theorem indexesFrom_empty (database : String) (pings : Nat)
    (allowed : String → IndexSpec → Prop) : (empty database pings).IndexesFrom allowed :=
  fun _ => List.forall_mem_nil _

/-- An operation that creates only what is allowed keeps to it. -/
theorem IndexesFrom.perform (made : store.IndexesFrom allowed) {operation : Operation}
    (creates : operation.Creates allowed) : (store.perform operation).IndexesFrom allowed := by
  cases operation with
  | forceIndex name index => exact creates.elim
  | request request =>
      intro name
      unfold MemoryStore.perform
      rcases store.collection_answer request name with
        same | ⟨spec, rfl, created⟩ | ⟨document, rfl, inserted⟩
      · rw [same]
        exact made name
      · rw [(MemoryCollection.createIndex_eq_ok_iff.mp created).2]
        exact (made name).withIndex creates
      · rw [(MemoryCollection.insert_eq_ok_iff.mp inserted).2]
        exact made name

/-- Operations that create only what is allowed keep to it. -/
theorem IndexesFrom.performAll (made : store.IndexesFrom allowed) {operations : List Operation}
    (creates : ∀ operation ∈ operations, operation.Creates allowed) :
    (store.performAll operations).IndexesFrom allowed := by
  induction operations generalizing store with
  | nil => exact made
  | cons operation rest ih =>
      obtain ⟨here, later⟩ := List.forall_mem_cons.mp creates
      exact ih (made.perform here) later

/-- **Indexes without duplicates.** After any operations on a store that was empty at first,
no two indexes of a collection have the same name. If no index was put into the store without
regard to the others, and no specification that was to be created repeats a path, then each
index of a collection is made from a specification that was to be created there, and satisfies
exactly one specification; and no two indexes of a collection list the same paths in the same
order and directions. -/
theorem indexes_stay_distinct (database : String) (pings : Nat) (operations : List Operation) :
    let store := (empty database pings).performAll operations
    (∀ name, ((store.collection name).indexes.map ExistingIndex.name).Nodup) ∧
    ((∀ name index, Operation.forceIndex name index ∉ operations) →
      (∀ name spec, .request (.createIndex name spec) ∈ operations → spec.paths.Nodup) →
      ∀ name,
        (∀ index ∈ (store.collection name).indexes,
          (∃ spec, .request (.createIndex name spec) ∈ operations ∧ index = .ofSpec spec) ∧
            ∃! spec, index.satisfies spec = true) ∧
        ((store.collection name).indexes.map fun index => index.keys.readKeys).Nodup) := by
  intro store
  have named : store.NamesDistinct :=
    ((Reachable.empty database pings).performAll operations).namesDistinct
  refine ⟨named, fun unforced distinct name => ?_⟩
  have creates : ∀ operation ∈ operations,
      operation.Creates fun name spec => .request (.createIndex name spec) ∈ operations := by
    intro operation member
    cases operation with
    | forceIndex name index => exact unforced name index member
    | request request =>
        cases request with
        | createIndex name spec => exact member
        | _ => trivial
  have made := (indexesFrom_empty database pings _).performAll creates name
  refine ⟨fun index member => ?_, ?_⟩
  · obtain ⟨spec, created, rfl⟩ := made index member
    exact ⟨⟨spec, created, rfl⟩, ExistingIndex.existsUnique_satisfies (distinct name spec created)⟩
  · refine MemoryCollection.nodup_readKeys (named name) fun index member => ?_
    obtain ⟨spec, created, rfl⟩ := made index member
    exact ⟨spec, distinct name spec created, rfl⟩

/-- The requests that create an index twice, try it once more as a unique one, and create
another one behind a document. -/
def indexedNodes : List Operation :=
  [.request (.createIndex "nodes" (.ascending ["address"])),
    .request (.createIndex "nodes" (.ascending ["address"])),
    .request (.createIndex "nodes" (IndexSpec.ascending ["address"]).asUnique),
    .request (.insertDocument "nodes" (.ofFields [("address", .string "10.0.0.1")])),
    .request (.createIndex "nodes" ⟨[⟨"address", .descending⟩], true⟩)]

/-- The same index is not created again, the conflicting one is refused, and the other direction
makes another index. -/
theorem indexes_stay_distinct_after_indexedNodes :
    let nodes := ((empty "testbench" 0).performAll indexedNodes).collection "nodes"
    nodes.indexes.map ExistingIndex.name = ["address_1", "address_-1"] ∧
      (nodes.indexes.map fun index => index.keys.readKeys).Nodup ∧
      ∀ index ∈ nodes.indexes, ∃! spec, index.satisfies spec = true := by
  have unforced : ∀ name index, Operation.forceIndex name index ∉ indexedNodes := by
    intro name index member
    simp [indexedNodes] at member
  have distinct : ∀ name spec,
      .request (.createIndex name spec) ∈ indexedNodes → spec.paths.Nodup := by
    intro name spec member
    obtain ⟨-, rfl⟩ | ⟨-, rfl⟩ | ⟨-, rfl⟩ := by simpa [indexedNodes] using member
    all_goals decide
  obtain ⟨made, keys⟩ :=
    (indexes_stay_distinct "testbench" 0 indexedNodes).2 unforced distinct "nodes"
  exact ⟨by decide, keys, fun index member => (made index member).2⟩

end MemoryStore

end SchemaBootstrap
