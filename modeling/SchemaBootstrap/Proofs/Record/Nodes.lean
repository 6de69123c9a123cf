import Mathlib.Data.List.Induction
import SchemaBootstrap.Proofs.Bootstrap.Convergence
import SchemaBootstrap.Proofs.Store.Reachable
import SchemaBootstrap.Record.Insert

/-! # One node for an address and a service

The schema of the testbench declares a unique index over the addresses and the services of
nodes. Under this index two nodes have the same key exactly when they have the same endpoint
(`Node.sameKey_toDocument`), whether they have identifiers or not. So after a run of the
testbench the store keeps the first of all nodes with one endpoint and refuses the others
(`Bootstrapper.one_node_for_each_endpoint`), whatever happens to other collections.
-/

namespace SchemaBootstrap

open CollectionRecord

section FirstOccurrences

variable (same : α → α → Bool)

/-- A last entry is erased if and only if it is the same as one that was kept. -/
theorem eraseDupsBy_loop_append (entries seen : List α) (entry : α) :
    List.eraseDupsBy.loop same (entries ++ [entry]) seen =
      if (List.eraseDupsBy.loop same entries seen).any (same entry) then
        List.eraseDupsBy.loop same entries seen
      else List.eraseDupsBy.loop same entries seen ++ [entry] := by
  induction entries generalizing seen with
  | nil =>
      simp only [List.nil_append, List.eraseDupsBy.loop, List.any_reverse]
      cases seen.any (same entry) with
      | true => rfl
      | false => exact List.reverse_cons
  | cons first rest ih =>
      rw [List.cons_append]
      unfold List.eraseDupsBy.loop
      cases seen.any (same first) with
      | true => exact ih seen
      | false => exact ih (first :: seen)

/-- One more entry is kept unless it is the same as one that is kept already. -/
theorem eraseDupsBy_append_singleton (entries : List α) (entry : α) :
    (entries ++ [entry]).eraseDupsBy same =
      if (entries.eraseDupsBy same).any (same entry) then entries.eraseDupsBy same
      else entries.eraseDupsBy same ++ [entry] :=
  eraseDupsBy_loop_append same entries [] entry

/-- An entry is the same as one of some entries exactly when it is the same as one of those
that are kept. -/
theorem any_eraseDupsBy
    (trans : ∀ first second third, same first second = true → same second third = true →
      same first third = true) (entries : List α) (entry : α) :
    (entries.eraseDupsBy same).any (same entry) = entries.any (same entry) := by
  induction entries using List.reverseRecOn with
  | nil => rfl
  | append_singleton entries last ih =>
      rw [eraseDupsBy_append_singleton, List.any_append, ← ih, List.any_cons, List.any_nil,
        Bool.or_false]
      by_cases seen : (entries.eraseDupsBy same).any (same last) = true
      · rw [if_pos seen, Bool.eq_iff_iff, Bool.or_eq_true]
        refine ⟨Or.inl, fun known => known.elim id fun equal => ?_⟩
        -- What is the same as the last entry is the same as the kept one in its place.
        obtain ⟨kept, member, equal'⟩ := List.any_eq_true.mp seen
        exact List.any_eq_true.mpr ⟨kept, member, trans entry last kept equal equal'⟩
      · rw [if_neg seen, List.any_append, List.any_cons, List.any_nil, Bool.or_false]

end FirstOccurrences

/-- The index that the schema of the testbench declares for nodes. -/
def nodeIndex : IndexSpec :=
  (IndexSpec.ascending ["address", "service"]).asUnique

namespace Node

/-- Whether two nodes have the same address and the same service. -/
def sameEndpoint (first second : Node) : Bool :=
  first.address == second.address && first.service == second.service

theorem sameEndpoint_iff (first second : Node) :
    first.sameEndpoint second = true ↔
      first.address = second.address ∧ first.service = second.service := by
  rw [sameEndpoint, Bool.and_eq_true, beq_iff_eq, beq_iff_eq]

theorem sameEndpoint_comm (first second : Node) :
    first.sameEndpoint second = second.sameEndpoint first := by
  rw [Bool.eq_iff_iff, sameEndpoint_iff, sameEndpoint_iff, eq_comm, and_congr_right_iff]
  exact fun _ => eq_comm

theorem sameEndpoint_trans (first second third : Node)
    (same : first.sameEndpoint second = true) (same' : second.sameEndpoint third = true) :
    first.sameEndpoint third = true := by
  rw [sameEndpoint_iff] at same same' ⊢
  exact ⟨same.1.trans same'.1, same.2.trans same'.2⟩

/-- The key of a node does not depend on its identifier. -/
theorem key_toDocument (node : Node) :
    (ExistingIndex.ofSpec nodeIndex).key (toDocument node) =
      [.string node.address, .string node.service] := by
  obtain ⟨id, address, service⟩ := node
  cases id <;> rfl

/-- Two nodes have the same key when they have the same endpoint. -/
theorem sameKey_toDocument (first second : Node) :
    (ExistingIndex.ofSpec nodeIndex).sameKey (toDocument first) (toDocument second) =
      first.sameEndpoint second := by
  simp only [ExistingIndex.sameKey, key_toDocument, Bson.sameElements, Bson.same, sameEndpoint,
    Bool.and_true]

/-- A node clashes with those that have its endpoint. -/
theorem clashes_toDocument (kept : List Node) (node : Node) :
    (ExistingIndex.ofSpec nodeIndex).clashes (kept.map toDocument) (toDocument node) =
      kept.any node.sameEndpoint := by
  unfold ExistingIndex.clashes
  rw [List.any_map]
  refine congrArg kept.any (funext fun present => ?_)
  rw [Function.comp_apply, sameKey_toDocument, sameEndpoint_comm]

end Node

/-- What happens to a store that takes nodes. -/
inductive NodeEvent where
  | insert (node : Node)
  | other (operation : Operation)

namespace NodeEvent

/-- The node that an event inserts. -/
def node? : NodeEvent → Option Node
  | insert node => some node
  | other _ => none

/-- The event leaves the collection of nodes alone or inserts a node into it. -/
def SparesNodes : NodeEvent → Prop
  | insert _ => True
  | other operation => operation.collection? ≠ some "nodes"

/-- The nodes that events insert, in order. -/
def nodes (events : List NodeEvent) : List Node :=
  events.filterMap node?

end NodeEvent

namespace MemoryStore

/-- The store after an event. -/
def afterEvent (store : MemoryStore) : NodeEvent → MemoryStore
  | .insert node => ((insertRecord node).run asStore store).2
  | .other operation => store.perform operation

/-- The store after events, in order. -/
def afterEvents (store : MemoryStore) (events : List NodeEvent) : MemoryStore :=
  events.foldl afterEvent store

/-- The collection of nodes has its index and holds the documents of certain nodes. -/
def KeepsNodes (store : MemoryStore) (kept : List Node) : Prop :=
  store.collections.get? "nodes" =
    some { indexes := [ExistingIndex.ofSpec nodeIndex], documents := kept.map toDocument }

/-- Inserting a node inserts its document. -/
theorem run_insertRecord (store : MemoryStore) (node : Node) :
    (insertRecord node).run asStore store =
      store.answer (.insertDocument "nodes" (toDocument node)) :=
  rfl

namespace KeepsNodes

variable {store : MemoryStore} {kept : List Node}

/-- A store that keeps nodes has one index and their documents. -/
theorem collection_eq (keeps : store.KeepsNodes kept) :
    store.collection "nodes" =
      { indexes := [ExistingIndex.ofSpec nodeIndex], documents := kept.map toDocument } :=
  collection_of_get? keeps

/-- A node violates the index if one with its endpoint is kept. -/
theorem violated?_eq (keeps : store.KeepsNodes kept) (node : Node) :
    (store.collection "nodes").violated? (toDocument node) =
      if kept.any node.sameEndpoint then some (ExistingIndex.ofSpec nodeIndex) else none := by
  have clashes := Node.clashes_toDocument kept node
  rw [keeps.collection_eq, MemoryCollection.violated?, List.find?_cons, clashes]
  cases kept.any node.sameEndpoint <;> rfl

/-- A node whose endpoint is new is added at the end. -/
theorem insert_of_fresh (keeps : store.KeepsNodes kept) {node : Node}
    (fresh : kept.any node.sameEndpoint = false) :
    ∃ next, (insertRecord node).run asStore store = (.ok (), next) ∧
      next.KeepsNodes (kept ++ [node]) := by
  have passed : (store.collection "nodes").violated? (toDocument node) = none := by
    rw [keeps.violated?_eq, fresh]
    rfl
  have inserted : (store.collection "nodes").insert "nodes" (toDocument node) = .ok _ :=
    MemoryCollection.insert_eq_ok_iff.mpr ⟨passed, rfl⟩
  refine ⟨_, by rw [run_insertRecord, answer_insertDocument_of_ok inserted], ?_⟩
  unfold KeepsNodes
  rw [get?_set, if_pos rfl, keeps.collection_eq, List.map_append, List.map_singleton]

/-- A node whose endpoint is taken is refused, and nothing changes. -/
theorem insert_of_taken (keeps : store.KeepsNodes kept) {node : Node}
    (taken : kept.any node.sameEndpoint = true) :
    (insertRecord node).run asStore store =
      (.error (.duplicateKey "nodes" "E11000 duplicate key error index: address_1_service_1"),
        store) := by
  have found := keeps.violated?_eq node
  rw [taken, if_pos rfl] at found
  have refused : (store.collection "nodes").insert "nodes" (toDocument node) = .error
      (.duplicateKey "nodes" "E11000 duplicate key error index: address_1_service_1") := by
    rw [MemoryCollection.insert, found]
    rfl
  have there : store.collections.contains "nodes" = true := by
    rw [Catalog.contains, keeps]
    rfl
  rw [run_insertRecord, answer_insertDocument_of_error refused,
    set_collection_of_contains there]

/-- An event keeps the first of the nodes with one endpoint. -/
theorem afterEvent {events : List NodeEvent} {event : NodeEvent}
    (keeps : store.KeepsNodes ((NodeEvent.nodes events).eraseDupsBy Node.sameEndpoint))
    (spares : event.SparesNodes) :
    (store.afterEvent event).KeepsNodes
      ((NodeEvent.nodes (events ++ [event])).eraseDupsBy Node.sameEndpoint) := by
  unfold NodeEvent.nodes
  rw [List.filterMap_append]
  cases event with
  | insert node =>
      change ((insertRecord node).run asStore store).2.KeepsNodes
        ((NodeEvent.nodes events ++ [node]).eraseDupsBy Node.sameEndpoint)
      rw [eraseDupsBy_append_singleton]
      cases known : ((NodeEvent.nodes events).eraseDupsBy Node.sameEndpoint).any
          node.sameEndpoint with
      | true =>
          rw [if_pos rfl, keeps.insert_of_taken known]
          exact keeps
      | false =>
          obtain ⟨next, inserted, kept⟩ := keeps.insert_of_fresh known
          rw [if_neg Bool.false_ne_true, inserted]
          exact kept
  | other operation =>
      have untouched : (store.perform operation).collections.get? "nodes" =
          store.collections.get? "nodes" :=
        get?_perform_of_ne spares
      change (store.perform operation).KeepsNodes
        ((NodeEvent.nodes events ++ []).eraseDupsBy Node.sameEndpoint)
      rw [List.append_nil]
      exact untouched.trans keeps

/-- Events keep the first of the nodes with one endpoint. -/
theorem afterEvents (keeps : store.KeepsNodes []) {events : List NodeEvent}
    (spare : ∀ event ∈ events, event.SparesNodes) :
    (store.afterEvents events).KeepsNodes
      ((NodeEvent.nodes events).eraseDupsBy Node.sameEndpoint) := by
  induction events using List.reverseRecOn with
  | nil => exact keeps
  | append_singleton events event ih =>
      obtain ⟨others, last⟩ := List.forall_mem_append.mp spare
      have reached : store.afterEvents (events ++ [event]) =
          (store.afterEvents events).afterEvent event :=
        List.foldl_append
      rw [reached]
      exact (ih others).afterEvent (List.forall_mem_singleton.mp last)

end KeepsNodes

end MemoryStore

namespace Bootstrapper

/-- The run of the testbench on a store without collections sets up the collection of nodes. -/
theorem exists_apply_keepsNodes (database : String) (pings : Nat) :
    ∃ report store,
      (⟨.testbench, rfl⟩ : Bootstrapper).apply.run MemoryStore.asStore (.empty database pings) =
        (.ok report, store) ∧ store.KeepsNodes [] := by
  have apart : SchemaDefinition.testbench.NamesApart := by
    unfold SchemaDefinition.NamesApart
    decide
  have declarable := (⟨.testbench, rfl⟩ : Bootstrapper).declarable
  have admitted : (MemoryStore.empty database pings).Admits
      SchemaDefinition.testbench.collections := by
    intro declared member
    refine (MemoryCollection.admitsInOrder_iff (declarable.paths declared member)).mpr
      ⟨fun spec inside => Or.inr ⟨rfl, fun _ => ExistingIndex.separates_nil _⟩, ?_⟩
    exact apart declared member
  have nodes : (⟨"nodes", [nodeIndex]⟩ : CollectionSpec) ∈
      SchemaDefinition.testbench.collections := by
    decide
  refine ⟨_, _, apply_run_eq_ok_iff.mpr ⟨admitted, rfl, rfl⟩, ?_⟩
  exact MemoryStore.get?_withCollections_of_mem _ declarable.names nodes

/-- **One node for each endpoint.** On the store that a run of the testbench sets up, nodes
may be inserted in any order, with any operations on other collections in between. The
insertion of a node succeeds exactly when no earlier one has its address and its service; it
is refused as a duplicate otherwise and changes nothing. In the end the collection holds the
documents of the first nodes with their endpoints, in order. -/
theorem one_node_for_each_endpoint (database : String) (pings : Nat) :
    ∃ report store,
      (⟨.testbench, rfl⟩ : Bootstrapper).apply.run MemoryStore.asStore (.empty database pings) =
        (.ok report, store) ∧
      ∀ events : List NodeEvent, (∀ event ∈ events, event.SparesNodes) →
        (∀ earlier node later, events = earlier ++ .insert node :: later →
          (((insertRecord node).run MemoryStore.asStore (store.afterEvents earlier)).1 = .ok () ↔
            ∀ other ∈ NodeEvent.nodes earlier,
              ¬ (other.address = node.address ∧ other.service = node.service)) ∧
          ∀ error, ((insertRecord node).run MemoryStore.asStore
              (store.afterEvents earlier)).1 = .error error →
            error = .duplicateKey "nodes"
              "E11000 duplicate key error index: address_1_service_1" ∧
            ((insertRecord node).run MemoryStore.asStore (store.afterEvents earlier)).2 =
              store.afterEvents earlier) ∧
        (store.afterEvents events).documents "nodes" =
          ((NodeEvent.nodes events).eraseDupsBy Node.sameEndpoint).map toDocument := by
  obtain ⟨report, store, done, empty⟩ := exists_apply_keepsNodes database pings
  refine ⟨report, store, done, fun events spare => ⟨?_, ?_⟩⟩
  · intro earlier node later split
    rw [split] at spare
    have keeps := empty.afterEvents (List.forall_mem_append.mp spare).1
    have known := any_eraseDupsBy Node.sameEndpoint Node.sameEndpoint_trans
      (NodeEvent.nodes earlier) node
    have fresh_iff : (NodeEvent.nodes earlier).any node.sameEndpoint = false ↔
        ∀ other ∈ NodeEvent.nodes earlier,
          ¬ (other.address = node.address ∧ other.service = node.service) := by
      rw [List.any_eq_false]
      refine forall₂_congr fun other _ => not_congr ?_
      rw [Node.sameEndpoint_comm, Node.sameEndpoint_iff]
    -- A node is refused by those that were kept, and each of the others had one of these before it.
    rw [← fresh_iff, ← known]
    cases taken : ((NodeEvent.nodes earlier).eraseDupsBy Node.sameEndpoint).any
        node.sameEndpoint with
    | true =>
        rw [keeps.insert_of_taken taken]
        refine ⟨iff_of_false (by exact nofun) (by exact nofun), fun error refused => ?_⟩
        exact ⟨(Except.error.inj refused).symm, rfl⟩
    | false =>
        obtain ⟨next, inserted, -⟩ := keeps.insert_of_fresh taken
        rw [inserted]
        exact ⟨iff_of_true rfl rfl, fun error refused => by cases refused⟩
  · have keeps := empty.afterEvents spare
    rw [MemoryStore.documents, keeps.collection_eq]

/-- A node comes again with an identifier, and other collections are written to meanwhile. -/
theorem one_node_for_each_endpoint_of_two :
    ∃ report store,
      (⟨.testbench, rfl⟩ : Bootstrapper).apply.run MemoryStore.asStore
          (.empty "pocket-ml-testbench" 0) = (.ok report, store) ∧
      (store.afterEvents
          [.insert ⟨none, "a", "x"⟩, .other (.request (.insertDocument "results" [])),
            .insert ⟨some ⟨0⟩, "a", "x"⟩, .other (.forceIndex "audit" ⟨"day_1", [], true⟩),
            .insert ⟨none, "a", "y"⟩]).documents "nodes" =
        [toDocument (⟨none, "a", "x"⟩ : Node), toDocument (⟨none, "a", "y"⟩ : Node)] := by
  obtain ⟨report, store, done, after⟩ := one_node_for_each_endpoint "pocket-ml-testbench" 0
  refine ⟨report, store, done, (after _ ?_).2⟩
  simp only [List.forall_mem_cons, List.not_mem_nil, false_implies, implies_true, and_true,
    NodeEvent.SparesNodes, Operation.collection?, Request.collection?, true_and]
  decide

end Bootstrapper

end SchemaBootstrap
