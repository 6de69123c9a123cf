import SchemaBootstrap.Store.Memory
import SchemaBootstrap.Store.Program

/-! # Running programs step by step

A program before a store goes on with the value of its first part, in the state in
which that part leaves the store, and ends with the error of its first part. A run of
requests takes a store from state to state (`Store.after`), and what every request
preserves holds after every run (`Store.invariant_after`). A run may have all of its
requests granted (`Store.GrantsAll`).
-/

namespace SchemaBootstrap

/-- A success has a value. -/
theorem exists_eq_ok_of_toBool {result : Except ε α} (succeeds : result.toBool = true) :
    ∃ value, result = .ok value := by
  cases result with
  | ok value => exact ⟨value, rfl⟩
  | error error => cases succeeds

namespace Program

variable {store : Store σ} {state middle : σ}

theorem run_pure (store : Store σ) (state : σ) (value : α) :
    (pure value : Program ε α).run store state = (.ok value, state) :=
  rfl

/-- After a value, a program goes on in the state that was left. -/
theorem run_bind_of_ok {program : Program ε α} {value : α}
    (first : program.run store state = (.ok value, middle)) (next : α → Program ε β) :
    (program >>= next).run store state = (next value).run store middle := by
  rw [run_bind, first]

/-- After an error, a program does not go on. -/
theorem run_bind_of_error {program : Program ε α} {error : ε}
    (first : program.run store state = (.error error, middle)) (next : α → Program ε β) :
    (program >>= next).run store state = (.error error, middle) := by
  rw [run_bind, first]

/-- Replacing the error of a program changes nothing else. -/
theorem run_mapError (store : Store σ) (program : Program ε α) (convert : ε → ε') (state : σ) :
    (program.mapError convert).run store state =
      (((program.run store state).1).mapError convert, (program.run store state).2) := by
  induction program generalizing state with
  | done result => rfl
  | call question next ih => exact ih _ _

theorem run_listCollections (store : MemoryStore) :
    (request .listCollections).run MemoryStore.asStore store =
      (.ok store.collections.names, store) :=
  rfl

theorem run_listIndexes (store : MemoryStore) (name : String) :
    (request (.listIndexes name)).run MemoryStore.asStore store =
      (.ok (store.collection name).indexes, store) :=
  rfl

end Program

namespace Store

/-- The state of a store after requests, in the order in which it takes them. -/
def after (store : Store σ) (requests : List Request) (state : σ) : σ :=
  requests.foldl (fun state request => (store.answer state request).2) state

theorem after_append (store : Store σ) (first second : List Request) (state : σ) :
    store.after (first ++ second) state = store.after second (store.after first state) :=
  List.foldl_append

/-- What every request preserves holds after every run of requests. -/
theorem invariant_after (store : Store σ) {invariant : σ → Prop}
    (preserved : ∀ state request, invariant state → invariant (store.answer state request).2)
    (requests : List Request) {state : σ} (holds : invariant state) :
    invariant (store.after requests state) := by
  induction requests generalizing state with
  | nil => exact holds
  | cons request rest ih => exact ih (preserved state request holds)

/-- Requests are all granted, one after the other. -/
def GrantsAll (store : Store σ) : List Request → σ → Prop
  | [], _ => True
  | request :: rest, state =>
      (∃ reply, (store.answer state request).1 = .ok reply) ∧
        store.GrantsAll rest (store.answer state request).2

/-- Requests are all granted if both parts are. -/
theorem grantsAll_append (store : Store σ) (first second : List Request) (state : σ) :
    store.GrantsAll (first ++ second) state ↔
      store.GrantsAll first state ∧ store.GrantsAll second (store.after first state) := by
  induction first generalizing state with
  | nil => rw [List.nil_append, GrantsAll, true_and]; rfl
  | cons request rest ih =>
      rw [List.cons_append, GrantsAll, GrantsAll, ih, and_assoc]
      rfl

end Store

end SchemaBootstrap
