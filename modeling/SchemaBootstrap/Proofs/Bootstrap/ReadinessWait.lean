import Mathlib.Data.ENat.Basic
import SchemaBootstrap.Bootstrap.Readiness
import SchemaBootstrap.Proofs.Store.Discipline
import SchemaBootstrap.Store.Memory

/-! # How a wait for a store ends

A store that is only pinged gives a sequence of answers (`Store.pingAnswer`). The rules of a
wait say when another ping is made (`Store.WaitEnds`): after a transient error, as long as
retries are granted, be it a number of them or any number. A wait therefore ends with the
first answer that is not a connection error, or with the last answer for which there was a
retry (`Store.waitEnds_iff`). With a number of retries the rules describe what the program
does (`Store.waitEnds_iff_run`).
-/

namespace SchemaBootstrap

open Program

/-- Only the failure to reach a store is transient. -/
theorem StoreError.transient_iff (error : StoreError) :
    error.transient = true ↔ ∃ detail, error = .connection detail := by
  cases error <;> simp [transient]

/-- An answer that says that the store cannot be reached. -/
def Unreached (answer : Answer .ping) : Prop :=
  ∃ detail, answer = .error (.connection detail)

/-- An answer after which a ping is worth another try. -/
def worthRetry : Answer .ping → Bool
  | .ok () => false
  | .error error => error.transient

/-- Another try is worth it as long as the store has not been reached. -/
theorem worthRetry_iff (answer : Answer .ping) : worthRetry answer = true ↔ Unreached answer := by
  cases answer with
  | ok reply => simp [worthRetry, Unreached]
  | error error => simp [worthRetry, Unreached, StoreError.transient_iff]

namespace Store

variable (store : Store σ)

/-- The state of a store after a number of pings. -/
def afterPings (state : σ) : Nat → σ
  | 0 => state
  | count + 1 => afterPings (store.answer state .ping).2 count

/-- The answer to the ping after a number of others. -/
def pingAnswer (state : σ) (count : Nat) : Answer .ping :=
  (store.answer (store.afterPings state count) .ping).1

/-- The ways in which a wait ends when some number of retries is granted, or any number: the
number of pings, the result, and the state of the store. -/
inductive WaitEnds : ℕ∞ → σ → Nat → Answer .ping → σ → Prop where
  /-- There is an answer for which no ping is worth another try. -/
  | settled {retries : ℕ∞} {state : σ}
      (settles : worthRetry (store.answer state .ping).1 = false) :
      WaitEnds retries state 1 (store.answer state .ping).1 (store.answer state .ping).2
  /-- No retry is granted. -/
  | spent {state : σ} (worth : worthRetry (store.answer state .ping).1 = true) :
      WaitEnds 0 state 1 (store.answer state .ping).1 (store.answer state .ping).2
  /-- A retry is granted, and the wait goes on. -/
  | retried {retries : ℕ∞} {state final : σ} {pings : Nat} {result : Answer .ping}
      (worth : worthRetry (store.answer state .ping).1 = true)
      (rest : WaitEnds retries (store.answer state .ping).2 pings result final) :
      WaitEnds (retries + 1) state (pings + 1) result final

/-- A wait ends at the first answer that settles it, or at the last one with a retry. -/
theorem waitEnds_iff (retries : ℕ∞) (state final : σ) (pings : Nat) (result : Answer .ping) :
    store.WaitEnds retries state pings result final ↔
      ∃ j : ℕ, (∀ i < j, worthRetry (store.pingAnswer state i) = true) ∧ (j : ℕ∞) ≤ retries ∧
        (worthRetry (store.pingAnswer state j) = true → (j : ℕ∞) = retries) ∧
        pings = j + 1 ∧ result = store.pingAnswer state j ∧
        final = store.afterPings state (j + 1) := by
  constructor
  · intro ends
    induction ends with
    | settled settles =>
        refine ⟨0, fun _ before => absurd before (Nat.not_lt_zero _), zero_le, ?_, rfl, rfl, rfl⟩
        intro worth
        exact absurd (settles.symm.trans worth) Bool.false_ne_true
    | spent worth =>
        exact ⟨0, fun _ before => absurd before (Nat.not_lt_zero _), le_rfl, fun _ => rfl,
          rfl, rfl, rfl⟩
    | retried worth rest ih =>
        obtain ⟨j, early, granted, last, rfl, rfl, rfl⟩ := ih
        refine ⟨j + 1, ?_, ?_, ?_, rfl, rfl, rfl⟩
        · intro i before
          cases i with
          | zero => exact worth
          | succ i => exact early i (Nat.lt_of_succ_lt_succ before)
        · rw [Nat.cast_succ]
          exact add_le_add_left granted 1
        · intro again
          rw [Nat.cast_succ, last again]
  · rintro ⟨j, early, granted, last, rfl, rfl, rfl⟩
    induction j generalizing retries state with
    | zero =>
        cases worth : worthRetry (store.answer state .ping).1 with
        | false => exact .settled worth
        | true =>
            rw [← last worth]
            exact .spent worth
    | succ j ih =>
        -- One of the retries is for the first answer, and the others go on from there.
        obtain ⟨rest, rfl⟩ : ∃ rest, retries = rest + 1 := by
          rw [Nat.cast_succ] at granted
          obtain ⟨rest, same⟩ := le_iff_exists_add.mp (le_add_self.trans granted)
          exact ⟨rest, same.trans (add_comm _ _)⟩
        refine .retried (early 0 (Nat.succ_pos j)) (ih rest _ ?_ ?_ ?_)
        · exact fun i before => early (i + 1) (Nat.succ_lt_succ before)
        · rw [Nat.cast_succ] at granted
          exact (ENat.add_le_add_iff_right ENat.one_ne_top).mp granted
        · intro again
          have same := last again
          rw [Nat.cast_succ] at same
          exact ENat.add_left_injective_of_ne_top ENat.one_ne_top same

variable {store}

/-- A wait ends in one way only. -/
theorem WaitEnds.unique {retries : ℕ∞} {state final final' : σ} {pings pings' : Nat}
    {result result' : Answer .ping} (ends : store.WaitEnds retries state pings result final)
    (ends' : store.WaitEnds retries state pings' result' final') :
    pings = pings' ∧ result = result' ∧ final = final' := by
  obtain ⟨j, early, granted, last, rfl, rfl, rfl⟩ := (store.waitEnds_iff ..).mp ends
  obtain ⟨k, early', granted', last', rfl, rfl, rfl⟩ := (store.waitEnds_iff ..).mp ends'
  obtain rfl : j = k := by
    rcases Nat.lt_trichotomy j k with before | same | after
    · rw [← last (early' j before), Nat.cast_le] at granted'
      exact absurd before (Nat.not_lt_of_le granted')
    · exact same
    · rw [← last' (early k after), Nat.cast_le] at granted
      exact absurd after (Nat.not_lt_of_le granted)
  exact ⟨rfl, rfl, rfl⟩

variable (store)

/-- The calls of a number of pings. -/
def pings (state : σ) (count : Nat) : List Call :=
  (List.range count).map fun i => ⟨.ping, store.pingAnswer state i⟩

theorem pings_succ (state : σ) (count : Nat) :
    store.pings state (count + 1) =
      ⟨.ping, (store.answer state .ping).1⟩ :: store.pings (store.answer state .ping).2 count := by
  rw [pings, List.range_succ_eq_map, List.map_cons, List.map_map]
  rfl

theorem length_pings (state : σ) (count : Nat) : (store.pings state count).length = count := by
  rw [pings, List.length_map, List.length_range]

theorem fst_eq_ping_of_mem {state : σ} {count : Nat} {call : Call}
    (member : call ∈ store.pings state count) : call.1 = .ping := by
  obtain ⟨i, -, rfl⟩ := List.mem_map.mp member
  rfl

/-- What a wait with retries left does after an answer. -/
def goOn (retries : Nat) (answer : Answer .ping) : Program StoreError Unit :=
  if worthRetry answer then waitUntilReady retries else .done answer

theorem waitUntilReady_succ (retries : Nat) :
    waitUntilReady (retries + 1) = .call .ping (goOn retries) := by
  refine congrArg (Program.call .ping) (funext fun answer => ?_)
  cases answer <;> rfl

/-- The program of a wait ends as the rules say. -/
theorem waitEnds_run (retries : Nat) (state : σ) :
    ∃ count, (waitUntilReady retries).calls store state = store.pings state count ∧
      store.WaitEnds retries state count ((waitUntilReady retries).run store state).1
        ((waitUntilReady retries).run store state).2 := by
  induction retries generalizing state with
  | zero =>
      refine ⟨1, rfl, ?_⟩
      change store.WaitEnds 0 state 1 (store.answer state .ping).1 (store.answer state .ping).2
      cases worth : worthRetry (store.answer state .ping).1 with
      | false => exact .settled worth
      | true => exact .spent worth
  | succ retries ih =>
      rw [waitUntilReady_succ, calls, run, goOn]
      cases worth : worthRetry (store.answer state .ping).1 with
      | false =>
          rw [if_neg Bool.false_ne_true]
          exact ⟨1, rfl, .settled worth⟩
      | true =>
          rw [if_pos rfl]
          obtain ⟨count, made, ends⟩ := ih (store.answer state .ping).2
          refine ⟨count + 1, ?_, .retried worth ends⟩
          rw [pings_succ, made]

/-- With a number of retries, the rules describe what the program of a wait does. -/
theorem waitEnds_iff_run (retries : Nat) (state final : σ) (count : Nat)
    (result : Answer .ping) :
    store.WaitEnds retries state count result final ↔
      (waitUntilReady retries).run store state = (result, final) ∧
        (waitUntilReady retries).calls store state = store.pings state count := by
  obtain ⟨made, calls, ends⟩ := store.waitEnds_run retries state
  constructor
  · intro ends'
    obtain ⟨rfl, rfl, rfl⟩ := ends'.unique ends
    exact ⟨rfl, calls⟩
  · rintro ⟨ended, calls'⟩
    have same : made = count := by
      rw [← store.length_pings state made, ← calls, calls', length_pings]
    rw [ended, same] at ends
    exact ends

/-- A wait ends in one way, and in no other. -/
def WaitsExactly (retries : ℕ∞) (state : σ) (count : Nat) (result : Answer .ping) (final : σ) :
    Prop :=
  ∀ count' result' final', store.WaitEnds retries state count' result' final' ↔
    count' = count ∧ result' = result ∧ final' = final

variable {store}

/-- A wait that ends in one way ends in no other. -/
theorem WaitEnds.exactly {retries : ℕ∞} {state final : σ} {count : Nat} {result : Answer .ping}
    (ends : store.WaitEnds retries state count result final) :
    store.WaitsExactly retries state count result final := by
  refine fun count' result' final' => ⟨fun ends' => ends'.unique ends, ?_⟩
  rintro ⟨rfl, rfl, rfl⟩
  exact ends

/-- With enough retries, a wait ends with the first answer that is no connection error. -/
theorem waitsExactly_of_settled {state : σ} {j : ℕ} {retries : ℕ∞}
    (early : ∀ i < j, Unreached (store.pingAnswer state i))
    (settled : ¬ Unreached (store.pingAnswer state j)) (granted : (j : ℕ∞) ≤ retries) :
    store.WaitsExactly retries state (j + 1) (store.pingAnswer state j)
      (store.afterPings state (j + 1)) := by
  refine ((store.waitEnds_iff ..).mpr ⟨j, fun i before => ?_, granted, ?_, rfl, rfl, rfl⟩).exactly
  · exact (worthRetry_iff _).mpr (early i before)
  · exact fun worth => absurd ((worthRetry_iff _).mp worth) settled

/-- With too few of them, it ends with the last connection error. -/
theorem waitsExactly_of_unreached {state : σ} {n : ℕ}
    (unreached : ∀ i ≤ n, Unreached (store.pingAnswer state i)) :
    store.WaitsExactly n state (n + 1) (store.pingAnswer state n)
      (store.afterPings state (n + 1)) := by
  refine ((store.waitEnds_iff ..).mpr ⟨n, fun i before => ?_, le_rfl, fun _ => rfl,
    rfl, rfl, rfl⟩).exactly
  exact (worthRetry_iff _).mpr (unreached i (Nat.le_of_lt before))

/-- With any number of retries, it goes on for ever if the store is never reached. -/
theorem not_waitEnds_of_never_reached {state : σ}
    (unreached : ∀ i, Unreached (store.pingAnswer state i)) (count : Nat)
    (result : Answer .ping) (final : σ) : ¬ store.WaitEnds ⊤ state count result final := by
  intro ends
  obtain ⟨j, -, -, last, -⟩ := (store.waitEnds_iff ..).mp ends
  exact ENat.natCast_ne_top j (last ((worthRetry_iff _).mpr (unreached j)))

end Store

namespace MemoryStore

/-- Each ping uses up one of the unavailable ones. -/
theorem afterPings_eq (store : MemoryStore) (count : Nat) :
    asStore.afterPings store count =
      { store with unavailablePings := store.unavailablePings - count } := by
  induction count generalizing store with
  | zero => rfl
  | succ count ih =>
      rw [Store.afterPings, ih]
      obtain ⟨database, collections, pings⟩ := store
      cases pings with
      | zero => simp only [asStore, answer, Nat.zero_sub]
      | succ pings => simp only [asStore, answer, Nat.add_sub_add_right]

/-- A store in memory answers when its unavailable pings are used up. -/
theorem pingAnswer_eq (store : MemoryStore) (count : Nat) :
    asStore.pingAnswer store count =
      if count < store.unavailablePings then .error (.connection "server selection timed out")
      else .ok () := by
  rw [Store.pingAnswer, afterPings_eq]
  change (answer _ .ping).1 = _
  unfold answer
  dsimp only
  split
  · next none => rw [if_neg (Nat.not_lt_of_le (Nat.le_of_sub_eq_zero none))]
  · next more => rw [if_pos (Nat.lt_of_sub_eq_succ more)]

/-- A store in memory is not reached by as many pings as it leaves unanswered. -/
theorem unreached_pingAnswer_iff (store : MemoryStore) (count : Nat) :
    Unreached (asStore.pingAnswer store count) ↔ count < store.unavailablePings := by
  rw [pingAnswer_eq, Unreached]
  split <;> simp_all

/-- A store in memory is reached as soon as its unavailable pings are used up. -/
theorem waitsExactly_of_le {store : MemoryStore} {retries : ℕ∞}
    (enough : (store.unavailablePings : ℕ∞) ≤ retries) :
    asStore.WaitsExactly retries store (store.unavailablePings + 1) (.ok ())
      { store with unavailablePings := 0 } := by
  have ends : asStore.WaitsExactly retries store _ _ _ := Store.waitsExactly_of_settled
    (fun i before => (store.unreached_pingAnswer_iff i).mpr before)
    (mt (store.unreached_pingAnswer_iff _).mp (Nat.lt_irrefl _)) enough
  rwa [pingAnswer_eq, if_neg (Nat.lt_irrefl _), afterPings_eq,
    Nat.sub_eq_zero_of_le (Nat.le_succ _)] at ends

/-- With too few retries, some of its unavailable pings are left. -/
theorem waitsExactly_of_lt {store : MemoryStore} {n : ℕ} (few : n < store.unavailablePings) :
    asStore.WaitsExactly n store (n + 1) (.error (.connection "server selection timed out"))
      { store with unavailablePings := store.unavailablePings - n - 1 } := by
  have ends : asStore.WaitsExactly n store _ _ _ := Store.waitsExactly_of_unreached
    fun i within => (store.unreached_pingAnswer_iff i).mpr (Nat.lt_of_le_of_lt within few)
  rwa [pingAnswer_eq, if_pos few, afterPings_eq, ← Nat.sub_sub] at ends

/-- One retry is two pings. -/
example : (waitUntilReady 1).run asStore (.empty "db" 3) =
    (.error (.connection "server selection timed out"), .empty "db" 1) := rfl

end MemoryStore

end SchemaBootstrap
