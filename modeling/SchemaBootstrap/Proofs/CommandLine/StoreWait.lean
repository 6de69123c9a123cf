import SchemaBootstrap.CommandLine.Run
import SchemaBootstrap.Proofs.Bootstrap.ReadinessWait
import SchemaBootstrap.Proofs.Store.ProgramRun

/-! # Commands that wait for their store

A command that waits makes the calls of the wait, and those of its work only after the wait
has ended with an answer of the store (`calls_after_wait`). So whatever it asks other than by
a ping comes behind a ping that was answered, and where the wait fails, the command fails
with its error and has made no other call (`waits_for_first_answer`).
-/

namespace SchemaBootstrap

open Program

namespace Command

/-- The work of a command at a store, for the commands that need one. -/
def work? : Command → Option (Bootstrapper → Program CommandFailure CommandOutput)
  | .schema => none
  | .init dryRun _ => some fun bootstrapper => bootstrapper.planOrApply dryRun
  | .verify _ => some fun bootstrapper => do
    let verification ← bootstrapper.inspect
    pure (.verification verification)

/-- Whether a command waits for its store. -/
def waits : Command → Bool
  | .schema => false
  | .init _ noWait => !noWait
  | .verify noWait => !noWait

/-- A command with work does this work at the store to which the settings lead. -/
theorem execute_of_work? {command : Command}
    {work : Bootstrapper → Program CommandFailure CommandOutput} (works : command.work? = some work)
    {connect : Connector σ} {settings : Settings} {store : Store σ}
    (connected : connect settings.server = .ok store) (retries : Nat) (state : σ) :
    command.execute connect retries settings state =
      (settings.atStore (store.database state) command.waits retries work).run store state := by
  cases command with
  | schema => cases works
  | init dryRun noWait =>
      cases works
      rw [Command.execute, Connector.execute, connected]
      rfl
  | verify noWait =>
      cases works
      rw [Command.execute, Connector.execute, connected]
      rfl

end Command

/-- The failure of a command whose wait has failed. -/
def CommandFailure.ofWaiting (error : StoreError) : CommandFailure :=
  (ofCause error.message).within "MongoDB did not become reachable"

/-- A command that is to wait does so, and tells of it when the wait fails. -/
theorem awaitStore_true (retries : Nat) :
    awaitStore true retries = (waitUntilReady retries).mapError CommandFailure.ofWaiting := by
  unfold awaitStore
  rw [if_pos rfl]
  rfl

/-- With waiting, a wait comes before what is done without. -/
theorem Settings.atStore_true (settings : Settings) (database : String) (retries : Nat)
    (work : Bootstrapper → Program CommandFailure CommandOutput) :
    settings.atStore database true retries work =
      ((waitUntilReady retries).mapError CommandFailure.ofWaiting >>=
        fun _ => settings.atStore database false retries work) := by
  unfold Settings.atStore
  rw [awaitStore_true]
  rfl

section AfterWait

variable {store : Store σ} {state final : σ} {retries : Nat}
  (next : Unit → Program CommandFailure α)

/-- What follows a wait is done when a ping has been answered. -/
theorem calls_after_wait
    (reached : (waitUntilReady retries).run store state = (.ok (), final)) :
    ∃ count, (⟨.ping, .ok ()⟩ : Call) ∈ store.pings state count ∧
      ((waitUntilReady retries).mapError CommandFailure.ofWaiting >>= next).calls store state =
        store.pings state count ++ (next ()).calls store final := by
  obtain ⟨count, made, ends⟩ := store.waitEnds_run retries state
  obtain ⟨j, -, -, -, rfl, answered, -⟩ := (store.waitEnds_iff ..).mp ends
  rw [reached] at answered
  refine ⟨j + 1, ?_, ?_⟩
  · exact List.mem_map.mpr ⟨j, List.mem_range.mpr (Nat.lt_succ_self j), by rw [← answered]⟩
  · have ran : ((waitUntilReady retries).mapError CommandFailure.ofWaiting).run store state =
        (.ok (), final) := by
      rw [run_mapError, reached]
      rfl
    rw [calls_bind_of_ok ran, calls_mapError, made]

/-- Where a wait fails nothing follows it. -/
theorem stops_after_failed_wait {error : StoreError}
    (failed : (waitUntilReady retries).run store state = (.error error, final)) :
    ((waitUntilReady retries).mapError CommandFailure.ofWaiting >>= next).run store state =
        (.error (.ofWaiting error), final) ∧
      ∃ count, ((waitUntilReady retries).mapError CommandFailure.ofWaiting >>= next).calls store
        state = store.pings state count := by
  have ran : ((waitUntilReady retries).mapError CommandFailure.ofWaiting).run store state =
      (.error (.ofWaiting error), final) := by
    rw [run_mapError, failed]
    rfl
  obtain ⟨count, made, -⟩ := store.waitEnds_run retries state
  refine ⟨run_bind_of_error ran next, count, ?_⟩
  rw [calls_bind_of_error ran, calls_mapError, made]

variable {next}

/-- After a wait, every call but the pings comes behind a ping that was answered. -/
theorem ping_answered_before {earlier later : List Call} {call : Call}
    (split : ((waitUntilReady retries).mapError CommandFailure.ofWaiting >>= next).calls store state
      = earlier ++ call :: later) (other : call.1 ≠ .ping) :
    (⟨.ping, .ok ()⟩ : Call) ∈ earlier := by
  cases ended : (waitUntilReady retries).run store state with
  | mk result final =>
      cases result with
      | error error =>
          obtain ⟨-, count, made⟩ := stops_after_failed_wait next ended
          have member : call ∈ store.pings state count := by
            rw [← made, split]
            exact List.mem_append_right _ List.mem_cons_self
          exact absurd (store.fst_eq_ping_of_mem member) other
      | ok reply =>
          obtain ⟨count, answered, made⟩ := calls_after_wait next ended
          rw [made, List.append_eq_append_iff] at split
          rcases split with ⟨rest, rfl, -⟩ | ⟨rest, pings, follows⟩
          · exact List.mem_append_left _ answered
          · cases rest with
            | nil => rwa [pings, List.append_nil] at answered
            | cons first rest =>
                have member : first ∈ store.pings state count := by
                  rw [pings]
                  exact List.mem_append_right _ List.mem_cons_self
                rw [← (List.cons.inj follows).1] at member
                exact absurd (store.fst_eq_ping_of_mem member) other

end AfterWait

/-- **A wait ends with the first answer of the store.** With enough retries for it, a wait
pings until there is an answer that is no connection error, and ends with this answer. With
too few, it ends with the last connection error, and without a limit it goes on as long as
the store is not reached. A store in memory is reached when its unavailable pings are used
up. A command that waits asks nothing but pings before one of them has been answered, and
nothing else at all if the wait fails. -/
theorem waits_for_first_answer :
    (∀ (σ : Type) (store : Store σ) (state : σ),
      (∀ (j : ℕ) (retries : ℕ∞), (∀ i < j, Unreached (store.pingAnswer state i)) →
        ¬ Unreached (store.pingAnswer state j) → (j : ℕ∞) ≤ retries →
        store.WaitsExactly retries state (j + 1) (store.pingAnswer state j)
          (store.afterPings state (j + 1))) ∧
      (∀ n : ℕ, (∀ i ≤ n, Unreached (store.pingAnswer state i)) →
        store.WaitsExactly n state (n + 1) (store.pingAnswer state n)
          (store.afterPings state (n + 1))) ∧
      ((∀ i, Unreached (store.pingAnswer state i)) → ∀ count result final,
        ¬ store.WaitEnds ⊤ state count result final) ∧
      ∀ (n count : ℕ) result final, store.WaitEnds n state count result final ↔
        (waitUntilReady n).run store state = (result, final) ∧
          (waitUntilReady n).calls store state = store.pings state count) ∧
    (∀ store : MemoryStore,
      (∀ retries : ℕ∞, (store.unavailablePings : ℕ∞) ≤ retries →
        MemoryStore.asStore.WaitsExactly retries store (store.unavailablePings + 1) (.ok ())
          { store with unavailablePings := 0 }) ∧
      ∀ n : ℕ, n < store.unavailablePings →
        MemoryStore.asStore.WaitsExactly n store (n + 1)
          (.error (.connection "server selection timed out"))
          { store with unavailablePings := store.unavailablePings - n - 1 }) ∧
    ∀ (command : Command) (work : Bootstrapper → Program CommandFailure CommandOutput),
      command.work? = some work → command.waits = true →
      ∀ (σ : Type) (connect : Connector σ) (settings : Settings) (store : Store σ) (state : σ)
        (retries : Nat), connect settings.server = .ok store →
        let program := settings.atStore (store.database state) true retries work
        command.execute connect retries settings state = program.run store state ∧
        (∀ earlier call later, program.calls store state = earlier ++ call :: later →
          call.1 ≠ .ping → (⟨.ping, .ok ()⟩ : Call) ∈ earlier) ∧
        ∀ error final,
          (waitUntilReady retries).run store state = (.error error, final) →
          program.run store state = (.error (.ofWaiting error), final) ∧
          ∀ call ∈ program.calls store state, call.1 = .ping := by
  refine ⟨fun σ store state => ⟨fun j retries early settled granted => ?_, fun n unreached => ?_,
    Store.not_waitEnds_of_never_reached, fun n count result final => ?_⟩, fun store => ⟨?_, ?_⟩, ?_⟩
  · exact Store.waitsExactly_of_settled early settled granted
  · exact Store.waitsExactly_of_unreached unreached
  · exact store.waitEnds_iff_run n state final count result
  · exact fun retries enough => MemoryStore.waitsExactly_of_le enough
  · exact fun n few => MemoryStore.waitsExactly_of_lt few
  · intro command work works waits σ connect settings store state retries connected program
    -- The command is a wait with its work behind it; the rest holds of any such program.
    have waiting : program = _ := settings.atStore_true (store.database state) retries work
    refine ⟨?_, fun earlier call later split other => ?_, fun error final failed => ?_⟩
    · rw [command.execute_of_work? works connected retries, waits]
    · rw [waiting] at split
      exact ping_answered_before split other
    · rw [waiting]
      obtain ⟨ended, count, made⟩ := stops_after_failed_wait _ failed
      exact ⟨ended, fun call member => store.fst_eq_ping_of_mem (made ▸ member)⟩

/-- A store that leaves one ping without an answer is reached with one retry; without a retry
the verification fails with the connection error. -/
theorem waits_for_first_answer_behind_unanswered_ping :
    MemoryStore.asStore.WaitsExactly 1 (.empty "testbench" 1) 2 (.ok ()) (.empty "testbench" 0) ∧
      (Command.verify false).execute (fun _ => .ok MemoryStore.asStore) 0 {}
          (MemoryStore.empty "testbench" 1) =
        (.error (.ofWaiting (.connection "server selection timed out")),
          .empty "testbench" 0) := by
  obtain ⟨-, inMemory, commands⟩ := waits_for_first_answer
  refine ⟨(inMemory (.empty "testbench" 1)).1 1 le_rfl, ?_⟩
  have waiting := commands (.verify false) _ rfl rfl MemoryStore (fun _ => .ok MemoryStore.asStore)
    {} MemoryStore.asStore (.empty "testbench" 1) 0 rfl
  rw [waiting.1]
  exact (waiting.2.2 (.connection "server selection timed out") (.empty "testbench" 0) rfl).1

end SchemaBootstrap
