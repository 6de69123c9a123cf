import SchemaBootstrap.Store.Program

/-! # Programs that share a store

Programs that run beside each other before one store make their requests in any order,
each request being answered before the next one is made, and any of them may stop for
good at any time (`Interleaving.after`).

What can be relied on is said by a relation that every change of the state by any of the
programs respects (`Interference`). A program assures a goal under interference when all
its requests are granted and respect the relation, whatever else happens in between, and
it ends in the goal (`Program.Assures`). Programs that do so one by one do so together
(`Interleaving.Assured.after`).
-/

namespace SchemaBootstrap

/-- A request together with its answer. -/
abbrev Call : Type :=
  (request : Request) × Answer request

/-- The request has been granted. -/
def Call.Granted (call : Call) : Prop :=
  ∃ reply, call.2 = .ok reply

/-- A program under way: the calls that it has made, and what is left of it. -/
structure Run (ε α : Type) where
  calls : List Call
  rest : Program ε α
  /-- Whether it has stopped for good. -/
  stopped : Bool

namespace Run

def start (program : Program ε α) : Run ε α where
  calls := []
  rest := program
  stopped := false

def stop (run : Run ε α) : Run ε α :=
  { run with stopped := true }

/-- Whether a program has come to its end. -/
def finished (run : Run ε α) : Bool :=
  match run.rest with
  | .done _ => true
  | .call _ _ => false

/-- A run has finished when there is only an outcome left of it. -/
theorem finished_iff {run : Run ε α} :
    run.finished = true ↔ ∃ outcome, run.rest = .done outcome := by
  rw [finished]
  cases run.rest with
  | done outcome => exact iff_of_true rfl ⟨outcome, rfl⟩
  | call request next => exact iff_of_false Bool.noConfusion fun ⟨_, same⟩ => by cases same

end Run

/-- What happens next: a program makes its next request, or stops. -/
inductive Move where
  | call (index : Nat)
  | stop (index : Nat)
  deriving DecidableEq, Repr

/-- A state of a store, and the programs under way before it. -/
structure Interleaving (σ ε α : Type) where
  state : σ
  runs : List (Run ε α)

namespace Interleaving

def start (state : σ) (programs : List (Program ε α)) : Interleaving σ ε α where
  state := state
  runs := programs.map Run.start

/-- A program that has finished or stopped makes no further request. -/
def move (store : Store σ) (system : Interleaving σ ε α) : Move → Interleaving σ ε α
  | .call index =>
    match system.runs[index]? with
    | some ⟨calls, .call request next, false⟩ =>
      let answered := store.answer system.state request
      { state := answered.2
        runs := system.runs.set index
          ⟨calls ++ [⟨request, answered.1⟩], next answered.1, false⟩ }
    | _ => system
  | .stop index => { system with runs := system.runs.modify index Run.stop }

/-- What becomes of programs and store in the course of moves. -/
def after (store : Store σ) (moves : List Move) (system : Interleaving σ ε α) :
    Interleaving σ ε α :=
  moves.foldl (move store) system

theorem after_append (store : Store σ) (first second : List Move)
    (system : Interleaving σ ε α) :
    system.after store (first ++ second) = (system.after store first).after store second :=
  List.foldl_append

/-- What a move does: programs may have stopped, or one of them has made its next request. -/
theorem move_cases (store : Store σ) (system : Interleaving σ ε α) (move : Move) :
    ((system.move store move).state = system.state ∧
      ∀ (i : Nat) (run : Run ε α), (system.move store move).runs[i]? = some run →
        ∃ earlier : Run ε α, system.runs[i]? = some earlier ∧ run.calls = earlier.calls ∧
          run.rest = earlier.rest) ∨
    ∃ (caller : Nat) (calls : List Call) (request : Request) (next : Answer request → Program ε α),
      system.runs[caller]? = some ⟨calls, .call request next, false⟩ ∧
      (system.move store move).state = (store.answer system.state request).2 ∧
      ∀ (i : Nat) (run : Run ε α), (system.move store move).runs[i]? = some run →
        (i = caller ∧
          run.calls = calls ++ [⟨request, (store.answer system.state request).1⟩] ∧
          run.rest = next (store.answer system.state request).1) ∨
        system.runs[i]? = some run := by
  cases move with
  | stop index =>
      refine Or.inl ⟨rfl, fun i run found => ?_⟩
      rw [Interleaving.move, List.getElem?_modify] at found
      obtain ⟨earlier, there, rfl⟩ := Option.map_eq_some_iff.mp found
      refine ⟨earlier, there, ?_⟩
      split <;> exact ⟨rfl, rfl⟩
  | call index =>
      rw [Interleaving.move]
      split
      · next calls request next ready =>
          refine Or.inr ⟨index, calls, request, next, ready, rfl, fun i run found => ?_⟩
          rw [List.getElem?_set] at found
          split at found
          · next same =>
              split at found
              · cases found
                exact Or.inl ⟨same.symm, rfl, rfl⟩
              · cases found
          · exact Or.inr found
      · exact Or.inl ⟨rfl, fun i run found => ⟨run, found, rfl, rfl⟩⟩

end Interleaving

/-- How the programs that share a store may change its state. -/
structure Interference (σ : Type) where
  allows : σ → σ → Prop
  refl (state : σ) : allows state state
  trans {first second third : σ} :
    allows first second → allows second third → allows first third

section Assurance

variable {store : Store σ} {others : Interference σ}

/-- A program comes to a goal under interference: each of its requests is granted and
changes the state in an allowed way, whatever allowed changes come before it, and the
value and the calls at the end are as the goal says. -/
def Program.Assures (store : Store σ) (others : Interference σ)
    (goal : α → List Call → σ → Prop) : Program ε α → List Call → σ → Prop
  | .done (.ok value), calls, state => goal value calls state
  | .done (.error _), _, _ => False
  | .call request next, calls, state =>
    ∀ later, others.allows state later →
      let answered := store.answer later request
      (∃ reply, answered.1 = .ok reply) ∧ others.allows later answered.2 ∧
        (next answered.1).Assures store others goal (calls ++ [⟨request, answered.1⟩]) answered.2

namespace Program

variable {goal : α → List Call → σ → Prop} {goal' : β → List Call → σ → Prop}
  {calls : List Call} {state : σ}

/-- A request is assured that is granted in every state to which others may lead. -/
theorem assures_request {request : Request} {goal : request.Reply → List Call → σ → Prop}
    (granted : ∀ later, others.allows state later → ∃ reply next,
      store.answer later request = (.ok reply, next) ∧ others.allows later next ∧
        goal reply (calls ++ [⟨request, .ok reply⟩]) next) :
    (Program.request request).Assures store others goal calls state := by
  intro later moved
  obtain ⟨reply, next, answered, allowed, holds⟩ := granted later moved
  rw [answered]
  exact ⟨⟨reply, rfl⟩, allowed, holds⟩

/-- The second program starts after allowed changes, with the calls of the first one made. -/
theorem Assures.bind {program : Program ε α} {next : α → Program ε β}
    (first : program.Assures store others goal calls state)
    (second : ∀ value made later, calls ⊆ made → others.allows state later →
      goal value made later → (next value).Assures store others goal' made later) :
    (program >>= next).Assures store others goal' calls state := by
  change (program.bind next).Assures store others goal' calls state
  induction program generalizing calls state with
  | done result =>
      cases result with
      | error error => exact first.elim
      | ok value =>
          exact second value calls state (List.Subset.refl calls) (others.refl state) first
  | call request rest ih =>
      intro later moved
      obtain ⟨granted, allowed, assured⟩ := first later moved
      -- To the rest, the changes up to its start are changes by others, this request's included.
      refine ⟨granted, allowed, ih _ assured fun value made last included grown => ?_⟩
      refine second value made last (fun call member => included ?_)
        (others.trans (others.trans moved allowed) grown)
      exact List.mem_append_left _ member

/-- Replacing errors keeps the assurance, which has none. -/
theorem Assures.mapError {program : Program ε α} (convert : ε → ε')
    (assured : program.Assures store others goal calls state) :
    (program.mapError convert).Assures store others goal calls state := by
  induction program generalizing calls state with
  | done result =>
      cases result with
      | error error => exact assured.elim
      | ok value => exact assured
  | call request rest ih =>
      intro later moved
      obtain ⟨granted, allowed, assured⟩ := assured later moved
      exact ⟨granted, allowed, ih _ assured⟩

/-- An assurance stands while others change the state. -/
theorem Assures.of_allows {program : Program ε α}
    (stable : ∀ value calls {state later}, goal value calls state →
      others.allows state later → goal value calls later)
    (assured : program.Assures store others goal calls state) {later : σ}
    (moved : others.allows state later) : program.Assures store others goal calls later := by
  cases program with
  | done result =>
      cases result with
      | error error => exact assured.elim
      | ok value => exact stable value calls assured moved
  | call request rest => exact fun last further => assured last (others.trans moved further)

end Program

namespace Interleaving

variable {goal : α → List Call → σ → Prop} {system : Interleaving σ ε α}

/-- All calls so far have been granted, and every program assures the goal with its rest. -/
def Assured (store : Store σ) (others : Interference σ) (goal : α → List Call → σ → Prop)
    (system : Interleaving σ ε α) : Prop :=
  ∀ (i : Nat) (run : Run ε α), system.runs[i]? = some run →
    (∀ call ∈ run.calls, call.Granted) ∧
      run.rest.Assures store others goal run.calls system.state

/-- Programs are assured at the start if each of them assures the goal. -/
theorem assured_start {state : σ} {programs : List (Program ε α)}
    (each : ∀ program ∈ programs, program.Assures store others goal [] state) :
    (start state programs).Assured store others goal := by
  intro i run found
  obtain ⟨program, member, rfl⟩ := Option.map_eq_some_iff.mp (List.getElem?_map ▸ found)
  exact ⟨List.forall_mem_nil _, each program (List.mem_of_getElem? member)⟩

/-- Every move is an allowed change and keeps the assurances. -/
theorem Assured.move
    (stable : ∀ value calls {state later}, goal value calls state →
      others.allows state later → goal value calls later)
    (assured : system.Assured store others goal) (move : Move) :
    others.allows system.state (system.move store move).state ∧
      (system.move store move).Assured store others goal := by
  rcases system.move_cases store move with
    ⟨same, runs⟩ | ⟨caller, calls, request, next, ready, answered, runs⟩
  · rw [same]
    refine ⟨others.refl _, fun i run found => ?_⟩
    obtain ⟨earlier, there, made, left⟩ := runs i run found
    rw [made, left, same]
    exact assured i earlier there
  · obtain ⟨granted, assures⟩ := assured caller _ ready
    obtain ⟨⟨reply, replied⟩, allowed, rest⟩ := assures system.state (others.refl _)
    rw [answered]
    refine ⟨allowed, fun i run found => ?_⟩
    rw [answered]
    -- To the caller the change is its own; to any other program it is one that others may make.
    rcases runs i run found with ⟨-, made, left⟩ | there
    · rw [made, left]
      refine ⟨List.forall_mem_append.mpr ⟨granted, List.forall_mem_singleton.mpr ?_⟩, rest⟩
      exact ⟨reply, replied⟩
    · obtain ⟨granted, assures⟩ := assured i run there
      exact ⟨granted, assures.of_allows stable allowed⟩

/-- Programs that assure a goal one by one do so in every interleaving. -/
theorem Assured.after
    (stable : ∀ value calls {state later}, goal value calls state →
      others.allows state later → goal value calls later)
    (assured : system.Assured store others goal) (moves : List Move) :
    others.allows system.state (system.after store moves).state ∧
      (system.after store moves).Assured store others goal := by
  induction moves generalizing system with
  | nil => exact ⟨others.refl _, assured⟩
  | cons first rest ih =>
      obtain ⟨moved, kept⟩ := assured.move stable first
      obtain ⟨further, kept⟩ := ih kept
      exact ⟨others.trans moved further, kept⟩

/-- A program that has finished has ended with a value, as the goal says. -/
theorem Assured.done (assured : system.Assured store others goal) {i : Nat} {run : Run ε α}
    (found : system.runs[i]? = some run) {outcome : Except ε α}
    (ended : run.rest = .done outcome) :
    ∃ value, outcome = .ok value ∧ goal value run.calls system.state := by
  obtain ⟨-, assures⟩ := assured i run found
  rw [ended] at assures
  cases outcome with
  | error error => exact assures.elim
  | ok value => exact ⟨value, rfl, assures⟩

end Interleaving

end Assurance

end SchemaBootstrap
