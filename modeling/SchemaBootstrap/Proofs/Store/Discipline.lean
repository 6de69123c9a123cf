import SchemaBootstrap.Proofs.Store.Interleaving

/-! # Which requests a program makes

A program decides on its requests as the answers come in, so what it does before any store
at all is said of the program itself. It keeps to a list of requests when it makes them in
order for as long as they are granted and ends with the first refusal (`Program.KeepsTo`);
its calls before a store then are the list, or they break off at a refusal
(`Program.KeepsTo.conducted`). A program that makes requests of some kind only
(`Program.Asks`) makes no others before any store.
-/

namespace SchemaBootstrap

/-- Calls follow a list of requests. They end with the first refusal, which is the result;
if there is none all requests of the list have been made, and the result is as the goal
says. -/
structure Conducted (script : List Request) (goal : α → List Call → Prop) (calls : List Call)
    (result : Except StoreError α) : Prop where
  requests : calls.map Sigma.fst <+: script
  refused : ∀ earlier request error later, calls = earlier ++ ⟨request, .error error⟩ :: later →
    later = [] ∧ result = .error error
  granted : (∀ call ∈ calls, call.Granted) →
    calls.map Sigma.fst = script ∧ ∃ value, result = .ok value ∧ goal value calls

namespace Conducted

variable {request : Request} {script : List Request} {goal : α → List Call → Prop}
  {calls : List Call} {result : Except StoreError α}

/-- A value without any call keeps to every script. -/
theorem of_value {value : α} (holds : goal value []) : Conducted [] goal [] (.ok value) where
  requests := List.prefix_rfl
  refused := by
    intro earlier request error later split
    exact absurd split.symm (List.append_ne_nil_of_right_ne_nil _ (List.cons_ne_nil _ _))
  granted := fun _ => ⟨rfl, value, rfl, holds⟩

/-- A refused request is the last one. -/
theorem of_refusal (error : StoreError) :
    Conducted (request :: script) goal [⟨request, .error error⟩] (.error error) where
  requests := by
    rw [List.map_singleton, List.cons_prefix_cons]
    exact ⟨rfl, List.nil_prefix⟩
  refused := by
    intro earlier request' error' later split
    cases earlier with
    | nil =>
        obtain ⟨same, rfl⟩ := List.cons.inj split
        cases same
        exact ⟨rfl, rfl⟩
    | cons first rest =>
        have nothing := (List.cons.inj split).2
        exact absurd nothing.symm (List.append_ne_nil_of_right_ne_nil _ (List.cons_ne_nil _ _))
  granted := by
    intro all
    obtain ⟨reply, replied⟩ := List.forall_mem_singleton.mp all
    cases replied

/-- Behind a granted request, the rest of the script is kept to. -/
theorem of_reply {reply : request.Reply}
    (rest : Conducted script (fun value later => goal value (⟨request, .ok reply⟩ :: later))
      calls result) :
    Conducted (request :: script) goal (⟨request, .ok reply⟩ :: calls) result where
  requests := by
    rw [List.map_cons, List.cons_prefix_cons]
    exact ⟨rfl, rest.requests⟩
  refused := by
    intro earlier request' error later split
    cases earlier with
    | nil => cases (List.cons.inj split).1
    | cons first others =>
        exact rest.refused others request' error later (List.cons.inj split).2
  granted := by
    intro all
    obtain ⟨made, value, ended, holds⟩ := rest.granted (List.forall_mem_cons.mp all).2
    exact ⟨by rw [List.map_cons, made], value, ended, holds⟩

end Conducted

namespace Program

/-- Whatever it is answered, a program makes the requests of a list in order until one of
them is refused, and then ends with the refusal. If none is, it ends with a value, and the
value and the calls are as the goal says. -/
def KeepsTo : Program StoreError α → List Request → (α → List Call → Prop) → Prop
  | .done (.ok value), script, goal => script = [] ∧ goal value []
  | .done (.error _), _, _ => False
  | .call request next, script, goal =>
    ∃ later, script = request :: later ∧
      (∀ error, next (.error error) = .done (.error error)) ∧
      ∀ reply, (next (.ok reply)).KeepsTo later fun value calls =>
        goal value (⟨request, .ok reply⟩ :: calls)

section KeepsTo

variable {script script' : List Request} {goal : α → List Call → Prop}
  {goal' : β → List Call → Prop}

theorem keepsTo_pure {value : α} (holds : goal value []) :
    (pure value : Program StoreError α).KeepsTo [] goal :=
  ⟨rfl, holds⟩

theorem keepsTo_request (request : Request) :
    (Program.request request).KeepsTo [request]
      fun reply calls => calls = [⟨request, .ok reply⟩] :=
  ⟨[], rfl, fun _ => rfl, fun _ => ⟨rfl, rfl⟩⟩

/-- What holds at the end of a script may be weakened. -/
theorem KeepsTo.imp {program : Program StoreError α} {weaker : α → List Call → Prop}
    (keeps : program.KeepsTo script goal) (weaken : ∀ value calls, goal value calls →
      weaker value calls) : program.KeepsTo script weaker := by
  induction program generalizing script goal weaker with
  | done result =>
      cases result with
      | error error => exact keeps.elim
      | ok value => exact ⟨keeps.1, weaken value [] keeps.2⟩
  | call request next ih =>
      obtain ⟨later, rfl, refused, granted⟩ := keeps
      refine ⟨later, rfl, refused, fun reply => ?_⟩
      exact ih _ (granted reply) fun value calls => weaken value _

/-- Two programs one after the other keep to one list after the other. -/
theorem KeepsTo.bind {program : Program StoreError α} {next : α → Program StoreError β}
    (first : program.KeepsTo script goal)
    (second : ∀ value calls, goal value calls →
      (next value).KeepsTo script' fun result later => goal' result (calls ++ later)) :
    (program >>= next).KeepsTo (script ++ script') goal' := by
  change (program.bind next).KeepsTo (script ++ script') goal'
  induction program generalizing script goal goal' with
  | done result =>
      cases result with
      | error error => exact first.elim
      | ok value =>
          obtain ⟨rfl, holds⟩ := first
          exact second value [] holds
  | call request rest ih =>
      obtain ⟨later, rfl, refused, granted⟩ := first
      refine ⟨later ++ script', rfl, fun error => ?_, fun reply => ?_⟩
      · change (rest (.error error)).bind next = .done (.error error)
        rw [refused]
        rfl
      · exact ih _ (granted reply) fun value calls holds => second value _ holds

/-- What the calls of a program before a store are like. -/
theorem KeepsTo.conducted {program : Program StoreError α} (keeps : program.KeepsTo script goal)
    (store : Store σ) (state : σ) :
    Conducted script goal (program.calls store state) (program.run store state).1 := by
  induction program generalizing script goal state with
  | done result =>
      cases result with
      | error error => exact keeps.elim
      | ok value =>
          obtain ⟨rfl, holds⟩ := keeps
          exact .of_value holds
  | call request next ih =>
      obtain ⟨later, rfl, refused, granted⟩ := keeps
      unfold calls run
      generalize store.answer state request = answered
      obtain ⟨answer, state'⟩ := answered
      cases answer with
      | error error =>
          simp only [refused]
          exact .of_refusal error
      | ok reply => exact .of_reply (ih _ (granted reply) state')

/-- A program whose requests are given by the answer to its first one. -/
theorem conducted_request_bind {request : Request} {next : request.Reply → Program StoreError α}
    {script : Answer request → List Request}
    (keeps : ∀ reply, (next reply).KeepsTo (script (.ok reply)) fun value later =>
      goal value (⟨request, .ok reply⟩ :: later))
    (store : Store σ) (state : σ) :
    Conducted (request :: script (store.answer state request).1) goal
      ((Program.request request >>= next).calls store state)
      ((Program.request request >>= next).run store state).1 := by
  change Conducted _ goal
    ((Program.call request fun answer => (Program.done answer).bind next).calls store state)
    ((Program.call request fun answer => (Program.done answer).bind next).run store state).1
  unfold calls run
  generalize store.answer state request = answered
  obtain ⟨answer, state'⟩ := answered
  cases answer with
  | error error => exact .of_refusal error
  | ok reply => exact .of_reply ((keeps reply).conducted store state')

end KeepsTo

/-- Whatever it is answered, a program makes requests of some kind only. -/
def Asks (allowed : Request → Prop) : Program ε α → Prop
  | .done _ => True
  | .call request next => allowed request ∧ ∀ answer, (next answer).Asks allowed

section Asks

variable {allowed : Request → Prop}

theorem asks_pure (value : α) : (pure value : Program ε α).Asks allowed :=
  trivial

theorem asks_request {request : Request} (permitted : allowed request) :
    (Program.request request).Asks allowed :=
  ⟨permitted, fun _ => trivial⟩

/-- Two programs, one after the other, ask what each of them asks. -/
theorem Asks.bind {program : Program ε α} {next : α → Program ε β}
    (first : program.Asks allowed) (second : ∀ value, (next value).Asks allowed) :
    (program >>= next).Asks allowed := by
  change (program.bind next).Asks allowed
  induction program with
  | done result =>
      cases result with
      | error error => trivial
      | ok value => exact second value
  | call request rest ih => exact ⟨first.1, fun answer => ih answer (first.2 answer)⟩

/-- All calls before a store are allowed, whatever it answers. -/
theorem Asks.allowed_of_mem_calls {program : Program ε α} (asks : program.Asks allowed)
    (store : Store σ) (state : σ) : ∀ call ∈ program.calls store state, allowed call.1 := by
  induction program generalizing state with
  | done result => exact List.forall_mem_nil _
  | call request next ih =>
      exact List.forall_mem_cons.mpr ⟨asks.1, ih _ (asks.2 _) _⟩

end Asks

/-- Replacing the error of a program leaves its calls as they are. -/
theorem calls_mapError (store : Store σ) (program : Program ε α) (convert : ε → ε')
    (state : σ) : (program.mapError convert).calls store state = program.calls store state := by
  induction program generalizing state with
  | done result => rfl
  | call request next ih => exact congrArg (List.cons _) (ih _ _)

/-- A program that ends with a value goes on with the calls of what follows. -/
theorem calls_bind_of_ok {program : Program ε α} {store : Store σ} {state middle : σ} {value : α}
    (first : program.run store state = (.ok value, middle)) (next : α → Program ε β) :
    (program >>= next).calls store state =
      program.calls store state ++ (next value).calls store middle := by
  change (program.bind next).calls store state = _
  induction program generalizing state with
  | done result =>
      cases first
      rfl
  | call request rest ih => exact congrArg (List.cons _) (ih _ first)

/-- A program that ends with an error makes no further calls. -/
theorem calls_bind_of_error {program : Program ε α} {store : Store σ} {state middle : σ}
    {error : ε} (first : program.run store state = (.error error, middle))
    (next : α → Program ε β) :
    (program >>= next).calls store state = program.calls store state := by
  change (program.bind next).calls store state = _
  induction program generalizing state with
  | done result =>
      cases first
      rfl
  | call request rest ih => exact congrArg (List.cons _) (ih _ first)

end Program

end SchemaBootstrap
