import SchemaBootstrap.Store.Basic

/-! # Programs over a store

A program makes requests one after the other, each depending on the answers so
far, and ends with a value or an error. It does not know which store answers:
`Program.run` puts it before one, and `Program.calls` lists the requests that it
makes there.
-/

namespace SchemaBootstrap

/-- A program that ends with a value of type `α` or an error of type `ε`. -/
inductive Program (ε α : Type) where
  | done (result : Except ε α)
  | call (request : Request) (next : Answer request → Program ε α)

namespace Program

/-- Goes on with the value at which a program ends. -/
def bind (program : Program ε α) (next : α → Program ε β) : Program ε β :=
  match program with
  | .done (.ok value) => next value
  | .done (.error error) => .done (.error error)
  | .call request rest => .call request fun answer => (rest answer).bind next

instance : Monad (Program ε) where
  pure value := .done (.ok value)
  bind := Program.bind

/-- Ends with an error. -/
def fail (error : ε) : Program ε α :=
  .done (.error error)

/-- Makes one request and ends with its answer. -/
def request (request : Request) : Program StoreError request.Reply :=
  .call request .done

/-- The program with its error replaced by another one. -/
def mapError (convert : ε → ε') : Program ε α → Program ε' α
  | .done result => .done (result.mapError convert)
  | .call request next => .call request fun answer => (next answer).mapError convert

/-- The result of a program before a store, and the state in which it leaves it. -/
def run (store : Store σ) : Program ε α → σ → Except ε α × σ
  | .done result, state => (result, state)
  | .call request next, state =>
    let answered := store.answer state request
    (next answered.1).run store answered.2

/-- The requests of a program before a store, each with its answer, in order. -/
def calls (store : Store σ) : Program ε α → σ → List ((request : Request) × Answer request)
  | .done _, _ => []
  | .call request next, state =>
    let answered := store.answer state request
    ⟨request, answered.1⟩ :: (next answered.1).calls store answered.2

theorem run_bind (store : Store σ) (program : Program ε α) (next : α → Program ε β)
    (state : σ) :
    (program >>= next).run store state =
      match program.run store state with
      | (.ok value, state') => (next value).run store state'
      | (.error error, state') => (.error error, state') := by
  change (program.bind next).run store state = _
  induction program generalizing state with
  | done result => cases result <;> rfl
  | call request rest ih => exact ih _ _

end Program

end SchemaBootstrap
