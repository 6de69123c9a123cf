import SchemaBootstrap.Store.Basic

/-! # Stores with faults

Any store can be put behind one that refuses chosen requests before they reach it,
leaves out chosen names when collections are listed, and counts the pings. Of the
failures that are planned for one kind of request only the oldest counts down.
-/

namespace SchemaBootstrap

/-- The kinds of requests. -/
inductive RequestKind where
  | ping
  | listCollections
  | createCollection
  | listIndexes
  | createIndex
  | insertDocument
  deriving DecidableEq, Repr

/-- The kind of a request. -/
def Request.kind : Request → RequestKind
  | ping => .ping
  | listCollections => .listCollections
  | createCollection _ => .createCollection
  | listIndexes _ => .listIndexes
  | createIndex _ _ => .createIndex
  | insertDocument _ _ => .insertDocument

/-- A failure of the request of some kind that comes after a number of others. -/
structure PlannedFailure where
  kind : RequestKind
  after : Nat
  error : StoreError

/-- The failure that is due at a request of some kind, and those that stay planned. -/
def PlannedFailure.due (kind : RequestKind) :
    List PlannedFailure → Option StoreError × List PlannedFailure
  | [] => (none, [])
  | failure :: rest =>
    if failure.kind = kind then
      match failure.after with
      | 0 => (some failure.error, rest)
      | after + 1 => (none, { failure with after } :: rest)
    else
      let (error, rest) := due kind rest
      (error, failure :: rest)

/-- A state of a store behind faults. -/
structure Faulty (σ : Type) where
  inner : σ
  pings : Nat := 0
  failures : List PlannedFailure := []
  hidden : List String := []

namespace Faulty

/-- A reply without the names that are hidden. -/
def conceal (hidden : List String) : (request : Request) → Answer request → Answer request
  | .listCollections, answer => answer.map (List.filter (!hidden.contains ·))
  | _, answer => answer

/-- The answer of a store behind faults. -/
def answer (store : Store σ) (state : Faulty σ) (request : Request) :
    Answer request × Faulty σ :=
  let pings := if request.kind = .ping then state.pings + 1 else state.pings
  match PlannedFailure.due request.kind state.failures with
  | (some error, failures) => (.error error, { state with pings, failures })
  | (none, failures) =>
    let answered := store.answer state.inner request
    (conceal state.hidden request answered.1,
      { state with inner := answered.2, pings, failures })

/-- A store behind faults as a store. -/
def asStore (store : Store σ) : Store (Faulty σ) where
  database state := store.database state.inner
  answer := answer store

end Faulty

end SchemaBootstrap
