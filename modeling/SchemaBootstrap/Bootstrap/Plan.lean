import SchemaBootstrap.Bootstrap.Presence
import SchemaBootstrap.Schema.Definition
import SchemaBootstrap.Store.Program

/-! # Plans

A plan lists, in declaration order, every collection and after it its indexes, and
says of each whether it still has to be created. Making a plan asks the store for
its collections and for the indexes of those that are declared, and changes nothing.
-/

namespace SchemaBootstrap

/-- Whether a step still has to be taken. -/
inductive StepState where
  | pending
  | satisfied
  deriving DecidableEq, Repr

/-- The state of a step that is satisfied under a condition. -/
def StepState.ofSatisfied (satisfied : Bool) : StepState :=
  if satisfied then .satisfied else .pending

/-- One step of a bootstrap. -/
inductive PlannedStep where
  | collection (name : String) (state : StepState)
  | index (collection : String) (spec : IndexSpec) (state : StepState)
  deriving DecidableEq, Repr

namespace PlannedStep

/-- The state of a step. -/
def state : PlannedStep → StepState
  | collection _ state => state
  | index _ _ state => state

/-- Whether a step is still to be taken. -/
def isPending (step : PlannedStep) : Bool :=
  step.state == .pending

end PlannedStep

/-- The steps of a bootstrap, in order. -/
structure BootstrapPlan where
  database : String
  steps : List PlannedStep
  deriving DecidableEq, Repr

namespace BootstrapPlan

/-- The steps that still have to be taken. -/
def pending (plan : BootstrapPlan) : List PlannedStep :=
  plan.steps.filter PlannedStep.isPending

/-- Whether nothing has to be done. -/
def isUpToDate (plan : BootstrapPlan) : Bool :=
  plan.pending.isEmpty

end BootstrapPlan

/-- The steps for a collection, given whether it is there and its indexes. -/
def CollectionSpec.steps (declared : CollectionSpec) (there : Bool)
    (present : List ExistingIndex) : List PlannedStep :=
  .collection declared.name (.ofSatisfied there) ::
    declared.indexes.map fun spec =>
      .index declared.name spec (.ofSatisfied (IndexPresence.classify present spec).isSatisfied)

/-- The steps for declared collections, given those that the store lists. -/
def planCollections (listed : List String) :
    List CollectionSpec → Program StoreError (List PlannedStep)
  | [] => pure []
  | declared :: rest => do
    let there := listed.contains declared.name
    let present ← if there then Program.request (.listIndexes declared.name) else pure []
    let later ← planCollections listed rest
    pure (declared.steps there present ++ later)

/-- The plan for a definition. -/
def SchemaDefinition.plan (definition : SchemaDefinition) : Program StoreError BootstrapPlan := do
  let listed ← Program.request .listCollections
  let steps ← planCollections listed definition.collections
  pure ⟨definition.database, steps⟩

end SchemaBootstrap
