import SchemaBootstrap.Bootstrap.Plan
import SchemaBootstrap.Bootstrap.Verify

/-! # Bootstrappers

A bootstrapper holds a valid definition for the database that a store is bound to.
It plans, applies and verifies the definition.
-/

namespace SchemaBootstrap

/-- Why a bootstrap fails. -/
inductive BootstrapError where
  | invalidSchema (violation : SchemaViolation)
  | databaseMismatch (expected actual : String)
  | store (error : StoreError)
  deriving DecidableEq, Repr

/-- The text of an error. -/
def BootstrapError.message : BootstrapError → String
  | invalidSchema violation => "Invalid schema definition: " ++ violation.message
  | databaseMismatch expected actual =>
    "Schema targets database '" ++ expected ++ "' but the store is bound to '" ++ actual ++ "'"
  | store error => error.message

/-- A valid definition. -/
structure Bootstrapper where
  definition : SchemaDefinition
  valid : definition.violation? = none

namespace Bootstrapper

/-- The bootstrapper of a definition for a store bound to a database. -/
def create (database : String) (definition : SchemaDefinition) :
    Except BootstrapError Bootstrapper :=
  match found : definition.violation? with
  | some violation => .error (.invalidSchema violation)
  | none =>
    if database = definition.database then .ok ⟨definition, found⟩
    else .error (.databaseMismatch definition.database database)

/-- What would have to be done. -/
def plan (bootstrapper : Bootstrapper) : Program BootstrapError BootstrapPlan :=
  bootstrapper.definition.plan.mapError .store

/-- Creates what is missing. -/
def apply (bootstrapper : Bootstrapper) : Program BootstrapError BootstrapReport :=
  bootstrapper.definition.apply.mapError .store

/-- Compares the store with the definition. -/
def verify (bootstrapper : Bootstrapper) : Program BootstrapError Verification :=
  bootstrapper.definition.verify.mapError .store

end Bootstrapper

end SchemaBootstrap
