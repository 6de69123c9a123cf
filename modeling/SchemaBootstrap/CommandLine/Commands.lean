import SchemaBootstrap.Bootstrap.Bootstrapper
import SchemaBootstrap.Bootstrap.Readiness
import SchemaBootstrap.CommandLine.Failure
import SchemaBootstrap.CommandLine.Output

/-! # Commands

The work of each command as a program over the store: the initialization plans or
applies the schema, the verification compares the store with it.
-/

namespace SchemaBootstrap

namespace CommandFailure

/-- The failure of a bootstrap in a context. -/
def ofBootstrap (context : String) (error : BootstrapError) : CommandFailure :=
  (ofCause error.message).within context

end CommandFailure

namespace Bootstrapper

/-- Plans the definition on a dry run, and applies it otherwise. -/
def planOrApply (bootstrapper : Bootstrapper) (dryRun : Bool) :
    Program CommandFailure CommandOutput :=
  if dryRun then do
    let plan ← bootstrapper.plan.mapError (.ofBootstrap "Failed to inspect database")
    pure (.plan plan)
  else do
    let report ← bootstrapper.apply.mapError (.ofBootstrap "Failed to bootstrap schema")
    pure (.report report)

/-- Compares the store with the definition. -/
def inspect (bootstrapper : Bootstrapper) : Program CommandFailure Verification :=
  bootstrapper.verify.mapError (.ofBootstrap "Failed to inspect database")

end Bootstrapper

/-- A comparison that finds a difference fails the command, which has told it. -/
def Verification.exitFailure? (verification : Verification) : Option CommandFailure :=
  if verification.isSatisfied then none
  else
    some (.alreadyReported
      ("schema verification failed for database '" ++ verification.database ++ "'"))

/-- Waits for the store if it is to be waited for, with a number of retries. -/
def awaitStore (wait : Bool) (retries : Nat) : Program CommandFailure Unit :=
  if wait then
    (waitUntilReady retries).mapError fun error =>
      (CommandFailure.ofCause error.message).within "MongoDB did not become reachable"
  else pure ()

end SchemaBootstrap
