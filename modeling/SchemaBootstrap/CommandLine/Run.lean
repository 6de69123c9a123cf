import SchemaBootstrap.CommandLine.Arguments
import SchemaBootstrap.CommandLine.Commands
import SchemaBootstrap.CommandLine.Usage
import SchemaBootstrap.Config.Loading
import SchemaBootstrap.Config.Logging

/-! # Runs of the program

A run loads the settings, sets up the log and executes one command, at a store if the
command needs one (`Invocation.run`, and `Surroundings.run` from the arguments on). It
ends with an outcome: what it prints as its result, and why it fails. With the option
for JSON everything that a run prints is JSON documents (`RunOutcome.documents`);
without it, the failure is one line that does not belong to the output. Only a log file that
cannot be opened leaves a run without an outcome: the program breaks off and prints nothing.
-/

namespace SchemaBootstrap

/-- The words for a file that does not hold a layer. -/
def unreadableLayer : String :=
  "a file does not hold a mapping"

namespace CommandFailure

/-- The failure to load the settings. -/
def ofLoading (error : LoadError) : CommandFailure :=
  let failure := match error with
    | .missingFile path => ofCause ("config file " ++ path ++ " not found")
    | .unreadable context => (ofCause unreadableLayer).within context
    | .unfit context fault origin =>
      (ofCause (fault.message .setting ++ origin.description fault.path)).within context
    | .invalid error => ofCause error.message
  failure.within "Failed to load configuration"

/-- The failure to set up the log or to open it. -/
def ofLogging (fault : LogFault) : CommandFailure :=
  let failure := match fault with
    | .closed detail => (ofCause detail).within fault.message
    | _ => ofCause fault.message
  failure.within "Failed to initialize logging"

/-- The failure to make a client for a server. -/
def ofConnecting (error : StoreError) : CommandFailure :=
  (ofCause error.message).within "Failed to create MongoDB client"

end CommandFailure

/-- How a run ends: with the result that it prints, and with a failure unless all is well. -/
structure RunOutcome where
  output : Option CommandOutput
  failure : Option CommandFailure

namespace RunOutcome

/-- A run that ends before it has a result. -/
def failed (failure : CommandFailure) : RunOutcome where
  output := none
  failure := some failure

/-- The exit code of a run. -/
def exitCode (outcome : RunOutcome) : Nat :=
  if outcome.failure.isSome then 1 else 0

/-- The JSON documents that a run prints. -/
def documents (stamp : RunStamp) (outcome : RunOutcome) : List Json :=
  (outcome.output.map (CommandOutput.toJson stamp)).toList
    ++ (outcome.failure.bind CommandFailure.json?).toList

/-- What a run prints, each part ended by a line feed. -/
def printed (json : Bool) (palette : Palette) (stamp : RunStamp) (outcome : RunOutcome) : String :=
  let parts :=
    if json then (outcome.documents stamp).map Json.pretty
    else (outcome.output.map (CommandOutput.human palette)).toList
  String.join (parts.map (· ++ "\n"))

/-- The line that reports the failure of a run to people. -/
def errorLine? (json : Bool) (palette : Palette) (outcome : RunOutcome) : Option String :=
  if json then none else outcome.failure.map (CommandFailure.line palette)

end RunOutcome

/-- The failure of a command whose result is not what it should be. -/
def CommandOutput.failure? : CommandOutput → Option CommandFailure
  | .verification result => result.exitFailure?
  | _ => none

/-- The outcome of a command with a result or an error. -/
def RunOutcome.ofResult : Except CommandFailure CommandOutput → RunOutcome
  | .ok output => ⟨some output, output.failure?⟩
  | .error failure => .failed failure

/-- The definition that is checked and created with settings. -/
def Settings.definition (settings : Settings) : SchemaDefinition :=
  SchemaDefinition.testbench.withDatabase settings.server.database

/-- Waits for a store if that is wanted, with a number of retries, and does some work on the
definition there. -/
def Settings.atStore (settings : Settings) (database : String) (wait : Bool) (retries : Nat)
    (work : Bootstrapper → Program CommandFailure CommandOutput) :
    Program CommandFailure CommandOutput := do
  awaitStore wait retries
  match Bootstrapper.create database settings.definition with
  | .error error => .fail (.ofCause error.message)
  | .ok bootstrapper => work bootstrapper

/-- Makes a client with settings: a store, or the reason why there is none. -/
abbrev Connector (σ : Type) : Type :=
  ServerSettings → Except StoreError (Store σ)

namespace Connector

/-- Runs a program at the store that settings lead to. -/
def execute (connect : Connector σ) (settings : Settings)
    (program : (database : String) → Program CommandFailure CommandOutput) (state : σ) :
    Except CommandFailure CommandOutput × σ :=
  match connect settings.server with
  | .error error => (.error (.ofConnecting error), state)
  | .ok store => (program (store.database state)).run store state

end Connector

namespace Command

/-- Executes a command with settings, with a number of retries if it waits. -/
def execute (connect : Connector σ) (retries : Nat) (settings : Settings) (state : σ) :
    Command → Except CommandFailure CommandOutput × σ
  | .schema =>
    match settings.definition.validate with
    | .ok () => (.ok (.schema settings.definition), state)
    | .error violation => (.error (.ofCause violation.message), state)
  | .init dryRun noWait =>
    connect.execute settings
      (fun database =>
        settings.atStore database (!noWait) retries fun bootstrapper =>
          bootstrapper.planOrApply dryRun)
      state
  | .verify noWait =>
    connect.execute settings
      (fun database =>
        settings.atStore database (!noWait) retries fun bootstrapper => do
          let verification ← bootstrapper.inspect
          pure (.verification verification))
      state

end Command

/-- What surrounds a run: the files, the environment variables, the servers, the place of the
log, and how many retries a wait is granted. -/
structure Surroundings (σ : Type) where
  files : FileView
  environment : List Variable
  connect : Connector σ
  openLog : LogOpener := { keeps := files.keepsLog, install := fun _ _ _ => .ok () }
  /-- How often a wait with settings may try again, which depends on chance and on the clock. -/
  grant : RetrySettings → Nat := RetrySettings.retries

namespace Invocation

/-- Runs what the arguments ask for. A run that the log breaks off has no outcome. -/
def run (invocation : Invocation) (surroundings : Surroundings σ) (state : σ) :
    Option RunOutcome × σ :=
  match Settings.load surroundings.files surroundings.environment invocation.config with
  | .error error => (some (.failed (.ofLoading error)), state)
  | .ok settings =>
    match settings.logging.openWith surroundings.openLog with
    | .broken => (none, state)
    | .refused fault => (some (.failed (.ofLogging fault)), state)
    | .opened =>
      let (result, state) := invocation.command.execute surroundings.connect
        (surroundings.grant settings.retry) settings state
      (some (.ofResult result), state)

end Invocation

/-- How a run of the program ends. -/
inductive RunResult where
  /-- The arguments do not ask for a command. -/
  | refused (error : UsageError)
  /-- The log file cannot be opened. -/
  | broken
  /-- A command has been run, and prints JSON or not. -/
  | finished (json : Bool) (outcome : RunOutcome)

namespace RunResult

/-- The exit code of a program that breaks off. One that is built to abort at once is ended by a
signal instead. -/
def brokenExitCode : Nat :=
  101

/-- The exit code of the program. -/
def exitCode : RunResult → Nat
  | refused error => error.exitCode
  | broken => brokenExitCode
  | finished _ outcome => outcome.exitCode

/-- What the program prints as its output. -/
def printed (palette : Palette) (stamp : RunStamp) : RunResult → String
  | refused error => error.output
  | broken => ""
  | finished json outcome => outcome.printed json palette stamp

/-- The lines that report a failure to people. A program that breaks off says so in words of its
own, which do not belong to the report of a command. -/
def errorLines (palette : Palette) : RunResult → List String
  | refused error => error.report
  | broken => []
  | finished json outcome => (outcome.errorLine? json palette).toList

end RunResult

namespace Surroundings

/-- The value of the variable that names an extra file. -/
def extraFile? (surroundings : Surroundings σ) : Option String :=
  Variable.value? Invocation.configVariable surroundings.environment

/-- Runs the program with arguments. -/
def run (surroundings : Surroundings σ) (arguments : List String) (state : σ) : RunResult × σ :=
  match Invocation.parse surroundings.extraFile? arguments with
  | .error error => (.refused error, state)
  | .ok invocation =>
    match invocation.run surroundings state with
    | (none, state) => (.broken, state)
    | (some outcome, state) => (.finished invocation.json outcome, state)

end Surroundings

end SchemaBootstrap
