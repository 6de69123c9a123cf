import SchemaBootstrap.Config.FileTree
import SchemaBootstrap.Proofs.CommandLine.ReadableDocuments
import SchemaBootstrap.Proofs.Config.LogNames
import SchemaBootstrap.Proofs.Store.ProgramRun

/-! # The document that a run prints

With the option for JSON a run prints one document, which is read back from its output, unless
its log is to have a directory in which no file can be opened: then it prints nothing
(`Surroundings.run_prints_one_document`). A run that ends before it has a result prints its
failure, which then has not been reported: no step of a command reports one, whatever the
store answers (`Program.FailsAs`). A run with a result prints the result, and where the
result makes it fail, the failure has been reported by the result and stays so in any
contexts (`CommandFailure.withinAll`).
-/

namespace SchemaBootstrap

namespace CommandFailure

/-- A failure put into contexts, the first of them outermost. -/
def withinAll (contexts : List String) (failure : CommandFailure) : CommandFailure :=
  contexts.foldr within failure

/-- A context does not change whether a failure has been told. -/
@[simp]
theorem reported_withinAll (contexts : List String) (failure : CommandFailure) :
    (failure.withinAll contexts).reported = failure.reported := by
  induction contexts with
  | nil => rfl
  | cons context rest ih => exact ih

/-- The document for a failure that has not been reported. -/
def document (failure : CommandFailure) : Json :=
  .object [("success", .bool false), ("error", .string failure.fullMessage)]

/-- A failure that has been told has no document of its own. -/
theorem json?_of_reported {failure : CommandFailure} (reported : failure.reported = true) :
    failure.json? = none :=
  if_pos reported

/-- A failure that has not been told has a document. -/
theorem json?_of_unreported {failure : CommandFailure} (unreported : failure.reported = false) :
    failure.json? = some failure.document :=
  if_neg (Bool.eq_false_iff.mp unreported)

/-- A failure that the output has not told. -/
def Unreported (failure : CommandFailure) : Prop :=
  failure.reported = false

theorem unreported_ofCause (cause : String) : (ofCause cause).Unreported :=
  rfl

theorem unreported_ofLoading (error : LoadError) : (ofLoading error).Unreported := by
  cases error <;> rfl

theorem unreported_ofLogging (fault : LogFault) : (ofLogging fault).Unreported := by
  cases fault <;> rfl

end CommandFailure

open CommandFailure (Unreported)

namespace Program

/-- Whatever it is answered, a program that fails does so with an error of some kind. -/
def FailsAs (kind : ε → Prop) : Program ε α → Prop
  | .done (.ok _) => True
  | .done (.error error) => kind error
  | .call _ next => ∀ answer, (next answer).FailsAs kind

variable {kind : ε → Prop}

theorem failsAs_pure (value : α) : (pure value : Program ε α).FailsAs kind :=
  trivial

theorem failsAs_fail {error : ε} (holds : kind error) :
    (fail error : Program ε α).FailsAs kind :=
  holds

/-- Of two programs, one after the other, any failure is one of the two. -/
theorem FailsAs.bind {program : Program ε α} {next : α → Program ε β}
    (first : program.FailsAs kind) (second : ∀ value, (next value).FailsAs kind) :
    (program >>= next).FailsAs kind := by
  change (program.bind next).FailsAs kind
  induction program with
  | done result =>
      cases result with
      | ok value => exact second value
      | error error => exact first
  | call request rest ih => exact fun answer => ih answer (first answer)

/-- Replaced errors are what they are replaced by. -/
theorem failsAs_mapError (program : Program ε' α) {convert : ε' → ε}
    (converted : ∀ error, kind (convert error)) :
    (program.mapError convert).FailsAs kind := by
  induction program with
  | done result =>
      cases result with
      | ok value => trivial
      | error error => exact converted error
  | call request next ih => exact ih

/-- What a program fails with before any store is a failure of its kind. -/
theorem FailsAs.of_run {program : Program ε α} (fails : program.FailsAs kind)
    {store : Store σ} {state : σ} {error : ε}
    (failed : (program.run store state).1 = .error error) : kind error := by
  induction program generalizing state with
  | done result =>
      cases failed
      exact fails
  | call request next ih => exact ih _ (fails _) failed

end Program

section Commands

/-! No command fails with a failure that has been reported. -/

theorem unreported_ofBootstrap (context : String) (error : BootstrapError) :
    (CommandFailure.ofBootstrap context error).Unreported :=
  rfl

/-- No failure to wait for a store has been told. -/
theorem awaitStore_failsAs (wait : Bool) (retries : Nat) :
    (awaitStore wait retries).FailsAs Unreported := by
  unfold awaitStore
  split
  · exact Program.failsAs_mapError _ fun _ => rfl
  · exact Program.failsAs_pure ()

/-- No failure of a plan or a run has been told. -/
theorem Bootstrapper.planOrApply_failsAs (bootstrapper : Bootstrapper) (dryRun : Bool) :
    (bootstrapper.planOrApply dryRun).FailsAs Unreported := by
  unfold planOrApply
  split
  · exact (Program.failsAs_mapError _ (unreported_ofBootstrap _)).bind
      fun plan => Program.failsAs_pure (CommandOutput.plan plan)
  · exact (Program.failsAs_mapError _ (unreported_ofBootstrap _)).bind
      fun report => Program.failsAs_pure (CommandOutput.report report)

/-- No failure to inspect a store has been told. -/
theorem Bootstrapper.inspect_failsAs (bootstrapper : Bootstrapper) :
    bootstrapper.inspect.FailsAs Unreported :=
  Program.failsAs_mapError _ (unreported_ofBootstrap _)

/-- No failure at a store has been told, if none of the work there has. -/
theorem Settings.atStore_failsAs (settings : Settings) (database : String) (wait : Bool)
    (retries : Nat) {work : Bootstrapper → Program CommandFailure CommandOutput}
    (fails : ∀ bootstrapper, (work bootstrapper).FailsAs Unreported) :
    (settings.atStore database wait retries work).FailsAs Unreported := by
  refine (awaitStore_failsAs wait retries).bind fun _ => ?_
  cases Bootstrapper.create database settings.definition with
  | error error => exact Program.failsAs_fail (CommandFailure.unreported_ofCause _)
  | ok bootstrapper => exact fails bootstrapper

variable {connect : Connector σ} {settings : Settings} {state : σ} {failure : CommandFailure}

/-- No failure to reach a store has been told either. -/
theorem Connector.unreported_of_execute
    {program : String → Program CommandFailure CommandOutput}
    (fails : ∀ database, (program database).FailsAs Unreported)
    (failed : (connect.execute settings program state).1 = .error failure) :
    failure.Unreported := by
  unfold Connector.execute at failed
  cases connected : connect settings.server with
  | error error =>
      rw [connected] at failed
      cases failed
      rfl
  | ok store =>
      rw [connected] at failed
      exact (fails _).of_run failed

/-- A command that ends with an error has not told it. -/
theorem Command.unreported_of_execute {command : Command} {retries : Nat}
    (failed : (command.execute connect retries settings state).1 = .error failure) :
    failure.Unreported := by
  cases command with
  | schema =>
      unfold Command.execute at failed
      cases valid : settings.definition.validate with
      | ok value => rw [valid] at failed; cases failed
      | error violation => rw [valid] at failed; cases failed; rfl
  | init dryRun noWait =>
      refine Connector.unreported_of_execute (fun database => ?_) failed
      exact settings.atStore_failsAs database _ _ fun bootstrapper =>
        bootstrapper.planOrApply_failsAs dryRun
  | verify noWait =>
      refine Connector.unreported_of_execute (fun database => ?_) failed
      refine settings.atStore_failsAs database _ _ fun bootstrapper => ?_
      exact bootstrapper.inspect_failsAs.bind fun _ => Program.failsAs_pure _

end Commands

/-- What the document of a result says of success: nothing for a plan and for a schema. -/
theorem CommandOutput.success_eq_false_iff (stamp : RunStamp) (output : CommandOutput) :
    (output.toJson stamp).member? "success" = some (.bool false) ↔ output.failure?.isSome := by
  cases output with
  | plan result => simp [toJson, BootstrapPlan.members, Json.member?, failure?, Catalog.lookup_cons]
  | report result => simp [toJson, BootstrapReport.members, Json.member?, failure?]
  | schema definition =>
      simp [toJson, SchemaDefinition.toJson, Json.member?, failure?, Catalog.lookup_cons]
  | verification result =>
      cases satisfied : result.isSatisfied <;>
        simp [toJson, Verification.members, Json.member?, failure?,
          Verification.exitFailure?, satisfied]

/-- The failure that a result brings is told by the result. -/
theorem CommandOutput.reported_of_failure? {output : CommandOutput} {failure : CommandFailure}
    (fails : output.failure? = some failure) : failure.reported = true := by
  cases output with
  | verification result =>
      change result.exitFailure? = some failure at fails
      unfold Verification.exitFailure? at fails
      split at fails
      · cases fails
      · rw [← Option.some.inj fails]
        rfl
  | plan result => cases fails
  | report result => cases fails
  | schema definition => cases fails

namespace RunOutcome

/-- A document is all that a run prints as JSON, and tells how the run has ended. -/
structure ToldBy (stamp : RunStamp) (outcome : RunOutcome) (document : Json) : Prop where
  alone : outcome.documents stamp = [document]
  failed : outcome.exitCode = 1 ↔ document.member? "success" = some (.bool false)
  succeeded : outcome.exitCode = 0 ↔ document.member? "success" ≠ some (.bool false)

/-- A run with its failure put into contexts. -/
def within (contexts : List String) (outcome : RunOutcome) : RunOutcome :=
  { outcome with failure := outcome.failure.map (CommandFailure.withinAll contexts) }

theorem exitCode_eq_one_iff (outcome : RunOutcome) :
    outcome.exitCode = 1 ↔ outcome.failure.isSome := by
  unfold exitCode
  cases outcome.failure <;> simp

theorem exitCode_eq_zero_iff (outcome : RunOutcome) :
    outcome.exitCode = 0 ↔ ¬ outcome.failure.isSome := by
  unfold exitCode
  cases outcome.failure <;> simp

variable {outcome : RunOutcome} {document : Json}

/-- A single document tells an outcome if its flag says whether there is a failure. -/
theorem ToldBy.of_isSome (stamp : RunStamp) (alone : outcome.documents stamp = [document])
    (flag : document.member? "success" = some (.bool false) ↔ outcome.failure.isSome) :
    outcome.ToldBy stamp document where
  alone := alone
  failed := outcome.exitCode_eq_one_iff.trans flag.symm
  succeeded := outcome.exitCode_eq_zero_iff.trans (not_congr flag).symm

/-- A failure that has not been told is told by its own document. -/
theorem failed_toldBy (stamp : RunStamp) {failure : CommandFailure}
    (unreported : failure.Unreported) : (failed failure).ToldBy stamp failure.document := by
  refine .of_isSome stamp ?_ ⟨fun _ => rfl, fun _ => rfl⟩
  change [] ++ failure.json?.toList = [failure.document]
  rw [CommandFailure.json?_of_unreported unreported]
  rfl

/-- A result is told by its own document, whatever failure it brings. -/
theorem output_toldBy (stamp : RunStamp) (output : CommandOutput) (contexts : List String) :
    (within contexts ⟨some output, output.failure?⟩).ToldBy stamp (output.toJson stamp) := by
  -- A result that makes the run fail has reported the failure, in whatever contexts.
  have silent :
      (output.failure?.map (CommandFailure.withinAll contexts)).bind CommandFailure.json? =
        none := by
    cases fails : output.failure? with
    | none => rfl
    | some failure =>
        refine CommandFailure.json?_of_reported ?_
        rw [CommandFailure.reported_withinAll]
        exact CommandOutput.reported_of_failure? fails
  refine .of_isSome stamp ?_ ?_
  · change [output.toJson stamp] ++ Option.toList (Option.bind (Option.map _ _) _) = _
    rw [silent]
    rfl
  · rw [CommandOutput.success_eq_false_iff]
    change _ ↔ (output.failure?.map _).isSome
    rw [Option.isSome_map]

theorem within_nil (outcome : RunOutcome) : outcome.within [] = outcome := by
  cases outcome with
  | mk output failure => cases failure <;> rfl

/-- A single document is printed alone, with a line feed behind it. -/
theorem printed_of_alone {stamp : RunStamp} (palette : Palette)
    (alone : outcome.documents stamp = [document]) :
    outcome.printed true palette stamp = document.pretty ++ "\n" := by
  unfold printed
  rw [if_pos rfl, alone]
  simp [String.join]

end RunOutcome

/-- The document of a failure is read back as it is. -/
theorem CommandFailure.exact_document (failure : CommandFailure) : failure.document.Exact := by
  simp [document, Json.Exact, Json.ExactMembers]

/-- The only document of a run is that of a failure or that of its result. -/
theorem RunOutcome.exists_document {stamp : RunStamp} {outcome : RunOutcome} {document : Json}
    (alone : outcome.documents stamp = [document]) :
    (∃ failure : CommandFailure, document = failure.document) ∨
      ∃ output : CommandOutput, document = output.toJson stamp := by
  unfold documents at alone
  cases ended : outcome.output with
  | some output =>
      rw [ended] at alone
      exact .inr ⟨output, (List.cons.inj alone).1.symm⟩
  | none =>
      rw [ended] at alone
      cases failed : outcome.failure with
      | none => rw [failed] at alone; cases alone
      | some failure =>
          rw [failed] at alone
          cases reported : failure.reported with
          | true =>
              have silent := CommandFailure.json?_of_reported reported
              rw [Option.bind_some, silent] at alone
              cases alone
          | false =>
              have told := CommandFailure.json?_of_unreported reported
              rw [Option.bind_some, told] at alone
              exact .inl ⟨failure, (List.cons.inj alone).1.symm⟩

/-- A run of the program has printed one document, which tells how it has ended: what it has
printed is read as one value, which says `false` of its success exactly if the exit code is one.
Otherwise the exit code is zero. -/
structure RunResult.Prints (result : RunResult) (palette : Palette) (stamp : RunStamp)
    (document : Json) : Prop where
  printed : result.printed palette stamp = document.pretty ++ "\n"
  read : Json.read? (result.printed palette stamp) = some document.reread
  failed : result.exitCode = 1 ↔ document.reread.member? "success" = some (.bool false)
  succeeded : result.exitCode = 0 ↔ document.reread.member? "success" ≠ some (.bool false)

/-- What a run has told in one document is read back from what it has printed. -/
theorem RunOutcome.ToldBy.prints {stamp : RunStamp} {outcome : RunOutcome} {document : Json}
    (told : outcome.ToldBy stamp document) (palette : Palette) :
    (RunResult.finished true outcome).Prints palette stamp document := by
  have text : (RunResult.finished true outcome).printed palette stamp = document.pretty ++ "\n" :=
    RunOutcome.printed_of_alone palette told.alone
  have facts : document.Fits ∧ document.reread.member? "success" = document.member? "success" := by
    obtain ⟨failure, rfl⟩ | ⟨output, rfl⟩ := RunOutcome.exists_document told.alone
    · have exact := failure.exact_document
      exact ⟨Json.fits_of_exact _ exact, by rw [Json.reread_of_exact _ exact]⟩
    · exact ⟨output.fits_toJson stamp, output.success_reread stamp⟩
  obtain ⟨fits, success⟩ := facts
  refine ⟨text, ?_, ?_, ?_⟩
  · rw [text]
    exact Json.read?_pretty fits
  · rw [success]
    exact told.failed
  · rw [success]
    exact told.succeeded

/-- Settings that are loaded are accepted. -/
theorem Settings.validate_of_load {files : FileView} {environment : List Variable}
    {extra : Option String} {settings : Settings}
    (loaded : Settings.load files environment extra = .ok settings) :
    settings.validate = .ok () := by
  have assembled {paths : List String} {context : String}
      (loaded : assemble context (fileLayers? files paths) (Layer.ofVariables environment) =
        .ok settings) : settings.validate = .ok () := by
    unfold assemble at loaded
    split at loaded
    · cases loaded
    unfold ofLayers at loaded
    split at loaded
    · cases loaded
    split at loaded
    · cases loaded
    · next valid =>
        cases loaded
        exact valid
  unfold load at loaded
  dsimp only at loaded
  split at loaded
  · exact assembled loaded
  · split at loaded
    · exact assembled loaded
    · cases loaded

namespace Invocation

variable {invocation : Invocation} {surroundings : Surroundings σ} {state : σ}
  {settings : Settings}

/-- The log of a run is to have a directory in which no file can be opened. -/
def LosesLog (invocation : Invocation) (surroundings : Surroundings σ) : Prop :=
  ∃ settings directory,
    Settings.load surroundings.files surroundings.environment invocation.config = .ok settings ∧
      settings.logging.directory = some directory ∧ surroundings.openLog.keeps directory = false

/-- Settings that cannot be loaded end a run before it does anything. -/
theorem run_of_unloaded {error : LoadError}
    (unloaded : Settings.load surroundings.files surroundings.environment invocation.config =
      .error error) :
    invocation.run surroundings state = (some (.failed (.ofLoading error)), state) := by
  unfold run
  rw [unloaded]

/-- A log that breaks off leaves a run without an outcome. -/
theorem run_of_broken
    (loaded : Settings.load surroundings.files surroundings.environment invocation.config =
      .ok settings)
    (broken : settings.logging.openWith surroundings.openLog = .broken) :
    invocation.run surroundings state = (none, state) := by
  unfold run
  rw [loaded]
  dsimp only
  rw [broken]

/-- A log that is refused ends a run before its command. -/
theorem run_of_closed {fault : LogFault}
    (loaded : Settings.load surroundings.files surroundings.environment invocation.config =
      .ok settings)
    (closed : settings.logging.openWith surroundings.openLog = .refused fault) :
    invocation.run surroundings state = (some (.failed (.ofLogging fault)), state) := by
  unfold run
  rw [loaded]
  dsimp only
  rw [closed]

/-- With its log opened, a run ends as its command does. -/
theorem run_of_opened
    (loaded : Settings.load surroundings.files surroundings.environment invocation.config =
      .ok settings)
    (opened : settings.logging.openWith surroundings.openLog = .opened) :
    (invocation.run surroundings state).1 =
      some (.ofResult (invocation.command.execute surroundings.connect
        (surroundings.grant settings.retry) settings state).1) := by
  unfold run
  rw [loaded]
  dsimp only
  rw [opened]

/-- The log breaks a run off exactly if no file can be opened in its directory. -/
theorem losesLog_iff
    (loaded : Settings.load surroundings.files surroundings.environment invocation.config =
      .ok settings) :
    invocation.LosesLog surroundings ↔
      settings.logging.openWith surroundings.openLog = .broken := by
  have accepted :=
    ((Settings.validate_eq_ok_iff settings).mp (Settings.validate_of_load loaded)).2.2
  rw [settings.logging.openWith_eq_broken_iff accepted]
  unfold LosesLog
  constructor
  · rintro ⟨other, directory, loaded', lost⟩
    rw [loaded] at loaded'
    cases loaded'
    exact ⟨directory, lost⟩
  · rintro ⟨directory, lost⟩
    exact ⟨settings, directory, loaded, lost⟩

/-- A run that loses its log has no outcome. -/
theorem run_of_losesLog (lost : invocation.LosesLog surroundings) :
    (invocation.run surroundings state).1 = none := by
  obtain ⟨settings, directory, loaded, named⟩ := lost
  rw [run_of_broken loaded ((losesLog_iff loaded).mp ⟨settings, directory, loaded, named⟩)]

/-- A run that the log does not break off either fails without a result, and has not reported it,
or has a result. -/
theorem run_ends (kept : ¬ invocation.LosesLog surroundings) (state : σ) :
    (∃ failure : CommandFailure, failure.Unreported ∧
      (invocation.run surroundings state).1 = some (.failed failure)) ∨
    ∃ output : CommandOutput,
      (invocation.run surroundings state).1 = some ⟨some output, output.failure?⟩ := by
  cases loaded : Settings.load surroundings.files surroundings.environment invocation.config with
  | error error =>
      rw [run_of_unloaded loaded]
      exact .inl ⟨_, CommandFailure.unreported_ofLoading error, rfl⟩
  | ok settings =>
      cases opened : settings.logging.openWith surroundings.openLog with
      | broken => exact absurd ((losesLog_iff loaded).mpr opened) kept
      | refused fault =>
          rw [run_of_closed loaded opened]
          exact .inl ⟨_, CommandFailure.unreported_ofLogging fault, rfl⟩
      | opened =>
          rw [run_of_opened loaded opened]
          cases ended : (invocation.command.execute surroundings.connect
              (surroundings.grant settings.retry) settings state).1 with
          | error failure => exact .inl ⟨failure, Command.unreported_of_execute ended, rfl⟩
          | ok output => exact .inr ⟨output, rfl⟩

/-- A run that has found out how its store differs prints that and nothing else, in
whatever contexts its failure is put. -/
theorem run_of_unsatisfied {verification : Verification} (stamp : RunStamp)
    (loaded : Settings.load surroundings.files surroundings.environment invocation.config =
      .ok settings)
    (opened : settings.logging.openWith surroundings.openLog = .opened)
    (compared : (invocation.command.execute surroundings.connect
      (surroundings.grant settings.retry) settings state).1 = .ok (.verification verification))
    (unsatisfied : verification.isSatisfied = false) :
    ∃ outcome, (invocation.run surroundings state).1 = some outcome ∧ outcome.exitCode = 1 ∧
      ∀ contexts, (outcome.within contexts).ToldBy stamp (.object verification.members) := by
  rw [run_of_opened loaded opened, compared]
  have fails : (CommandOutput.verification verification).failure?.isSome := by
    change verification.exitFailure?.isSome
    rw [Verification.exitFailure?, unsatisfied]
    rfl
  exact ⟨_, rfl, (RunOutcome.exitCode_eq_one_iff _).mpr fails,
    RunOutcome.output_toldBy stamp (.verification verification)⟩

end Invocation

namespace Surroundings

variable {surroundings : Surroundings σ} {arguments : List String} {invocation : Invocation}

/-- The outcome of an invocation is that of the program, printed as the arguments ask for. -/
theorem run_of_outcome {state : σ} {outcome : RunOutcome}
    (parsed : Invocation.parse surroundings.extraFile? arguments = .ok invocation)
    (ended : (invocation.run surroundings state).1 = some outcome) :
    (surroundings.run arguments state).1 = .finished invocation.json outcome := by
  unfold run
  rw [parsed]
  dsimp only
  split
  · next none => rw [none] at ended; cases ended
  · next same =>
      rw [same] at ended
      cases ended
      rfl

/-- An invocation without an outcome breaks off the program. -/
theorem run_of_none {state : σ}
    (parsed : Invocation.parse surroundings.extraFile? arguments = .ok invocation)
    (ended : (invocation.run surroundings state).1 = none) :
    (surroundings.run arguments state).1 = .broken := by
  unfold run
  rw [parsed]
  dsimp only
  split
  · rfl
  · next same => rw [same] at ended; cases ended

/-- Surroundings without files and variables, whose store is in memory. -/
def bare : Surroundings MemoryStore where
  files := { text? := fun _ => none, contains := fun _ => false }
  environment := []
  connect := fun _ => .ok MemoryStore.asStore

/-- The arguments of a verification that does not wait. -/
theorem parse_in_bare :
    Invocation.parse bare.extraFile? ["verify", "--no-wait", "--json"] =
      .ok ⟨.verify true, true, none⟩ := by
  rfl

/-- Without files and variables, the settings are the defaults. -/
theorem load_in_bare : Settings.load bare.files bare.environment none = .ok {} := by
  rfl

/-- An empty store does not satisfy the definition. -/
theorem exists_difference_in_bare : ∃ verification,
    ((Command.verify true).execute bare.connect (bare.grant {}) {}
      (.empty "pocket-ml-testbench" 0)).1 = .ok (.verification verification) ∧
        verification.isSatisfied = false :=
  ⟨_, rfl, by decide +kernel⟩

/-- Surroundings with one file, below which the log is to be kept. -/
def besideNotes : Surroundings MemoryStore where
  files := FileTree.view ⟨[("notes", "x")]⟩
  environment := [⟨"TESTBENCH_LOGGING__LOG_DIR", "notes/logs"⟩]
  connect := fun _ => .ok MemoryStore.asStore

/-- One variable alone sets the directory of the log. -/
theorem load_besideNotes :
    Settings.load besideNotes.files besideNotes.environment none =
      .ok { logging := { directory := some "notes/logs" } } := by
  have held : (Settings.load besideNotes.files besideNotes.environment none).toOption =
      some { logging := { directory := some "notes/logs" } } := by decide +kernel
  cases loaded : Settings.load besideNotes.files besideNotes.environment none with
  | error error => rw [loaded] at held; cases held
  | ok settings =>
      rw [loaded] at held
      exact congrArg Except.ok (Option.some.inj held)

end Surroundings

end SchemaBootstrap
