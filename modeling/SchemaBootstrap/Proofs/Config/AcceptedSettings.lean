import SchemaBootstrap.CommandLine.Run
import SchemaBootstrap.Proofs.Schema.Validity

/-! # Accepted settings and the definition they lead to

Settings are accepted under a condition on each of them
(`ServerSettings.validate_eq_ok_iff`). The definition that is created with settings can be
refused for the name of its database only (`Settings.violation?_definition`), and the two
checks of this name differ: settings want one that is not empty and has no space in it, a
definition one that is not blank. So the accepted settings that do not lead to an accepted
definition are those with a name of other blank characters, such as a tab
(`Settings.accepted_unless_blank`).
-/

namespace SchemaBootstrap

/-- A demand is met if its condition holds. -/
theorem demand_eq_ok_iff {ε : Type} (condition : Bool) (error : ε) :
    demand condition error = .ok () ↔ condition = true := by
  cases condition <;> simp [demand]

/-- Two checks accept what both of them accept. -/
theorem bind_eq_ok_iff {ε : Type} (first : Except ε Unit) (second : Unit → Except ε Unit) :
    (first >>= second) = .ok () ↔ first = .ok () ∧ second () = .ok () := by
  cases first with
  | error error =>
      change Except.error error = Except.ok () ↔ _
      simp only [reduceCtorEq, false_and]
  | ok value =>
      change second value = .ok () ↔ _
      simp only [true_and]

/-- The settings of a server are accepted with a known scheme, a database of permitted characters,
and timeouts above zero. -/
theorem ServerSettings.validate_eq_ok_iff (settings : ServerSettings) :
    settings.validate = .ok () ↔
      Text.allBlank settings.uri = false ∧
      (∃ scheme ∈ schemes, Text.startsWith settings.uri scheme = true) ∧
      settings.database ≠ "" ∧ (∀ c ∈ settings.database.toList, isForbidden c = false) ∧
      settings.connectTimeout ≠ 0 ∧ settings.selectionTimeout ≠ 0 := by
  simp only [validate, bind_eq_ok_iff, demand_eq_ok_iff, Bool.not_eq_true', bne_iff_ne, ne_eq,
    List.any_eq_true, List.any_eq_false, Bool.not_eq_true, String.isEmpty_eq_false_iff]

namespace Settings

/-- Settings are accepted part by part. -/
theorem validate_eq_ok_iff (settings : Settings) :
    settings.validate = .ok () ↔
      settings.server.validate = .ok () ∧ settings.retry.validate = .ok () ∧
        settings.logging.validate = .ok () := by
  simp only [validate, bind_eq_ok_iff]

/-- The collections of the definition are as they should be. -/
theorem violation?_definition (settings : Settings) :
    settings.definition.violation? =
      if Text.allBlank settings.server.database then some .emptyDatabaseName else none := by
  have collections : SchemaDefinition.collectionViolation? []
      SchemaDefinition.testbench.collections = none := by decide +kernel
  rw [SchemaDefinition.violation?]
  change (if Text.allBlank settings.server.database = true then _ else
    SchemaDefinition.collectionViolation? [] SchemaDefinition.testbench.collections) = _
  rw [collections]

variable {settings : Settings}

/-- A database name of blank characters makes the definition invalid. -/
theorem validate_definition_of_blank (blank : Text.allBlank settings.server.database = true) :
    settings.definition.validate = .error .emptyDatabaseName := by
  rw [SchemaDefinition.validate, violation?_definition, if_pos blank]

/-- The name of the database is all that can be wrong with the definition. -/
theorem validate_definition (named : Text.allBlank settings.server.database = false) :
    settings.definition.validate = .ok () := by
  rw [SchemaDefinition.validate, violation?_definition, named, if_neg Bool.false_ne_true]

/-- No bootstrapper is made for a blank database name. -/
theorem create_of_blank (blank : Text.allBlank settings.server.database = true)
    (database : String) :
    Bootstrapper.create database settings.definition =
      .error (.invalidSchema .emptyDatabaseName) := by
  have violation := settings.violation?_definition
  rw [if_pos blank] at violation
  unfold Bootstrapper.create
  split
  · next found => rw [violation, Option.some.injEq] at found; rw [found]
  · next found => rw [violation] at found; cases found

/-- The bootstrapper with settings, at a store for their database. -/
theorem create_definition (named : Text.allBlank settings.server.database = false) :
    ∃ bootstrapper : Bootstrapper, bootstrapper.definition = settings.definition ∧
      Bootstrapper.create settings.server.database settings.definition = .ok bootstrapper := by
  have valid := settings.violation?_definition
  rw [named, if_neg Bool.false_ne_true] at valid
  refine ⟨⟨settings.definition, valid⟩, rfl, ?_⟩
  unfold Bootstrapper.create
  split
  · next found => rw [valid] at found; cases found
  · exact if_pos rfl

/-- With a bootstrapper, what is done at a store is the wait and then the work. -/
theorem atStore_of_create {database : String} {bootstrapper : Bootstrapper}
    (created : Bootstrapper.create database settings.definition = .ok bootstrapper) (wait : Bool)
    (retries : Nat) (work : Bootstrapper → Program CommandFailure CommandOutput) :
    settings.atStore database wait retries work =
      awaitStore wait retries >>= fun _ => work bootstrapper := by
  rw [atStore, created]

/-- The schema is printed if the definition is valid, without any store. -/
theorem execute_schema {σ : Type}
    (valid : settings.definition.validate = .ok ()) (connect : Connector σ) (retries : Nat)
    (state : σ) :
    Command.schema.execute connect retries settings state =
      (.ok (.schema settings.definition), state) := by
  rw [Command.execute, valid]

/-- **Accepted settings lead to an accepted definition** unless the name of their database
is blank, and then every command gets to its work with this definition. Where the name is
blank, which it can only be by characters other than the space, the definition is refused
wherever it is checked. -/
theorem accepted_unless_blank (settings : Settings) (accepted : settings.validate = .ok ()) :
    (settings.definition.validate = .ok () ↔ Text.allBlank settings.server.database = false) ∧
    (Text.allBlank settings.server.database = false →
      (∃ bootstrapper : Bootstrapper, bootstrapper.definition = settings.definition ∧
        Bootstrapper.create settings.server.database settings.definition = .ok bootstrapper ∧
        ∀ wait retries work, settings.atStore settings.server.database wait retries work =
          awaitStore wait retries >>= fun _ => work bootstrapper) ∧
      ∀ (σ : Type) (connect : Connector σ) (retries : Nat) (state : σ),
        Command.schema.execute connect retries settings state =
          (.ok (.schema settings.definition), state)) ∧
    (Text.allBlank settings.server.database = true →
      settings.server.database ≠ "" ∧ ' ' ∉ settings.server.database.toList ∧
      settings.definition.validate = .error .emptyDatabaseName ∧
      ∀ database, Bootstrapper.create database settings.definition =
        .error (.invalidSchema .emptyDatabaseName)) := by
  refine ⟨⟨fun valid => ?_, validate_definition⟩, fun named => ⟨?_, ?_⟩, fun blank => ?_⟩
  · cases blank : Text.allBlank settings.server.database with
    | false => rfl
    | true =>
        rw [validate_definition_of_blank blank] at valid
        cases valid
  · obtain ⟨bootstrapper, same, created⟩ := create_definition named
    exact ⟨bootstrapper, same, created, atStore_of_create created⟩
  · intro σ connect retries state
    exact execute_schema (validate_definition named) connect retries state
  · have server := (validate_eq_ok_iff settings).mp accepted |>.1
    obtain ⟨-, -, nonempty, allowed, -⟩ := (settings.server.validate_eq_ok_iff).mp server
    refine ⟨nonempty, fun space => ?_, validate_definition_of_blank blank, create_of_blank blank⟩
    have forbidden := allowed ' ' space
    revert forbidden
    decide

/-- The defaults are accepted and lead to an accepted definition. -/
theorem accepted_unless_blank_defaults :
    (({} : Settings).validate = .ok ()) ∧ ({} : Settings).definition.validate = .ok () := by
  have accepted : ({} : Settings).validate = .ok () := by rfl
  refine ⟨accepted, (accepted_unless_blank {} accepted).1.mpr ?_⟩
  decide +kernel

/-- A tab is accepted as the name of a database by the settings, and not by the schema. -/
theorem tab_accepted_in_settings_only :
    ¬ ∀ settings : Settings, settings.validate = .ok () →
      settings.definition.validate = .ok () := by
  intro always
  have accepted : ({ server := { database := "\t" } } : Settings).validate = .ok () := by rfl
  have valid := always _ accepted
  rw [validate_definition_of_blank (by decide +kernel)] at valid
  cases valid

end Settings

end SchemaBootstrap
