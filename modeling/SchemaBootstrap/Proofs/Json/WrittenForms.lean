import SchemaBootstrap.CommandLine.Output
import SchemaBootstrap.Config.Reading
import SchemaBootstrap.Proofs.Json.OmittedMembers

/-! # Written forms read back

A schema and settings are read back from their JSON forms, and where fields with defaults have
been left out of a form, what is read is the same with these fields at their defaults
(`SchemaDefinition.ofJson_without`, `Settings.read_without`). In a schema these are the uniqueness
of an index and the indexes of a collection (`SchemaDefinition.OptionalAt`); in settings all
sections and all their fields are.
-/

namespace SchemaBootstrap

open Json (Omission yields_required_without yields_defaulted_without readRecord_without
  readList_without)

/-- A written field is read back. -/
theorem IndexField.ofJson_toJson (field : IndexField) : ofJson field.toJson = .ok field := by
  obtain ⟨path, order⟩ := field
  cases order <;> rfl

/-! ## Schemas -/

theorem mapIdx_eq_self {change : Nat → α → α} (same : ∀ index value, change index value = value)
    (values : List α) : values.mapIdx change = values := by
  apply List.mapIdx_eq_iff.mpr
  intro index
  rw [funext (same index), Option.map_id']

namespace IndexSpec

/-- The places in the form of an index at which a member may be left out. -/
def OptionalAt : Json.Place → Prop
  | [.member "unique"] => True
  | _ => False

/-- An index with its uniqueness at the default if that is left out. -/
def withDefaults (spec : IndexSpec) (omission : Omission) : IndexSpec :=
  { spec with unique := omission.read "unique" false spec.unique }

/-- An index is read back with the defaults of what is left out. -/
theorem ofJson_without (spec : IndexSpec) {omission : Omission}
    (only : omission.Only OptionalAt) :
    ofJson (spec.toJson.without omission) = .ok (spec.withDefaults omission) := by
  -- A path and a direction have no defaults, so the form of a field is complete.
  have kept : omission.below (.member "fields") = .none :=
    (only.below (.member "fields")).eq_none fun _ => id
  have fields : Json.readList IndexField.ofJson
      ((Json.list IndexField.toJson spec.fields).without (omission.below (.member "fields"))) =
        .ok spec.fields := by
    rw [kept, Json.without_none]
    exact readEach_map IndexField.ofJson_toJson spec.fields
  apply readRecord_without
  refine (Fields.Yields.map ?_ _).apply ?_
  · exact yields_required_without rfl (only.stays id) fields
  · exact yields_defaulted_without rfl false rfl

end IndexSpec

namespace CollectionSpec

/-- The places in the form of a collection at which a member may be left out. -/
def OptionalAt : Json.Place → Prop
  | [.member "indexes"] => True
  | .member "indexes" :: .element _ :: place => IndexSpec.OptionalAt place
  | _ => False

/-- A collection without indexes if they are left out, and else with what is left out of each of
them at its default. -/
def withDefaults (collection : CollectionSpec) (omission : Omission) : CollectionSpec :=
  { collection with
    indexes := omission.read "indexes" [] <| collection.indexes.mapIdx fun position spec =>
      spec.withDefaults ((omission.below (.member "indexes")).below (.element position)) }

/-- A collection is read back with the defaults of what is left out. -/
theorem ofJson_without (collection : CollectionSpec) {omission : Omission}
    (only : omission.Only OptionalAt) :
    ofJson (collection.toJson.without omission) = .ok (collection.withDefaults omission) := by
  have back (position : Nat) (spec : IndexSpec) := spec.ofJson_without
    ((only.below (.member "indexes")).below (.element position))
  have indexes := readList_without IndexSpec.withDefaults back collection.indexes
  apply readRecord_without
  refine (Fields.Yields.map ?_ _).apply ?_
  · exact yields_required_without rfl (only.stays id) rfl
  · exact yields_defaulted_without rfl [] indexes

theorem withDefaults_none (collection : CollectionSpec) :
    collection.withDefaults .none = collection :=
  congrArg (mk collection.name) (mapIdx_eq_self (fun _ _ => rfl) collection.indexes)

end CollectionSpec

namespace SchemaDefinition

/-- The places in the form of a definition at which a member may be left out: the indexes of a
collection and the uniqueness of an index. -/
def OptionalAt : Json.Place → Prop
  | .member "collections" :: .element _ :: place => CollectionSpec.OptionalAt place
  | _ => False

/-- A definition with what is left out of each of its collections at its default. -/
def withDefaults (definition : SchemaDefinition) (omission : Omission) : SchemaDefinition :=
  { definition with
    collections := definition.collections.mapIdx fun position collection =>
      collection.withDefaults ((omission.below (.member "collections")).below (.element position)) }

/-- A definition is read back with the defaults of what is left out. -/
theorem ofJson_without (definition : SchemaDefinition) {omission : Omission}
    (only : omission.Only OptionalAt) :
    ofJson (definition.toJson.without omission) = .ok (definition.withDefaults omission) := by
  have back (position : Nat) (collection : CollectionSpec) := collection.ofJson_without
    ((only.below (.member "collections")).below (.element position))
  have collections := readList_without CollectionSpec.withDefaults back definition.collections
  apply readRecord_without
  refine (Fields.Yields.map ?_ _).apply ?_
  · exact yields_required_without rfl (only.stays id) rfl
  · exact yields_required_without rfl (only.stays id) collections

theorem withDefaults_none (definition : SchemaDefinition) :
    definition.withDefaults .none = definition :=
  congrArg (mk definition.database)
    (mapIdx_eq_self (fun _ collection => collection.withDefaults_none) definition.collections)

/-- A written definition is read back as it is. -/
theorem ofJson_toJson (definition : SchemaDefinition) :
    ofJson definition.toJson = .ok definition := by
  have reads := definition.ofJson_without (Omission.only_none OptionalAt)
  rwa [Json.without_none, withDefaults_none] at reads

end SchemaDefinition

/-! ## Settings -/

namespace SettingReader

/-- A machine word has no members to leave out. -/
theorem word_without (number : UInt64) (omission : Omission) :
    json.word ((Json.integer (number.toNat : Int)).without omission) = .ok number := by
  change Json.readWord (.integer (number.toNat : Int)) = .ok number
  have nonnegative : ¬ (number.toNat : Int) < 0 := by omega
  rw [Json.readWord, if_neg nonnegative, Int.toNat_natCast]
  exact congrArg Except.ok UInt64.ofNat_toNat

/-- A directory has no members to leave out. -/
theorem directory_without (directory : Option String) (omission : Omission) :
    json.directory ((Json.option .string directory).without omission) = .ok directory := by
  cases directory <;> rfl

/-- A record is read back if its fields are yielded. -/
theorem record_without {record : String} {count : Nat} {fields : Fields Json α}
    {members : List (String × Json)} {omission : Omission} {content : α}
    (yields : fields.Yields (Json.withoutMembers members omission) (.ok content)) :
    json.record record count fields ((Json.object members).without omission) = .ok content := by
  change Json.readRecord record count fields ((Json.object members).without omission) = _
  exact readRecord_without yields

end SettingReader

open SettingReader (word_without directory_without record_without)

namespace ServerSettings

/-- The settings of the server with those at their defaults that are left out. -/
def withDefaults (settings : ServerSettings) (omission : Omission) : ServerSettings :=
  let default : ServerSettings := {}
  { uri := omission.read "uri" default.uri settings.uri
    database := omission.read "database" default.database settings.database
    appName := omission.read "app_name" default.appName settings.appName
    connectTimeout :=
      omission.read "connect_timeout_ms" default.connectTimeout settings.connectTimeout
    selectionTimeout :=
      omission.read "server_selection_timeout_ms" default.selectionTimeout
        settings.selectionTimeout }

/-- The settings of a server are read back with the defaults of what is left out. -/
theorem read_without (settings : ServerSettings) (omission : Omission) :
    read .json (settings.toJson.without omission) = .ok (settings.withDefaults omission) := by
  apply record_without
  refine ((((Fields.Yields.map ?_ _).apply ?_).apply ?_).apply ?_).apply ?_
  · exact yields_defaulted_without rfl _ rfl
  · exact yields_defaulted_without rfl _ rfl
  · exact yields_defaulted_without rfl _ rfl
  · exact yields_defaulted_without rfl _ (word_without settings.connectTimeout _)
  · exact yields_defaulted_without rfl _ (word_without settings.selectionTimeout _)

end ServerSettings

namespace RetrySettings

/-- The settings for waiting with those at their defaults that are left out. -/
def withDefaults (settings : RetrySettings) (omission : Omission) : RetrySettings :=
  let default : RetrySettings := {}
  { initialBackoff :=
      omission.read "initial_backoff_ms" default.initialBackoff settings.initialBackoff
    maximumBackoff := omission.read "max_backoff_ms" default.maximumBackoff settings.maximumBackoff
    maximumElapsed :=
      omission.read "max_elapsed_ms" default.maximumElapsed settings.maximumElapsed }

/-- The settings of a wait are read back with the defaults of what is left out. -/
theorem read_without (settings : RetrySettings) (omission : Omission) :
    read .json (settings.toJson.without omission) = .ok (settings.withDefaults omission) := by
  apply record_without
  refine ((Fields.Yields.map ?_ _).apply ?_).apply ?_
  · exact yields_defaulted_without rfl _ (word_without settings.initialBackoff _)
  · exact yields_defaulted_without rfl _ (word_without settings.maximumBackoff _)
  · exact yields_defaulted_without rfl _ (word_without settings.maximumElapsed _)

end RetrySettings

namespace LoggingSettings

/-- The settings of the log with those at their defaults that are left out. -/
def withDefaults (settings : LoggingSettings) (omission : Omission) : LoggingSettings :=
  let default : LoggingSettings := {}
  { level := omission.read "level" default.level settings.level
    format := omission.read "format" default.format settings.format
    directory := omission.read "log_dir" default.directory settings.directory }

/-- The settings of the log are read back with the defaults of what is left out. -/
theorem read_without (settings : LoggingSettings) (omission : Omission) :
    read .json (settings.toJson.without omission) = .ok (settings.withDefaults omission) := by
  apply record_without
  refine ((Fields.Yields.map ?_ _).apply ?_).apply ?_
  · exact yields_defaulted_without rfl _ rfl
  · exact yields_defaulted_without rfl _ rfl
  · exact yields_defaulted_without rfl _ (directory_without settings.directory _)

end LoggingSettings

namespace Settings

/-- Settings with the sections at their defaults that are left out, and else with the settings at
their defaults that are left out of a section. -/
def withDefaults (settings : Settings) (omission : Omission) : Settings where
  server := omission.read "mongodb" {}
    (settings.server.withDefaults (omission.below (.member "mongodb")))
  retry := omission.read "retry" {}
    (settings.retry.withDefaults (omission.below (.member "retry")))
  logging := omission.read "logging" {}
    (settings.logging.withDefaults (omission.below (.member "logging")))

/-- Settings are read back with the defaults of what is left out. -/
theorem read_without (settings : Settings) (omission : Omission) :
    read .json (settings.toJson.without omission) = .ok (settings.withDefaults omission) := by
  apply record_without
  refine ((Fields.Yields.map ?_ _).apply ?_).apply ?_
  · exact yields_defaulted_without rfl _ (settings.server.read_without _)
  · exact yields_defaulted_without rfl _ (settings.retry.read_without _)
  · exact yields_defaulted_without rfl _ (settings.logging.read_without _)

/-- Written settings are read back as they are. -/
theorem read_toJson (settings : Settings) : read .json settings.toJson = .ok settings := by
  have reads := settings.read_without .none
  rwa [Json.without_none] at reads

end Settings

/-- **Written forms are read back.** A definition is read back from what the command for the schema
prints of it, and settings from their form. Where members with defaults are left out of a form, the
same is read with these at their defaults: in a definition the uniqueness of indexes and the
indexes of collections, in settings any section and any setting in it. -/
theorem written_forms_read_back :
    (∀ (definition : SchemaDefinition) (stamp : RunStamp),
      SchemaDefinition.ofJson ((CommandOutput.schema definition).toJson stamp) =
        .ok definition) ∧
    (∀ settings : Settings, Settings.read .json settings.toJson = .ok settings) ∧
    (∀ (definition : SchemaDefinition) (stamp : RunStamp) (omission : Omission),
      omission.Only SchemaDefinition.OptionalAt →
        SchemaDefinition.ofJson
            (((CommandOutput.schema definition).toJson stamp).without omission) =
          .ok (definition.withDefaults omission)) ∧
    ∀ (settings : Settings) (omission : Omission),
      Settings.read .json (settings.toJson.without omission) =
        .ok (settings.withDefaults omission) := by
  refine ⟨?_, Settings.read_toJson, ?_, Settings.read_without⟩
  · intro definition stamp
    exact definition.ofJson_toJson
  · intro definition stamp omission only
    exact definition.ofJson_without only

/-- A unique index is left without its uniqueness, and another collection without its indexes. -/
theorem written_forms_read_back_without_members :
    let definition : SchemaDefinition :=
      ⟨"db", [⟨"nodes", [.ascending ["address"], (IndexSpec.ascending ["service"]).asUnique]⟩,
        ⟨"tasks", [.ascending ["done"]]⟩]⟩
    let unique : Json.Place :=
      [.member "collections", .element 0, .member "indexes", .element 1, .member "unique"]
    let indexes : Json.Place := [.member "collections", .element 1, .member "indexes"]
    let omission : Omission := [unique, indexes].contains
    omission.Only SchemaDefinition.OptionalAt ∧
      SchemaDefinition.ofJson
          (((CommandOutput.schema definition).toJson ⟨"", "", ""⟩).without omission) =
        .ok ⟨"db", [⟨"nodes", [.ascending ["address"], .ascending ["service"]]⟩,
          ⟨"tasks", []⟩]⟩ := by
  intro definition unique indexes omission
  have only : omission.Only SchemaDefinition.OptionalAt := by
    intro place left
    obtain rfl | rfl : place = unique ∨ place = indexes := by
      simpa [omission] using left
    · trivial
    · trivial
  refine ⟨only, ?_⟩
  rw [written_forms_read_back.2.2.1 definition ⟨"", "", ""⟩ omission only]
  rfl

end SchemaBootstrap
