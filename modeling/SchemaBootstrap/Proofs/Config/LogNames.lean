import SchemaBootstrap.Config.Logging
import SchemaBootstrap.Proofs.Config.AcceptedSettings

/-! # Names of levels and formats

The levels and the formats of a log are named twice: in the lists that settings are checked
against, and where the log is set up. Both places know the same names (`Naming`). A level may be
spelled in any case in both of them, a format only where the log is set up. So settings that are
accepted can be set up, and the settings that can be set up and are not accepted are those with
a format that is not in lower case (`LoggingSettings.accepted_in_lower_case`).
-/

namespace SchemaBootstrap

/-- Kinds are found by their names, which are those of a list. -/
structure Naming {κ : Type} (named? : String → Option κ) (name : κ → String)
    (names : List String) : Prop where
  found : ∀ {text : String} {kind : κ}, named? text = some kind ↔ text = name kind
  listed : ∀ {text : String}, text ∈ names ↔ ∃ kind, text = name kind

/-- A text is no name exactly when it is not in the list of names. -/
theorem Naming.eq_none_iff {κ : Type} {named? : String → Option κ} {name : κ → String}
    {names : List String} (naming : Naming named? name names) {text : String} :
    named? text = none ↔ text ∉ names := by
  rw [naming.listed, Option.eq_none_iff_forall_ne_some, not_exists]
  exact forall_congr' fun kind => not_congr naming.found

/-- The name of a level. -/
def LogLevel.name : LogLevel → String
  | trace => "trace"
  | debug => "debug"
  | info => "info"
  | warn => "warn"
  | error => "error"

/-- The name of a format. -/
def LogFormat.name : LogFormat → String
  | json => "json"
  | pretty => "pretty"

namespace LoggingSettings

/-- The levels that are accepted are those that can be set up. -/
theorem level_naming : Naming LogLevel.named? LogLevel.name levels where
  found := by
    intro text level
    constructor
    · intro found
      unfold LogLevel.named? at found
      split at found <;> cases found <;> rfl
    · rintro rfl
      cases level <;> rfl
  listed := by
    intro text
    constructor
    · intro member
      obtain rfl | rfl | rfl | rfl | rfl : text = "trace" ∨ text = "debug" ∨ text = "info" ∨
          text = "warn" ∨ text = "error" := by simpa [levels] using member
      · exact ⟨.trace, rfl⟩
      · exact ⟨.debug, rfl⟩
      · exact ⟨.info, rfl⟩
      · exact ⟨.warn, rfl⟩
      · exact ⟨.error, rfl⟩
    · rintro ⟨level, rfl⟩
      cases level <;> decide

/-- The formats that are accepted are those that can be set up. -/
theorem format_naming : Naming LogFormat.named? LogFormat.name formats where
  found := by
    intro text format
    constructor
    · intro found
      unfold LogFormat.named? at found
      split at found <;> cases found <;> rfl
    · rintro rfl
      cases format <;> rfl
  listed := by
    intro text
    constructor
    · intro member
      obtain rfl | rfl : text = "json" ∨ text = "pretty" := by simpa [formats] using member
      · exact ⟨.json, rfl⟩
      · exact ⟨.pretty, rfl⟩
    · rintro ⟨format, rfl⟩
      cases format <;> decide

/-- The formats that are accepted are those that are known in lower case and are in lower
case. -/
theorem mem_formats_iff_lower (text : String) :
    text ∈ formats ↔ Text.lower text ∈ formats ∧ Text.lower text = text := by
  constructor
  · intro member
    obtain ⟨format, rfl⟩ := format_naming.listed.mp member
    have same : Text.lower format.name = format.name := by cases format <;> decide +kernel
    exact ⟨same.symm ▸ member, same⟩
  · rintro ⟨member, same⟩
    exact same ▸ member

variable (settings : LoggingSettings)

/-- The level is checked before the format, in lower case; the format is checked as it is. -/
theorem validate_cases :
    (Text.lower settings.level ∉ levels ∧
      settings.validate = .error (.invalidLogLevel settings.level)) ∨
    (Text.lower settings.level ∈ levels ∧ settings.format ∉ formats ∧
      settings.validate = .error (.invalidLogFormat settings.format)) ∨
    (Text.lower settings.level ∈ levels ∧ settings.format ∈ formats ∧
      settings.validate = .ok ()) := by
  unfold validate
  by_cases leveled : Text.lower settings.level ∈ levels
  · have passed := List.contains_iff_mem.mpr leveled
    by_cases formatted : settings.format ∈ formats
    · have passed' := List.contains_iff_mem.mpr formatted
      exact .inr (.inr ⟨leveled, formatted, by rw [passed, passed']; rfl⟩)
    · have refused := Bool.eq_false_iff.mpr (mt List.contains_iff_mem.mp formatted)
      exact .inr (.inl ⟨leveled, formatted, by rw [passed, refused]; rfl⟩)
  · have refused := Bool.eq_false_iff.mpr (mt List.contains_iff_mem.mp leveled)
    exact .inl ⟨leveled, by rw [refused]; rfl⟩

/-- Both level and format are set up in lower case. -/
theorem setUp_cases :
    (Text.lower settings.level ∉ levels ∧ settings.setUp = .error (.level settings.level)) ∨
    (Text.lower settings.level ∈ levels ∧ Text.lower settings.format ∉ formats ∧
      settings.setUp = .error (.format settings.format)) ∨
    ∃ level format, Text.lower settings.level = LogLevel.name level ∧
      Text.lower settings.format = LogFormat.name format ∧
      settings.setUp = .ok (level, format) := by
  unfold setUp
  cases leveled : LogLevel.named? (Text.lower settings.level) with
  | none => exact .inl ⟨level_naming.eq_none_iff.mp leveled, rfl⟩
  | some level =>
      have levelName := level_naming.found.mp leveled
      have known := level_naming.listed.mpr ⟨level, levelName⟩
      cases formatted : LogFormat.named? (Text.lower settings.format) with
      | none => exact .inr (.inl ⟨known, format_naming.eq_none_iff.mp formatted, rfl⟩)
      | some format =>
          have formatName := format_naming.found.mp formatted
          exact .inr (.inr ⟨level, format, levelName, formatName, rfl⟩)

/-- The check accepts and refuses by these two conditions only. -/
theorem validate_eq_iff :
    (settings.validate = .ok () ↔
      Text.lower settings.level ∈ levels ∧ settings.format ∈ formats) ∧
    (settings.validate = .error (.invalidLogLevel settings.level) ↔
      Text.lower settings.level ∉ levels) ∧
    (settings.validate = .error (.invalidLogFormat settings.format) ↔
      Text.lower settings.level ∈ levels ∧ settings.format ∉ formats) := by
  obtain ⟨unknown, same⟩ | ⟨known, unknown, same⟩ | ⟨known, known', same⟩ :=
    settings.validate_cases
  · simp [unknown, same]
  · simp [known, unknown, same]
  · simp [known, known', same]

/-- The log is set up or refused by these two conditions only. -/
theorem setUp_eq_iff :
    ((∃ named, settings.setUp = .ok named) ↔
      Text.lower settings.level ∈ levels ∧ Text.lower settings.format ∈ formats) ∧
    (settings.setUp = .error (.level settings.level) ↔ Text.lower settings.level ∉ levels) ∧
    (settings.setUp = .error (.format settings.format) ↔
      Text.lower settings.level ∈ levels ∧ Text.lower settings.format ∉ formats) := by
  obtain ⟨unknown, same⟩ | ⟨known, unknown, same⟩ | ⟨level, format, leveled, formatted, same⟩ :=
    settings.setUp_cases
  · simp [unknown, same]
  · simp [known, unknown, same]
  · have known := level_naming.listed.mpr ⟨level, leveled⟩
    have known' := format_naming.listed.mpr ⟨format, formatted⟩
    simp [known, known', same]

/-- Settings that are accepted name a level and a format, with which their log is opened. -/
theorem exists_openWith (accepted : settings.validate = .ok ()) (opener : LogOpener) :
    ∃ level format, Text.lower settings.level = LogLevel.name level ∧
      settings.format = LogFormat.name format ∧
      settings.openWith opener = opener.opening level format settings.directory := by
  obtain ⟨known, listed⟩ := settings.validate_eq_iff.1.mp accepted
  obtain ⟨listed', same⟩ := (mem_formats_iff_lower settings.format).mp listed
  obtain ⟨unknown, -⟩ | ⟨-, unknown, -⟩ | ⟨level, format, leveled, formatted, setUp⟩ :=
    settings.setUp_cases
  · exact absurd known unknown
  · exact absurd listed' unknown
  · refine ⟨level, format, leveled, same.symm.trans formatted, ?_⟩
    rw [openWith, setUp]

/-- The log of accepted settings breaks the program off exactly if it is to have a directory in
which no file can be opened. -/
theorem openWith_eq_broken_iff (accepted : settings.validate = .ok ()) (opener : LogOpener) :
    settings.openWith opener = .broken ↔
      ∃ directory, settings.directory = some directory ∧ opener.keeps directory = false := by
  obtain ⟨level, format, -, -, opening⟩ := settings.exists_openWith accepted opener
  rw [opening, LogOpener.opening]
  cases settings.directory with
  | none => cases opener.install level format none <;> simp
  | some directory =>
      cases keeps : opener.keeps directory with
      | false => simp [keeps]
      | true => cases opener.install level format (some directory) <;> simp [keeps]

/-- **What is accepted is set up,** and the settings that are set up and not accepted are those
with a format that is not in lower case. Both places refuse the same levels. -/
theorem accepted_in_lower_case :
    (settings.validate = .ok () ↔
      (∃ named, settings.setUp = .ok named) ∧ Text.lower settings.format = settings.format) ∧
    (settings.validate = .error (.invalidLogLevel settings.level) ↔
      settings.setUp = .error (.level settings.level)) ∧
    (settings.validate = .error (.invalidLogFormat settings.format) ↔
      settings.setUp = .error (.format settings.format) ∨
        (∃ named, settings.setUp = .ok named) ∧ Text.lower settings.format ≠ settings.format) ∧
    (settings.validate = .ok () → ∀ opener : LogOpener, ∃ level format,
      Text.lower settings.level = LogLevel.name level ∧
        settings.format = LogFormat.name format ∧
        settings.openWith opener = opener.opening level format settings.directory) := by
  obtain ⟨valid, badLevel, badFormat⟩ := settings.validate_eq_iff
  obtain ⟨named, unknownLevel, unknownFormat⟩ := settings.setUp_eq_iff
  refine ⟨?_, badLevel.trans unknownLevel.symm, ?_, settings.exists_openWith⟩
  · rw [valid, named, mem_formats_iff_lower settings.format, and_assoc]
  · rw [badFormat, named, unknownFormat, mem_formats_iff_lower settings.format]
    grind

/-- A format in upper case is set up and not accepted. -/
theorem upper_case_format_set_up_only :
    ¬ ∀ settings : LoggingSettings,
      settings.validate = .ok () ↔ ∃ named, settings.setUp = .ok named := by
  intro agree
  have setUp : ({ format := "JSON" } : LoggingSettings).setUp = .ok (.info, .json) := by rfl
  have valid := (agree { format := "JSON" }).mpr ⟨_, setUp⟩
  obtain ⟨-, listed⟩ := (validate_eq_iff { format := "JSON" }).1.mp valid
  revert listed
  decide

end LoggingSettings

end SchemaBootstrap
