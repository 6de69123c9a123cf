import SchemaBootstrap.Config.Layer
import SchemaBootstrap.Proofs.Decoding.KeptFields

/-! # Layers without what is not read

Settings are read from the leaves of their sections (`Settings.sections`). A layer that is
trimmed to these, and in which no leaf has members any more, holds the same settings, or has
the same first fault (`Layer.settings_trimmed`): a group where a leaf should be is refused
whatever its members are.
-/

namespace SchemaBootstrap

/-- Entries whose names follow each other in order, and are different. -/
abbrev Catalog.Sorted (entries : List (String × α)) : Prop :=
  entries.Pairwise fun first second => Text.precedes first.1 second.1 = true

namespace Fields

variable {keep : String → β → Option β}

/-- A name that is kept leads to its changed value. -/
theorem lookup_kept {name : String} {change : β → β}
    (stays : ∀ value, keep name value = some (change value)) (entries : List (String × β)) :
    (kept keep entries).lookup name = (entries.lookup name).map change := by
  induction entries with
  | nil => rfl
  | cons entry rest ih =>
      rw [Catalog.lookup_cons]
      by_cases same : name = entry.1
      · rw [kept_cons_of_some (same ▸ stays entry.2), Catalog.lookup_cons, if_pos same, if_pos same]
        rfl
      · rw [if_neg same]
        cases left : keep entry.1 entry.2 with
        | none => rw [kept_cons_of_none left, ih]
        | some value => rw [kept_cons_of_some left, Catalog.lookup_cons, if_neg same, ih]

/-- A name that is left out leads to nothing. -/
theorem lookup_kept_of_none {name : String} (goes : ∀ value, keep name value = none)
    (entries : List (String × β)) : (kept keep entries).lookup name = none := by
  induction entries with
  | nil => rfl
  | cons entry rest ih =>
      cases left : keep entry.1 entry.2 with
      | none => rw [kept_cons_of_none left, ih]
      | some value =>
          have differ : name ≠ entry.1 := by
            rintro rfl
            rw [goes] at left
            cases left
          rw [kept_cons_of_some left, Catalog.lookup_cons, if_neg differ, ih]

/-- Leaving entries out keeps them sorted. -/
theorem sorted_kept (keep : String → β → Option β) {entries : List (String × β)}
    (sorted : Catalog.Sorted entries) : Catalog.Sorted (kept keep entries) := by
  refine List.Pairwise.filterMap _ ?_ sorted
  intro first second before first' stays second' stays'
  obtain ⟨value, -, rfl⟩ := Option.map_eq_some_iff.mp stays
  obtain ⟨value', -, rfl⟩ := Option.map_eq_some_iff.mp stays'
  exact before

end Fields

namespace LayerValue

/-- A value without its members, if it is a group. -/
def flat : LayerValue → LayerValue
  | .group _ => .group []
  | value => value

/-- Reading a text does not look into groups. -/
theorem readText_flat (value : LayerValue) : readText value.flat = readText value := by
  cases value <;> rfl

theorem readWord_flat (value : LayerValue) : readWord value.flat = readWord value := by
  cases value <;> rfl

theorem readDirectory_flat (value : LayerValue) :
    readDirectory value.flat = readDirectory value := by
  cases value <;> rfl

/-- What is kept of a value in a section with some leaves. -/
def leaf? (leaves : List String) (name : String) (value : LayerValue) : Option LayerValue :=
  if leaves.contains name then some value.flat else none

/-- A section with its leaves alone. -/
def trim (leaves : List String) : LayerValue → LayerValue
  | .group members => .group (Fields.kept (leaf? leaves) members)
  | value => value

/-- A record is read alike when what it overlooks is trimmed away. -/
theorem readRecord_trim {leaves : List String} {fields : Fields LayerValue α}
    (overlooks : fields.Overlooks (leaf? leaves)) (name : String) (count : Nat)
    (value : LayerValue) :
    readRecord name count fields (value.trim leaves) = readRecord name count fields value := by
  cases value with
  | group members => exact Fields.run_kept overlooks members
  | _ => rfl

section Leaves

variable {leaves : List String} {name : String}

/-- A declared leaf is kept, apart from what is in a group. -/
theorem leaf?_of_mem (declared : leaves.contains name = true) (value : LayerValue) :
    leaf? leaves name value = some value.flat :=
  if_pos declared

/-- A text overlooks all but its own leaf. -/
theorem overlooks_text (declared : leaves.contains name = true) (default : String) :
    (Fields.defaulted name default readText).Overlooks (leaf? leaves) :=
  Fields.overlooks_defaulted (leaf?_of_mem declared) readText_flat

theorem overlooks_word (declared : leaves.contains name = true) (default : UInt64) :
    (Fields.defaulted name default readWord).Overlooks (leaf? leaves) :=
  Fields.overlooks_defaulted (leaf?_of_mem declared) readWord_flat

theorem overlooks_directory (declared : leaves.contains name = true)
    (default : Option String) :
    (Fields.defaulted name default readDirectory).Overlooks (leaf? leaves) :=
  Fields.overlooks_defaulted (leaf?_of_mem declared) readDirectory_flat

end Leaves

end LayerValue

open LayerValue (overlooks_text overlooks_word overlooks_directory)

/-- The leaves of the settings of the server, by name. -/
def ServerSettings.leaves : List String :=
  ["app_name", "connect_timeout_ms", "database", "server_selection_timeout_ms", "uri"]

/-- The leaves of the settings for waiting, by name. -/
def RetrySettings.leaves : List String :=
  ["initial_backoff_ms", "max_backoff_ms", "max_elapsed_ms"]

/-- The leaves of the settings of the log, by name. -/
def LoggingSettings.leaves : List String :=
  ["format", "level", "log_dir"]

/-- The settings of a server are read from their leaves alone. -/
theorem ServerSettings.read_trim (value : LayerValue) :
    read .layer (value.trim leaves) = read .layer value := by
  refine LayerValue.readRecord_trim ?_ "MongoConfig" 5 value
  refine ((((Fields.Overlooks.map ?_ _).seq ?_).seq ?_).seq ?_).seq ?_
  · exact overlooks_text rfl _
  · exact overlooks_text rfl _
  · exact overlooks_text rfl _
  · exact overlooks_word rfl _
  · exact overlooks_word rfl _

/-- The settings of a wait are read from their leaves alone. -/
theorem RetrySettings.read_trim (value : LayerValue) :
    read .layer (value.trim leaves) = read .layer value := by
  refine LayerValue.readRecord_trim ?_ "RetryConfig" 3 value
  refine ((Fields.Overlooks.map ?_ _).seq ?_).seq ?_
  · exact overlooks_word rfl _
  · exact overlooks_word rfl _
  · exact overlooks_word rfl _

/-- The settings of the log are read from their leaves alone. -/
theorem LoggingSettings.read_trim (value : LayerValue) :
    read .layer (value.trim leaves) = read .layer value := by
  refine LayerValue.readRecord_trim ?_ "LoggingConfig" 3 value
  refine ((Fields.Overlooks.map ?_ _).seq ?_).seq ?_
  · exact overlooks_text rfl _
  · exact overlooks_text rfl _
  · exact overlooks_directory rfl _

namespace Settings

/-- The sections of settings with the leaves of each, by name. -/
def sections : List (String × List String) :=
  [("logging", LoggingSettings.leaves), ("mongodb", ServerSettings.leaves),
    ("retry", RetrySettings.leaves)]

theorem lookup_of_mem_sections :
    ∀ declared ∈ sections, sections.lookup declared.1 = some declared.2 := by
  decide

theorem mem_sections_of_lookup {name : String} {leaves : List String}
    (declared : sections.lookup name = some leaves) : (name, leaves) ∈ sections := by
  obtain ⟨before, after, split, -⟩ := List.lookup_eq_some_iff.mp declared
  rw [split]
  exact List.mem_append_right _ List.mem_cons_self

/-- The leaves of every section are listed in order. -/
theorem sorted_leaves {name : String} {leaves : List String}
    (declared : sections.lookup name = some leaves) :
    leaves.Pairwise fun first second => Text.precedes first second = true := by
  have sorted : ∀ entry ∈ sections,
      entry.2.Pairwise fun first second => Text.precedes first second = true := by decide
  exact sorted _ (mem_sections_of_lookup declared)

/-- What is kept of a value under a name: of a section, its leaves. -/
def section? (name : String) (value : LayerValue) : Option LayerValue :=
  (sections.lookup name).map value.trim

/-- A section overlooks all but its own leaves. -/
theorem overlooks_section {α : Type} {name : String} {leaves : List String} (default : α)
    {read : LayerValue → Except DecodeFault α} (declared : sections.lookup name = some leaves)
    (same : ∀ value : LayerValue, read (value.trim leaves) = read value) :
    (Fields.defaulted name default read).Overlooks section? := by
  refine Fields.overlooks_defaulted (fun value => ?_) same
  rw [section?, declared]
  rfl

end Settings

namespace Layer

/-- A layer with the sections of settings alone, and in them their leaves. -/
def trimmed (layer : Layer) : Layer :=
  Fields.kept Settings.section? layer

/-- Settings are read from the declared leaves alone. -/
theorem settings_trimmed (layer : Layer) : layer.trimmed.settings = layer.settings := by
  refine Fields.run_kept ?_ layer
  refine ((Fields.Overlooks.map ?_ _).seq ?_).seq ?_
  · exact Settings.overlooks_section _ rfl ServerSettings.read_trim
  · exact Settings.overlooks_section _ rfl RetrySettings.read_trim
  · exact Settings.overlooks_section _ rfl LoggingSettings.read_trim

/-- Trimming a layer trims each of its sections. -/
theorem lookup_trimmed {name : String} {leaves : List String}
    (declared : Settings.sections.lookup name = some leaves) (layer : Layer) :
    layer.trimmed.lookup name = (List.lookup name layer).map (LayerValue.trim leaves) := by
  refine Fields.lookup_kept (fun value => ?_) layer
  rw [Settings.section?, declared]
  rfl

/-- Two sorted layers are trimmed to the same if their sections are. -/
theorem trimmed_congr {layer layer' : Layer} (sorted : Catalog.Sorted layer)
    (sorted' : Catalog.Sorted layer')
    (same : ∀ name leaves, Settings.sections.lookup name = some leaves →
      (List.lookup name layer).map (LayerValue.trim leaves) =
        (List.lookup name layer').map (LayerValue.trim leaves)) :
    layer.trimmed = layer'.trimmed := by
  refine Catalog.entries_ext (Fields.sorted_kept _ sorted) (Fields.sorted_kept _ sorted') ?_
  intro name
  cases declared : Settings.sections.lookup name with
  | none =>
      have goes : ∀ value, Settings.section? name value = none := by
        intro value
        rw [Settings.section?, declared]
        rfl
      rw [trimmed, trimmed, Fields.lookup_kept_of_none goes, Fields.lookup_kept_of_none goes]
  | some leaves => rw [lookup_trimmed declared, lookup_trimmed declared, same name leaves declared]

end Layer

/-- Two sorted sections are trimmed to the same if they have the same leaves, up to the
members of groups. -/
theorem LayerValue.trim_group_congr {leaves : List String}
    {members members' : List (String × LayerValue)} (sorted : Catalog.Sorted members)
    (sorted' : Catalog.Sorted members')
    (same : ∀ name ∈ leaves, (members.lookup name).map flat = (members'.lookup name).map flat) :
    (group members).trim leaves = (group members').trim leaves := by
  refine congrArg group (Catalog.entries_ext (Fields.sorted_kept _ sorted)
    (Fields.sorted_kept _ sorted') fun name => ?_)
  cases declared : leaves.contains name with
  | false =>
      have goes : ∀ value, leaf? leaves name value = none := fun value => by
        rw [leaf?, declared, if_neg Bool.false_ne_true]
      rw [Fields.lookup_kept_of_none goes, Fields.lookup_kept_of_none goes]
  | true =>
      rw [Fields.lookup_kept (leaf?_of_mem declared), Fields.lookup_kept (leaf?_of_mem declared)]
      exact same name (List.contains_iff_mem.mp declared)

end SchemaBootstrap
