import SchemaBootstrap.Proofs.Config.Merging

/-! # Faults of settings stand at leaves

What a layer holds can fail to be settings for the value of one of their leaves only, as long
as the sections are groups (`Layer.atDeclared_of_settings_error`): whatever is absent has a default,
and a record that is a group is read field by field.
-/

namespace SchemaBootstrap

namespace Fields

/-- The first entry of a name is the one that a lookup finds. -/
theorem find?_map_snd (name : String) (entries : List (String × β)) :
    (find? name entries).map Prod.snd = entries.lookup name := by
  induction entries with
  | nil => rfl
  | cons entry rest ih =>
      obtain ⟨other, value⟩ := entry
      rw [find?, Catalog.lookup_cons]
      by_cases same : other = name
      · rw [if_pos same, if_pos same.symm]
        rfl
      · rw [if_neg same, if_neg (Ne.symm same), ← ih, Option.map_map]
        rfl

/-- The faults of a reader at some pairs are of a kind. -/
def FaultsAs (kind : DecodeFault → Prop) (entries : List (String × β)) (fields : Fields β α) :
    Prop :=
  ∀ index misfit, (fields (.pairs entries) index).1 = .error misfit → kind misfit.fault

variable {kind : DecodeFault → Prop} {entries : List (String × β)}

theorem faultsAs_pure (value : α) : FaultsAs kind entries (pure value : Fields β α) := by
  intro index misfit failed
  cases failed

/-- Of two readings that are combined, any misfit is that of one of them. -/
theorem both_eq_error {function : Except Misfit (α → γ)} {argument : Except Misfit α}
    {misfit : Misfit} (failed : both function argument = .error misfit) :
    function = .error misfit ∨ argument = .error misfit := by
  cases function with
  | ok f =>
      cases argument with
      | ok a => cases failed
      | error other => exact .inr (Except.error.inj failed ▸ rfl)
  | error first =>
      cases argument with
      | ok a => exact .inl (Except.error.inj failed ▸ rfl)
      | error other =>
          have chosen := Except.error.inj failed
          split at chosen
          · exact .inr (chosen ▸ rfl)
          · exact .inl (chosen ▸ rfl)

/-- Fields read one after the other have no other faults than each of them. -/
theorem FaultsAs.seq {function : Fields β (α → γ)} {argument : Fields β α}
    (first : FaultsAs kind entries function) (second : FaultsAs kind entries argument) :
    FaultsAs kind entries (function <*> argument) := by
  intro index misfit failed
  obtain left | right := both_eq_error failed
  · exact first _ _ left
  · exact second _ _ right

/-- What is made of the fields does not change their faults. -/
theorem FaultsAs.map {argument : Fields β α} (second : FaultsAs kind entries argument)
    (function : α → γ) : FaultsAs kind entries (function <$> argument) :=
  (faultsAs_pure function).seq second

/-- The fault of a field with a default is that of its value, within its name. -/
theorem faultsAs_defaulted {name : String} {default : α} {read : β → Except DecodeFault α}
    (refused : ∀ value fault, entries.lookup name = some value → read value = .error fault →
      kind (.within name fault)) : FaultsAs kind entries (defaulted name default read) := by
  intro index misfit failed
  unfold defaulted field at failed
  dsimp only at failed
  cases here : find? name entries with
  | none => rw [here] at failed; cases failed
  | some found =>
      have value := find?_map_snd name entries
      rw [here] at value failed
      cases result : read found.2 with
      | ok value => simp [placed, result, Except.mapError] at failed
      | error fault =>
          simp only [placed, result, Except.mapError, Except.error.injEq] at failed
          rw [← failed]
          exact refused found.2 fault value.symm result

/-- A fault in reading a group is a fault of its fields. -/
theorem FaultsAs.of_run {fields : Fields β α} (faults : FaultsAs kind entries fields)
    {fault : DecodeFault} (failed : fields.run (.pairs entries) = .error fault) : kind fault := by
  unfold run at failed
  cases result : (fields (.pairs entries) 0).1 with
  | ok value => rw [result] at failed; cases failed
  | error misfit =>
      rw [result] at failed
      cases failed
      exact faults 0 misfit result

end Fields

namespace LayerValue

/-- A text is refused as a whole. -/
theorem path_of_readText_error {value : LayerValue} {fault : DecodeFault}
    (failed : readText value = .error fault) : fault.path = [] := by
  cases value <;> cases failed <;> rfl

theorem path_of_readWord_error {value : LayerValue} {fault : DecodeFault}
    (failed : readWord value = .error fault) : fault.path = [] := by
  unfold readWord at failed
  split at failed
  · cases failed
  · split at failed <;> cases failed
    rfl
  · cases failed
    rfl

theorem path_of_readDirectory_error {value : LayerValue} {fault : DecodeFault}
    (failed : readDirectory value = .error fault) : fault.path = [] := by
  cases value <;> cases failed <;> rfl

end LayerValue

namespace Settings

/-- A fault at one of some leaves. -/
def AtLeaf (leaves : List String) (fault : DecodeFault) : Prop :=
  ∃ leaf ∈ leaves, fault.path = [leaf]

/-- A field whose value is refused as a whole has its fault at a leaf. -/
theorem faultsAs_leaf {leaves : List String} {entries : List (String × LayerValue)}
    {name : String} (declared : name ∈ leaves) (default : α)
    {read : LayerValue → Except DecodeFault α}
    (flat : ∀ {value fault}, read value = .error fault → fault.path = []) :
    Fields.FaultsAs (AtLeaf leaves) entries (Fields.defaulted name default read) := by
  refine Fields.faultsAs_defaulted fun value fault _ failed => ⟨name, declared, ?_⟩
  rw [DecodeFault.path, flat failed]

open LayerValue (path_of_readText_error path_of_readWord_error path_of_readDirectory_error)

variable {members : List (String × LayerValue)} {fault : DecodeFault}

/-- The settings of a server are refused for one of their leaves. -/
theorem atLeaf_of_server_error
    (failed : ServerSettings.read .layer (.group members) = .error fault) :
    AtLeaf ServerSettings.leaves fault := by
  refine Fields.FaultsAs.of_run ?_ failed
  refine ((((Fields.FaultsAs.map ?_ _).seq ?_).seq ?_).seq ?_).seq ?_
  · exact faultsAs_leaf (by decide) _ path_of_readText_error
  · exact faultsAs_leaf (by decide) _ path_of_readText_error
  · exact faultsAs_leaf (by decide) _ path_of_readText_error
  · exact faultsAs_leaf (by decide) _ path_of_readWord_error
  · exact faultsAs_leaf (by decide) _ path_of_readWord_error

/-- The settings of a wait are refused for one of their leaves. -/
theorem atLeaf_of_retry_error
    (failed : RetrySettings.read .layer (.group members) = .error fault) :
    AtLeaf RetrySettings.leaves fault := by
  refine Fields.FaultsAs.of_run ?_ failed
  refine ((Fields.FaultsAs.map ?_ _).seq ?_).seq ?_
  · exact faultsAs_leaf (by decide) _ path_of_readWord_error
  · exact faultsAs_leaf (by decide) _ path_of_readWord_error
  · exact faultsAs_leaf (by decide) _ path_of_readWord_error

/-- The settings of the log are refused for one of their leaves. -/
theorem atLeaf_of_logging_error
    (failed : LoggingSettings.read .layer (.group members) = .error fault) :
    AtLeaf LoggingSettings.leaves fault := by
  refine Fields.FaultsAs.of_run ?_ failed
  refine ((Fields.FaultsAs.map ?_ _).seq ?_).seq ?_
  · exact faultsAs_leaf (by decide) _ path_of_readText_error
  · exact faultsAs_leaf (by decide) _ path_of_readText_error
  · exact faultsAs_leaf (by decide) _ path_of_readDirectory_error

/-- A section of settings and one of its leaves. -/
def Declares (name leaf : String) : Prop :=
  ∃ leaves, sections.lookup name = some leaves ∧ leaf ∈ leaves

/-- A fault at a leaf of a section. -/
def AtDeclared (fault : DecodeFault) : Prop :=
  ∃ name leaf, Declares name leaf ∧ fault.path = [name, leaf]

/-- A section that is a group, or missing, has its faults at declared leaves. -/
theorem faultsAs_section {layer : Layer} {name : String} {leaves : List String}
    (grouped : layer.Grouped name) (declared : sections.lookup name = some leaves) (default : α)
    {read : LayerValue → Except DecodeFault α}
    (leafwise : ∀ {members fault}, read (.group members) = .error fault → AtLeaf leaves fault) :
    Fields.FaultsAs AtDeclared layer (Fields.defaulted name default read) := by
  refine Fields.faultsAs_defaulted fun value fault found failed => ?_
  obtain ⟨members, rfl⟩ := grouped value found
  obtain ⟨leaf, inside, path⟩ := leafwise failed
  refine ⟨name, leaf, ⟨leaves, declared, inside⟩, ?_⟩
  rw [DecodeFault.path, path]

end Settings

/-- A layer that has a section of settings has a group there. -/
def Layer.GivesSections (layer : Layer) : Prop :=
  ∀ declared ∈ Settings.sections, ∀ value ∈ List.lookup declared.1 layer, value.isGroup = true

instance (layer : Layer) : Decidable layer.GivesSections :=
  inferInstanceAs (Decidable (∀ declared ∈ Settings.sections,
    ∀ value ∈ List.lookup declared.1 layer, value.isGroup = true))

/-- A layer that gives its sections has a group for each of them, or nothing. -/
theorem Layer.GivesSections.grouped {layer : Layer} (given : layer.GivesSections) {name : String}
    {leaves : List String} (declared : Settings.sections.lookup name = some leaves) :
    layer.Grouped name := by
  intro value found
  have group := given (name, leaves) (Settings.mem_sections_of_lookup declared) value found
  cases value with
  | group members => exact ⟨members, rfl⟩
  | _ => cases group

/-- Where the sections are groups, settings are refused for a declared leaf. -/
theorem Layer.atDeclared_of_settings_error {layer : Layer} (given : layer.GivesSections)
    {fault : DecodeFault} (failed : layer.settings = .error fault) :
    Settings.AtDeclared fault := by
  refine Fields.FaultsAs.of_run ?_ failed
  refine ((Fields.FaultsAs.map ?_ _).seq ?_).seq ?_
  · exact Settings.faultsAs_section (given.grouped rfl) rfl _ Settings.atLeaf_of_server_error
  · exact Settings.faultsAs_section (given.grouped rfl) rfl _ Settings.atLeaf_of_retry_error
  · exact Settings.faultsAs_section (given.grouped rfl) rfl _ Settings.atLeaf_of_logging_error

end SchemaBootstrap
