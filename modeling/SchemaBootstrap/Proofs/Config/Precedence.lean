import SchemaBootstrap.Proofs.Config.LeafFaults
import SchemaBootstrap.Proofs.Config.VariableLayers

/-! # Precedence of layers, leaf by leaf

Of each leaf of the settings, the highest layer that has it decides
(`SourcedLayer.highest?`). The settings that are loaded are those that these values make up,
if they make up settings that are accepted (`Settings.load_by_precedence`): what lies below
the highest value of a leaf, and what is no leaf of the settings, has no effect, on the
reported failure neither. The environment is the highest layer, and a variable gives it the
leaf that the variable is named after (`Variable.leaf?_ofVariables`).
-/

namespace SchemaBootstrap

namespace Catalog

/-- Changing the values of entries changes what a lookup finds. -/
theorem lookup_map (change : String → α → β) (entries : List (String × α)) (name : String) :
    (entries.map fun entry => (entry.1, change entry.1 entry.2)).lookup name =
      (entries.lookup name).map (change name) := by
  induction entries with
  | nil => rfl
  | cons entry rest ih =>
      rw [List.map_cons, lookup_cons, lookup_cons, ih]
      by_cases same : name = entry.1
      · subst same
        rw [if_pos rfl, if_pos rfl]
        rfl
      · rw [if_neg same, if_neg same]

/-- The entries for those of some names that have a value. -/
def ofNames (value? : String → Option α) (names : List String) : List (String × α) :=
  names.filterMap fun name => (value? name).map (name, ·)

/-- The values of sorted names are sorted. -/
theorem sorted_ofNames (value? : String → Option α) {names : List String}
    (sorted : names.Pairwise fun first second => Text.precedes first second = true) :
    Sorted (ofNames value? names) := by
  refine List.Pairwise.filterMap _ ?_ sorted
  intro first second before entry here entry' there
  obtain ⟨value, -, rfl⟩ := Option.map_eq_some_iff.mp here
  obtain ⟨value', -, rfl⟩ := Option.map_eq_some_iff.mp there
  exact before

/-- Only the listed names have a value. -/
theorem lookup_ofNames_of_not_mem (value? : String → Option α) {names : List String}
    {name : String} (other : name ∉ names) : (ofNames value? names).lookup name = none := by
  rw [List.lookup_eq_none_iff]
  intro entry member
  obtain ⟨name', inside, built⟩ := List.mem_filterMap.mp member
  obtain ⟨value, -, rfl⟩ := Option.map_eq_some_iff.mp built
  have differ : name ≠ name' := fun same => other (same ▸ inside)
  simpa using differ

/-- A listed name has the value that is given for it. -/
theorem lookup_ofNames (value? : String → Option α) {names : List String} {name : String}
    (member : name ∈ names) : (ofNames value? names).lookup name = value? name := by
  induction names with
  | nil => cases member
  | cons first rest ih =>
      have step : ofNames value? (first :: rest) =
          ((value? first).map (first, ·)).toList ++ ofNames value? rest := by
        unfold ofNames
        rw [List.filterMap_cons]
        cases value? first <;> rfl
      rw [step]
      by_cases same : name = first
      · subst same
        cases found : value? name with
        | some value => exact (lookup_cons _ _ _).trans (if_pos rfl)
        | none =>
            by_cases later : name ∈ rest
            · exact (ih later).trans found
            · exact lookup_ofNames_of_not_mem value? later
      · have later := (List.mem_cons.mp member).resolve_left same
        cases value? first with
        | none => exact ih later
        | some value => exact (lookup_cons _ _ _).trans ((if_neg same).trans (ih later))

end Catalog

namespace SourcedLayer

/-- The value of a leaf in the highest layer that has it, with the source of this layer. -/
def highest? (layers : List SourcedLayer) (name leaf : String) :
    Option (LayerSource × LayerValue) :=
  layers.reverse.findSome? fun sourced =>
    (sourced.layer.leaf? name leaf).map (sourced.source, ·)

/-- The layer that has the highest value of each leaf of the settings, and nothing else. -/
def winning (layers : List SourcedLayer) : Layer :=
  Settings.sections.map fun declared =>
    (declared.1,
      .group (Catalog.ofNames (fun leaf => (highest? layers declared.1 leaf).map Prod.snd)
        declared.2))

variable {layers layers' : List SourcedLayer}

/-- The highest value of a leaf is the first one that is found from the top. -/
theorem highest?_value (layers : List SourcedLayer) (name leaf : String) :
    (highest? layers name leaf).map Prod.snd =
      (layers.map layer).reverse.findSome? fun layer => layer.leaf? name leaf := by
  unfold highest?
  rw [← List.map_reverse]
  induction layers.reverse with
  | nil => rfl
  | cons sourced rest ih =>
      rw [List.findSome?_cons, List.map_cons, List.findSome?_cons, ← ih]
      cases sourced.layer.leaf? name leaf <;> rfl

/-- The highest value of a leaf comes from the layer that a fault there is blamed on. -/
theorem highest?_source (layers : List SourcedLayer) (name leaf : String) :
    (highest? layers name leaf).map Prod.fst = origin? layers [name, leaf] := by
  unfold highest? origin?
  induction layers.reverse with
  | nil => rfl
  | cons sourced rest ih =>
      rw [List.findSome?_cons, List.find?_cons]
      change _ = Option.map source
        (match (sourced.layer.leaf? name leaf).isSome with | true => _ | false => _)
      cases sourced.layer.leaf? name leaf with
      | some value => rfl
      | none => exact ih

/-- In the winning layer, a section holds the highest value of each of its leaves. -/
theorem lookup_winning {name : String} {leaves : List String}
    (declared : Settings.sections.lookup name = some leaves) (layers : List SourcedLayer) :
    List.lookup name (winning layers) =
      some (.group (Catalog.ofNames (fun leaf => (highest? layers name leaf).map Prod.snd)
        leaves)) := by
  unfold winning
  rw [Catalog.lookup_map (fun name leaves => LayerValue.group
    (Catalog.ofNames (fun leaf => (highest? layers name leaf).map Prod.snd) leaves)), declared]
  rfl

/-- Every section of the winning layer is a group. -/
theorem winning_givesSections (layers : List SourcedLayer) :
    (winning layers).GivesSections := by
  intro declared member value found
  rw [lookup_winning (Settings.lookup_of_mem_sections declared member)] at found
  cases found
  rfl

theorem sorted_winning (layers : List SourcedLayer) : Catalog.Sorted (winning layers) := by
  refine List.pairwise_map.mpr ?_
  change Settings.sections.Pairwise fun first second => Text.precedes first.1 second.1 = true
  decide

/-- The winning layer depends on the highest values of the declared leaves only. -/
theorem winning_congr
    (same : ∀ name leaf, Settings.Declares name leaf →
      highest? layers name leaf = highest? layers' name leaf) :
    winning layers = winning layers' := by
  refine List.map_congr_left fun declared member => ?_
  have found := Settings.lookup_of_mem_sections declared member
  refine congrArg (fun members => (declared.1, LayerValue.group members)) ?_
  refine List.filterMap_congr fun leaf inside => ?_
  dsimp only
  rw [same declared.1 leaf ⟨declared.2, found, inside⟩]

/-- What layers hold is what the highest value of each leaf makes up. -/
theorem settings_merged (tidy : ∀ sourced ∈ layers, sourced.layer.Tidy)
    (given : ∀ sourced ∈ layers, sourced.layer.GivesSections)
    (present : ∀ name leaves, Settings.sections.lookup name = some leaves →
      List.lookup name (merged layers) ≠ none) :
    (merged layers).settings = (winning layers).settings := by
  have tidy' : ∀ each ∈ layers.map layer, each.Tidy := List.forall_mem_map.mpr tidy
  have whole := Layer.tidy_merged tidy'
  rw [← Layer.settings_trimmed (merged layers), ← Layer.settings_trimmed (winning layers)]
  refine congrArg Layer.settings (Layer.trimmed_congr whole.sorted (sorted_winning layers) ?_)
  intro name leaves declared
  have grouped : ∀ each ∈ layers.map layer, each.Grouped name :=
    List.forall_mem_map.mpr fun sourced member => (given sourced member).grouped declared
  obtain ⟨members, found⟩ :=
    (Layer.grouped_merged tidy' grouped).cases.resolve_left (present name leaves declared)
  have found' : List.lookup name (merged layers) = some (.group members) := found
  -- Two groups that were merged into each other as a leaf differ from the higher one in what
  -- is trimmed only, so the leaves are compared without members.
  rw [found', lookup_winning declared]
  refine congrArg some (LayerValue.trim_group_congr (whole.values name _ found members rfl)
    (Catalog.sorted_ofNames _ (Settings.sorted_leaves declared)) fun leaf inside => ?_)
  rw [← Layer.leaf?_of_group found, Layer.leaf?_merged tidy' grouped,
    Catalog.lookup_ofNames _ inside, highest?_value]

end SourcedLayer

/-- A section that some layer gives is not missing in all of them merged. -/
theorem Layer.lookup_merged_ne_none {layers : List Layer} (tidy : ∀ layer ∈ layers, Tidy layer)
    {name : String} (given : ∃ layer ∈ layers, List.lookup name layer ≠ none) :
    List.lookup name (merged layers) ≠ none := by
  induction layers using List.reverseRecOn with
  | nil =>
      obtain ⟨layer, member, -⟩ := given
      cases member
  | append_singleton layers highest ih =>
      obtain ⟨below, above⟩ := List.forall_mem_append.mp tidy
      rw [merged_concat,
        LayerValue.lookup_mergeMembers (List.forall_mem_singleton.mp above).sorted]
      obtain ⟨layer, member, there⟩ := given
      cases here : List.lookup name highest with
      | some value => exact Option.some_ne_none _
      | none =>
          obtain member | member := List.mem_append.mp member
          · exact ih below ⟨layer, member, there⟩
          · rw [List.mem_singleton.mp member] at there
            exact absurd here there

namespace Settings

/-- The layer of settings gives every section as a group. -/
theorem lookup_layer {name : String} {leaves : List String}
    (declared : sections.lookup name = some leaves) (settings : Settings) :
    ∃ members, List.lookup name settings.layer = some (.group members) := by
  simp only [sections, Catalog.lookup_cons, List.lookup_nil] at declared
  split at declared
  · next same =>
      subst same
      exact ⟨_, rfl⟩
  · split at declared
    · next same =>
        subst same
        exact ⟨_, rfl⟩
    · split at declared
      · next same =>
          subst same
          exact ⟨_, rfl⟩
      · cases declared

/-- Layers give the settings that they decode to, if these are accepted. -/
theorem ofLayers_eq_ok_iff (context : String) (layers : List SourcedLayer) (settings : Settings) :
    ofLayers context layers = .ok settings ↔
      (SourcedLayer.merged layers).settings = .ok settings ∧ settings.validate = .ok () := by
  unfold ofLayers
  cases held : (SourcedLayer.merged layers).settings with
  | error fault => simp only [reduceCtorEq, false_and]
  | ok settings' =>
      dsimp only
      rw [Except.ok.injEq]
      cases valid : settings'.validate with
      | error error =>
          dsimp only
          refine ⟨nofun, ?_⟩
          rintro ⟨rfl, accepted⟩
          rw [valid] at accepted
          cases accepted
      | ok value =>
          dsimp only
          rw [Except.ok.injEq]
          refine ⟨?_, And.left⟩
          rintro rfl
          exact ⟨rfl, valid⟩

/-- The result of loading depends on the decoded settings and on the source of each fault only. -/
theorem ofLayers_congr {layers layers' : List SourcedLayer} (context : String)
    (held : (SourcedLayer.merged layers).settings = (SourcedLayer.merged layers').settings)
    (origins : ∀ fault, (SourcedLayer.merged layers).settings = .error fault →
      SourcedLayer.origin? layers fault.path = SourcedLayer.origin? layers' fault.path) :
    ofLayers context layers = ofLayers context layers' := by
  unfold ofLayers
  rw [← held]
  cases failed : (SourcedLayer.merged layers).settings with
  | ok settings => rfl
  | error fault =>
      dsimp only
      rw [origins fault failed]

variable {files files' : FileView} {environment environment' : List Variable}
  {extra extra' : Option String} {layers layers' : List SourcedLayer}

/-- Settings are loaded from these layers: the defaults, the two files of a project, the extra
file, which then has to be there, and the environment. Each of them that has a section of the
settings has a group there. -/
structure LoadedFrom (files : FileView) (environment : List Variable) (extra : Option String)
    (layers : List SourcedLayer) : Prop where
  there : ∀ path ∈ extra, files.contains path = true
  stacked : ∃ read, fileLayers? files ([projectFile, localFile] ++ extra.toList) = some read ∧
    layers = (defaultLayer :: read) ++ [⟨.environment, .ofVariables environment⟩]
  given : ∀ sourced ∈ layers, sourced.layer.GivesSections

/-- All layers that are loaded are tidy. -/
theorem LoadedFrom.tidy (loaded : LoadedFrom files environment extra layers) :
    ∀ sourced ∈ layers, sourced.layer.Tidy := by
  obtain ⟨read, found, rfl⟩ := loaded.stacked
  refine List.forall_mem_append.mpr ⟨List.forall_mem_cons.mpr ⟨?_, ?_⟩, ?_⟩
  · exact tidy_layer {}
  · exact tidy_fileLayers? found
  · exact List.forall_mem_singleton.mpr (Layer.tidy_ofVariables environment)

/-- The layers merged decode as the winning layer does. -/
theorem LoadedFrom.settings_merged (loaded : LoadedFrom files environment extra layers) :
    (SourcedLayer.merged layers).settings = (SourcedLayer.winning layers).settings := by
  refine SourcedLayer.settings_merged loaded.tidy loaded.given fun name leaves declared => ?_
  refine Layer.lookup_merged_ne_none (List.forall_mem_map.mpr loaded.tidy)
    ⟨Settings.layer {}, ?_, ?_⟩
  · obtain ⟨read, -, rfl⟩ := loaded.stacked
    exact List.mem_map.mpr ⟨defaultLayer, List.mem_cons_self, rfl⟩
  · obtain ⟨members, found⟩ := lookup_layer declared {}
    rw [found]
    exact Option.some_ne_none _

/-- Loading is the decoding and checking of the layers. -/
theorem LoadedFrom.load_eq (loaded : LoadedFrom files environment extra layers) :
    load files environment extra =
      ofLayers "Failed to extract configuration from figment" layers := by
  obtain ⟨read, found, rfl⟩ := loaded.stacked
  cases extra with
  | none =>
      change assemble _ (fileLayers? files [projectFile, localFile]) _ = _
      rw [show fileLayers? files [projectFile, localFile] = some read from found]
      rfl
  | some path =>
      have there := loaded.there path rfl
      change (if files.contains path = true then
        assemble _ (fileLayers? files [projectFile, localFile, path]) _ else _) = _
      rw [if_pos there,
        show fileLayers? files [projectFile, localFile, path] = some read from found]
      rfl

/-- **Precedence, leaf by leaf.** Settings are loaded exactly if the highest values of their
leaves make up settings that are accepted, and are these settings. What is loaded, or why
nothing is, depends on nothing but the highest value of each leaf and its source; and a
variable that alone has to do with a leaf sets it. -/
theorem load_by_precedence (loaded : LoadedFrom files environment extra layers) :
    (∀ settings, load files environment extra = .ok settings ↔
      (SourcedLayer.winning layers).settings = .ok settings ∧ settings.validate = .ok ()) ∧
    (∀ files' environment' extra' layers', LoadedFrom files' environment' extra' layers' →
      (∀ name leaf, Declares name leaf →
        SourcedLayer.highest? layers name leaf = SourcedLayer.highest? layers' name leaf) →
      load files environment extra = load files' environment' extra') ∧
    ∀ before source after name leaf, environment = before ++ source :: after →
      source.path? = some [name, leaf] →
      (∀ other ∈ before ++ after, other.Apart [name, leaf]) →
      SourcedLayer.highest? layers name leaf =
        some (.environment, VariableValue.ofText source.value) := by
  refine ⟨fun settings => ?_, fun files' environment' extra' layers' loaded' same => ?_,
    fun before source after name leaf split path apart => ?_⟩
  · rw [loaded.load_eq, ofLayers_eq_ok_iff, loaded.settings_merged]
  · rw [loaded.load_eq, loaded'.load_eq]
    refine ofLayers_congr _ ?_ fun fault failed => ?_
    · rw [loaded.settings_merged, loaded'.settings_merged, SourcedLayer.winning_congr same]
    · rw [loaded.settings_merged] at failed
      obtain ⟨name, leaf, declared, path⟩ :=
        Layer.atDeclared_of_settings_error (SourcedLayer.winning_givesSections layers) failed
      rw [path, ← SourcedLayer.highest?_source, ← SourcedLayer.highest?_source,
        same name leaf declared]
  · obtain ⟨read, -, rfl⟩ := loaded.stacked
    subst split
    unfold SourcedLayer.highest?
    rw [List.reverse_append, List.reverse_singleton, List.singleton_append, List.findSome?_cons,
      Variable.leaf?_ofVariables path apart]
    rfl

/-- Two files of a project, of which the higher one sets right what the lower one spells
wrong. -/
def mendedFiles : FileView where
  text? path :=
    if path = projectFile then
      some "mongodb:\n  database: one\n  connect_timeout_ms: slow\n  color: red\n"
    else if path = localFile then some "mongodb:\n  connect_timeout_ms: 7\n"
    else none
  contains path := path = projectFile || path = localFile

def renamed : Variable :=
  ⟨"TESTBENCH_MONGODB__DATABASE", "two"⟩

/-- The layers of the mended files decode, although one of them alone would not. -/
theorem exists_loadedFrom_mendedFiles : ∃ layers, LoadedFrom mendedFiles [renamed] none layers ∧
    (SourcedLayer.winning layers).settings.toOption =
      some { server := { database := "two", connectTimeout := 7 } } := by
  have checked : (fileLayers? mendedFiles [projectFile, localFile]).any (fun read =>
      let layers := (defaultLayer :: read) ++ [⟨.environment, .ofVariables [renamed]⟩]
      decide (∀ sourced ∈ layers, sourced.layer.GivesSections) &&
        decide ((SourcedLayer.winning layers).settings.toOption =
          some { server := { database := "two", connectTimeout := 7 } })) = true := by
    decide +kernel
  cases found : fileLayers? mendedFiles [projectFile, localFile] with
  | none =>
      rw [found] at checked
      cases checked
  | some read =>
      rw [found] at checked
      simp only [Option.any_some, Bool.and_eq_true, decide_eq_true_eq] at checked
      exact ⟨_, ⟨nofun, ⟨read, found, rfl⟩, checked.1⟩, checked.2⟩

/-- A badly typed value does no harm below a good one, and the variable wins over both files. -/
theorem load_by_precedence_mended : ∃ layers, LoadedFrom mendedFiles [renamed] none layers ∧
    load mendedFiles [renamed] none =
      .ok { server := { database := "two", connectTimeout := 7 } } ∧
    SourcedLayer.highest? layers "mongodb" "database" = some (.environment, .text "two") := by
  obtain ⟨layers, loaded, held⟩ := exists_loadedFrom_mendedFiles
  obtain ⟨accepted, -, variable'⟩ := load_by_precedence loaded
  have settings : (SourcedLayer.winning layers).settings =
      .ok { server := { database := "two", connectTimeout := 7 } } := by
    cases winning : (SourcedLayer.winning layers).settings with
    | error fault => rw [winning] at held; cases held
    | ok settings =>
        rw [winning] at held
        exact congrArg Except.ok (Option.some.inj held)
  refine ⟨layers, loaded, (accepted _).mpr ⟨settings, by rfl⟩, ?_⟩
  exact variable' [] renamed [] "mongodb" "database" rfl (by rfl) nofun

end Settings

end SchemaBootstrap
