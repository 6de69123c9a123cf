import SchemaBootstrap.Config.FileTree
import SchemaBootstrap.Proofs.Config.Precedence

/-! # Two ways to a named file

A file is named as the extra file of a project (`Settings.load`), or alone
(`Settings.loadFile`). Where there is neither a project nor a variable for settings
(`Settings.Bare`), the layers of the two ways differ by empty ones only, which do not count
(`Layer.merged_filter`). So both ways load the same settings if there is anything at the path.
If there is nothing, the extra file is missed, while the file alone is taken for an empty one:
the defaults are loaded (`Settings.named_file_loaded_alike`).
-/

namespace SchemaBootstrap

/-- A variable whose name does not start as those for settings do sets nothing. -/
theorem Variable.path?_of_foreign {source : Variable}
    (foreign : ¬ lead <+: Text.lowerAscii (Text.trim source.name.toList)) :
    source.path? = none := by
  have other : lead.isPrefixOf (Text.lowerAscii (Text.trim source.name.toList)) = false :=
    Bool.eq_false_iff.mpr fun starts => foreign (List.isPrefixOf_iff_prefix.mp starts)
  simp only [path?, VariableValue.afterWord?, other, Bool.false_eq_true, ↓reduceIte,
    Option.bind_none]

namespace Layer

/-- Layers without values do not count. -/
theorem merged_filter (layers : List Layer) :
    merged (layers.filter fun layer => !layer.isEmpty) = merged layers := by
  unfold merged
  rw [List.foldl_filter]
  refine congrArg (fun step => layers.foldl step []) ?_
  funext low high
  cases high with
  | nil => rw [LayerValue.mergeMembers]; rfl
  | cons entry rest => rfl

/-- Variables that set nothing give an empty layer. -/
theorem ofVariables_of_unset {environment : List Variable}
    (unset : ∀ source ∈ environment, source.path? = none) : ofVariables environment = [] := by
  have none_left : (environment.map Variable.layer).filter (fun layer => !layer.isEmpty) = [] := by
    refine List.filter_eq_nil_iff.mpr (List.forall_mem_map.mpr fun source member => ?_)
    rw [Variable.layer, unset source member]
    exact Bool.false_ne_true
  rw [ofVariables, ← merged_filter, none_left]
  rfl

end Layer

namespace Settings

/-- There are no settings but the defaults and those of a named file: a project has no file, and
no variable leads to a value. -/
structure Bare (files : FileView) (environment : List Variable) : Prop where
  noProject : files.text? projectFile = none
  noLocal : files.text? localFile = none
  unset : ∀ source ∈ environment, source.path? = none

variable {files : FileView} {environment : List Variable} {path : String}

/-- A file that is absent gives an empty layer. -/
theorem fileLayers?_cons_of_absent (absent : files.text? path = none) (paths : List String) :
    fileLayers? files (path :: paths) =
      (fileLayers? files paths).map fun read => ⟨.file path, []⟩ :: read := by
  have empty : fileLayer? files path = some [] := by rw [fileLayer?, absent]
  have step : fileLayers? files (path :: paths) =
      (fileLayers? files paths).bind fun read => some (⟨.file path, []⟩ :: read) := by
    unfold fileLayers?
    rw [List.mapM_cons, empty]
    rfl
  rw [step]
  cases fileLayers? files paths <;> rfl

/-- Empty layers do not count for the settings. -/
theorem ofLayers_eq_ok_iff_of_filter {context context' : String}
    {layers layers' : List SourcedLayer}
    (same : (layers.map SourcedLayer.layer).filter (fun layer => !layer.isEmpty) =
      (layers'.map SourcedLayer.layer).filter fun layer => !layer.isEmpty) (settings : Settings) :
    ofLayers context layers = .ok settings ↔ ofLayers context' layers' = .ok settings := by
  have merged : SourcedLayer.merged layers = SourcedLayer.merged layers' := by
    rw [SourcedLayer.merged, ← Layer.merged_filter, same, Layer.merged_filter]
    rfl
  rw [ofLayers_eq_ok_iff, ofLayers_eq_ok_iff, merged]

/-- Beside nothing else, a file that is there gives the same settings either way. -/
theorem Bare.load_eq_ok_iff (bare : Bare files environment)
    (present : files.contains path = true) (settings : Settings) :
    load files environment (some path) = .ok settings ↔ loadFile files path = .ok settings := by
  have named : fileLayers? files [projectFile, localFile, path] =
      (fileLayers? files [path]).map fun read =>
        ⟨.file projectFile, []⟩ :: ⟨.file localFile, []⟩ :: read := by
    rw [fileLayers?_cons_of_absent bare.noProject, fileLayers?_cons_of_absent bare.noLocal,
      Option.map_map]
    rfl
  unfold load loadFile
  dsimp only
  rw [if_pos present, named, Layer.ofVariables_of_unset bare.unset]
  cases fileLayers? files [path] with
  -- A file that holds no layer is refused by both ways, with messages of their own.
  | none => simp only [Option.map_none, assemble, reduceCtorEq]
  | some read => exact ofLayers_eq_ok_iff_of_filter (by simp [List.filter_cons]) settings

/-- The loading of all layers refuses a named file that is missing. -/
theorem load_of_missing (missing : files.contains path = false) :
    load files environment (some path) = .error (.missingFile path) := by
  unfold load
  dsimp only
  rw [missing, if_neg Bool.false_ne_true]

/-- The loading of the file alone gives the defaults where there is no text. -/
theorem loadFile_of_absent (absent : files.text? path = none) : loadFile files path = .ok {} := by
  have alone : fileLayers? files [path] = some [⟨.file path, []⟩] :=
    fileLayers?_cons_of_absent absent []
  have defaults : ofLayers "" [defaultLayer] = .ok {} :=
    (ofLayers_eq_ok_iff _ _ _).mpr ⟨rfl, rfl⟩
  rw [loadFile, alone, assemble]
  refine (ofLayers_eq_ok_iff_of_filter ?_ {}).mp defaults
  simp [List.filter_cons]

/-- **A named file is loaded alike in two ways** where there is nothing else to load. If there
is anything at the path, be it a directory, the two ways load the same settings, or both load
none. If there is nothing, the extra file is missed, and a file alone that is not there leaves
the defaults. So the two ways agree exactly if there is something at the path, or the file alone
is refused. -/
theorem named_file_loaded_alike (bare : Bare files environment) (path : String) :
    (files.contains path = true → ∀ settings,
      load files environment (some path) = .ok settings ↔ loadFile files path = .ok settings) ∧
    (files.contains path = false →
      load files environment (some path) = .error (.missingFile path)) ∧
    (files.text? path = none → loadFile files path = .ok {}) ∧
    ((∀ settings,
        load files environment (some path) = .ok settings ↔ loadFile files path = .ok settings) ↔
      files.contains path = true ∨ ∃ error, loadFile files path = .error error) := by
  refine ⟨bare.load_eq_ok_iff, load_of_missing, loadFile_of_absent, fun alike => ?_, ?_⟩
  · cases present : files.contains path with
    | true => exact .inl rfl
    | false =>
        cases alone : loadFile files path with
        | error error => exact .inr ⟨error, rfl⟩
        | ok settings =>
            have loaded := (alike settings).mpr alone
            rw [load_of_missing present] at loaded
            cases loaded
  · rintro (present | ⟨error, refused⟩) settings
    · exact bare.load_eq_ok_iff present settings
    · cases present : files.contains path with
      | true => exact bare.load_eq_ok_iff present settings
      | false =>
          rw [load_of_missing present, refused]
          simp only [reduceCtorEq]

/-- One file beside the project. -/
def ciFiles : FileView :=
  FileTree.view ⟨[("ci.yaml", "mongodb:\n  database: ci\n")]⟩

/-- Beside the named file there is nothing else to load. -/
theorem bare_ciFiles : Bare ciFiles [⟨"HOME", "/root"⟩] where
  noProject := by decide +kernel
  noLocal := by decide +kernel
  unset := by
    refine List.forall_mem_singleton.mpr (Variable.path?_of_foreign ?_)
    decide +kernel

/-- The named file changes one setting. -/
theorem loadFile_ciFiles :
    loadFile ciFiles "ci.yaml" = .ok { server := { database := "ci" } } := by
  have held : (loadFile ciFiles "ci.yaml").toOption =
      some { server := { database := "ci" } } := by decide +kernel
  cases loaded : loadFile ciFiles "ci.yaml" with
  | error error => rw [loaded] at held; cases held
  | ok settings =>
      rw [loaded] at held
      exact congrArg Except.ok (Option.some.inj held)

/-- A named file that is there is loaded alike, whether alone or with all layers. -/
theorem named_file_loaded_alike_beside_project :
    Bare ciFiles [⟨"HOME", "/root"⟩] ∧
    load ciFiles [⟨"HOME", "/root"⟩] (some "ci.yaml") = .ok { server := { database := "ci" } } ∧
    load ciFiles [⟨"HOME", "/root"⟩] (some "cl.yaml") = .error (.missingFile "cl.yaml") ∧
    loadFile ciFiles "cl.yaml" = .ok {} := by
  obtain ⟨alike, -⟩ := named_file_loaded_alike bare_ciFiles "ci.yaml"
  obtain ⟨-, missed, left, -⟩ := named_file_loaded_alike bare_ciFiles "cl.yaml"
  exact ⟨bare_ciFiles, (alike (by decide +kernel) _).mpr loadFile_ciFiles,
    missed (by decide +kernel), left (by decide +kernel)⟩

/-- A file that is not there is loaded alone, and not as an extra file. -/
theorem missing_file_loaded_alone :
    ¬ ∀ files environment path, Bare files environment → ∀ settings,
      load files environment (some path) = .ok settings ↔ loadFile files path = .ok settings := by
  intro alike
  have bare : Bare (FileTree.view ⟨[]⟩) [] := ⟨rfl, rfl, nofun⟩
  have alone : loadFile (FileTree.view ⟨[]⟩) "missing.yaml" = .ok {} := loadFile_of_absent rfl
  have loaded := (alike _ _ _ bare _).mpr alone
  rw [load_of_missing rfl] at loaded
  cases loaded

end Settings

end SchemaBootstrap
