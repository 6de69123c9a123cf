import SchemaBootstrap.Config.Environment
import SchemaBootstrap.Config.Origin
import SchemaBootstrap.Config.ProjectFile
import SchemaBootstrap.Config.Validation

/-! # Loading settings

Settings are merged from the defaults, the two files of a project, an extra file and
the environment, each layer above the ones before it (`Settings.load`); or from the
defaults and one named file alone (`Settings.loadFile`). A file that is not there
adds nothing, except that an extra file has to exist.
-/

namespace SchemaBootstrap

/-- The files that settings are read from, and the directories for the log. -/
structure FileView where
  /-- The text of the file at a path; nothing if there is no file. -/
  text? : String → Option String
  /-- Whether there is anything at a path. -/
  contains : String → Bool
  /-- Whether a log file can be opened in a directory, which is made if need be. -/
  keepsLog : String → Bool := fun _ => true

/-- Why settings cannot be loaded. -/
inductive LoadError where
  /-- There is nothing at the path of the extra file. -/
  | missingFile (path : String)
  /-- A file does not hold a layer. -/
  | unreadable (context : String)
  /-- The merged layers do not make up settings. -/
  | unfit (context : String) (fault : DecodeFault) (origin : LayerSource)
  /-- The settings cannot be worked with. -/
  | invalid (error : SettingError)
  deriving DecidableEq, Repr

namespace Settings

/-- The file with the settings of a project. -/
def projectFile : String :=
  ".testbench/config.yaml"

/-- The file with the settings of a project on one machine. -/
def localFile : String :=
  ".testbench/local.yaml"

/-- The layer of a file; an empty one if there is no file. -/
def fileLayer? (files : FileView) (path : String) : Option Layer :=
  match files.text? path with
  | some text => Layer.ofFile? text
  | none => some []

/-- The layers of files, if each holds one. -/
def fileLayers? (files : FileView) (paths : List String) : Option (List SourcedLayer) :=
  paths.mapM fun path => (fileLayer? files path).map fun layer => ⟨.file path, layer⟩

/-- The lowest layer. -/
def defaultLayer : SourcedLayer :=
  ⟨.defaults, Settings.layer {}⟩

/-- The settings that layers make up. -/
def ofLayers (context : String) (layers : List SourcedLayer) : Except LoadError Settings :=
  match (SourcedLayer.merged layers).settings with
  | .error fault =>
    let origin := (SourcedLayer.origin? layers fault.path).getD .defaults
    .error (.unfit context fault origin)
  | .ok settings =>
    match settings.validate with
    | .error error => .error (.invalid error)
    | .ok () => .ok settings

/-- The settings that the defaults, the layers of files and a layer above them make up. -/
def assemble (context : String) (files? : Option (List SourcedLayer)) (highest : Layer) :
    Except LoadError Settings :=
  match files? with
  | none => .error (.unreadable context)
  | some layers => ofLayers context ((defaultLayer :: layers) ++ [⟨.environment, highest⟩])

/-- Loads settings from the files of a project, an extra file and the environment. -/
def load (files : FileView) (environment : List Variable) (extra : Option String) :
    Except LoadError Settings :=
  let context := "Failed to extract configuration from figment"
  let assembled (paths : List String) : Except LoadError Settings :=
    assemble context (fileLayers? files paths) (Layer.ofVariables environment)
  match extra with
  | none => assembled [projectFile, localFile]
  | some path =>
    if files.contains path then assembled [projectFile, localFile, path]
    else .error (.missingFile path)

/-- Loads settings from one file. -/
def loadFile (files : FileView) (path : String) : Except LoadError Settings :=
  assemble ("Failed to load config from " ++ path) (fileLayers? files [path]) []

end Settings

end SchemaBootstrap
