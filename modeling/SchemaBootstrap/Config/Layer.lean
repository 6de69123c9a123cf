import SchemaBootstrap.Config.Reading
import SchemaBootstrap.Decimal.Power
import SchemaBootstrap.Store.Catalog

/-! # Layers of settings

Settings come in layers of values by name. A higher layer is merged into a lower
one name by name, group by group (`LayerValue.merge`); any other value replaces
the one below it. The members of a group are sorted by name.
-/

namespace SchemaBootstrap

/-- A value of a layer. -/
inductive LayerValue where
  | null
  | bool (value : Bool)
  /-- A number without a minus sign. -/
  | unsigned (value : Nat)
  /-- A number with a minus sign. -/
  | signed (value : Int)
  | double (value : Double)
  | text (value : String)
  | list (elements : List LayerValue)
  | group (members : List (String × LayerValue))
  deriving Inhabited, Repr

namespace LayerValue

mutual

/-- A value with a value of a higher layer merged into it. -/
def merge (low : LayerValue) : LayerValue → LayerValue
  | .group high =>
    match low with
    | .group members => .group (mergeMembers members high)
    | _ => .group high
  | high => high

/-- The members of a group with those of a higher layer merged into them. -/
def mergeMembers (low : List (String × LayerValue)) :
    List (String × LayerValue) → List (String × LayerValue)
  | [] => low
  | (name, value) :: rest =>
    let merged := match low.lookup name with
      | some old => merge old value
      | none => value
    mergeMembers (Catalog.put name merged low) rest

end

/-- What a value is, in a fault. A number that no machine word holds is described. -/
def found : LayerValue → Found
  | .null => .unit
  | .bool value => .bool value
  | .unsigned value =>
    if value < twoTo 64 then .unsigned value
    else .other ("integer " ++ Wording.ticked (Nat.repr value) ++ " as u128")
  | .signed value =>
    if -(twoTo 63) ≤ value then .signed value
    else .other ("integer " ++ Wording.ticked (Wording.integer value) ++ " as i128")
  | .double value => .double value
  | .text value => .text value
  | .list _ => .sequence
  | .group _ => .map

/-- Refuses a value in favour of what was expected. -/
def refuse (expected : String) (value : LayerValue) : Except DecodeFault α :=
  .error (.wrongType value.found expected)

/-- Reads a text. -/
def readText : LayerValue → Except DecodeFault String
  | .text value => .ok value
  | value => refuse "a string" value

/-- Reads a natural number below two to the power of sixty-four. -/
def readWord (value : LayerValue) : Except DecodeFault UInt64 :=
  match value, value.found with
  | .unsigned number, .unsigned _ => .ok number.toUInt64
  | .signed number, .signed _ =>
    if number < 0 then .error (.wrongValue (.signed number) "u64") else .ok number.toNat.toUInt64
  | _, _ => refuse "u64" value

/-- Reads the name of a directory, null being its absence. -/
def readDirectory : LayerValue → Except DecodeFault (Option String)
  | .null => .ok none
  | .text value => .ok (some value)
  | value => refuse "path string" value

/-- Reads a record from a group, or from a list of its fields. -/
def readRecord (name : String) (count : Nat) (fields : Fields LayerValue α) :
    LayerValue → Except DecodeFault α
  | .group members => fields.run (.pairs members)
  | .list elements =>
    fields.run
      (.elements elements ("struct " ++ name ++ " with " ++ Nat.repr count ++ " elements"))
  | value => refuse ("struct " ++ name) value

end LayerValue

/-- Settings are read from the values of layers. -/
def SettingReader.layer : SettingReader LayerValue where
  text := LayerValue.readText
  word := LayerValue.readWord
  directory := LayerValue.readDirectory
  record := LayerValue.readRecord

/-- A layer: values by name. -/
abbrev Layer := List (String × LayerValue)

namespace Layer

/-- A group of a layer whose members may come in any order. -/
def groupOf (members : List (String × LayerValue)) : LayerValue :=
  .group (members.foldl (fun sorted member => Catalog.put member.1 member.2 sorted) [])

/-- Layers merged from the lowest to the highest. -/
def merged (layers : List Layer) : Layer :=
  layers.foldl LayerValue.mergeMembers []

end Layer

/-- The layer of settings. -/
def Settings.layer (settings : Settings) : Layer :=
  let word : UInt64 → LayerValue := fun value => .unsigned value.toNat
  [("logging",
      Layer.groupOf
        [("level", .text settings.logging.level), ("format", .text settings.logging.format),
          ("log_dir",
            match settings.logging.directory with
            | some directory => .text directory
            | none => .null)]),
    ("mongodb",
      Layer.groupOf
        [("uri", .text settings.server.uri), ("database", .text settings.server.database),
          ("app_name", .text settings.server.appName),
          ("connect_timeout_ms", word settings.server.connectTimeout),
          ("server_selection_timeout_ms", word settings.server.selectionTimeout)]),
    ("retry",
      Layer.groupOf
        [("initial_backoff_ms", word settings.retry.initialBackoff),
          ("max_backoff_ms", word settings.retry.maximumBackoff),
          ("max_elapsed_ms", word settings.retry.maximumElapsed)])]

/-- The settings that a layer holds. -/
def Layer.settings (layer : Layer) : Except DecodeFault Settings :=
  Settings.read .layer (.group layer)

end SchemaBootstrap
