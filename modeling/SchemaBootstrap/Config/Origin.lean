import SchemaBootstrap.Config.Layer
import SchemaBootstrap.Text.Pieces
import SchemaBootstrap.Text.Quoted

/-! # Where settings come from

A layer is kept together with its source. The value that a merged layer has in some
place was put there by the highest layer that has a value there
(`SourcedLayer.origin?`), and a fault in a value is reported with its source
(`LayerSource.description`).
-/

namespace SchemaBootstrap

namespace LayerValue

/-- The value at the end of a path of names; a list names its elements by position. -/
def at? : LayerValue → List String → Option LayerValue
  | value, [] => some value
  | .group members, name :: rest => (members.lookup name).bind fun member => member.at? rest
  | .list elements, name :: rest =>
    (name.toNat?.bind fun position => elements[position]?).bind fun element => element.at? rest
  | _, _ :: _ => none

end LayerValue

/-- What a layer is read from. -/
inductive LayerSource where
  | defaults
  | file (path : String)
  | environment
  deriving DecidableEq, Repr

/-- A layer and its source. -/
structure SourcedLayer where
  source : LayerSource
  layer : Layer

namespace SourcedLayer

/-- The layers from the lowest to the highest, merged. -/
def merged (layers : List SourcedLayer) : Layer :=
  Layer.merged (layers.map layer)

/-- The source of the highest layer that has a value at the end of a path. -/
def origin? (layers : List SourcedLayer) (path : List String) : Option LayerSource :=
  (layers.reverse.find? fun sourced => ((LayerValue.group sourced.layer).at? path).isSome).map
    source

end SourcedLayer

namespace LayerSource

/-- A path without the names that stay where they are. -/
def plainPath (path : String) : String :=
  let names := (Text.pieces '/' path.toList).filter fun name => name ≠ [] && name ≠ ['.']
  let relative := Text.joined "/" (names.map String.ofList)
  if path.toList.head? = some '/' then "/" ++ relative else relative

/-- The words that tell the place of a value and its source. -/
def description (path : List String) : LayerSource → String
  | defaults => ""
  | file name =>
    " for key " ++ Text.quoted ("default." ++ Text.joined "." path) ++ " in " ++ plainPath name
      ++ " YAML file"
  | environment =>
    let key := String.ofList ((Text.joined "." path).toList.map Char.toUpper)
    " for key " ++ Text.quoted key ++ " in " ++ Wording.ticked "TESTBENCH_"
      ++ " environment variable(s)"

end LayerSource

end SchemaBootstrap
