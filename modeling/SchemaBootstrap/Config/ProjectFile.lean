import SchemaBootstrap.Config.Layer
import SchemaBootstrap.Yaml.Node
import SchemaBootstrap.Yaml.Scalar

/-! # Layers from files

A file holds a layer as a YAML mapping (`Layer.ofFile?`). Names are the texts of
scalars, and a name that occurs twice has its last value. A value with a tag of the
document's own is a group with that tag as its only name. An empty document is an
empty layer; any other content is no layer.
-/

namespace SchemaBootstrap

namespace Layer

/-- How many collections may stand inside each other. -/
def nestingLimit : Nat :=
  128

/-- Counts one more jump to a node with an anchor, if that is not too many. -/
def jump (jumps : Nat) : Option Nat :=
  match jumps with
  | 0 => none
  | jumps + 1 => some jumps

/-- The name that a node stands for, and how many jumps to anchors are left. -/
def name? (anchored : List (Nat × Yaml.Node)) (jumps : Nat) : Yaml.Node → Option (String × Nat)
  | .scalar _ _ text => some (String.ofList text, jumps)
  | .alias anchor => do
    let jumps ← jump jumps
    match anchored.lookup anchor with
    | some (.scalar _ _ text) => pure (String.ofList text, jumps)
    | _ => none
  | _ => none

/-- Whether a tag is one of the document's own. -/
def isLocalTag (tag : Yaml.TagText) : Bool :=
  tag.head? = some (some '!')

/-- The name that a tag of the document's own gives to a value. -/
def tagName? (tag : Option Yaml.TagText) : Option String :=
  (tag.filter isLocalTag).bind fun tag => (tag.tail.mapM id).map String.ofList

/-- A value below the name that its tag gives to it, if there is one. -/
def tagged (tag : Option Yaml.TagText) (value : LayerValue) : LayerValue :=
  match tagName? tag with
  | some name => .group [(name, value)]
  | none => value

/-- The value of a scalar. -/
def ofScalar : Yaml.Scalar → LayerValue
  | .null => .null
  | .bool value => .bool value
  | .unsigned value => .unsigned value
  | .signed value => .signed value
  | .double value => .double value
  | .string value => .text value

/-- The value of a scalar with its tag and style. A tag of the document's own does not
change it. -/
def scalar? (tag : Option Yaml.TagText) (plain : Bool) (text : List Char) : Option LayerValue :=
  match tag.filter (!isLocalTag ·) with
  | some tag => (Yaml.Scalar.ofTagged? tag text).map ofScalar
  | none => some (ofScalar (if plain then .ofPlain text else .string (String.ofList text)))

mutual

/-- The number of a node's own marks in the stream of a document. -/
def size : Yaml.Node → Nat
  | .scalar _ _ _ => 1
  | .alias _ => 1
  | .sequence _ elements => 2 + sizeElements elements
  | .mapping _ pairs => 2 + sizePairs pairs

/-- The marks of several nodes. -/
def sizeElements : List Yaml.Node → Nat
  | [] => 0
  | element :: rest => size element + sizeElements rest

/-- The marks of several pairs of nodes. -/
def sizePairs : List (Yaml.Node × Yaml.Node) → Nat
  | [] => 0
  | (key, value) :: rest => size key + size value + sizePairs rest

end

mutual

/-- The value of a node, given how many collections may still be entered, how many
tokens of fuel there are, and how many jumps to anchors are left. -/
def value? (anchored : List (Nat × Yaml.Node)) :
    (fuel depth jumps : Nat) → Yaml.Node → Option (LayerValue × Nat)
  | 0, _, _, _ => none
  | fuel + 1, depth, jumps, node =>
    match node with
    | .alias anchor => do
      let jumps ← jump jumps
      let node ← anchored.lookup anchor
      value? anchored fuel depth jumps node
    | .scalar tag plain text => do
      let value ← scalar? tag plain text
      pure (tagged tag value, jumps)
    | .sequence tag elements => do
      if depth = 0 then none
      let (values, jumps) ← elements? anchored fuel (depth - 1) jumps elements
      pure (tagged tag (.list values), jumps)
    | .mapping tag pairs => do
      if depth = 0 then none
      let (members, jumps) ← members? anchored fuel (depth - 1) jumps [] pairs
      pure (tagged tag (.group members), jumps)

/-- The values of several nodes. -/
def elements? (anchored : List (Nat × Yaml.Node)) :
    (fuel depth jumps : Nat) → List Yaml.Node → Option (List LayerValue × Nat)
  | 0, _, _, _ => none
  | _, _, jumps, [] => some ([], jumps)
  | fuel + 1, depth, jumps, element :: rest => do
    let (value, jumps) ← value? anchored fuel depth jumps element
    let (values, jumps) ← elements? anchored fuel depth jumps rest
    pure (value :: values, jumps)

/-- The members that pairs of nodes add to a group. -/
def members? (anchored : List (Nat × Yaml.Node)) :
    (fuel depth jumps : Nat) → Layer → List (Yaml.Node × Yaml.Node) → Option (Layer × Nat)
  | 0, _, _, _, _ => none
  | _, _, jumps, members, [] => some (members, jumps)
  | fuel + 1, depth, jumps, members, (key, value) :: rest => do
    let (name, jumps) ← name? anchored jumps key
    let (value, jumps) ← value? anchored fuel depth jumps value
    members? anchored fuel depth jumps (Catalog.put name value members) rest

end

/-- The layer of a document: its members, if its root is a mapping or empty. -/
def ofDocument? (document : Yaml.Document) : Option Layer :=
  match document.root with
  | .mapping _ pairs =>
    let size := size document.root
    let fuel := (size + 2) * (nestingLimit + 2)
    (members? document.anchored fuel (nestingLimit - 1) (100 * size) [] pairs).map Prod.fst
  | .scalar _ true [] => some []
  | _ => none

/-- The layer that the text of a file holds. -/
def ofFile? (text : String) : Option Layer :=
  (Yaml.Token.ofText? text.toList).bind fun tokens =>
    (Yaml.Document.ofTokens? tokens).bind fun document =>
      match document with
      | none => some []
      | some document => ofDocument? document

end Layer

end SchemaBootstrap
