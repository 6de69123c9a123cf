import SchemaBootstrap.Yaml.Token

/-! # Nodes of a YAML document

The tokens of a text are put together to nodes: scalars, sequences, mappings, and
aliases of nodes that carry an anchor. A text holds at most one document
(`Document.ofTokens?`). The fuel bounds the number of nodes.
-/

namespace SchemaBootstrap

namespace Yaml

/-- A node of a document. A tag is given in full. -/
inductive Node where
  | scalar (tag : Option TagText) (plain : Bool) (text : List Char)
  | sequence (tag : Option TagText) (elements : List Node)
  | mapping (tag : Option TagText) (pairs : List (Node × Node))
  | alias (anchor : Nat)
  deriving Inhabited, Repr

/-- An absent node. -/
def Node.empty : Node :=
  .scalar none true []

/-- A document: its root, and the nodes that have anchors, the one that starts last first. -/
structure Document where
  root : Node
  anchored : List (Nat × Node)

/-- What is left of the tokens of a document, and what has been declared before. -/
structure Reading where
  tokens : List Token
  /-- The expansions of the handles of tags. -/
  handles : List (List Char × TagText) :=
    [(['!'], [some '!']), (['!', '!'], "tag:yaml.org,2002:".toList.map some)]
  /-- The numbers of the anchors. -/
  names : List (List Char × Nat) := []
  anchored : List (Nat × Node) := []

/-- What stands before a node. -/
structure Properties where
  anchor : Option Nat := none
  tag : Option TagText := none

namespace Properties

/-- Whether nothing stands before a node. -/
def isEmpty (properties : Properties) : Bool :=
  properties.anchor.isNone && properties.tag.isNone

end Properties

namespace Reading

/-- Goes on with other tokens. -/
def moveTo (reading : Reading) (tokens : List Token) : Reading :=
  { reading with tokens }

/-- Numbers an anchor by the names before it. One that is declared again is numbered
anew, and a name after it may come to the same number. -/
def declare (reading : Reading) (name : List Char) : Nat × Reading :=
  let number := reading.names.length
  let others := reading.names.filter fun entry => entry.1 != name
  (number, { reading with names := (name, number) :: others })

/-- The full tag of a handle and a suffix. -/
def expand? (reading : Reading) (handle : List Char) (suffix : TagText) : Option TagText :=
  if handle.isEmpty then some suffix
  else (reading.handles.lookup handle).map (· ++ suffix)

/-- Reads the anchor and the tag before a node, in either order. -/
def properties? (reading : Reading) : Option (Properties × Reading) :=
  match reading.tokens with
  | .anchor name :: .tag handle suffix :: rest =>
    let (number, reading) := reading.declare name
    (reading.expand? handle suffix).map fun tag => (⟨some number, some tag⟩, reading.moveTo rest)
  | .tag handle suffix :: .anchor name :: rest =>
    let (number, reading) := reading.declare name
    (reading.expand? handle suffix).map fun tag => (⟨some number, some tag⟩, reading.moveTo rest)
  | .anchor name :: rest =>
    let (number, reading) := reading.declare name
    some (⟨some number, none⟩, reading.moveTo rest)
  | .tag handle suffix :: rest =>
    (reading.expand? handle suffix).map fun tag => (⟨none, some tag⟩, reading.moveTo rest)
  | _ => some ({}, reading)

/-- Records the node that carries an anchor, given the number of nodes recorded before it
was read: those since then are inside it, and start later. -/
def record (reading : Reading) (before : Nat) (properties : Properties) (node : Node) : Reading :=
  match properties.anchor with
  | some number =>
    let inside := reading.anchored.length - before
    { reading with
      anchored := reading.anchored.take inside ++ (number, node) :: reading.anchored.drop inside }
  | none => reading

/-- Whether the next token is one of some, or there is none. -/
def atOne (reading : Reading) (tokens : List Token) : Bool :=
  match reading.tokens with
  | [] => true
  | token :: _ => tokens.contains token

end Reading

mutual

/-- Reads a node. Block collections are only read where `block` says so, and a sequence
that is not indented where `indentless` says so. -/
def readNode : (fuel : Nat) → (block indentless : Bool) → Reading → Option (Node × Reading)
  | 0, _, _, _ => none
  | fuel + 1, block, indentless, reading =>
    match reading.tokens with
    | .alias name :: rest =>
      (reading.names.lookup name).map fun number => (.alias number, reading.moveTo rest)
    | _ =>
      let before := reading.anchored.length
      reading.properties?.bind fun (properties, reading) =>
        (readContent fuel block indentless properties reading).map fun (node, reading) =>
          (node, reading.record before properties node)

/-- Reads what follows the anchor and the tag of a node. The lone exclamation mark says
nothing of a scalar that is written out. -/
def readContent : (fuel : Nat) → (block indentless : Bool) → Properties → Reading →
    Option (Node × Reading)
  | 0, _, _, _, _ => none
  | fuel + 1, block, indentless, properties, reading =>
    let absent := if properties.isEmpty then none
      else some (Node.scalar properties.tag true [], reading)
    let sequence := Option.map fun (elements, reading) =>
      (Node.sequence properties.tag elements, reading)
    let mapping := Option.map fun (pairs, reading) => (Node.mapping properties.tag pairs, reading)
    match reading.tokens with
    | .entry :: _ => if indentless then sequence (readIndentless fuel reading) else absent
    | .scalar plain text :: rest =>
      let tag := properties.tag.filter (· != [some '!'])
      some (.scalar tag plain text, reading.moveTo rest)
    | .flowSequence :: rest => sequence (readFlowElements fuel true (reading.moveTo rest))
    | .flowMapping :: rest => mapping (readFlowPairs fuel true (reading.moveTo rest))
    | .blockSequence :: rest =>
      if block then sequence (readElements fuel (reading.moveTo rest)) else absent
    | .blockMapping :: rest =>
      if block then mapping (readPairs fuel (reading.moveTo rest)) else absent
    | _ => absent

/-- Reads a node, or an absent one before one of some tokens. -/
def readOptional : (fuel : Nat) → (block indentless : Bool) → (stops : List Token) → Reading →
    Option (Node × Reading)
  | 0, _, _, _, _ => none
  | fuel + 1, block, indentless, stops, reading =>
    if !reading.tokens.isEmpty && reading.atOne stops then some (.empty, reading)
    else readNode fuel block indentless reading

/-- Reads the elements of a block sequence up to its end. -/
def readElements : (fuel : Nat) → Reading → Option (List Node × Reading)
  | 0, _ => none
  | fuel + 1, reading =>
    match reading.tokens with
    | .blockEnd :: rest => some ([], reading.moveTo rest)
    | .entry :: rest => do
      let (element, reading) ←
        readOptional fuel true false [.entry, .blockEnd] (reading.moveTo rest)
      let (elements, reading) ← readElements fuel reading
      pure (element :: elements, reading)
    | _ => none

/-- Reads the elements of a sequence in the column of its mapping. -/
def readIndentless : (fuel : Nat) → Reading → Option (List Node × Reading)
  | 0, _ => none
  | fuel + 1, reading =>
    match reading.tokens with
    | .entry :: rest => do
      let (element, reading) ←
        readOptional fuel true false [.entry, .key, .value, .blockEnd] (reading.moveTo rest)
      let (elements, reading) ← readIndentless fuel reading
      pure (element :: elements, reading)
    | _ => some ([], reading)

/-- Reads the pairs of a block mapping up to its end. -/
def readPairs : (fuel : Nat) → Reading → Option (List (Node × Node) × Reading)
  | 0, _ => none
  | fuel + 1, reading =>
    match reading.tokens with
    | .blockEnd :: rest => some ([], reading.moveTo rest)
    | .key :: rest => do
      let stops := [.key, .value, .blockEnd]
      let (key, reading) ← readOptional fuel true true stops (reading.moveTo rest)
      let (value, reading) ← readValue fuel true true stops reading
      let (pairs, reading) ← readPairs fuel reading
      pure ((key, value) :: pairs, reading)
    | _ => none

/-- Reads the value of a key, which is absent without a colon. -/
def readValue : (fuel : Nat) → (block indentless : Bool) → (stops : List Token) → Reading →
    Option (Node × Reading)
  | 0, _, _, _, _ => none
  | fuel + 1, block, indentless, stops, reading =>
    match reading.tokens with
    | .value :: rest => readOptional fuel block indentless stops (reading.moveTo rest)
    | _ => some (.empty, reading)

/-- Reads the elements of a flow sequence up to its end. -/
def readFlowElements : (fuel : Nat) → (first : Bool) → Reading → Option (List Node × Reading)
  | 0, _, _ => none
  | fuel + 1, first, reading =>
    match reading.tokens with
    | .flowSequenceEnd :: rest => some ([], reading.moveTo rest)
    | .separator :: rest =>
      if first then none
      else
        match rest with
        | .flowSequenceEnd :: rest => some ([], reading.moveTo rest)
        | _ => readFlowElement fuel (reading.moveTo rest)
    | _ => if first then readFlowElement fuel reading else none

/-- Reads an element of a flow sequence, which may be a single pair, and those after it. -/
def readFlowElement : (fuel : Nat) → Reading → Option (List Node × Reading)
  | 0, _ => none
  | fuel + 1, reading => do
    let (element, reading) ← match reading.tokens with
      | .key :: rest => do
        let (pair, reading) ← readFlowPair fuel (reading.moveTo rest)
        pure (Node.mapping none [pair], reading)
      | _ => readNode fuel false false reading
    let (elements, reading) ← readFlowElements fuel false reading
    pure (element :: elements, reading)

/-- Reads the single pair of a mapping in a flow sequence. Without a key the token
where it is missed is passed over. -/
def readFlowPair : (fuel : Nat) → Reading → Option ((Node × Node) × Reading)
  | 0, _ => none
  | fuel + 1, reading => do
    let (key, reading) ←
      if !reading.tokens.isEmpty && reading.atOne [.value, .separator, .flowSequenceEnd] then
        some (Node.empty, reading.moveTo reading.tokens.tail)
      else readNode fuel false false reading
    let (value, reading) ← readValue fuel false false [.separator, .flowSequenceEnd] reading
    pure ((key, value), reading)

/-- Reads the pairs of a flow mapping up to its end. -/
def readFlowPairs : (fuel : Nat) → (first : Bool) → Reading → Option (List (Node × Node) × Reading)
  | 0, _, _ => none
  | fuel + 1, first, reading =>
    match reading.tokens with
    | .flowMappingEnd :: rest => some ([], reading.moveTo rest)
    | .separator :: rest =>
      if first then none
      else
        match rest with
        | .flowMappingEnd :: rest => some ([], reading.moveTo rest)
        | _ => readFlowEntry fuel (reading.moveTo rest)
    | _ => if first then readFlowEntry fuel reading else none

/-- Reads an entry of a flow mapping, which may be a key alone, and those after it. -/
def readFlowEntry : (fuel : Nat) → Reading → Option (List (Node × Node) × Reading)
  | 0, _ => none
  | fuel + 1, reading => do
    let (pair, reading) ← match reading.tokens with
      | .key :: rest => do
        let (key, reading) ←
          readOptional fuel false false [.value, .separator, .flowMappingEnd] (reading.moveTo rest)
        let (value, reading) ← readValue fuel false false [.separator, .flowMappingEnd] reading
        pure ((key, value), reading)
      | _ => do
        let (key, reading) ← readNode fuel false false reading
        pure ((key, Node.empty), reading)
    let (pairs, reading) ← readFlowPairs fuel false reading
    pure (pair :: pairs, reading)

end

/-- Reads the directives before a document and the marker that follows them. -/
def readDirectives (versioned : Bool) (declared : List (List Char × TagText)) :
    List Token → Option (List (List Char × TagText) × List Token)
  | .versionDirective major minor :: rest =>
    if versioned ∨ major ≠ 1 ∨ (minor ≠ 1 ∧ minor ≠ 2) then none
    else readDirectives true declared rest
  | .tagDirective handle expansion :: rest =>
    if (declared.lookup handle).isSome then none
    else readDirectives versioned ((handle, expansion) :: declared) rest
  | .documentStart :: rest => some (declared, rest)
  | _ => none

/-- Whether a document starts with directives or a marker. -/
def startsExplicitly : List Token → Bool
  | .versionDirective _ _ :: _ => true
  | .tagDirective _ _ :: _ => true
  | .documentStart :: _ => true
  | _ => false

/-- Whether a document that has been started explicitly has no root. -/
def startsEmpty : List Token → Bool
  | [] => true
  | .documentEnd :: _ => true
  | tokens => startsExplicitly tokens

/-- The document that tokens consist of; nothing if there are none. -/
def Document.ofTokens? (tokens : List Token) : Option (Option Document) :=
  let fuel := 8 * tokens.length + 8
  let finish : Node × Reading → Option (Option Document) := fun (root, reading) =>
    if (reading.tokens.dropWhile (· = .documentEnd)).isEmpty then
      some (some ⟨root, reading.anchored⟩)
    else none
  if tokens.isEmpty then some none
  else if startsExplicitly tokens then
    (readDirectives false [] tokens).bind fun (declared, rest) =>
      let initial : Reading := { tokens := rest }
      let reading := { initial with handles := declared ++ initial.handles }
      if startsEmpty rest then finish (.empty, reading)
      else (readNode fuel true false reading).bind finish
  else (readNode fuel true false { tokens }).bind finish

end Yaml

end SchemaBootstrap
