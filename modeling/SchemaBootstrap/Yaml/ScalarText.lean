import SchemaBootstrap.Yaml.Cursor

/-! # The text of scalars

A scalar is written plainly, between quotes, or as a block of indented lines. Line
breaks inside a scalar are folded: a single one becomes a space, and of several the
first is dropped, except in literal blocks. Each reader starts behind the position
of the scalar and yields its text with the place after it; `none` stands for a
scalar that is not well formed. The fuel bounds the number of lines and characters.
-/

namespace SchemaBootstrap

namespace Yaml

/-- What breaks between two lines of a folded scalar amount to. -/
def folded (first others : List Char) : List Char :=
  if first.head? = some '\n' then
    if others.isEmpty then [' '] else others
  else first ++ others

/-! ## Space between the lines of a scalar -/

/-- The space within a scalar that has been read up to some place. -/
structure Gap where
  /-- Blanks on the line of the text before. -/
  blanks : List Char := []
  /-- Whether a line break has been read. -/
  broken : Bool := false
  first : List Char := []
  others : List Char := []

namespace Gap

/-- What a gap amounts to. -/
def text (gap : Gap) : List Char :=
  if gap.broken then folded gap.first gap.others else gap.blanks

/-- Whether there is neither a blank nor a break. -/
def isEmpty (gap : Gap) : Bool :=
  !gap.broken && gap.blanks.isEmpty

/-- A gap with one more line break. -/
def addBreak (gap : Gap) (lineBreak : List Char) : Gap :=
  if gap.broken then { gap with others := gap.others ++ lineBreak }
  else { gap with blanks := [], broken := true, first := lineBreak }

/-- Reads blanks and line breaks. A tab in the first columns of a further line is
refused when `indent` is positive. -/
def read (indent : Nat) : (fuel : Nat) → Gap → Cursor → Option (Gap × Cursor)
  | 0, gap, cursor => some (gap, cursor)
  | fuel + 1, gap, cursor =>
    match cursor.rest with
    | [] => some (gap, cursor)
    | c :: _ =>
      if isSpacing c then
        if gap.broken && cursor.column < indent && c = '\t' then none
        else if gap.broken then read indent fuel gap (cursor.skip 1)
        else read indent fuel { gap with blanks := gap.blanks ++ [c] } (cursor.skip 1)
      else if isBreak c then
        let (lineBreak, cursor) := cursor.takeBreak
        read indent fuel (gap.addBreak lineBreak) cursor
      else some (gap, cursor)

end Gap

/-! ## Quoted scalars -/

/-- The character of an escape without digits. -/
def escape? : Char → Option Char
  | '0' => some '\x00'
  | 'a' => some '\x07'
  | 'b' => some '\x08'
  | 't' | '\t' => some '\t'
  | 'n' => some '\n'
  | 'v' => some '\x0b'
  | 'f' => some '\x0c'
  | 'r' => some '\r'
  | 'e' => some '\x1b'
  | ' ' => some ' '
  | '"' => some '"'
  | '/' => some '/'
  | '\\' => some '\\'
  | 'N' => some '\u0085'
  | '_' => some '\u00a0'
  | 'L' => some '\u2028'
  | 'P' => some '\u2029'
  | _ => none

/-- The number of digits of an escape with digits. -/
def escapeLength? : Char → Option Nat
  | 'x' => some 2
  | 'u' => some 4
  | 'U' => some 8
  | _ => none

/-- The value of a digit of base sixteen. -/
def hexValue? (c : Char) : Option Nat :=
  if c.isDigit then some (c.toNat - '0'.toNat)
  else if 'a' ≤ c ∧ c ≤ 'f' then some (c.toNat - 'a'.toNat + 10)
  else if 'A' ≤ c ∧ c ≤ 'F' then some (c.toNat - 'A'.toNat + 10)
  else none

/-- The number that digits of base sixteen spell. -/
def hexNumber? (digits : List Char) : Option Nat :=
  digits.foldlM (fun value c => (hexValue? c).map (value * 16 + ·)) 0

/-- The character that some digits of base sixteen stand for. -/
def numberedChar? (digits : List Char) : Option Char :=
  (hexNumber? digits).bind fun code =>
    if 0x10FFFF < code ∨ (0xD800 ≤ code ∧ code ≤ 0xDFFF) then none else some (Char.ofNat code)

/-- Reads the inside of a scalar between single quotes and the closing quote. -/
def readSingleQuoted : (fuel : Nat) → List Char → Cursor → Option (List Char × Cursor)
  | 0, _, _ => none
  | fuel + 1, text, cursor =>
    if cursor.atDocumentMarker then none
    else
      match cursor.rest with
      | [] => none
      | '\'' :: '\'' :: _ => readSingleQuoted fuel (text ++ ['\'']) (cursor.skip 2)
      | '\'' :: _ => some (text, cursor.skip 1)
      | c :: _ =>
        if isSpacing c || isBreak c then
          (Gap.read 0 cursor.rest.length {} cursor).bind fun (gap, cursor) =>
            readSingleQuoted fuel (text ++ gap.text) cursor
        else readSingleQuoted fuel (text ++ [c]) (cursor.skip 1)

/-- Reads the inside of a scalar between double quotes and the closing quote. -/
def readDoubleQuoted : (fuel : Nat) → List Char → Cursor → Option (List Char × Cursor)
  | 0, _, _ => none
  | fuel + 1, text, cursor =>
    if cursor.atDocumentMarker then none
    else
      match cursor.rest with
      | [] => none
      | '"' :: _ => some (text, cursor.skip 1)
      | '\\' :: c :: rest =>
        if isBreak c then
          (Gap.read 0 rest.length { broken := true } (cursor.skip 1).skipBreak).bind
            fun (gap, cursor) => readDoubleQuoted fuel (text ++ gap.text) cursor
        else
          match escape? c, escapeLength? c with
          | some char, _ => readDoubleQuoted fuel (text ++ [char]) (cursor.skip 2)
          | none, some length =>
            if rest.length < length then none
            else
              (numberedChar? (rest.take length)).bind fun char =>
                readDoubleQuoted fuel (text ++ [char]) (cursor.skip (2 + length))
          | none, none => none
      | c :: _ =>
        if isSpacing c || isBreak c then
          (Gap.read 0 cursor.rest.length {} cursor).bind fun (gap, cursor) =>
            readDoubleQuoted fuel (text ++ gap.text) cursor
        else readDoubleQuoted fuel (text ++ [c]) (cursor.skip 1)

/-! ## Plain scalars -/

/-- The brackets and the comma of flow collections. -/
def flowIndicators : List Char :=
  [',', '[', ']', '\x7b', '\x7d']

/-- Whether a plain scalar ends before a text that is not at a space. -/
def endsPlain (inFlow : Bool) : List Char → Bool
  | ':' :: rest => atSpace rest
  | rest => inFlow && atAny flowIndicators rest

/-- Reads the characters of a plain scalar up to a space or its end. -/
def readWord (inFlow : Bool) : (fuel : Nat) → List Char → Cursor → Option (List Char × Cursor)
  | 0, word, cursor => some (word, cursor)
  | fuel + 1, word, cursor =>
    match cursor.rest with
    | [] => some (word, cursor)
    | c :: rest =>
      if isSpacing c || isBreak c then some (word, cursor)
      else if inFlow && c = ':' && atAny ('?' :: flowIndicators) rest then none
      else if endsPlain inFlow cursor.rest then some (word, cursor)
      else readWord inFlow fuel (word ++ [c]) (cursor.skip 1)

/-- Reads a plain scalar: its text, whether a line break follows it, and the place
after it with the space behind it. -/
def readPlain (inFlow : Bool) (indent : Nat) :
    (fuel : Nat) → List Char → Gap → Cursor → Option (List Char × Bool × Cursor)
  | 0, _, _, _ => none
  | fuel + 1, text, gap, cursor =>
    if cursor.atDocumentMarker || atChar '#' cursor.rest then some (text, gap.broken, cursor)
    else
      (readWord inFlow cursor.rest.length [] cursor).bind fun (word, cursor) =>
        let text := if word.isEmpty then text else text ++ gap.text ++ word
        let gap := if word.isEmpty then gap else {}
        if cursor.rest.isEmpty || !atSpace cursor.rest then some (text, gap.broken, cursor)
        else
          (Gap.read indent cursor.rest.length gap cursor).bind fun (gap, cursor) =>
            if !inFlow && cursor.column < indent then some (text, gap.broken, cursor)
            else readPlain inFlow indent fuel text gap cursor

/-! ## Block scalars -/

/-- What becomes of the line breaks at the end of a block. -/
inductive Chomping where
  | strip
  | clip
  | keep
  deriving DecidableEq

/-- Reads the indicators of a block: what becomes of the breaks at its end, and its
indentation if that is given. -/
def readBlockHeader (cursor : Cursor) : Option (Chomping × Option Nat × Cursor) :=
  let sign? : Char → Option Chomping := fun c =>
    if c = '+' then some .keep else if c = '-' then some .strip else none
  let digit? : Char → Option Nat := fun c =>
    if c.isDigit then some (c.toNat - '0'.toNat) else none
  let header : Chomping × Option Nat × Cursor :=
    match cursor.rest with
    | [] => (.clip, none, cursor)
    | first :: rest =>
      match sign? first, digit? first with
      | some chomping, _ =>
        match rest.head?.bind digit? with
        | some digit => (chomping, some digit, cursor.skip 2)
        | none => (chomping, none, cursor.skip 1)
      | none, some digit =>
        match rest.head?.bind sign? with
        | some chomping => (chomping, some digit, cursor.skip 2)
        | none => (.clip, some digit, cursor.skip 1)
      | none, none => (.clip, none, cursor)
  if header.2.1 = some 0 then none else some header

/-- Reads empty lines and indentation up to the first line with text. Without a known
indentation, the greatest column reached is yielded. -/
def readBlockBreaks (indent : Option Nat) :
    (fuel : Nat) → (breaks : List Char) → (greatest : Nat) → Cursor →
      Option (List Char × Nat × Cursor)
  | 0, _, _, _ => none
  | fuel + 1, breaks, greatest, cursor =>
    let spaces := (cursor.takeWhile (· = ' ')).1.length
    let cursor := match indent with
      | none => cursor.skip spaces
      | some indent => cursor.skip (min spaces (indent - cursor.column))
    let greatest := max greatest cursor.column
    let before := match indent with
      | none => true
      | some indent => cursor.column < indent
    if before && atChar '\t' cursor.rest then none
    else if atBreak cursor.rest then
      let (lineBreak, cursor) := cursor.takeBreak
      readBlockBreaks indent fuel (breaks ++ lineBreak) greatest cursor
    else some (breaks, greatest, cursor)

/-- The lines of a block read so far. -/
structure BlockText where
  text : List Char := []
  lead : List Char := []
  /-- Whether the last line started with a blank. -/
  blankLead : Bool := false
  breaks : List Char := []

/-- The text of a block before the next line, whose start is given. -/
def BlockText.joined (block : BlockText) (literal blank : Bool) : List Char :=
  if !literal && block.lead.head? = some '\n' && !block.blankLead && !blank then
    block.text ++ (if block.breaks.isEmpty then [' '] else []) ++ block.breaks
  else block.text ++ block.lead ++ block.breaks

/-- Reads the lines of a block that have its indentation. -/
def readBlockLines (literal : Bool) (indent : Nat) :
    (fuel : Nat) → BlockText → Cursor → Option (BlockText × Cursor)
  | 0, _, _ => none
  | fuel + 1, block, cursor =>
    if cursor.column ≠ indent ∨ cursor.rest.isEmpty then some (block, cursor)
    else
      let blank := match cursor.rest with
        | [] => false
        | c :: _ => isSpacing c
      let (line, cursor) := cursor.takeWhile (!isBreak ·)
      let (lead, cursor) := cursor.takeBreak
      (readBlockBreaks (some indent) (cursor.rest.length + 1) [] 0 cursor).bind
        fun (breaks, _, cursor) =>
          readBlockLines literal indent fuel
            { text := block.joined literal blank ++ line, lead, blankLead := blank, breaks } cursor

/-- Reads a block inside a collection with some indentation, behind its first indicator. -/
def readBlock (literal : Bool) (parent : Int) (cursor : Cursor) : Option (List Char × Cursor) := do
  let (chomping, given, cursor) ← readBlockHeader cursor
  let cursor := cursor.skipWhile isSpacing
  let cursor := if atChar '#' cursor.rest then cursor.skipWhile (!isBreak ·) else cursor
  if !atLineEnd cursor.rest then none
  let cursor := cursor.skipBreak
  let known := given.map fun digit => parent.toNat + digit
  let (breaks, greatest, cursor) ← readBlockBreaks known (cursor.rest.length + 1) [] 0 cursor
  let indent := known.getD (max 1 (max greatest (parent + 1).toNat))
  let (block, cursor) ←
    readBlockLines literal indent (cursor.rest.length + 1) { breaks } cursor
  let lead := if chomping = .strip then [] else block.lead
  let tail := if chomping = .keep then block.breaks else []
  pure (block.text ++ lead ++ tail, cursor)

end Yaml

end SchemaBootstrap
