import SchemaBootstrap.Yaml.ScalarText

/-! # Tokens of a YAML text

A text is cut into tokens (`Token.ofText?`). Indentation becomes tokens that open
and close block collections. Whether a scalar is the key of a mapping only shows
when a colon follows it, so the tokens of a key are put before it afterwards; a key
that is not introduced by a question mark stands on one line.
-/

namespace SchemaBootstrap

namespace Yaml

/-- The characters of a tag. Escaped bytes that are no character count as `none`. -/
abbrev TagText :=
  List (Option Char)

/-- A token of a text. -/
inductive Token where
  | versionDirective (major minor : Nat)
  | tagDirective (handle : List Char) (expansion : TagText)
  | documentStart
  | documentEnd
  | blockSequence
  | blockMapping
  | blockEnd
  | flowSequence
  | flowSequenceEnd
  | flowMapping
  | flowMappingEnd
  | entry
  | separator
  | key
  | value
  | alias (name : List Char)
  | anchor (name : List Char)
  | tag (handle : List Char) (suffix : TagText)
  | scalar (plain : Bool) (text : List Char)
  deriving DecidableEq, Repr

/-- A place at which a key may have started. -/
structure PossibleKey where
  /-- The number of tokens before it. -/
  position : Nat
  /-- Whether a colon has to follow. -/
  required : Bool
  line : Nat
  index : Nat
  column : Nat

/-- What has been read of a text. -/
structure Scan where
  cursor : Cursor
  /-- The tokens in order. -/
  tokens : List Token := []
  /-- The column of the innermost block collection; one less than any outside of all. -/
  indent : Int := -1
  /-- The columns of the block collections around it. -/
  outer : List Int := []
  /-- Whether a key may start here. -/
  keyAllowed : Bool := true
  /-- The place of a possible key in the block, and in each flow collection before it. -/
  keys : List (Option PossibleKey) := [none]

namespace Scan

/-- Whether the place is inside a flow collection. -/
def inFlow (scan : Scan) : Bool :=
  1 < scan.keys.length

/-- Adds a token at the end. -/
def push (scan : Scan) (token : Token) : Scan :=
  { scan with tokens := scan.tokens ++ [token] }

/-- Puts a token at a position. -/
def insertAt (scan : Scan) (position : Nat) (token : Token) : Scan :=
  { scan with tokens := scan.tokens.take position ++ token :: scan.tokens.drop position }

/-- Replaces the possible key of the innermost collection. -/
def setKey (scan : Scan) (key : Option PossibleKey) : Scan :=
  { scan with keys := key :: scan.keys.tail }

/-- Gives up a possible key, unless a colon has to follow it. -/
def dropKey? (key : Option PossibleKey) : Option (Option PossibleKey) :=
  match key with
  | some key => if key.required then none else some none
  | none => some none

/-- Gives up the possible key of the innermost collection. -/
def forgetKey? (scan : Scan) : Option Scan :=
  (dropKey? (scan.keys.headD none)).map scan.setKey

/-- Remembers that a key may start here. -/
def rememberKey? (scan : Scan) : Option Scan :=
  if scan.keyAllowed then
    scan.forgetKey?.map fun scan =>
      scan.setKey (some
        { position := scan.tokens.length
          required := !scan.inFlow && scan.indent = scan.cursor.column
          line := scan.cursor.line
          index := scan.cursor.index
          column := scan.cursor.column })
  else some scan

/-- Gives up the keys that started on an earlier line or too far before. -/
def dropStaleKeys? (scan : Scan) : Option Scan :=
  let check : Option PossibleKey → Option (Option PossibleKey) := fun key =>
    match key with
    | some place =>
      if place.line < scan.cursor.line ∨ place.index + 1024 < scan.cursor.index then dropKey? key
      else some key
    | none => some none
  (scan.keys.mapM check).map fun keys => { scan with keys }

/-- Opens a block collection, whose token is put at a position, if a column is
further to the right than the innermost one. -/
def openBlock (scan : Scan) (column position : Nat) (token : Token) : Scan :=
  if !scan.inFlow && scan.indent < column then
    { scan.insertAt position token with
      indent := column
      outer := scan.indent :: scan.outer }
  else scan

/-- Closes the block collections to the right of a column. -/
def closeBlocks (scan : Scan) (column : Int) : Scan :=
  if scan.inFlow then scan
  else
    let closed := (scan.indent :: scan.outer).takeWhile (column < ·)
    let left := (scan.indent :: scan.outer).dropWhile (column < ·)
    { scan with
      tokens := scan.tokens ++ closed.map fun _ => .blockEnd
      indent := left.headD (-1)
      outer := left.tail }

/-- Moves past a number of characters. -/
def skip (scan : Scan) (count : Nat) : Scan :=
  { scan with cursor := scan.cursor.skip count }

/-- Says whether a key may start next. -/
def allowKey (scan : Scan) (allowed : Bool) : Scan :=
  { scan with keyAllowed := allowed }

/-- Moves to the next token, past blanks, comments and line breaks, and past a byte order
mark at the start of each line. A tab is no blank where a key may start in a block. -/
def skipSpace (scan : Scan) : (fuel : Nat) → Scan
  | 0 => scan
  | fuel + 1 =>
    let tabs := scan.inFlow || !scan.keyAllowed
    let marked := scan.cursor.column = 0 && atChar '\ufeff' scan.cursor.rest
    let cursor := if marked then scan.cursor.skip 1 else scan.cursor
    let cursor := cursor.skipWhile fun c => c = ' ' || (tabs && c = '\t')
    let cursor := if atChar '#' cursor.rest then cursor.skipWhile (!isBreak ·) else cursor
    if atBreak cursor.rest then
      { scan with
        cursor := cursor.skipBreak
        keyAllowed := scan.keyAllowed || !scan.inFlow }.skipSpace fuel
    else { scan with cursor }

/-! ## Anchors, tags and directives -/

/-- Whether a character may occur in the name of an anchor. -/
def isNameChar (c : Char) : Bool :=
  c.isAlphanum || c = '_' || c = '-'

/-- Whether a character may occur in a tag; commas and brackets only between angles. -/
def isTagChar (verbatim : Bool) (c : Char) : Bool :=
  isNameChar c || [';', '/', '?', ':', '@', '&', '=', '+', '$', '.', '!', '~', '*', '\'', '(',
    ')'].contains c || (verbatim && [',', '[', ']'].contains c)

/-- The number of bytes of a character whose first byte is given, when it is encoded in
bytes, and what the first byte adds to its number. -/
def leadByte? (byte : Nat) : Option (Nat × Nat) :=
  if byte < 0x80 then some (1, byte)
  else if 0xC0 ≤ byte ∧ byte < 0xE0 then some (2, byte - 0xC0)
  else if 0xE0 ≤ byte ∧ byte < 0xF0 then some (3, byte - 0xE0)
  else if 0xF0 ≤ byte ∧ byte < 0xF8 then some (4, byte - 0xF0)
  else none

/-- The bytes that follow as percent signs with two digits each, and the text after them. -/
def escapedBytes? : (count : Nat) → List Char → Option (List Nat × List Char)
  | 0, text => some ([], text)
  | count + 1, '%' :: a :: b :: rest => do
    let byte ← hexNumber? [a, b]
    let (bytes, rest) ← escapedBytes? count rest
    pure (byte :: bytes, rest)
  | _ + 1, _ => none

/-- The least number of the characters that are encoded in a number of bytes. -/
def leastCode : (count : Nat) → Nat
  | 0 => 0
  | 1 => 0
  | 2 => 0x80
  | 3 => 0x800
  | _ => 0x10000

/-- The character with a number, if a number of bytes is what it is encoded in. -/
def encodedChar? (count code : Nat) : Option Char :=
  if leastCode count ≤ code ∧ code ≤ 0x10FFFF ∧ ¬(0xD800 ≤ code ∧ code ≤ 0xDFFF) then
    some (Char.ofNat code)
  else none

/-- The escaped bytes of a character at the start of a text, and the text after them. -/
def escapedChar? (text : List Char) : Option (Option Char × List Char) := do
  let (first, rest) ← escapedBytes? 1 text
  let (count, value) ← leadByte? (first.headD 0)
  let (others, rest) ← escapedBytes? (count - 1) rest
  if others.all fun byte => 0x80 ≤ byte && byte < 0xC0 then
    let code := others.foldl (fun value byte => value * 64 + (byte - 0x80)) value
    pure (encodedChar? count code, rest)
  else none

/-- The characters of a tag up to the first that cannot be part of one. -/
def readTagChars (verbatim : Bool) :
    (fuel : Nat) → TagText → List Char → Option (TagText × List Char)
  | 0, taken, rest => some (taken, rest)
  | fuel + 1, taken, rest =>
    match rest with
    | '%' :: _ =>
      (escapedChar? rest).bind fun (c, rest) => readTagChars verbatim fuel (taken ++ [c]) rest
    | c :: tail =>
      if isTagChar verbatim c then readTagChars verbatim fuel (taken ++ [some c]) tail
      else some (taken, rest)
    | [] => some (taken, [])

/-- The place of a text that is left of the text at a place on the same line. -/
def movedTo (cursor : Cursor) (rest : List Char) : Cursor :=
  cursor.skip (cursor.rest.length - rest.length)

/-- Reads the characters of a tag after some that have been read. An escaped null ends
the tag, and what follows it is passed over. -/
def readSuffix (verbatim : Bool) (head : List Char) (cursor : Cursor) :
    Option (TagText × Cursor) :=
  let taken := head.tail.map some
  (readTagChars verbatim cursor.rest.length taken cursor.rest).bind fun (suffix, rest) =>
    if head.isEmpty && suffix.isEmpty then none
    else some (suffix.takeWhile (· != some '\x00'), movedTo cursor rest)

/-- Reads the handle of a tag: two exclamation marks with a name between them, or one
with a name behind it. -/
def readHandle (cursor : Cursor) : List Char × Cursor :=
  let (name, after) := (cursor.skip 1).takeWhile isNameChar
  if atChar '!' after.rest then ('!' :: (name ++ ['!']), after.skip 1)
  else ('!' :: name, after)

/-- Reads a tag. -/
def readTag (cursor : Cursor) : Option (Token × Cursor) :=
  match cursor.rest with
  | '!' :: '<' :: _ => do
    let (suffix, cursor) ← readSuffix true [] (cursor.skip 2)
    if atChar '>' cursor.rest then pure (.tag [] suffix, cursor.skip 1) else none
  | _ => do
    let (handle, cursor) := readHandle cursor
    if 1 < handle.length && handle.getLast? = some '!' then
      let (suffix, cursor) ← readSuffix false [] cursor
      pure (.tag handle suffix, cursor)
    else
      let (suffix, cursor) ← readSuffix false handle cursor
      if suffix.isEmpty then pure (.tag [] [some '!'], cursor)
      else pure (.tag ['!'] suffix, cursor)

/-- Reads the number of a version. -/
def readNumber (cursor : Cursor) : Option (Nat × Cursor) :=
  let (digits, cursor) := cursor.takeWhile Char.isDigit
  if digits.isEmpty ∨ 9 < digits.length then none
  else some (digits.foldl (fun value c => value * 10 + (c.toNat - '0'.toNat)) 0, cursor)

/-- Reads the content of a directive behind its name. -/
def readDirectiveContent (name : List Char) (cursor : Cursor) : Option (Token × Cursor) :=
  let cursor := cursor.skipWhile isSpacing
  if name = "YAML".toList then do
    let (major, cursor) ← readNumber cursor
    if atChar '.' cursor.rest then
      let (minor, cursor) ← readNumber (cursor.skip 1)
      pure (.versionDirective major minor, cursor)
    else none
  else if name = "TAG".toList then
    if !atChar '!' cursor.rest then none
    else do
      let (handle, cursor) := readHandle cursor
      if handle ≠ ['!'] ∧ (handle.length = 1 ∨ handle.getLast? ≠ some '!') then none
      else if !atSpace cursor.rest || atLineEnd cursor.rest then none
      else
        let (expansion, cursor) ← readSuffix true [] (cursor.skipWhile isSpacing)
        if atSpace cursor.rest then pure (.tagDirective handle expansion, cursor) else none
  else none

/-- Reads a directive up to the end of its line. -/
def readDirective (cursor : Cursor) : Option (Token × Cursor) := do
  let (name, cursor) := (cursor.skip 1).takeWhile isNameChar
  if name.isEmpty || !atSpace cursor.rest then none
  let (token, cursor) ← readDirectiveContent name cursor
  let cursor := cursor.skipWhile isSpacing
  let cursor := if atChar '#' cursor.rest then cursor.skipWhile (!isBreak ·) else cursor
  if atLineEnd cursor.rest then pure (token, cursor.skipBreak) else none

/-! ## The next token -/

/-- A token that opens or closes a document, or a directive. -/
def outsideBlocks? (scan : Scan) : Option Scan :=
  (scan.closeBlocks (-1)).forgetKey?.map (·.allowKey false)

/-- The start of a flow collection. -/
def openFlow? (scan : Scan) (token : Token) : Option Scan :=
  scan.rememberKey?.map fun scan =>
    ({ scan with keys := none :: scan.keys, keyAllowed := true }.skip 1).push token

/-- The end of a flow collection. -/
def closeFlow? (scan : Scan) (token : Token) : Option Scan :=
  scan.forgetKey?.map fun scan =>
    let keys := if scan.inFlow then scan.keys.tail else scan.keys
    ({ scan with keys, keyAllowed := false }.skip 1).push token

/-- A comma in a flow collection. -/
def separate? (scan : Scan) : Option Scan :=
  scan.forgetKey?.map fun scan => ((scan.allowKey true).skip 1).push .separator

/-- The dash before an element of a block sequence. -/
def enter? (scan : Scan) : Option Scan :=
  if !scan.inFlow && !scan.keyAllowed then none
  else
    let opened := scan.openBlock scan.cursor.column scan.tokens.length .blockSequence
    opened.forgetKey?.map fun scan => ((scan.allowKey true).skip 1).push .entry

/-- The question mark before a key. -/
def introduceKey? (scan : Scan) : Option Scan :=
  if !scan.inFlow && !scan.keyAllowed then none
  else
    let opened := scan.openBlock scan.cursor.column scan.tokens.length .blockMapping
    opened.forgetKey?.map fun scan => ((scan.allowKey (!scan.inFlow)).skip 1).push .key

/-- The colon before a value. -/
def introduceValue? (scan : Scan) : Option Scan :=
  match scan.keys.headD none with
  | some key =>
    let keyed := (scan.insertAt key.position .key).openBlock key.column key.position .blockMapping
    some ((((keyed.setKey none).allowKey false).skip 1).push .value)
  | none =>
    if !scan.inFlow && !scan.keyAllowed then none
    else
      let opened := scan.openBlock scan.cursor.column scan.tokens.length .blockMapping
      some (((opened.allowKey (!scan.inFlow)).skip 1).push .value)

/-- The name of an anchor or an alias behind its indicator. -/
def name? (scan : Scan) (token : List Char → Token) : Option Scan :=
  scan.rememberKey?.bind fun scan =>
    let (name, cursor) := (scan.cursor.skip 1).takeWhile isNameChar
    if name.isEmpty ||
        !(atSpace cursor.rest || atAny ['?', ':', ',', ']', '\x7d', '%', '@', '`'] cursor.rest) then
      none
    else some ({ scan with cursor, keyAllowed := false }.push (token name))

/-- A tag before a node. -/
def tag? (scan : Scan) : Option Scan :=
  scan.rememberKey?.bind fun scan =>
    (readTag scan.cursor).bind fun (token, cursor) =>
      if atSpace cursor.rest || (scan.inFlow && atChar ',' cursor.rest) then
        some ({ scan with cursor, keyAllowed := false }.push token)
      else none

/-- A block scalar. -/
def block? (scan : Scan) (literal : Bool) : Option Scan :=
  scan.forgetKey?.bind fun scan =>
    (readBlock literal scan.indent (scan.cursor.skip 1)).map fun (text, cursor) =>
      { scan with cursor, keyAllowed := true }.push (.scalar false text)

/-- A quoted scalar, given the reader of its inside. -/
def quoted? (scan : Scan)
    (read : (fuel : Nat) → List Char → Cursor → Option (List Char × Cursor)) : Option Scan :=
  scan.rememberKey?.bind fun scan =>
    (read (scan.cursor.rest.length + 1) [] (scan.cursor.skip 1)).map fun (text, cursor) =>
      { scan with cursor, keyAllowed := false }.push (.scalar false text)

/-- A plain scalar. -/
def plain? (scan : Scan) : Option Scan :=
  scan.rememberKey?.bind fun scan =>
    let indent := (scan.indent + 1).toNat
    (readPlain scan.inFlow indent (scan.cursor.rest.length + 1) [] {} scan.cursor).map
      fun (text, broken, cursor) =>
        { scan with cursor, keyAllowed := broken }.push (.scalar true text)

/-- The characters that cannot start a plain scalar by themselves. -/
def indicators : List Char :=
  ['-', '?', ':', ',', '[', ']', '\x7b', '\x7d', '#', '&', '*', '!', '|', '>', '\'', '"', '%',
    '@', '`']

/-- Whether a plain scalar starts here. -/
def startsPlain (scan : Scan) : Bool :=
  match scan.cursor.rest with
  | [] => false
  | c :: rest =>
    (!(isSpacing c || isBreak c) && !indicators.contains c)
      || (c = '-' && !atAny [' ', '\t'] rest)
      || (!scan.inFlow && (c = '?' || c = ':') && !atSpace rest)

/-- Reads the token that starts here; `none` if there is none. -/
def token? (scan : Scan) : Option Scan :=
  let cursor := scan.cursor
  let spaced := atSpace cursor.rest.tail
  if cursor.column = 0 && atChar '%' cursor.rest then
    scan.outsideBlocks?.bind fun scan =>
      (readDirective scan.cursor).map fun (token, cursor) => { scan with cursor }.push token
  else if cursor.column = 0 && atMarker '-' cursor.rest then
    scan.outsideBlocks?.map fun scan => (scan.skip 3).push .documentStart
  else if cursor.column = 0 && atMarker '.' cursor.rest then
    scan.outsideBlocks?.map fun scan => (scan.skip 3).push .documentEnd
  else
    match cursor.rest with
    | [] => none
    | c :: _ =>
      if c = '[' then scan.openFlow? .flowSequence
      else if c = '\x7b' then scan.openFlow? .flowMapping
      else if c = ']' then scan.closeFlow? .flowSequenceEnd
      else if c = '\x7d' then scan.closeFlow? .flowMappingEnd
      else if c = ',' then scan.separate?
      else if c = '-' && spaced then scan.enter?
      else if c = '?' && (scan.inFlow || spaced) then scan.introduceKey?
      else if c = ':' && (scan.inFlow || spaced) then scan.introduceValue?
      else if c = '*' then scan.name? .alias
      else if c = '&' then scan.name? .anchor
      else if c = '!' then scan.tag?
      else if c = '|' && !scan.inFlow then scan.block? true
      else if c = '>' && !scan.inFlow then scan.block? false
      else if c = '\'' then scan.quoted? readSingleQuoted
      else if c = '"' then scan.quoted? readDoubleQuoted
      else if scan.startsPlain then scan.plain?
      else none

/-- The end of a text closes all blocks. -/
def finish? (scan : Scan) : Option (List Token) :=
  (scan.closeBlocks (-1)).forgetKey?.map Scan.tokens

/-- Reads the tokens up to the end of a text. -/
def run? (scan : Scan) : (fuel : Nat) → Option (List Token)
  | 0 => none
  | fuel + 1 =>
    (scan.skipSpace (scan.cursor.rest.length + 1)).dropStaleKeys?.bind fun scan =>
      let scan := scan.closeBlocks scan.cursor.column
      if scan.cursor.rest.isEmpty then scan.finish?
      else scan.token?.bind fun scan => scan.run? fuel

end Scan

/-- The tokens of a text; `none` if it is not well formed. -/
def Token.ofText? (text : List Char) : Option (List Token) :=
  if text.all isPrintable then
    ({ cursor := Cursor.start text } : Scan).run? (text.length + 1)
  else none

end Yaml

end SchemaBootstrap
