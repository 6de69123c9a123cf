import SchemaBootstrap.Text.Blank
import SchemaBootstrap.Text.DisplayWidth

/-! # The display width of a text

The number of terminal columns that a line takes. A character on its own takes two
columns if it is wide, none if it is a mark or not displayed, and one otherwise
(`Text.alone`). Some characters share columns with what follows them: selectors of a
style, joined emoji and pairs of regional indicators, and letters that are joined to
one shape. The characters are therefore taken from the last to the first, each with a
`Context` that tells what follows it (`Text.step`).
-/

namespace SchemaBootstrap

namespace Text

/-- What follows a character, as far as the width depends on it. A letter of a joined
shape may have a joiner before it. -/
inductive Follower where
  | other
  | lineFeed
  | emojiModifier
  | regional
  | regionals
  | emoji
  /-- A joiner before an emoji. -/
  | joinedEmoji
  /-- An enclosing keycap before a joined emoji. -/
  | joinedKeycap
  /-- A number of regional indicators before a joined emoji. -/
  | joinedRegionals (count : Nat)
  /-- The last letters and digits of a tagged flag before a joined emoji. -/
  | joinedTags (letters digits : Nat)
  | kiratRaiE
  | kiratRaiAi
  | alef
  | lamed (joined : Bool)
  | bugineseYa (joined : Bool)
  | bugineseVowelYa
  | tifinagh (joined : Bool)
  | tifinaghJoiner
  | lisuTone
  | orkhonI (joined : Bool)
  | khmerLetter
  deriving DecidableEq, Repr

namespace Follower

/-- Whether a letter follows that may be joined. -/
def isLetter : Follower → Bool
  | alef | lamed _ | bugineseYa _ | bugineseVowelYa | tifinagh _ | tifinaghJoiner | lisuTone
  | orkhonI _ | khmerLetter => true
  | _ => false

/-- Whether a joined emoji follows that a selector may still change. -/
def isJoinedEmoji : Follower → Bool
  | joinedEmoji | joinedKeycap => true
  | _ => false

/-- What follows before a joiner. -/
def afterJoiner : Follower → Follower
  | lamed _ => lamed true
  | bugineseYa _ => bugineseYa true
  | tifinagh _ => tifinagh true
  | orkhonI _ => orkhonI true
  | follower => follower

end Follower

/-- What follows a character, and the selectors of a style between the two. -/
structure Context where
  follower : Follower
  emojiStyle : Bool := false
  textStyle : Bool := false

namespace Context

/-- A context with the selector of the emoji style. -/
def withEmojiStyle (context : Context) : Context :=
  if context.follower.isLetter || context.follower.isJoinedEmoji then
    { context with emojiStyle := true }
  else { follower := .other, emojiStyle := true }

/-- A context in which the selector of the emoji style had no effect. -/
def withoutEmojiStyle (context : Context) : Context :=
  if !context.emojiStyle then context
  else if context.follower.isLetter then { context with emojiStyle := false }
  else { follower := .other }

/-- A context with the selector of the text style. -/
def withTextStyle (context : Context) : Context :=
  if context.follower.isLetter then { context with textStyle := true }
  else { follower := .other, textStyle := true }

/-- A context in which the selector of the text style had no effect. -/
def withoutTextStyle (context : Context) : Context :=
  { context with textStyle := false }

end Context

/-! ## Classes of characters -/

/-- Whether a character lies between two others. -/
def isBetween (first last c : Char) : Bool :=
  first ≤ c && c ≤ last

/-- The joiner without width. -/
def joiner : Char := '\u200D'

/-- Whether a character has an emoji style. -/
def hasEmojiStyle (c : Char) : Bool :=
  inRanges styledRanges c.toNat

/-- Whether a character is an emoji that the text style makes narrow. -/
def hasNarrowStyle (c : Char) : Bool :=
  hasEmojiStyle c && inRanges emojiRanges c.toNat
    && !(0x1F200 ≤ c.toNat && c.toNat ≤ 0x1F2FF)

/-- Whether a character is a regional indicator, two of which make a flag. -/
def isRegional (c : Char) : Bool :=
  0x1F1E6 ≤ c.toNat && c.toNat ≤ 0x1F1FF

/-- Whether a character modifies the skin tone of an emoji. -/
def isModifier (c : Char) : Bool :=
  0x1F3FB ≤ c.toNat && c.toNat ≤ 0x1F3FF

/-- Whether a character is a letter of a tag. -/
def isTagLetter (c : Char) : Bool :=
  0xE0061 ≤ c.toNat && c.toNat ≤ 0xE007A

/-- Whether a character is a digit of a tag. -/
def isTagDigit (c : Char) : Bool :=
  0xE0030 ≤ c.toNat && c.toNat ≤ 0xE0039

/-- Whether a character is an Arabic letter of the shape of alef. -/
def isAlef (c : Char) : Bool :=
  ['\u0622', '\u0623', '\u0625', '\u0627', '\u0675'].contains c || isBetween '\u0671' '\u0673' c
    || isBetween '\u0773' '\u0774' c || isBetween '\u0870' '\u0882' c

/-- Whether a character is an Arabic letter of the shape of lam. -/
def isLam (c : Char) : Bool :=
  ['\u0644', '\u076A', '\u08A6', '\u08C7'].contains c || isBetween '\u06B5' '\u06B8' c

/-- Whether a character is a Tifinagh consonant. -/
def isTifinagh (c : Char) : Bool :=
  isBetween '\u2D31' '\u2D65' c || c = '\u2D6F'

/-- Whether a character is a Khmer letter that may stand below another one. -/
def isSubscriptKhmer (c : Char) : Bool :=
  isBetween '\u1780' '\u1782' c || isBetween '\u1784' '\u1787' c || isBetween '\u1789' '\u178C' c
    || isBetween '\u178E' '\u1793' c || isBetween '\u1795' '\u1798' c
    || isBetween '\u179B' '\u179D' c || isBetween '\u17AB' '\u17AC' c
    || ['\u17A0', '\u17A2', '\u17A7', '\u17AF'].contains c

/-- Whether a mark that is not displayed leaves letters joined. -/
def isJoinable (c : Char) : Bool :=
  c = '\u034F' || isBetween '\u17B4' '\u17B5' c || isBetween '\u180B' '\u180D' c || c = '\u180F'
    || c = joiner || isBetween '\uFE00' '\uFE0F' c
    || (0xE0100 ≤ c.toNat && c.toNat ≤ 0xE01EF)

/-! ## Widths -/

/-- The columns of a character on its own, and what it is for the one before it. -/
def alone (c : Char) : Nat × Follower :=
  let code := c.toNat
  if c = '\n' then (1, .lineFeed)
  else if code ≤ 0xA0 then (1, .other)
  else if c = '\u05DC' then (1, .lamed false)
  else if isAlef c then (1, .alef)
  else if isSubscriptKhmer c then (1, .khmerLetter)
  else if c = '\u17A4' then (2, .other)
  else if c = '\u17D8' then (3, .other)
  else if c = '\u1A10' then (1, .bugineseYa false)
  else if isTifinagh c then (1, .tifinagh false)
  else if isBetween '\uA4FC' '\uA4FD' c then (1, .lisuTone)
  else if code = 0x10C03 then (1, .orkhonI false)
  else if code = 0x16D67 then (1, .kiratRaiE)
  else if code = 0x16D68 then (1, .kiratRaiAi)
  else if isRegional c then (1, .regional)
  else if isModifier c then (2, .emojiModifier)
  else if inRanges emojiRanges code then (2, .emoji)
  else if inRanges zeroWidthRanges code then (0, .other)
  else if inRanges wideRanges code then (2, .other)
  else (1, .other)

/-- Whether a character takes no column and leaves Arabic letters joined. -/
def isArabicMark (c : Char) : Bool :=
  (alone c).1 = 0 && !inRanges partingRanges c.toNat

/-- The columns that a character adds where it is joined to what follows it. A letter that
completes a shape may take back a column of the others. -/
def joined? (follower : Follower) (c : Char) : Option (Int × Follower) :=
  let code := c.toNat
  match follower with
  | .alef =>
    if isLam c then some (0, .other) else if isArabicMark c then some (0, .alef) else none
  | .lamed true => if c = '\u05D0' then some (0, .other) else none
  | .khmerLetter => if c = '\u17D2' then some (-1, .other) else none
  | .bugineseYa true => if c = '\u1A17' then some (0, .bugineseVowelYa) else none
  | .bugineseVowelYa => if c = '\u1A15' then some (0, .other) else none
  | .tifinagh joined =>
    if c = '\u2D7F' then some (1, .tifinaghJoiner)
    else if joined && isTifinagh c then some (0, .other)
    else none
  | .tifinaghJoiner => if isTifinagh c then some (-1, .other) else none
  | .lisuTone => if isBetween '\uA4F8' '\uA4FB' c then some (0, .other) else none
  | .orkhonI true => if code = 0x10C32 then some (0, .other) else none
  | .kiratRaiE =>
    if code = 0x16D63 ∨ code = 0x16D69 then some (0, .other)
    else if code = 0x16D67 then some (0, .kiratRaiAi)
    else if code = 0x16D68 then some (1, .kiratRaiE)
    else none
  | .kiratRaiAi => if code = 0x16D63 then some (0, .other) else none
  | .emojiModifier =>
    if c = joiner then some (0, .joinedEmoji)
    else if inRanges modifiableRanges code then some (0, .emoji)
    else none
  | .regional => if isRegional c then some (1, .regionals) else none
  | .regionals =>
    if isRegional c then some (1, .regionals)
    else if c = joiner then some (0, .joinedEmoji)
    else none
  | .emoji => if c = joiner then some (0, .joinedEmoji) else none
  | .joinedEmoji =>
    if c = '\u20E3' then some (0, .joinedKeycap)
    else if isRegional c then some (1, .joinedRegionals 1)
    else if isModifier c then some (0, .emojiModifier)
    else if code = 0xE007F then some (0, .joinedTags 0 0)
    else if inRanges emojiRanges code then some (0, .emoji)
    else none
  | .joinedRegionals count =>
    if isRegional c then
      some (if count % 2 = 0 then 3 else -1, .joinedRegionals (count + 1))
    else if c = joiner && count % 2 = 0 then some (0, .joinedEmoji)
    else none
  | .joinedTags letters digits =>
    if isTagLetter c && digits = 0 && letters < 6 then some (0, .joinedTags (letters + 1) 0)
    else if isTagDigit c && (digits = 0 && letters ≤ 4 || digits = 1 || digits = 2) then
      some (0, .joinedTags 0 (digits + 1))
    else if code = 0x1F3F4 && (digits = 3 || (digits = 0 && 3 ≤ letters)) then some (0, .emoji)
    else none
  | _ => none

/-- The columns that a character adds to those of the text behind it, and the context for
the character before it. -/
def step (c : Char) (context : Context) : Int × Context :=
  if context.emojiStyle && hasEmojiStyle c then
    (if context.follower.isJoinedEmoji then 0 else 2, { follower := .emoji })
  else
    let context := context.withoutEmojiStyle
    let single : Int × Context := ((alone c).1, { follower := (alone c).2 })
    if c.toNat ≤ 0xA0 then
      if c = '\r' && context.follower = .lineFeed then (0, { follower := .other }) else single
    else if c = '\uFE0F' then (0, context.withEmojiStyle)
    else if c = '\uFE0E' then (0, context.withTextStyle)
    else if context.textStyle && hasNarrowStyle c then (1, { follower := .other })
    else
      let context := context.withoutTextStyle
      if context.follower.isLetter && context.follower ≠ .alef && isJoinable c then
        (0, if c = joiner then { context with follower := context.follower.afterJoiner }
          else context)
      else
        match joined? context.follower c with
        | some (columns, follower) => (columns, { follower })
        | none => single

/-- The columns of a list of characters, and the context for a character before it. -/
def columns : List Char → Int × Context
  | [] => (0, { follower := .other })
  | c :: rest =>
    let (sum, context) := columns rest
    let (added, context) := step c context
    (sum + added, context)

/-- The number of columns of a line. -/
def width (line : String) : Nat :=
  (columns line.toList).1.toNat

end Text

end SchemaBootstrap
