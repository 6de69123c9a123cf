import SchemaBootstrap.Text.Blank
import SchemaBootstrap.Text.CaseMapping

/-! # Upper and lower case

Texts are mapped character by character with the full mappings of the Unicode
character database, so a text may grow. The Greek capital sigma is the one
character whose lower case depends on its neighbours: at the end of a word it
becomes a final sigma.
-/

namespace SchemaBootstrap

namespace Text

/-- A code point mapped by the first range that covers it. -/
def mapCode (ranges : List CaseRange) (code : Nat) : Nat :=
  match ranges.find? (·.covers code) with
  | some range => ((code : Int) + range.shift).toNat
  | none => code

/-- The upper case of a character. -/
def upperChar (c : Char) : List Char :=
  match upperSpecial.lookup c.toNat with
  | some codes => codes.map Char.ofNat
  | none => [Char.ofNat (mapCode upperRanges c.toNat)]

/-- The lower case of a character that is not a capital sigma. -/
def lowerChar (c : Char) : List Char :=
  match lowerSpecial.lookup c.toNat with
  | some codes => codes.map Char.ofNat
  | none => [Char.ofNat (mapCode lowerRanges c.toNat)]

/-- A text in upper case. -/
def upper (text : String) : String :=
  String.ofList (text.toList.flatMap upperChar)

/-- Whether a cased character stands at the front, ignorable characters apart. -/
def startsCased (text : List Char) : Bool :=
  match text.dropWhile (inRanges ignorableRanges ·.toNat) with
  | [] => false
  | c :: _ => inRanges casedRanges c.toNat

/-- The lower case of a text, given the characters before it in reverse order. -/
def lowerFrom : (before text : List Char) → List Char
  | _, [] => []
  | before, c :: rest =>
    let image :=
      if c = 'Σ' then
        if startsCased before && !startsCased rest then ['ς'] else ['σ']
      else lowerChar c
    image ++ lowerFrom (c :: before) rest

/-- A text in lower case. -/
def lower (text : String) : String :=
  String.ofList (lowerFrom [] text.toList)

/-- A text with the ASCII letters in lower case. -/
def lowerAscii (text : List Char) : List Char :=
  text.map Char.toLower

end Text

end SchemaBootstrap
