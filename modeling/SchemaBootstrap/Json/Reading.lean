import SchemaBootstrap.Json.Number

/-! # Reading JSON texts

A text is read as the one value it consists of, with white space around every
token (`Json.read?`).
-/

namespace SchemaBootstrap

namespace Json

/-- Whether a character may stand between tokens. -/
def isSpace (c : Char) : Bool :=
  c = ' ' || c = '\n' || c = '\r' || c = '\t'

/-- A text from its first token on. -/
def skipSpace (text : List Char) : List Char :=
  text.dropWhile isSpace

/-- The value of a digit of base sixteen. -/
def hexValue? (c : Char) : Option Nat :=
  if c.isDigit then some (c.toNat - '0'.toNat)
  else if 'a' ≤ c ∧ c ≤ 'f' then some (c.toNat - 'a'.toNat + 10)
  else if 'A' ≤ c ∧ c ≤ 'F' then some (c.toNat - 'A'.toNat + 10)
  else none

/-- The number of four digits of base sixteen. -/
def hexNumber? (a b c d : Char) : Option Nat := do
  let a ← hexValue? a
  let b ← hexValue? b
  let c ← hexValue? c
  let d ← hexValue? d
  pure (((a * 16 + b) * 16 + c) * 16 + d)

/-- The character of a one-letter escape. -/
def shortEscape? (c : Char) : Option Char :=
  match c with
  | '"' => some '"'
  | '\\' => some '\\'
  | '/' => some '/'
  | 'b' => some '\x08'
  | 'f' => some '\x0c'
  | 'n' => some '\n'
  | 'r' => some '\r'
  | 't' => some '\t'
  | _ => none

/-- The characters of a string up to its closing quote, and the text behind it. -/
def readString? : List Char → Option (List Char × List Char)
  | [] => none
  | '"' :: rest => some ([], rest)
  | '\\' :: 'u' :: a :: b :: c :: d :: rest => do
    let high ← hexNumber? a b c d
    if 0xD800 ≤ high ∧ high < 0xDC00 then
      match rest with
      | '\\' :: 'u' :: e :: f :: g :: h :: rest =>
        let low ← hexNumber? e f g h
        if 0xDC00 ≤ low ∧ low < 0xE000 then
          let (chars, rest) ← readString? rest
          pure (Char.ofNat (0x10000 + (high - 0xD800) * 0x400 + (low - 0xDC00)) :: chars, rest)
        else none
      | _ => none
    else if 0xDC00 ≤ high ∧ high < 0xE000 then none
    else
      let (chars, rest) ← readString? rest
      pure (Char.ofNat high :: chars, rest)
  | '\\' :: c :: rest => do
    let c ← shortEscape? c
    let (chars, rest) ← readString? rest
    pure (c :: chars, rest)
  | c :: rest =>
    if c.toNat < 32 then none
    else do
      let (chars, rest) ← readString? rest
      pure (c :: chars, rest)

/-- Whether a character may occur in a number. -/
def isNumberChar (c : Char) : Bool :=
  c.isDigit || c = '-' || c = '+' || c = '.' || c = 'e' || c = 'E'

mutual

/-- A value at the start of a text, and the text behind it; nesting is bounded by the fuel. -/
def readValue? : (fuel : Nat) → List Char → Option (Json × List Char)
  | 0, _ => none
  | fuel + 1, text =>
    match skipSpace text with
    | 'n' :: 'u' :: 'l' :: 'l' :: rest => some (.null, rest)
    | 't' :: 'r' :: 'u' :: 'e' :: rest => some (.bool true, rest)
    | 'f' :: 'a' :: 'l' :: 's' :: 'e' :: rest => some (.bool false, rest)
    | '"' :: rest =>
      (readString? rest).map fun (chars, rest) => (.string (String.ofList chars), rest)
    | '[' :: rest =>
      match skipSpace rest with
      | ']' :: rest => some (.array [], rest)
      | rest => (readElements? fuel rest).map fun (elements, rest) => (.array elements, rest)
    | '\x7b' :: rest =>
      match skipSpace rest with
      | '\x7d' :: rest => some (.object [], rest)
      | rest => (readMembers? fuel [] rest).map fun (members, rest) => (.object members, rest)
    | text =>
      (number? (text.takeWhile isNumberChar)).map fun value => (value, text.dropWhile isNumberChar)

/-- The elements of an array up to its closing bracket. -/
def readElements? : (fuel : Nat) → List Char → Option (List Json × List Char)
  | 0, _ => none
  | fuel + 1, text => do
    let (element, rest) ← readValue? fuel text
    match skipSpace rest with
    | ',' :: rest => do
      let (elements, rest) ← readElements? fuel rest
      pure (element :: elements, rest)
    | ']' :: rest => pure ([element], rest)
    | _ => none

/-- The members of an object up to its closing brace, after the ones read already. -/
def readMembers? : (fuel : Nat) → List (String × Json) → List Char →
    Option (List (String × Json) × List Char)
  | 0, _, _ => none
  | fuel + 1, members, text =>
    match skipSpace text with
    | '"' :: rest => do
      let (name, rest) ← readString? rest
      match skipSpace rest with
      | ':' :: rest => do
        let (value, rest) ← readValue? fuel rest
        let members := putMember (String.ofList name) value members
        match skipSpace rest with
        | ',' :: rest => readMembers? fuel members rest
        | '\x7d' :: rest => pure (members, rest)
        | _ => none
      | _ => none
    | _ => none

end

/-- The value that a text consists of. -/
def read? (text : String) : Option Json :=
  let chars := text.toList
  match readValue? (2 * chars.length + 2) chars with
  | some (value, rest) => if (skipSpace rest).isEmpty then some value else none
  | none => none

end Json

end SchemaBootstrap
