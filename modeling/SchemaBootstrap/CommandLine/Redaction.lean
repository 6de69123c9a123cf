import SchemaBootstrap.Text.Pieces

/-! # Hiding credentials

A connection string is shown without the part before the last `@` of its authority,
which is what stands between `://` and the next slash.
-/

namespace SchemaBootstrap

namespace Redaction

/-- The text before the first `://` and the text after it. -/
def splitScheme? : List Char → Option (List Char × List Char)
  | [] => none
  | ':' :: '/' :: '/' :: rest => some ([], rest)
  | c :: rest => (splitScheme? rest).map fun found => (c :: found.1, found.2)

/-- The text after the last `@`. -/
def afterLastAt? : List Char → Option (List Char)
  | [] => none
  | c :: rest =>
    match afterLastAt? rest with
    | some found => some found
    | none => if c = '@' then some rest else none

/-- The characters of a connection string without its credentials. -/
def redactChars (uri : List Char) : List Char :=
  match splitScheme? uri with
  | none => uri
  | some (scheme, rest) =>
    match afterLastAt? (rest.takeWhile (· != '/')) with
    | none => uri
    | some host => scheme ++ "://***@".toList ++ host ++ rest.dropWhile (· != '/')

end Redaction

/-- A connection string without its credentials. -/
def redactUri (uri : String) : String :=
  String.ofList (Redaction.redactChars uri.toList)

end SchemaBootstrap
