import SchemaBootstrap.Config.Loading
import SchemaBootstrap.Text.Pieces

/-! # Files held in memory

A tree of files below a working directory, given by their relative paths. A path leads
from directory to directory; points in it stand for the directory itself and its
parent. Above the working directory there are directories, whose names are not known. A
directory for a log is made if it is not there, unless a file is in the way.
-/

namespace SchemaBootstrap

/-- Files by their relative paths. -/
structure FileTree where
  files : List (String × String)

/-- A place that a path leads to. -/
inductive Place where
  /-- Below the working directory, given by the names that lead there, the last one first. -/
  | below (names : List (List Char))
  /-- A directory above the working directory. -/
  | above
  deriving DecidableEq

namespace FileTree

/-- The names that lead to a file, without points, the last one first. -/
def names : (taken : List (List Char)) → List (List Char) → List (List Char)
  | taken, [] => taken
  | taken, [] :: rest => names taken rest
  | taken, ['.'] :: rest => names taken rest
  | taken, ['.', '.'] :: rest => names taken.tail rest
  | taken, name :: rest => names (name :: taken) rest

/-- The files by the names that lead to them. -/
def located (tree : FileTree) : List (List (List Char) × String) :=
  tree.files.map fun file => (names [] (Text.pieces '/' file.1.toList), file.2)

/-- Whether there is a directory at a place. -/
def isDirectory (tree : FileTree) : Place → Bool
  | .above => true
  | .below names =>
    names.isEmpty || tree.located.any fun file =>
      names.length < file.1.length && names.isSuffixOf file.1

/-- The place that one name leads to from another place, which has to be a directory. -/
def step? (tree : FileTree) (place : Place) (name : List Char) : Option Place :=
  if tree.isDirectory place then
    match place, name with
    | place, [] => some place
    | place, ['.'] => some place
    | .above, ['.', '.'] => some .above
    | .below names, ['.', '.'] => some (if names.isEmpty then .above else .below names.tail)
    | .above, _ => none
    | .below names, name => some (.below (name :: names))
  else none

/-- The place that a path leads to. -/
def place? (tree : FileTree) (path : String) : Option Place :=
  match path.toList with
  | [] => none
  | '/' :: rest => (Text.pieces '/' rest).foldlM tree.step? .above
  | chars => (Text.pieces '/' chars).foldlM tree.step? (.below [])

/-- The text of the file at a path. Of several at one place the last counts. -/
def text? (tree : FileTree) (path : String) : Option String :=
  match tree.place? path with
  | some (.below names) => tree.located.reverse.lookup names
  | _ => none

/-- Whether there is anything at a path. -/
def contains (tree : FileTree) (path : String) : Bool :=
  (tree.text? path).isSome || (tree.place? path).any tree.isDirectory

/-- The place that one name leads to from another place if directories are made on the way. A
file cannot be made one; above the working directory no file is known. -/
def makeStep? (tree : FileTree) (place : Place) (name : List Char) : Option Place :=
  match place, name with
  | place, [] => some place
  | place, ['.'] => some place
  | .above, _ => some .above
  | .below names, ['.', '.'] => some (if names.isEmpty then .above else .below names.tail)
  | .below names, name =>
    if (tree.located.lookup (name :: names)).isSome then none else some (.below (name :: names))

/-- Whether a file can be opened in a directory, which is made if need be. -/
def keepsLog (tree : FileTree) (directory : String) : Bool :=
  let chars := directory.toList
  let place : Place := if chars.head? = some '/' then .above else .below []
  !chars.contains '\x00' && ((Text.pieces '/' chars).foldlM tree.makeStep? place).isSome

/-- The view of the files. -/
def view (tree : FileTree) : FileView where
  text? := tree.text?
  contains := tree.contains
  keepsLog := tree.keepsLog

end FileTree

end SchemaBootstrap
