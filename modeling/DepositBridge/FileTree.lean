import DepositBridge.Text.Utf8

/-!
# Files

Paths, and what a program finds under its working directory.
-/

namespace DepositBridge

/-- A path in normal form: the slashes it starts with, none, one or two, and the names between its
slashes, without empty ones and those that stand for the place they are in. -/
structure Path where
  root : List Char
  names : List (List Char)
  deriving DecidableEq, Repr

namespace Path

/-- The slashes that a text starts with, as far as they count: exactly two stay two. -/
def rootOf : List Char → List Char
  | '/' :: '/' :: '/' :: _ => ['/']
  | '/' :: '/' :: _ => ['/', '/']
  | '/' :: _ => ['/']
  | _ => []

/-- The path that a text writes. -/
def ofText (text : String) : Path where
  root := rootOf text.toList
  names := (text.toList.splitOn '/').filter fun name => !(name.isEmpty || name = ['.'])

/-- A path below another; one that starts with a slash stands alone. -/
def join (base path : Path) : Path :=
  if path.root.isEmpty then { base with names := base.names ++ path.names } else path

/-- The text of a path; the empty path is a point. -/
def text (path : Path) : String :=
  if path.root.isEmpty && path.names.isEmpty then "."
  else String.ofList (path.root ++ List.intercalate ['/'] path.names)

end Path

/-- What a name stands for. -/
inductive FileTree.Entry where
  | file (content : Octets)
  | directory
  deriving DecidableEq, Repr

/-- The files and directories below a working directory, each under its names from there, and those
that single paths lead to. The directories on the way to an entry are there too. -/
structure FileTree where
  entries : List (List (List Char) × FileTree.Entry)
  elsewhere : List (Path × FileTree.Entry)
  deriving Repr

namespace FileTree

/-- A working directory with nothing in it. -/
def empty : FileTree := ⟨[], []⟩

/-- What names, followed from the working directory, lead to. -/
def entryAt? (tree : FileTree) (names : List (List Char)) : Option Entry :=
  match tree.entries.find? fun (at_, _) => at_ = names with
  | some (_, entry) => some entry
  | none =>
    if names.isEmpty || tree.entries.any fun (at_, _) => names.isPrefixOf at_ then some .directory
    else none

/-- Follows names from a directory; two points lead to the directory above, but not out of the
tree. -/
def follow (tree : FileTree) (place : List (List Char)) : List (List Char) → Option Entry
  | [] => tree.entryAt? place
  | name :: rest =>
    match tree.entryAt? place with
    | some .directory =>
      if name = ['.', '.'] then
        if place.isEmpty then none else follow tree place.dropLast rest
      else follow tree (place ++ [name]) rest
    | _ => none

/-- What a path leads to. Outside of the working directory only single paths are known. -/
def find? (tree : FileTree) (path : Path) : Option Entry :=
  match tree.elsewhere.lookup path with
  | some entry => some entry
  | none => if path.root.isEmpty then tree.follow [] path.names else none

/-- The content of the file that a path leads to. -/
def read? (tree : FileTree) (path : Path) : Option Octets :=
  match tree.find? path with
  | some (.file content) => some content
  | _ => none

end FileTree

namespace Text

/-- A text whose lines all end in a line feed alone. -/
def unifyLineEnds : List Char → List Char
  | '\r' :: '\n' :: rest => '\n' :: unifyLineEnds rest
  | '\r' :: rest => '\n' :: unifyLineEnds rest
  | c :: rest => c :: unifyLineEnds rest
  | [] => []

/-- The text of a file. -/
def ofFile (content : Octets) : Except Utf8Fault (List Char) :=
  (decodeUtf8 content).map fun text => unifyLineEnds text.toList

end Text

end DepositBridge
