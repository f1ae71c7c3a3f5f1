import LineJoin.Text.Utf8

/-!
# Files

Paths are kept in normal form: empty and single-dot parts are gone, double-dot parts stay, because
what they mean depends on the directories. The files that a run can reach are listed by their paths.
-/

namespace LineJoin.CommandLine

/-- A path in normal form: the slashes it starts with, and its parts. -/
structure Path where
  root : Text
  parts : List Text
  deriving DecidableEq, Repr

namespace Path

/-- The pieces of a text between slashes. -/
def splitSlashes : Text → List Text
  | [] => [[]]
  | '/' :: rest => [] :: splitSlashes rest
  | c :: rest =>
    match splitSlashes rest with
    | [] => [[c]]
    | piece :: more => (c :: piece) :: more

/-- The slashes that a path starts with: two stay two, and any other number is one. -/
def rootOf (t : Text) : Text :=
  match (t.takeWhile (· == '/')).length with
  | 0 => []
  | 2 => ['/', '/']
  | _ => ['/']

/-- The path that a text writes. -/
def ofText (t : Text) : Path where
  root := rootOf t
  parts := (splitSlashes t).filter fun part => part != [] && part != ['.']

/-- The text of a path; one without parts is the current directory. -/
def toText (p : Path) : Text :=
  if p.root.isEmpty && p.parts.isEmpty then ['.'] else p.root ++ ['/'].intercalate p.parts

/-- The last part. -/
def name (p : Path) : Text := p.parts.getLast?.getD []

/-- What follows the last dot of the name; nothing if that dot starts or ends the name. -/
def extension (p : Path) : Text :=
  let after := p.name.reverse.takeWhile (· != '.')
  if 0 < after.length ∧ after.length + 1 < p.name.length then after.reverse else []

end Path

/-- Files by their paths, with their contents. -/
abbrev FileTree := List (Path × Text.Bytes)

namespace FileTree

/-- Whether a file is listed under a path. -/
def hasFile (tree : FileTree) (p : Path) : Bool := tree.any (·.1 == p)

/-- Whether there is a directory with the given parts. -/
def hasDirectory (tree : FileTree) (parts : List Text) : Bool :=
  tree.any fun (file, _) => parts.isPrefixOf file.parts && decide (parts.length < file.parts.length)

/-- The file that parts lead to from a directory. A double dot leads to the directory above, which
has to be in the tree. -/
def locateFrom (tree : FileTree) (directory : List Text) : List Text → Option Path
  | [] => none
  | part :: rest =>
    if part = ['.', '.'] then
      if directory.isEmpty then none else locateFrom tree directory.dropLast rest
    else if rest.isEmpty then
      let file : Path := ⟨[], directory ++ [part]⟩
      if tree.hasFile file then some file else none
    else if hasDirectory tree (directory ++ [part]) then
      locateFrom tree (directory ++ [part]) rest
    else none

/-- The file that a path leads to: the one listed under it, or else the one that its double dots
lead to. -/
def locate (tree : FileTree) (p : Path) : Option Path :=
  if tree.hasFile p then some p
  else if p.root.isEmpty then tree.locateFrom [] p.parts
  else none

/-- The content of a file. -/
def content (tree : FileTree) (file : Path) : Text.Bytes := (tree.lookup file).getD []

/-- A tree in which a file has new content. -/
def write (tree : FileTree) (file : Path) (bytes : Text.Bytes) : FileTree :=
  tree.map fun (other, old) => if other = file then (other, bytes) else (other, old)

end FileTree

end LineJoin.CommandLine
