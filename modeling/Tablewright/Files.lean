import Tablewright.Fault
import Tablewright.Named
import Tablewright.Text.Blank
import Tablewright.Text.Surrogate
import Tablewright.Text.Utf8

/-!
# Files

Paths, and what can be read at them. A `Files` answers for a whole file system; a `FileTree` is one
that is given by the contents of its files.
-/

namespace Tablewright

/-- A path: its names, from the root or from the working directory. -/
structure Path where
  /-- The text of the root it begins at; empty for the working directory. -/
  root : String
  /-- The names, in order. -/
  names : List String
  deriving DecidableEq, Repr

namespace Path

/-- The root that a number of leading slashes stand for. Two of them are a root of their own. -/
def rootOf (slashes : Nat) : String :=
  if slashes = 0 then "" else if slashes = 2 then "//" else "/"

/-- The path that a text writes down. Empty names and single points lead nowhere. -/
def ofText (s : String) : Path :=
  let pieces := (Text.splitAtChar '/' s.toList).map String.ofList
  { root := rootOf (s.toList.takeWhile (· == '/')).length
    names := pieces.filter fun p => p != "" && p != "." }

/-- The text of a path. -/
def text (p : Path) : String :=
  if p.root == "" && p.names.isEmpty then "." else p.root ++ "/".intercalate p.names

/-- The last name of a path. -/
def name (p : Path) : String :=
  p.names.getLast?.getD ""

/-- The path that goes on with one more name. -/
def child (p : Path) (name : String) : Path :=
  { p with names := p.names ++ [name] }

/-- What stands before the last point of a name and what stands behind it. -/
def splitAtLastPoint (name : List Char) : List Char × List Char :=
  let after := (name.reverse.takeWhile (· != '.')).reverse
  (name.take (name.length - after.length - 1), after)

/-- The last name without its ending. A point at the start or at the end of a name begins none. -/
def stem (p : Path) : String :=
  let cs := p.name.toList
  let (before, after) := splitAtLastPoint cs
  if cs.contains '.' && !before.isEmpty && !after.isEmpty then String.ofList before
  else p.name

/-- Whether the last name ends in a text. -/
def hasEnding (ending : String) (p : Path) : Bool :=
  ending.toList.reverse.isPrefixOf p.name.toList.reverse

/-- The number of bytes that a character takes up in a path. Some halves of surrogate pairs stand
for a byte that is no part of a character; the others stand for nothing. -/
def charBytes? (c : Char) : Option Nat :=
  if Text.isSurrogate c then
    if 56448 ≤ Text.codePoint c && Text.codePoint c ≤ 56575 then some 1 else none
  else some c.utf8Size

/-- The number of bytes that a text takes up in a path. -/
def bytes? (s : String) : Option Nat :=
  s.toList.foldlM (fun n c => (charBytes? c).map (n + ·)) 0

/-- The most bytes a path may have. -/
def maxBytes : Nat := 4095

/-- What keeps a path from being looked up at all. -/
def problem? (p : Path) : Option FileProblem :=
  match bytes? p.text with
  | none => some .unencodablePath
  | some n =>
    if p.text.toList.contains '\x00' then some .nullCharacter
    else if maxBytes < n then some (.nameTooLong p.text)
    else none

end Path

/-- What can be read at paths. -/
structure Files where
  /-- The bytes of a file. -/
  read : Path → Except FileProblem (List UInt8)
  /-- The names of all that a directory holds; none if there is no such directory. -/
  list : Path → Except FileProblem (List String)

namespace Files

/-- The text of a file, every line of which ends in a line feed. -/
def readText (files : Files) (p : Path) : Except Fault String :=
  match files.read p with
  | .error problem => .error (.file problem)
  | .ok bytes =>
    match Text.decodeUtf8? bytes with
    | some cs => pure (String.ofList (Text.normalizeLineEnds cs))
    | none => .error (.file .badEncoding)

/-- The names of all that a directory holds. -/
def namesIn (files : Files) (p : Path) : Except Fault (List String) :=
  (files.list p).mapError .file

end Files

/-! ## Trees -/

/-- The contents of files under their paths from the working directory. -/
abbrev FileTree := List (List String × List UInt8)

namespace FileTree

/-- Whether the names lead to a directory. -/
def isDirectory (tree : FileTree) (names : List String) : Bool :=
  names.isEmpty || tree.any fun e => names.isPrefixOf e.1 && names.length < e.1.length

/-- What stands at a place. -/
inductive Place where
  | file (bytes : List UInt8)
  | directory (names : List String)
  /-- A directory that holds the tree. -/
  | outside
  | nothing
  | notDirectory
  /-- A name on the way is too long for any file. -/
  | tooLong

/-- The most bytes a name may have. -/
def maxNameBytes : Nat := 255

/-- What the names lead to. Of two contents of one file the later counts. -/
def placeOf (tree : FileTree) (names : List String) : Place :=
  match tree.reverse.find? fun e => e.1 == names with
  | some e => .file e.2
  | none => if tree.isDirectory names then .directory names else .nothing

/-- What a name leads to from a place; two points lead back. -/
def step (tree : FileTree) (place : Place) (name : String) : Place :=
  match place with
  | .directory base =>
    if name == ".." then
      if base.isEmpty then .outside else .directory base.dropLast
    else if maxNameBytes < (Path.bytes? name).getD 0 then .tooLong
    else tree.placeOf (base ++ [name])
  | .outside =>
    if name == ".." then .outside
    else if maxNameBytes < (Path.bytes? name).getD 0 then .tooLong
    else .nothing
  | .file _ => .notDirectory
  | place => place

/-- What a path leads to. -/
def place (tree : FileTree) (p : Path) : Place :=
  p.names.foldl tree.step (if p.root == "" then .directory [] else .outside)

/-- The names in a directory. -/
def names (tree : FileTree) (base : List String) : List String :=
  (tree.filterMap fun e =>
    if base.isPrefixOf e.1 then (e.1.drop base.length).head? else none).eraseDups

/-- The bytes of a file of a tree. -/
def read (tree : FileTree) (p : Path) : Except FileProblem (List UInt8) :=
  match p.problem? with
  | some problem => .error problem
  | none =>
    match tree.place p with
    | .file bytes => .ok bytes
    | .directory _ => .error (.isDirectory p.text)
    | .outside => .error (.isDirectory p.text)
    | .nothing => .error (.missing p.text)
    | .notDirectory => .error (.notDirectory p.text)
    | .tooLong => .error (.nameTooLong p.text)

/-- The names in a directory of a tree. A path that no directory can have leads to none, but one
that is too long is refused. -/
def list (tree : FileTree) (p : Path) : Except FileProblem (List String) :=
  match p.problem? with
  | some (.nameTooLong path) => .error (.nameTooLong path)
  | some _ => .ok []
  | none =>
    match tree.place p with
    | .directory base => .ok (tree.names base)
    | .tooLong => .error (.nameTooLong p.text)
    | _ => .ok []

/-- The files of a tree. -/
def files (tree : FileTree) : Files :=
  { read := tree.read, list := tree.list }

end FileTree

end Tablewright
