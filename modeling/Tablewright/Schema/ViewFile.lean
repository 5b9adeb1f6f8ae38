import Tablewright.Definition.Parts
import Tablewright.Files
import Tablewright.Text.Casing

/-!
# View files

A view may be kept in a file: its query, with lines of comment before it that may give the name of
the view, the names of its columns, and whether it is temporary.
-/

namespace Tablewright

/-- The parts of a view that its file gives. -/
structure ViewFile where
  /-- The name. -/
  name : Option String := none
  /-- The columns. -/
  columns : Option (List String) := none
  /-- Whether the view is temporary. -/
  temporary : Bool := false
  /-- The lines of the query. -/
  body : List String := []
  deriving DecidableEq, Repr

namespace ViewFile

/-- The rest of a text behind an opening. -/
def behind? (opening s : String) : Option String :=
  if opening.toList.isPrefixOf s.toList then
    some (String.ofList (s.toList.drop opening.length))
  else none

/-- The names between commas; blanks around them do not count, nor do empty names. -/
def nameList (s : String) : List String :=
  (((Text.splitAtChar ',' s.toList).map String.ofList).map Text.trim).filter (· != "")

/-- Whether a text says yes. -/
def saysYes (s : String) : Bool :=
  ["true", "1", "yes"].contains (Text.lower (Text.trim s))

/-- Takes in what a comment says. -/
def annotate (v : ViewFile) (comment : String) : ViewFile :=
  let s := Text.trim (String.ofList (comment.toList.dropWhile (· == '-')))
  match behind? "@name:" s with
  | some name => { v with name := some (Text.trim name) }
  | none =>
    match behind? "@columns:" s with
    | some columns => { v with columns := some (nameList columns) }
    | none =>
      match behind? "@temporary:" s with
      | some answer => { v with temporary := saysYes answer }
      | none => v

/-- Whether a trimmed line is a comment. -/
def isComment (line : String) : Bool :=
  "--".toList.isPrefixOf line.toList

/-- Reads lines: comments and blank lines up to the first other line, which begins the query. -/
def ofLines (v : ViewFile) : List String → ViewFile
  | [] => v
  | line :: rest =>
    let s := Text.trim line
    if isComment s then (v.annotate s).ofLines rest
    else if s == "" then v.ofLines rest
    else { v with body := line :: rest }

/-- Reads the text of a file. -/
def parse (content : String) : ViewFile :=
  ofLines {} (Text.lines content)

/-- The query. -/
def select (v : ViewFile) : String :=
  Text.trim ("\n".intercalate v.body)

/-- The view, which takes its name from the file if it has no other. -/
def toView (v : ViewFile) (stem : String) : View :=
  { name := .str (match v.name with
      | some name => if name == "" then stem else name
      | none => stem)
    select := .str v.select
    columns := match v.columns with
      | some names => .ofTexts names
      | none => .null
    temporary := .bool v.temporary
    ifNotExists := .bool true }

end ViewFile

namespace Files

/-- The view in a file. -/
def view (files : Files) (p : Path) : Except Fault View := do
  let content ← files.readText p
  pure ((ViewFile.parse content).toView p.stem)

/-- The paths of the view files in a directory, in the order of their names. -/
def viewPaths (files : Files) (directory : Path) : Except Fault (List Path) := do
  let names := (← files.namesIn directory).filter fun name =>
    (directory.child name).hasEnding ".sql"
  pure ((names.mergeSort Text.precedes).map directory.child)

/-- The views in a directory. -/
def views (files : Files) (directory : Path) : Except Fault (List View) := do
  (← files.viewPaths directory).mapM files.view

end Files

end Tablewright
