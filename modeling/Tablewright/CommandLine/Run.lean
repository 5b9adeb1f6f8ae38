import Tablewright.CommandLine.Request
import Tablewright.Console.Print
import Tablewright.ModelFile
import Tablewright.Session.Schema

/-!
# Carrying out a command

What a command prints and what it sends to the engine. A fault that the user can do something about
is reported in one line, and the command fails; any other is passed on.
-/

namespace Tablewright

namespace CommandLine

/-- What a command leads to. -/
structure Outcome where
  /-- The exit status, or a fault that is passed on. -/
  status : Except Fault Nat := .ok 0
  /-- The text on standard output. -/
  output : String := ""
  /-- The text on standard error. -/
  errors : String := ""
  /-- What happened. -/
  trace : List Event := []

/-- Lines as a text. -/
def linesText (lines : List String) : String :=
  "".intercalate (lines.map (· ++ "\n"))

/-- A line that the program reports. -/
def reportLine (message : String) : String :=
  "[strata] " ++ message

/-- Whether a fault is reported to the user: it lies in what the user gave, in a file, or in what
the engine refuses. A mere warning of the engine is none of these. -/
def isReported : Fault → Bool
  | .invalid _ => true
  | .unknownType _ => true
  | .hookFailed .. => true
  | .engine kind _ => kind != "Warning"
  | .modelNotDefined _ => false
  | .misuse _ => false
  | .file problem => problem.isReported
  | .malformed .. => true
  | .badMarkup => false

/-- The outcome after a fault, with what was reported before it. -/
def Outcome.afterFault (o : Outcome) (f : Fault) : Outcome :=
  if isReported f then
    { o with status := .ok 1, errors := o.errors ++ linesText [reportLine f.message] }
  else { o with status := .error f }

/-! ## Printing statements -/

/-- The statements as text, each ended by a semicolon. -/
def statementsText (statements : List SchemaStatement) : String :=
  linesText (statements.map fun s => s.render ++ ";")

/-- The statements as a JSON list, one to a line. -/
def statementsJson (statements : List SchemaStatement) : String :=
  if statements.isEmpty then "[]\n"
  else
    "[\n  " ++ ",\n  ".intercalate (statements.map fun s => Json.quoted s.render) ++ "\n]\n"

/-- The statements that make the models of a file and the views of a directory. -/
def schemaOf (files : Files) (models : Path) (views : Option Path) :
    Except Fault (List SchemaStatement) := do
  let statements ← ModelDefinition.schemaOf (← files.models models)
  match views with
  | some directory => pure (statements ++ (← files.viewSchema directory))
  | none => pure statements

/-- Prints the statements. -/
def runDdl (files : Files) (models : Path) (views : Option Path) (json : Bool) : Outcome :=
  match schemaOf files models views with
  | .ok statements =>
    { output := if json then statementsJson statements else statementsText statements }
  | .error f => ({} : Outcome).afterFault f

/-! ## Making the models -/

/-- The line that reports that something was made. -/
def doneLine (term name : String) : String :=
  "  [dim]" ++ Text.padEnd 20 term ++ "[/dim] " ++ Text.padEnd 24 name ++ " [green]ok[/green]"

/-- Defines models one after the other and reports each. -/
def defineAll (ds : List ModelDefinition) : Action Unit :=
  ds.forM fun d => do
    let m ← Action.define (.built d)
    Action.print (doneLine m.name m.tableName)

/-- Makes views one after the other and reports each. -/
def makeViews (views : List View) : Action Unit :=
  views.forM fun v => do
    Action.perform (← v.create).render
    Action.print (doneLine "view" v.name.display)

/-- Takes a step and closes the connection, whatever comes of it. -/
def closing (action : Action Unit) : Action Unit := fun s =>
  let (result, s) := s.perform action
  let (_, s) := s.perform Action.close
  (result, s)

/-- Announces what is going to be done, opens the database, and makes the models and the views. -/
def applyAll (files : Files) (ds : List ModelDefinition) (views : Option Path) : Action Unit := do
  let d ← Action.database
  Action.print ""
  Action.print ("  [bold]Applying " ++ toString ds.length ++ " model(s) to " ++ d.location ++
    "[/bold]")
  Action.print ""
  Action.setUp .own
  closing do
    defineAll ds
    match views with
    | some directory => do makeViews (← files.views directory)
    | none => pure ()

/-- The definitions of a file in the order of creation, and the options of the connection. -/
def preparation (files : Files) (environment : Environment) (models : Path) (verbose : Bool) :
    Except Fault (List ModelDefinition × Options) := do
  let ds ← ModelDefinition.inCreationOrder (← files.models models)
  let given : Mapping := if verbose then [(.str "verbose", .bool true)] else []
  pure (ds, ← Options.ofEnvironment environment given)

/-- Makes the models of a file in a database. -/
def runApply (files : Files) (environment : Environment) (world : World) (models database : Path)
    (views : Option Path) (verbose : Bool) : Outcome :=
  match preparation files environment models verbose with
  | .error f => ({} : Outcome).afterFault f
  | .ok (ds, options) =>
    let (result, s) := Session.perform { database := { location := database.text, options }, world }
      (applyAll files ds views)
    let outcome : Outcome :=
      { output := linesText s.world.output
        errors := linesText (s.world.diagnostics.map reportLine)
        trace := s.world.trace }
    match result with
    | .ok _ => outcome
    | .error f => outcome.afterFault f

/-! ## Requests -/

/-- Carries out a request. -/
def Request.run (files : Files) (environment : Environment) (world : World) : Request → Outcome
  | .help text => { output := text }
  | .nothing => { status := .ok 1, output := program.helpText }
  | .refused text => { status := .ok 2, errors := text }
  | .ddl models views json => runDdl files models views json
  | .apply models database views verbose =>
    runApply files environment world models database views verbose

end CommandLine

end Tablewright
