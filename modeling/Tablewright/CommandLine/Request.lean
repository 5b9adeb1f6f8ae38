import Tablewright.CommandLine.Reading
import Tablewright.Files

/-!
# The commands

One command prints the statements that make the models of a file; the other sends them to a
database.
-/

namespace Tablewright

namespace CommandLine

/-- The option for a directory of views. -/
def viewsOption : OptionSyntax :=
  { names := ["--views"], value := some "VIEWS", help := "Directory of .sql view files" }

/-- The option for output as JSON. -/
def jsonOption : OptionSyntax :=
  { names := ["--json"], help := "Output a JSON array" }

/-- The option for reporting what is done. -/
def verboseOption : OptionSyntax :=
  { names := ["-v", "--verbose"], help := "Print executed SQL to stderr" }

/-- The argument for the file of models. -/
def modelsArgument : PositionalSyntax :=
  { name := "models", help := "JSON file of model definitions" }

/-- The argument for the database. -/
def databaseArgument : PositionalSyntax :=
  { name := "database", help := "SQLite database file" }

/-- The command that prints statements. -/
def ddlCommand : CommandSyntax :=
  { program := "strata ddl", help := "Print DDL for model definitions"
    options := [viewsOption, jsonOption], positionals := [modelsArgument] }

/-- The command that sends statements to a database. -/
def applyCommand : CommandSyntax :=
  { program := "strata apply", help := "Create the models in a database file"
    options := [viewsOption, verboseOption], positionals := [modelsArgument, databaseArgument] }

/-- The program. -/
def program : ProgramSyntax :=
  { name := "strata", description := "Declarative models compiled to SQLite DDL and DML."
    commands := [("ddl", ddlCommand), ("apply", applyCommand)] }

/-- What a command line asks for. -/
inductive Request where
  /-- To print a text, which is the help. -/
  | help (text : String)
  /-- Nothing. -/
  | nothing
  /-- Something that is refused with a text. -/
  | refused (text : String)
  /-- To print the statements that make the models of a file. -/
  | ddl (models : Path) (views : Option Path) (json : Bool)
  /-- To make the models of a file in a database. -/
  | apply (models database : Path) (views : Option Path) (verbose : Bool)

namespace Request

/-- What a command and its arguments ask for. -/
def ofCommand (name : String) (g : Given) : Request :=
  let views := (g.valueOf viewsOption).map Path.ofText
  match name, g.positionals with
  | "ddl", [models] => ddl (.ofText models) views (g.has jsonOption)
  | "apply", [models, database] =>
    apply (.ofText models) (.ofText database) views (g.has verboseOption)
  | _, _ => nothing

/-- What a command line asks for. -/
def ofArguments (args : List String) : Request :=
  match program.read args with
  | .help text => help text
  | .empty => nothing
  | .wrong text => refused text
  | .command name given => ofCommand name given

/-- The files that a request reads, and the directory whose files it reads. -/
def sources : Request → Option (Path × Option Path)
  | ddl models views _ => some (models, views)
  | apply models _ views _ => some (models, views)
  | _ => none

end Request

end CommandLine

end Tablewright
