import Tablewright.Text.Padded
import Tablewright.Text.Quoted

/-!
# The syntax of a command line

A command is declared by its options and its positional arguments. The declaration gives the usage
line that precedes every error, and the help.
-/

namespace Tablewright

namespace CommandLine

/-- An option of a command. -/
structure OptionSyntax where
  /-- The spellings. -/
  names : List String
  /-- The name of its value, if it takes one. -/
  value : Option String := none
  /-- What it is for. -/
  help : String
  deriving DecidableEq, Repr

namespace OptionSyntax

/-- Whether an option is followed by a value. -/
def takesValue (o : OptionSyntax) : Bool :=
  o.value.isSome

/-- A spelling with the name of the value. -/
def spelled (o : OptionSyntax) (name : String) : String :=
  match o.value with
  | some value => name ++ " " ++ value
  | none => name

/-- The option in messages. -/
def displayName (o : OptionSyntax) : String :=
  "/".intercalate o.names

end OptionSyntax

/-- The option that every command has. -/
def helpOption : OptionSyntax :=
  { names := ["-h", "--help"], help := "show this help message and exit" }

/-- A positional argument of a command. -/
structure PositionalSyntax where
  /-- The name. -/
  name : String
  /-- What it is for. -/
  help : String
  deriving DecidableEq, Repr

/-- A command. -/
structure CommandSyntax where
  /-- The words that call it. -/
  program : String
  /-- What it is for. -/
  help : String
  /-- The options besides that for help. -/
  options : List OptionSyntax
  /-- The positional arguments, all of which are needed. -/
  positionals : List PositionalSyntax
  deriving DecidableEq, Repr

/-- A program with several commands. -/
structure ProgramSyntax where
  /-- The name. -/
  name : String
  /-- What it is for. -/
  description : String
  /-- The commands under their names. -/
  commands : List (String × CommandSyntax)
  deriving DecidableEq, Repr

/-! ## Usage -/

/-- An option as the usage shows it. -/
def OptionSyntax.usage (o : OptionSyntax) : String :=
  "[" ++ o.spelled (o.names.headD "") ++ "]"

/-- The usage line of a command. -/
def CommandSyntax.usage (c : CommandSyntax) : String :=
  "usage: " ++ " ".intercalate
    (c.program :: (helpOption :: c.options).map OptionSyntax.usage ++
      c.positionals.map PositionalSyntax.name)

/-- The names of the commands as a choice. -/
def ProgramSyntax.choice (p : ProgramSyntax) : String :=
  "\x7b" ++ ",".intercalate (p.commands.map (·.1)) ++ "\x7d"

/-- The usage line of a program. -/
def ProgramSyntax.usage (p : ProgramSyntax) : String :=
  "usage: " ++ " ".intercalate [p.name, helpOption.usage, p.choice, "..."]

/-! ## Help -/

/-- A line of a help table: what is explained, how far it is set in, and the explanation. -/
structure HelpRow where
  /-- The blanks before it. -/
  indent : Nat
  /-- What is explained. -/
  term : String
  /-- The explanation. -/
  text : String
  deriving DecidableEq, Repr

/-- The column in which explanations begin: two blanks behind the longest term. -/
def helpColumn (rows : List HelpRow) : Nat :=
  (rows.map fun r => r.indent + r.term.length).foldl max 0 + 2

/-- The text of a row. -/
def HelpRow.render (column : Nat) (r : HelpRow) : String :=
  let start := String.ofList (List.replicate r.indent ' ') ++ r.term
  if r.text == "" then start ++ "\n" else Text.padEnd column start ++ r.text ++ "\n"

/-- A section of the help. -/
def helpSection (title : String) (column : Nat) (rows : List HelpRow) : String :=
  title ++ ":\n" ++ "".intercalate (rows.map (HelpRow.render column))

/-- The row of an option. -/
def OptionSyntax.row (o : OptionSyntax) : HelpRow :=
  { indent := 2, term := ", ".intercalate (o.names.map o.spelled), text := o.help }

/-- The help for a table of positional arguments and one of options. -/
def helpText (opening : String) (positionals options : List HelpRow) : String :=
  let column := helpColumn (positionals ++ options)
  opening ++ "\n" ++ helpSection "positional arguments" column positionals ++ "\n" ++
    helpSection "options" column options

/-- The help of a command. -/
def CommandSyntax.helpText (c : CommandSyntax) : String :=
  CommandLine.helpText (c.usage ++ "\n")
    (c.positionals.map fun p => { indent := 2, term := p.name, text := p.help })
    ((helpOption :: c.options).map OptionSyntax.row)

/-- The help of a program. -/
def ProgramSyntax.helpText (p : ProgramSyntax) : String :=
  CommandLine.helpText (p.usage ++ "\n\n" ++ p.description ++ "\n")
    ({ indent := 2, term := p.choice, text := "" } ::
      p.commands.map fun c => { indent := 4, term := c.1, text := c.2.help })
    [helpOption.row]

end CommandLine

end Tablewright
