import Tablewright.CommandLine.Token

/-!
# Reading a command line

Options and positional arguments may come in any order. Positional arguments are filled from left
to right; what is left over is kept, and refused only when everything else is in order.
-/

namespace Tablewright

namespace CommandLine

/-- What was given to a command. -/
structure Given where
  /-- The options with their values, in order. -/
  options : List (OptionSyntax × Option String) := []
  /-- The positional arguments, in order. -/
  positionals : List String := []
  /-- What has no place. -/
  extras : List String := []
  deriving Repr

namespace Given

/-- Whether an option was given. -/
def has (g : Given) (o : OptionSyntax) : Bool :=
  g.options.any fun e => e.1 == o

/-- The value of an option: the last one that was given. -/
def valueOf (g : Given) (o : OptionSyntax) : Option String :=
  (g.options.reverse.find? fun e => e.1 == o).bind (·.2)

end Given

/-- Why a command line is not carried out. -/
inductive Stop where
  /-- It asks for help. -/
  | help
  /-- It is wrong. -/
  | wrong (message : String)
  deriving DecidableEq, Repr

/-- The error of an argument. -/
def argumentError (name message : String) : Stop :=
  .wrong ("argument " ++ name ++ ": " ++ message)

/-! ## Options -/

/-- The options that one argument gives. -/
structure OptionReading where
  /-- The options with their values. -/
  options : List (OptionSyntax × Option String) := []
  /-- Whether the next argument is the value of the last option. -/
  usesNext : Bool := false

/-- The error of a value joined to an option that takes none. -/
def ignoredValue (o : OptionSyntax) (value : List Char) : Stop :=
  argumentError o.displayName
    ("ignored explicit argument " ++ Text.quoted (String.ofList value))

/-- The value that an option keeps. Two dashes are a separator also here, and leave none. -/
def keptValue (value : String) : Option String :=
  if value == "--" then none else some value

/-- Reads an option that no value is joined to. -/
def readSeparate (o : OptionSyntax) (next : Option Token) : Except Stop OptionReading :=
  if o.takesValue then
    match next with
    | some (.plain value) => pure { options := [(o, keptValue value)], usesNext := true }
    | _ => .error (argumentError o.displayName "expected one argument")
  else pure { options := [(o, none)] }

/-- Reads an option that a value is joined to. Behind a single letter that takes no value, further
letters may follow. -/
def readJoined (options : List OptionSyntax) (next : Option Token) (o : OptionSyntax)
    (isLetter : Bool) : List Char → Except Stop OptionReading
  | [] =>
    if o.takesValue then pure { options := [(o, some "")] } else .error (ignoredValue o [])
  | c :: rest =>
    if o.takesValue then pure { options := [(o, keptValue (String.ofList (c :: rest)))] }
    else
      match if isLetter then exactly options (String.ofList ['-', c]) else none with
      | none => .error (ignoredValue o (c :: rest))
      | some other => do
        let further ←
          if rest.isEmpty then readSeparate other next else readJoined options next other true rest
        pure { further with options := (o, none) :: further.options }

/-- Whether a spelling is a dash and a single letter. -/
def isLetterSpelling (s : String) : Bool :=
  (s.toList.drop 1).head? != some '-'

/-- Reads an option. -/
def OptionMatch.read (options : List OptionSyntax) (m : OptionMatch) (next : Option Token) :
    Except Stop OptionReading :=
  match m.joined with
  | none => readSeparate m.option next
  | some value => readJoined options next m.option (isLetterSpelling m.spelling) value.toList

/-! ## Arguments in order -/

/-- What came last. -/
inductive Neighbour where
  | other
  | filled
  | separator
  deriving DecidableEq, Repr

/-- How far a command line has been read. -/
structure Progress where
  /-- What was given so far. -/
  given : Given := {}
  /-- What came last. -/
  last : Neighbour := .other

namespace Progress

/-- Takes in a plain argument. One that looks like a separator but is none counts as an empty
list. -/
def takePlain (places : Nat) (p : Progress) (s : String) : Progress :=
  let g := p.given
  if g.positionals.length < places then
    let value := if s == "--" && p.last != .separator then "[]" else s
    { given := { g with positionals := g.positionals ++ [value] }, last := .filled }
  else { given := { g with extras := g.extras ++ [s] } }

/-- Takes in the separator, which has no place where no positional argument is beside it. -/
def takeSeparator (places : Nat) (p : Progress) (atEnd : Bool) : Progress :=
  let g := p.given
  if p.last = .filled then { given := g }
  else if g.positionals.length < places && !atEnd then { given := g, last := .separator }
  else { given := { g with extras := g.extras ++ ["--"] } }

/-- Takes in an option that does not exist. -/
def takeUnknown (p : Progress) (s : String) : Progress :=
  { given := { p.given with extras := p.given.extras ++ [s] } }

/-- Takes in options; one of them may ask for help. -/
def takeOptions (p : Progress) (r : OptionReading) : Except Stop Progress :=
  if r.options.any fun e => e.1 == helpOption then .error .help
  else
    pure
      { given :=
          { p.given with options := p.given.options ++ r.options } }

/-- Takes in an argument that the one before it has not used. Tells whether it uses the next one. -/
def take (options : List OptionSyntax) (places : Nat) (p : Progress) (token : Token)
    (rest : List Token) : Except Stop (Progress × Bool) :=
  match token with
  | .plain s => pure (p.takePlain places s, false)
  | .separator => pure (p.takeSeparator places rest.isEmpty, false)
  | .unknown s => pure (p.takeUnknown s, false)
  | .option m => do
    let r ← m.read options rest.head?
    pure (← p.takeOptions r, r.usesNext)

end Progress

/-- Reads the arguments of a command in order. The first may be used already. -/
def readTokens (options : List OptionSyntax) (places : Nat) (p : Progress) (isUsed : Bool) :
    List Token → Except Stop Progress
  | [] => pure p
  | token :: rest => do
    let (p, usesNext) ← if isUsed then pure (p, false) else p.take options places token rest
    readTokens options places p usesNext rest

/-! ## Commands -/

/-- The message of an argument that is not clear. -/
def Ambiguity.message (a : Ambiguity) : String :=
  "ambiguous option: " ++ a.argument ++ " could match " ++ ", ".intercalate a.candidates

/-- Tells the arguments of a command apart. -/
def tokensOrStop (options : List OptionSyntax) (args : List String) :
    Except Stop (List Token) :=
  match tokens options args with
  | .ok ts => pure ts
  | .error a => .error (.wrong a.message)

/-- Reads the arguments of a command, all of whose positional arguments must be there. -/
def CommandSyntax.read (c : CommandSyntax) (args : List String) : Except Stop Given := do
  let options := helpOption :: c.options
  let ts ← tokensOrStop options args
  let p ← readTokens options c.positionals.length {} false ts
  let missing := c.positionals.drop p.given.positionals.length
  if missing.isEmpty then pure p.given
  else
    .error (.wrong ("the following arguments are required: " ++
      ", ".intercalate (missing.map PositionalSyntax.name)))

/-! ## Programs -/

/-- What a command line comes to. -/
inductive Invocation where
  /-- It asks for help. -/
  | help (text : String)
  /-- It is empty. -/
  | empty
  /-- It is wrong. -/
  | wrong (text : String)
  /-- It calls a command. -/
  | command (name : String) (given : Given)

/-- The text of a usage error. -/
def usageError (usage program message : String) : Invocation :=
  .wrong (usage ++ "\n" ++ program ++ ": error: " ++ message ++ "\n")

/-- What stops the reading of a command or a program. -/
def Stop.invocation (usage help program : String) : Stop → Invocation
  | .help => .help help
  | .wrong message => usageError usage program message

namespace ProgramSyntax

/-- An error in the arguments of the program itself. -/
def wrong (p : ProgramSyntax) (message : String) : Invocation :=
  usageError p.usage p.name message

/-- A command with its arguments, after some others that have no place. -/
def command (p : ProgramSyntax) (extras : List String) (name : String) (args : List String) :
    Invocation :=
  match p.commands.find? fun c => c.1 == name with
  | none =>
    p.wrong ("argument command: invalid choice: " ++ Text.quoted name ++ " (choose from " ++
      ", ".intercalate (p.commands.map fun c => Text.quoted c.1) ++ ")")
  | some (_, c) =>
    match c.read args with
    | .error stop => stop.invocation c.usage c.helpText c.program
    | .ok given =>
      let extras := extras ++ given.extras
      if extras.isEmpty then .command name given
      else p.wrong ("unrecognized arguments: " ++ " ".intercalate extras)

/-- Looks for the command among the arguments. -/
def find (p : ProgramSyntax) (extras : List String) : List (String × Token) → Invocation
  | [] =>
    if extras.isEmpty then .empty
    else p.wrong ("unrecognized arguments: " ++ " ".intercalate extras)
  | (s, .unknown _) :: rest => p.find (extras ++ [s]) rest
  | (s, .plain _) :: rest => p.command extras s (rest.map (·.1))
  | (s, .separator) :: rest =>
    if rest.isEmpty then p.find (extras ++ [s]) rest else p.command extras s (rest.map (·.1))
  | (_, .option m) :: rest =>
    match (m.read [helpOption] (rest.head?.map (·.2))).bind ({} : Progress).takeOptions with
    | .error stop => stop.invocation p.usage p.helpText p.name
    | .ok _ => p.find extras rest

/-- Reads a command line. -/
def read (p : ProgramSyntax) (args : List String) : Invocation :=
  match tokensOrStop [helpOption] args with
  | .error stop => stop.invocation p.usage p.helpText p.name
  | .ok ts => p.find [] (args.zip ts)

end ProgramSyntax

end CommandLine

end Tablewright
