import Tablewright.CommandLine.Syntax
import Tablewright.Text.Digit

/-!
# The arguments of a command line, told apart

Every argument is an option, a separator, or plain. What begins with a dash is an option unless it
is a dash alone, looks like a negative number, or has a space in it; a long option may be cut short
as long as it remains unambiguous, and a value may be joined to its option. Everything behind the
first separator is plain.
-/

namespace Tablewright

namespace CommandLine

/-- An option that was given. -/
structure OptionMatch where
  /-- The option. -/
  option : OptionSyntax
  /-- The spelling that was meant. -/
  spelling : String
  /-- The value joined to it. -/
  joined : Option String := none
  deriving DecidableEq, Repr

/-- An argument, told apart. -/
inductive Token where
  /-- The first pair of dashes that stands alone. -/
  | separator
  | plain (s : String)
  | option (m : OptionMatch)
  /-- An option that does not exist. -/
  | unknown (s : String)
  deriving DecidableEq, Repr

namespace Token

/-- Whether a token is an option, known or not. -/
def isOption : Token → Bool
  | option _ => true
  | unknown _ => true
  | _ => false

end Token

/-- The argument is not clear. -/
structure Ambiguity where
  /-- The argument. -/
  argument : String
  /-- The spellings it may stand for. -/
  candidates : List String
  deriving DecidableEq, Repr

/-- Whether a text begins with another. -/
def beginsWith (opening s : String) : Bool :=
  opening.toList.isPrefixOf s.toList

/-- The parts before and behind the first equals sign, if there is one. -/
def splitAtEquals (s : String) : String × Option String :=
  let before := s.toList.takeWhile (· != '=')
  match s.toList.drop before.length with
  | _ :: after => (String.ofList before, some (String.ofList after))
  | [] => (s, none)

/-- Every spelling of the options, with its option, in order. -/
def spellings (options : List OptionSyntax) : List (String × OptionSyntax) :=
  options.flatMap fun o => o.names.map fun name => (name, o)

/-- The option of an exact spelling. -/
def exactly (options : List OptionSyntax) (s : String) : Option OptionSyntax :=
  ((spellings options).find? fun e => e.1 == s).map (·.2)

/-- The options that a long argument may be short for. -/
def longMatches (options : List OptionSyntax) (s : String) : List OptionMatch :=
  let (opening, value) := splitAtEquals s
  ((spellings options).filter fun e => beginsWith opening e.1).map fun (spelling, option) =>
    { option, spelling, joined := value }

/-- The options that an argument with a single dash may stand for: one of a single letter with a
value joined to it, or one that it is short for. -/
def shortMatches (options : List OptionSyntax) (s : String) : List OptionMatch :=
  let letter := String.ofList (s.toList.take 2)
  let rest := String.ofList (s.toList.drop 2)
  (spellings options).filterMap fun (spelling, option) =>
    if spelling == letter then
      some { option, spelling, joined := some rest }
    else if beginsWith s spelling then some { option, spelling }
    else none

/-- Whether an argument looks like a negative number. -/
def isNegativeNumber (s : String) : Bool :=
  let isDigit (c : Char) := (Text.digitValue? c).isSome
  match s.toList with
  | '-' :: rest =>
    let rest := if rest.getLast? == some '\n' then rest.dropLast else rest
    let whole := rest.takeWhile isDigit
    match rest.drop whole.length with
    | [] => !whole.isEmpty
    | '.' :: fraction => !fraction.isEmpty && fraction.all isDigit
    | _ => false
  | _ => false

/-- Tells an argument apart that is not a separator. -/
def classify (options : List OptionSyntax) (s : String) : Except Ambiguity Token :=
  match s.toList with
  | '-' :: second :: _ =>
    match exactly options s with
    | some option => pure (.option { option, spelling := s })
    | none =>
      let (before, value?) := splitAtEquals s
      match value?, exactly options before with
      | some _, some option =>
        pure (.option { option, spelling := before, joined := value? })
      | _, _ =>
        let found := if second == '-' then longMatches options s else shortMatches options s
        match found with
        | [m] => pure (.option m)
        | [] =>
          pure (if isNegativeNumber s || s.toList.contains ' ' then .plain s else .unknown s)
        | _ => .error { argument := s, candidates := found.map OptionMatch.spelling }
  | _ => pure (.plain s)

/-- Tells the arguments of a command apart. -/
def tokens (options : List OptionSyntax) : List String → Except Ambiguity (List Token)
  | [] => pure []
  | s :: rest =>
    if s == "--" then pure (.separator :: rest.map .plain)
    else do
      let token ← classify options s
      pure (token :: (← tokens options rest))

end CommandLine

end Tablewright
