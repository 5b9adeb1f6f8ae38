import Tablewright.Fault
import Tablewright.Named
import Tablewright.Text.Casing
import Tablewright.Value.Access

/-!
# Names

A name that goes into a statement must be a bare identifier: letters of ASCII, digits and
underscores, no digit first. One line feed at the end is let through. Keys of literals may be
written in camel case; `snakeCase` gives the form in which they are looked up.
-/

namespace Tablewright

/-- A small letter of ASCII or a digit. -/
def endsWord (c : Char) : Bool :=
  c.isLower || c.isDigit

/-- Puts an underscore between a small letter or digit and the capital letter behind it. -/
def breakWords : List Char → List Char
  | c :: d :: rest =>
    if endsWord c && d.isUpper then c :: '_' :: breakWords (d :: rest)
    else c :: breakWords (d :: rest)
  | cs => cs

/-- The name with its words parted by underscores, in small letters. -/
def snakeCase (name : String) : String :=
  Text.lower (String.ofList (breakWords name.toList))

/-- A character that may begin an identifier. -/
def beginsIdentifier (c : Char) : Bool :=
  c.isAlpha || c == '_'

/-- A character that may go on in an identifier. -/
def continuesIdentifier (c : Char) : Bool :=
  c.isAlphanum || c == '_'

/-- The characters without one line feed at their end. -/
def dropFinalNewline (cs : List Char) : List Char :=
  match cs.getLast? with
  | some '\n' => cs.dropLast
  | _ => cs

/-- Whether a text is a bare identifier, apart from one line feed at its end. -/
def isIdentifier (s : String) : Bool :=
  match dropFinalNewline s.toList with
  | [] => false
  | c :: rest => beginsIdentifier c && rest.all continuesIdentifier

/-- A value that must be an identifier; `what` says what it would name. -/
def checkIdentifier (what : String) (v : Value) : Except Fault String :=
  match v.text? with
  | some s => if isIdentifier s then pure s else refuse (.identifier what v)
  | none => refuse (.identifier what v)

/-- The entries of a mapping whose keys are all texts, under their keys in snake case. Of two keys
with one form the later entry counts, at the place of the earlier. -/
def snakeKeys (v : Value) : Except Fault (Named Value) := do
  let pairs ← (← v.toMapping).mapM fun (k, x) => do
    let name ← k.asText
    pure (snakeCase name, x)
  pure (Named.ofPairs pairs)

end Tablewright
