import Tablewright.Identifier
import Tablewright.Text.Digit

/-!
# Shapes of texts

The five shapes that a text can be asked to have. Each lets one line feed at the end of the text
through.
-/

namespace Tablewright

/-- The shapes that a text can be asked to have. -/
inductive TextShape where
  | email
  | url
  | address
  | letters
  | lettersAndDigits
  deriving DecidableEq, Repr

namespace TextShape

/-- Every shape. -/
def all : List TextShape :=
  [email, url, address, letters, lettersAndDigits]

/-- A character that may stand in a part of an email address. -/
def isEmailChar (c : Char) : Bool :=
  !Text.isBlank c && c != '@'

/-- A point with something on both of its sides. -/
def hasInnerPoint (cs : List Char) : Bool :=
  (cs.drop 1).dropLast.contains '.'

/-- A local part, an at sign, and a domain with a point inside. -/
def isEmail (cs : List Char) : Bool :=
  match Text.splitAtChar '@' cs with
  | [name, domain] =>
    !name.isEmpty && name.all isEmailChar && domain.all isEmailChar && hasInnerPoint domain
  | _ => false

/-- The rest of a text behind one of two openings. -/
def afterScheme (cs : List Char) : Option (List Char) :=
  if "https://".toList.isPrefixOf cs then some (cs.drop 8)
  else if "http://".toList.isPrefixOf cs then some (cs.drop 7)
  else none

/-- A character with which a host may begin. -/
def beginsHost (c : Char) : Bool :=
  !Text.isBlank c && !(['/', '$', '.', '?', '#'].contains c)

/-- A scheme, then a host of at least two characters, of which only the second may be blank, though
no line feed. -/
def isUrl (cs : List Char) : Bool :=
  match afterScheme cs with
  | some (c :: d :: rest) =>
    beginsHost c && d != '\n' && rest.all fun e => !Text.isBlank e
  | _ => false

/-- One to three digits of any script. -/
def isShortNumber (cs : List Char) : Bool :=
  !cs.isEmpty && cs.length ≤ 3 && cs.all Text.isDigit

/-- Four short numbers with points between them. -/
def isAddress (cs : List Char) : Bool :=
  let groups := Text.splitAtChar '.' cs
  groups.length == 4 && groups.all isShortNumber

/-- Whether the characters of a text, without the line feed at its end, have a shape. -/
def admits (shape : TextShape) (cs : List Char) : Bool :=
  match shape with
  | email => isEmail cs
  | url => isUrl cs
  | address => isAddress cs
  | letters => !cs.isEmpty && cs.all Char.isAlpha
  | lettersAndDigits => !cs.isEmpty && cs.all Char.isAlphanum

/-- Whether a value is a text of a shape. -/
def matchesValue (shape : TextShape) (v : Value) : Bool :=
  match v.text? with
  | some s => shape.admits (dropFinalNewline s.toList)
  | none => false

end TextShape

end Tablewright
