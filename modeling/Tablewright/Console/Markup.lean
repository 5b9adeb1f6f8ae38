import Tablewright.Console.Emoji
import Tablewright.Console.Layout
import Tablewright.Console.Literal
import Tablewright.Console.Style

/-!
# Markup

A text for the console may hold tags between square brackets that begin and end styles. A console
without styles leaves the tags out. Every tag that ends a style must find it begun; a tag behind an
odd number of backslashes is no tag. In what stands between the tags, a backslash before a bracket
is left out, and codes of emoji are replaced.

A tag may have parameters behind an equals sign. Those of an action, whose name begins with an at
sign, must be literals, which counts when the action is ended.
-/

namespace Tablewright

namespace Markup

/-! ## Tags -/

/-- A tag. -/
structure Tag where
  /-- The name, with a slash in front if the tag ends a style. -/
  name : String
  /-- What follows the equals sign. -/
  parameters : Option String := none
  deriving DecidableEq, Repr

namespace Tag

/-- The tag that characters between brackets write down. -/
def ofChars (cs : List Char) : Tag :=
  let name := cs.takeWhile (· != '=')
  { name := String.ofList name
    parameters := match cs.drop name.length with
      | _ :: parameters => some (String.ofList parameters)
      | [] => none }

/-- The style that a tag asks for. -/
def style (t : Tag) : String :=
  match t.parameters with
  | some parameters => t.name ++ " " ++ parameters
  | none => t.name

/-- The arguments in the parameters of an action: what stands in parentheses behind its name,
nothing in parentheses if there is a name only, or else the whole. -/
def arguments (cs : List Char) : List Char :=
  let name := cs.takeWhile fun c => Text.isWord c || c == '.'
  match cs.drop name.length with
  | [] => ['(', ')']
  | c :: rest =>
    if c == '(' && rest.getLast? == some ')' && !rest.contains '\n' then c :: rest else cs

/-- Whether a tag can be ended: the parameters of an action must be literals. -/
def isSound (t : Tag) : Bool :=
  let parameters := t.parameters.getD ""
  t.name.toList.head? != some '@' || parameters == "" ||
    isLiteral (arguments (Text.trim parameters).toList)

end Tag

/-! ## Pieces -/

/-- A piece of a text with markup. -/
inductive Piece where
  /-- Characters that stand for themselves. -/
  | plain (cs : List Char)
  | tag (t : Tag)
  deriving DecidableEq, Repr

/-- Whether a tag may begin with a character. -/
def beginsTag (c : Char) : Bool :=
  ('a' ≤ c && c ≤ 'z') || c == '#' || c == '/' || c == '@'

/-- The tag at the start of a text that follows an opening bracket. -/
def tagAt? : List Char → Option (List Char)
  | [] => none
  | c :: cs =>
    let inner := cs.takeWhile fun d => d != '[' && d != ']'
    match cs.drop inner.length with
    | ']' :: _ => if beginsTag c then some (c :: inner) else none
    | _ => none

/-- A piece of characters, unless there are none. -/
def plainPieces (cs : List Char) : List Piece :=
  if cs.isEmpty then [] else [.plain cs]

/-- The pieces of a text, when a number of characters belong to a piece that was found already. The
second argument counts the backslashes that came last, and the third collects what came before
them, last character first. -/
def piecesFrom (skip slashes : Nat) (before : List Char) : List Char → List Piece
  | [] => plainPieces (before.reverse ++ List.replicate slashes '\\')
  | c :: rest =>
    if 0 < skip then piecesFrom (skip - 1) 0 [] rest
    else if c == '\\' then piecesFrom 0 (slashes + 1) before rest
    else
      match if c == '[' then tagAt? rest else none with
      | some tag =>
        plainPieces before.reverse ++ plainPieces (List.replicate (slashes / 2) '\\') ++
          (if slashes % 2 = 1 then .plain ('[' :: tag ++ [']']) else .tag (Tag.ofChars tag)) ::
          piecesFrom (tag.length + 1) 0 [] rest
      | none => piecesFrom 0 0 (c :: List.replicate slashes '\\' ++ before) rest

/-- The pieces of a text. -/
def pieces (cs : List Char) : List Piece :=
  piecesFrom 0 0 [] cs

/-- Leaves out each backslash that stands before an opening bracket. -/
def dropEscapes : List Char → List Char
  | '\\' :: '[' :: rest => '[' :: dropEscapes rest
  | c :: rest => c :: dropEscapes rest
  | [] => []

/-! ## Styled text -/

/-- A part of a text that has a style. -/
structure Span where
  /-- The number of characters before it. -/
  start : Nat
  /-- The number of characters up to its end. -/
  stop : Nat
  /-- The style. -/
  style : String
  deriving DecidableEq, Repr

/-- A text with its styles. -/
structure Styled where
  /-- The characters. -/
  text : List Char := []
  /-- The parts that have a style. -/
  spans : List Span := []
  /-- The tags that are still open, innermost first, and where they began. -/
  openTags : List (Nat × Tag) := []

namespace Styled

/-- Adds characters. -/
def addText (s : Styled) (cs : List Char) : Styled :=
  { s with text := s.text ++ Layout.printable (Emoji.replace (dropEscapes cs)) }

/-- Begins a style. -/
def beginTag (s : Styled) (t : Tag) : Except Fault Styled := do
  let name ← Style.nameOf t.name
  pure { s with openTags := (s.text.length, { t with name }) :: s.openTags }

/-- Ends the style that an open tag has begun. The parameters of an action give no style. -/
def endTag (s : Styled) (e : Nat × Tag) : Except Fault Styled :=
  let (start, t) := e
  if !t.isSound then .error .badMarkup
  else if t.name.toList.head? == some '@' then pure s
  else pure { s with spans := s.spans ++ [⟨start, s.text.length, t.style⟩] }

/-- Ends the innermost style of a name, or the innermost of all if the name is empty. -/
def endNamed (s : Styled) (name : String) : Except Fault Styled := do
  let name ← if name == "" then pure none else some <$> Style.nameOf name
  let isMeant (e : Nat × Tag) : Bool := (name.map (e.2.name == ·)).getD true
  match s.openTags.find? isMeant with
  | some e => endTag { s with openTags := s.openTags.eraseP isMeant } e
  | none => .error .badMarkup

/-- Takes in a piece. -/
def take (s : Styled) : Piece → Except Fault Styled
  | .plain cs => pure (s.addText cs)
  | .tag t =>
    match t.name.toList with
    | '/' :: name => s.endNamed (Text.trim (String.ofList name))
    | _ => s.beginTag t

/-- Ends all styles that are still open. -/
def finish (s : Styled) : Styled :=
  { s with
    spans := s.spans ++ s.openTags.map fun (start, t) => ⟨start, s.text.length, t.style⟩
    openTags := [] }

end Styled

/-- Reads a text with markup. -/
def read (s : String) : Except Fault Styled := do
  pure (← (pieces s.toList).foldlM Styled.take {}).finish

end Markup

end Tablewright
