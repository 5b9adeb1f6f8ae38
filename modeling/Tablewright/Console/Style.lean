import Tablewright.Console.Color
import Tablewright.Named

/-!
# Styles

A style is written in words: attributes, which `not` turns off, a colour, a colour behind `on` for
the background, and an address behind `link`. Texts that ask for the same have one normal form.
-/

namespace Tablewright

/-- What a style asks for. -/
structure Style where
  /-- The attributes that are turned on or off. -/
  attributes : Named Bool := []
  /-- The colour. -/
  color : Option String := none
  /-- The colour of the background. -/
  background : Option String := none
  /-- The address it links to. -/
  link : Option String := none

namespace Style

/-- The attributes, each with the short forms of its name. -/
def attributeNames : List (String × List String) :=
  [("bold", ["b"]), ("dim", ["d"]), ("italic", ["i"]), ("underline", ["u"]), ("blink", []),
   ("blink2", []), ("reverse", ["r"]), ("conceal", ["c"]), ("strike", ["s"]),
   ("underline2", ["uu"]), ("frame", []), ("encircle", []), ("overline", ["o"])]

/-- The attribute that a word names. -/
def attribute? (word : String) : Option String :=
  (attributeNames.find? fun a => a.1 == word || a.2.contains word).map (·.1)

/-- Takes in words; nothing comes of them if they do not make a style. -/
def readWords? (s : Style) : List String → Except Fault (Option Style)
  | [] => pure (some s)
  | word :: rest =>
    let key := Text.lower word
    if key == "on" then
      match rest with
      | [] => pure none
      | color :: rest => do
        match ← Color.read? color with
        | some color => readWords? { s with background := some color } rest
        | none => pure none
    else if key == "not" then
      match rest with
      | [] => pure none
      | name :: rest =>
        match attribute? name with
        | some a => readWords? { s with attributes := Named.put s.attributes a false } rest
        | none => pure none
    else if key == "link" then
      match rest with
      | [] => pure none
      | address :: rest => readWords? { s with link := some address } rest
    else
      match attribute? key with
      | some a => readWords? { s with attributes := Named.put s.attributes a true } rest
      | none => do
        match ← Color.read? key with
        | some color => readWords? { s with color := some color } rest
        | none => pure none

/-- The style that a text writes down. -/
def read? (text : String) : Except Fault (Option Style) :=
  if text == "" || Text.trim text == "none" then pure (some {})
  else readWords? {} (Text.words text)

/-- The words of a style in their fixed order. -/
def words (s : Style) : List String :=
  let attributes := attributeNames.filterMap fun a =>
    (Named.get? s.attributes a.1).map fun isOn => if isOn then a.1 else "not " ++ a.1
  attributes ++ s.color.toList ++ (s.background.map ("on " ++ ·)).toList ++
    (s.link.map ("link " ++ ·)).toList

/-- The normal form of a style. -/
def text (s : Style) : String :=
  if s.words.isEmpty then "none" else " ".intercalate s.words

/-- The name under which the end of a style finds its beginning: the normal form, or the text
itself in lower case where it writes down no style. -/
def nameOf (text : String) : Except Fault String := do
  match ← read? text with
  | some s => pure s.text
  | none => pure (Text.lower (Text.trim text))

end Style

end Tablewright
