import Tablewright.Console.Emoji.AToC
import Tablewright.Console.Emoji.DToF
import Tablewright.Console.Emoji.GToM
import Tablewright.Console.Emoji.NToS
import Tablewright.Console.Emoji.TToZ
import Tablewright.Text.Blank
import Tablewright.Text.Casing

/-!
# Emoji codes

A name between two colons stands for an emoji, whatever the case of its letters. The name may end
in a wish for how the emoji is shown, as a picture or as plain text. What is between two colons is
used up also where it names no emoji, and a code has no blanks inside.
-/

namespace Tablewright

namespace Emoji

/-- All emoji under their names. -/
def names : List (String × String) :=
  namesAToC ++ namesDToF ++ namesGToM ++ namesNToS ++ namesTToZ

/-- The emoji of a name. -/
def named? (name : String) : Option String :=
  (names.find? fun e => e.1 == name).map (·.2)

/-- The endings of a code that say how the emoji is shown, with the character that asks for it. -/
def presentations : List (List Char × Char) :=
  [("-emoji".toList, '\ufe0f'), ("-text".toList, '\ufe0e')]

/-- What a code without its colons says: the name of the emoji, and the character that asks for the
way it is shown. -/
def splitPresentation (code : List Char) : List Char × List Char :=
  match presentations.find? fun p => p.1.isSuffixOf code with
  | some (ending, c) => (code.take (code.length - ending.length), [c])
  | none => (code, [])

/-- The code at the start of a text that follows a colon. -/
def codeAt? (cs : List Char) : Option (List Char) :=
  let code := cs.takeWhile (· != ':')
  if code.length < cs.length && !code.any Text.isBlank then some code else none

/-- What a code is replaced by: its emoji, or itself. -/
def replacement (code : List Char) : List Char :=
  let (name, presentation) := splitPresentation code
  match named? (Text.lower (String.ofList name)) with
  | some emoji => emoji.toList ++ presentation
  | none => ':' :: code ++ [':']

/-- Replaces the codes in a text, when a number of characters belong to a code that was replaced
already. -/
def replaceFrom (skip : Nat) : List Char → List Char
  | [] => []
  | c :: rest =>
    if 0 < skip then replaceFrom (skip - 1) rest
    else
      match if c == ':' then codeAt? rest else none with
      | some code => replacement code ++ replaceFrom (code.length + 1) rest
      | none => c :: replaceFrom 0 rest

/-- Replaces the codes in a text. -/
def replace (cs : List Char) : List Char :=
  replaceFrom 0 cs

end Emoji

end Tablewright
