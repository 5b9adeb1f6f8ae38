import Tablewright.Text.Blank
import Tablewright.Text.Width

/-!
# Laying out text on a terminal

A text is broken into lines of a given width. A word goes to the next line if it does not fit, and
is cut if it does not fit there either. Blanks stay behind the word they follow, but no line keeps
blanks that stand out beyond the width, and none is wider than the terminal.
-/

namespace Tablewright

namespace Layout

/-- The characters that a terminal prints; a few controls are left out. -/
def printable (cs : List Char) : List Char :=
  cs.filter fun c => !(c.toNat = 7 || c.toNat = 8 || c.toNat = 11 || c.toNat = 12 || c.toNat = 13)

/-- Replaces each tabulator by blanks up to the next multiple of eight cells. -/
def expandTabs (column : Nat) : List Char → List Char
  | [] => []
  | c :: rest =>
    if c == '\t' then
      let blanks := 8 - column % 8
      List.replicate blanks ' ' ++ expandTabs (column + blanks) rest
    else c :: expandTabs (column + Text.charWidth c) rest

/-- A word, with the blanks behind it, and before it if it is the first. -/
abbrev Word := List Char

/-- Whether a word has a character that is not blank. -/
def hasBody (word : Word) : Bool :=
  word.any fun c => !Text.isBlank c

/-- The words of a line, when one is under way, last character first. -/
def wordsFrom (word : Word) : List Char → List Word
  | [] => if hasBody word then [word.reverse] else []
  | c :: rest =>
    let begins := !Text.isBlank c && hasBody word && (word.head?.map Text.isBlank).getD false
    if begins then word.reverse :: wordsFrom [c] rest else wordsFrom (c :: word) rest

/-- Cuts a word into pieces that each fit the width. The second argument is the piece under way,
last character first. -/
def cut (limit : Nat) (piece : List Char) : List Char → List (List Char)
  | [] => [piece.reverse]
  | c :: rest =>
    if limit < Text.width piece + Text.charWidth c then piece.reverse :: cut limit [c] rest
    else cut limit (c :: piece) rest

/-- Lines that are finished, and the one under way. -/
structure Lines where
  /-- The finished lines. -/
  finished : List (List Char) := []
  /-- The line under way. -/
  current : List Char := []

namespace Lines

/-- Begins a line with some characters. At the start of a text a line has begun already. -/
def begin (ls : Lines) (cs : List Char) : Lines :=
  if ls.current.isEmpty then { ls with current := cs }
  else { finished := ls.finished ++ [ls.current], current := cs }

/-- Adds a word. -/
def addWord (limit : Nat) (ls : Lines) (word : Word) : Lines :=
  let body := Text.width (Text.trimEndWhile Text.isBlank word)
  if Text.width ls.current + body ≤ limit then { ls with current := ls.current ++ word }
  else if limit < body then (cut limit [] word).foldl begin ls
  else ls.begin word

/-- All lines. -/
def toList (ls : Lines) : List (List Char) :=
  ls.finished ++ [ls.current]

end Lines

/-- Takes away the blanks at the end of a line that stand out beyond the width. -/
def trimBeyond (limit : Nat) (line : List Char) : List Char :=
  let blanks := line.length - (Text.trimEndWhile Text.isBlank line).length
  line.take (line.length - min blanks (line.length - limit))

/-- Looks for an opening of a line that fills the width, between two lengths. Where a wide character
stands on the edge, a blank takes its place. -/
def openingBetween (limit : Nat) (line : List Char) : Nat → Nat → Nat → List Char
  | 0, start, _ => line.take (start + 1)
  | fuel + 1, start, stop =>
    let middle := (start + stop) / 2
    let opening := line.take (middle + 1)
    let cells := Text.width opening
    if cells = limit + 1 && (opening.getLast?.map Text.charWidth) == some 2 then
      opening.dropLast ++ [' ']
    else if cells = limit then opening
    else if limit < cells then openingBetween limit line fuel start middle
    else openingBetween limit line fuel middle stop

/-- Cuts off what of a line stands out beyond the width. -/
def crop (limit : Nat) (line : List Char) : List Char :=
  if limit < Text.width line then openingBetween limit line line.length 0 line.length else line

/-- The lines of a text that has no line ends. -/
def wrapLine (limit : Nat) (line : List Char) : List (List Char) :=
  let line := expandTabs 0 line
  let words := wordsFrom [] line
  let lines := if words.isEmpty then [line]
    else (words.foldl (Lines.addWord limit) {}).toList
  lines.map fun line => crop limit (trimBeyond limit line)

/-- The lines of a text of printable characters. -/
def wrap (limit : Nat) (cs : List Char) : List (List Char) :=
  (Text.splitAtChar '\n' cs).flatMap (wrapLine limit)

end Layout

end Tablewright
