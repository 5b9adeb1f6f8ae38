import Tablewright.Text.Ranges

/-!
# Blank characters, words and lines

What counts as blank decides where texts are trimmed and where words end. A line ends at any of
the line boundaries of Unicode, a carriage return followed by a line feed counting once.
-/

namespace Tablewright.Text

/-- The blank characters of Unicode together with the four information separators. -/
def blankRanges : List (Nat × Nat) :=
  [(9, 13), (28, 32), (133, 133), (160, 160), (5760, 5760), (8192, 8202), (8232, 8233),
   (8239, 8239), (8287, 8287), (12288, 12288)]

/-- A blank character. -/
def isBlank (c : Char) : Bool :=
  inRanges blankRanges c

/-- The blank characters of ASCII, the separators left out. -/
def isAsciiBlank (c : Char) : Bool :=
  c.toNat == 32 || (9 ≤ c.toNat && c.toNat ≤ 13)

/-! ## Trimming -/

/-- Drops the trailing characters that satisfy `p`. -/
def trimEndWhile (p : Char → Bool) (cs : List Char) : List Char :=
  (cs.reverse.dropWhile p).reverse

/-- Drops the leading and trailing characters that satisfy `p`. -/
def trimWhile (p : Char → Bool) (cs : List Char) : List Char :=
  trimEndWhile p (cs.dropWhile p)

/-- The text without surrounding blanks. -/
def trim (s : String) : String :=
  String.ofList (trimWhile isBlank s.toList)

/-- The text without trailing blanks. -/
def trimEnd (s : String) : String :=
  String.ofList (trimEndWhile isBlank s.toList)

/-- The text without trailing occurrences of one character. -/
def trimEndOf (c : Char) (s : String) : String :=
  String.ofList (trimEndWhile (· == c) s.toList)

/-! ## Words -/

/-- The maximal runs of characters that are not blank, in order. The second argument collects the
run under way, last character first. -/
def wordsFrom : List Char → List Char → List (List Char)
  | [], [] => []
  | [], run => [run.reverse]
  | c :: rest, run =>
    if isBlank c then
      if run.isEmpty then wordsFrom rest [] else run.reverse :: wordsFrom rest []
    else wordsFrom rest (c :: run)

/-- The maximal runs of characters that are not blank, in order. -/
def words (s : String) : List String :=
  (wordsFrom s.toList []).map String.ofList

/-- The words of a text, one space between neighbours. -/
def collapseBlanks (s : String) : String :=
  " ".intercalate (words s)

/-! ## Lines -/

/-- A character that ends a line. -/
def isLineEnd (c : Char) : Bool :=
  inRanges [(10, 13), (28, 30), (133, 133), (8232, 8233)] c

/-- The lines of a text without their ends. The second argument collects the line under way, last
character first; a text that stops at a line end has no further empty line. -/
def linesFrom : List Char → List Char → List (List Char)
  | [], [] => []
  | [], line => [line.reverse]
  | '\r' :: '\n' :: rest, line => line.reverse :: linesFrom rest []
  | c :: rest, line =>
    if isLineEnd c then line.reverse :: linesFrom rest [] else linesFrom rest (c :: line)

/-- The lines of a text without their ends. -/
def lines (s : String) : List String :=
  (linesFrom s.toList []).map String.ofList

/-- Every carriage return, with or without a line feed after it, becomes one line feed. -/
def normalizeLineEnds : List Char → List Char
  | [] => []
  | '\r' :: '\n' :: rest => '\n' :: normalizeLineEnds rest
  | c :: rest => (if c == '\r' then '\n' else c) :: normalizeLineEnds rest

/-! ## Splitting and replacing -/

/-- The pieces between the occurrences of a separating character; one more than there are
occurrences. -/
def splitAtChar (sep : Char) : List Char → List (List Char)
  | [] => [[]]
  | c :: rest =>
    match splitAtChar sep rest with
    | [] => [[c]]
    | piece :: pieces => if c == sep then [] :: piece :: pieces else (c :: piece) :: pieces

/-- Replaces every occurrence of one character by a text. -/
def replaceChar (c : Char) (by_ : List Char) (s : String) : String :=
  String.ofList (s.toList.flatMap fun d => if d == c then by_ else [d])

end Tablewright.Text
