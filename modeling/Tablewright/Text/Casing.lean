import Tablewright.Text.Ranges
import Tablewright.Text.CaseTable

/-!
# Upper and lower case

The full case mappings of Unicode: one letter may become several, and a capital sigma takes its
final form at the end of a word.
-/

namespace Tablewright.Text

/-- The other case of a code point, by the first span that holds it. -/
def shiftCase (spans : List CaseSpan) (n : Nat) : Option Nat :=
  (spans.find? fun s => s.first ≤ n && n ≤ s.last && (n - s.first) % s.stride == 0).map
    fun s => ((n : Int) + s.shift).toNat

/-- The upper case of one character. -/
def upperChar (c : Char) : List Char :=
  match upperExpansions.lookup c.toNat with
  | some ns => ns.map Char.ofNat
  | none => [((shiftCase upperSpans c.toNat).map Char.ofNat).getD c]

/-- The upper case of a text. -/
def upper (s : String) : String :=
  String.ofList (s.toList.flatMap upperChar)

/-- The lower case of one character, seen on its own. A capital dotted `I` keeps its dot as a
separate mark. -/
def lowerChar (c : Char) : List Char :=
  if c.toNat = 304 then ['i', Char.ofNat 775]
  else [((shiftCase lowerSpans c.toNat).map Char.ofNat).getD c]

/-- Whether the nearest character that case does not look through has a case. -/
def nearestIsCased (cs : List Char) : Bool :=
  match cs.dropWhile (inRanges caseIgnorableRanges) with
  | [] => false
  | c :: _ => inRanges casedRanges c

/-- The capital sigma. -/
def capitalSigma : Char := Char.ofNat 931

/-- The small sigma that ends a word. -/
def finalSigma : Char := Char.ofNat 962

/-- The lower case of the rest of a text, given what stands before it, nearest first. A capital
sigma that follows a cased letter and precedes none is written in its final form. -/
def lowerFrom (before : List Char) : List Char → List Char
  | [] => []
  | c :: rest =>
    (if c == capitalSigma && nearestIsCased before && !nearestIsCased rest then [finalSigma]
      else lowerChar c) ++ lowerFrom (c :: before) rest

/-- The lower case of a text. -/
def lower (s : String) : String :=
  String.ofList (lowerFrom [] s.toList)

end Tablewright.Text
