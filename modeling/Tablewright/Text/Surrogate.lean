/-!
# Halves of surrogate pairs

An escape in a JSON text may name half a surrogate pair that stands alone. Such a half is no
character, but texts keep it, and quote it as what it is. It is held as a character of the same
place in a plane that Unicode leaves unassigned, and `codePoint` tells which half that stands for.
-/

namespace Tablewright.Text

/-- Whether a number is the first half of a surrogate pair. -/
def isHighSurrogate (n : Nat) : Bool :=
  55296 ≤ n && n ≤ 56319

/-- Whether a number is the second half of a surrogate pair. -/
def isLowSurrogate (n : Nat) : Bool :=
  56320 ≤ n && n ≤ 57343

/-- The distance between a half and the character that holds it. -/
def surrogateDistance : Nat := 851968

/-- Whether a character holds half a surrogate pair. -/
def isSurrogate (c : Char) : Bool :=
  surrogateDistance + 55296 ≤ c.toNat && c.toNat ≤ surrogateDistance + 57343

/-- The character that stands for a number, which may be half a surrogate pair. -/
def charOfCodePoint (n : Nat) : Char :=
  if isHighSurrogate n || isLowSurrogate n then Char.ofNat (n + surrogateDistance)
  else Char.ofNat n

/-- The number that a character stands for. -/
def codePoint (c : Char) : Nat :=
  if isSurrogate c then c.toNat - surrogateDistance else c.toNat

/-- Whether a text comes before another, or is the same, in the order of code points. -/
def precedes (s t : String) : Bool :=
  !(t.toList.map codePoint).lex (s.toList.map codePoint) fun m n => decide (m < n)

end Tablewright.Text
