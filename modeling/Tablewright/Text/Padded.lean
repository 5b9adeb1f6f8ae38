import Tablewright.Number.Shortest

/-!
# Padded numerals and columns

Numerals filled up with zeros on the left, and texts filled up with spaces on either side.
-/

namespace Tablewright.Text

/-- The digits of a number, filled up with zeros to a least width. -/
def zeroPadded (width n : Nat) : String :=
  let ds := natDigits n
  String.ofList (List.replicate (width - ds.length) '0' ++ ds)

/-- The text, filled up with spaces to a least width. -/
def padEnd (width : Nat) (s : String) : String :=
  s ++ String.ofList (List.replicate (width - s.length) ' ')

/-- The text, filled up with spaces on the left to a least width. -/
def padStart (width : Nat) (s : String) : String :=
  String.ofList (List.replicate (width - s.length) ' ') ++ s

end Tablewright.Text
