/-!
# Character classes as ranges

A class of characters is a list of closed ranges of code points.
-/

namespace Tablewright.Text

/-- Whether a character lies in one of the ranges. -/
def inRanges (ranges : List (Nat × Nat)) (c : Char) : Bool :=
  ranges.any fun (low, high) => low ≤ c.toNat && c.toNat ≤ high

end Tablewright.Text
