import Tablewright.Value.Basic

/-!
# The shape of a value

Every value falls into one of six shapes, and the shape decides how it is stored.
-/

namespace Tablewright

/-- How a value is stored, in the roughest terms. -/
inductive Shape where
  | null
  | boolean
  | temporal
  | binary
  | structured
  | scalar
  deriving DecidableEq, Repr

namespace Shape

/-- The name of a shape. -/
def name : Shape → String
  | null => "null"
  | boolean => "boolean"
  | temporal => "temporal"
  | binary => "binary"
  | structured => "structured"
  | scalar => "scalar"

end Shape

/-- The shape of a value; what fits no other shape is a scalar. -/
def Value.shape : Value → Shape
  | .null => .null
  | .bool _ => .boolean
  | .scalar (.bool _) => .boolean
  | .date _ | .moment _ | .time _ | .instant .. => .temporal
  | .bytes .. | .tensor _ => .binary
  | .scalar (.binary _) => .binary
  | .dict _ | .list _ | .tuple _ | .set .. => .structured
  | _ => .scalar

end Tablewright
