import Tablewright.Fault
import Tablewright.Text.Blank
import Tablewright.Text.Casing

/-!
# Storage classes

The engine keeps a column in one of six storage classes; columns are declared with logical types.
The table of logical types is closed: a type that is not in it is refused, never guessed.
-/

namespace Tablewright

/-- How the engine keeps a column. -/
inductive StorageClass where
  | text
  | integer
  | real
  | numeric
  | blob
  | any
  deriving DecidableEq, Repr

namespace StorageClass

/-- The keyword of a storage class. -/
def keyword : StorageClass → String
  | text => "TEXT"
  | integer => "INTEGER"
  | real => "REAL"
  | numeric => "NUMERIC"
  | blob => "BLOB"
  | any => "ANY"

/-- Whether a table with enforced column types accepts the class. -/
def inStrictTable : StorageClass → Bool
  | numeric => false
  | _ => true

end StorageClass

/-- The storage class of every logical type. -/
def logicalTypes : List (String × StorageClass) :=
  [("STRING", .text), ("CHAR", .text), ("TEXT", .text), ("CITEXT", .text), ("VARCHAR", .text),
   ("UUID", .text), ("ENUM", .text), ("INTEGER", .integer), ("INT", .integer),
   ("BIGINT", .integer), ("SMALLINT", .integer), ("MEDIUMINT", .integer), ("TINYINT", .integer),
   ("BOOLEAN", .integer), ("FLOAT", .real), ("DOUBLE", .real), ("DECIMAL", .real),
   ("REAL", .real), ("NUMERIC", .numeric), ("DATE", .text), ("DATEONLY", .text), ("TIME", .text),
   ("DATETIME", .text), ("TIMESTAMP", .text), ("JSON", .text), ("JSONB", .text),
   ("ARRAY", .text), ("BLOB", .blob), ("BINARY", .blob), ("ANY", .any)]

/-- The storage class of a logical type, whose letters may be of either case and which blanks may
surround. -/
def storageOf (logicalType : Value) : Except Fault StorageClass :=
  match logicalType.text?.bind fun s => logicalTypes.lookup (Text.upper (Text.trim s)) with
  | some c => pure c
  | none => .error (.unknownType logicalType)

end Tablewright
