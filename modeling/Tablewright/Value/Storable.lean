import Tablewright.Value.Json
import Tablewright.Value.Shape

/-!
# What is stored for a value

`storable` turns any value into one the database engine can bind: null, a number, a text or a
sequence of bytes. Dates become ISO-8601 text, collections JSON text, arrays their raw bytes. What
has no stored form passes through unchanged, for the engine to refuse.
-/

namespace Tablewright

/-- The bytes of a number, least significant first. -/
def littleEndian : Nat → Nat → List UInt8
  | 0, _ => []
  | count + 1, n => UInt8.ofNat (n % 256) :: littleEndian count (n / 256)

namespace Scalar

/-- The raw bytes of an element of an array, given the width of texts in the array. -/
def raw (width : Nat) : Scalar → List UInt8
  | bool b => [if b then 1 else 0]
  | int _ bits n => littleEndian (bits / 8) (n.emod (Nat.pow 2 bits : Nat)).toNat
  | float bits x => littleEndian (bits / 8) (x.toBits (floatFormat bits))
  | text s =>
    (s.toList ++ List.replicate (width - s.length) (Char.ofNat 0)).flatMap fun c =>
      littleEndian 4 (Text.codePoint c)
  | binary data => data ++ List.replicate (width - data.length) 0

/-- A scalar as a plain value. -/
def plainValue : Scalar → Value
  | bool b => .bool b
  | int _ _ n => .int n
  | float _ x => .float (x.convert .double)
  | text s => .str s
  | binary data => .bytes .fixed data

end Scalar

/-- The raw bytes of an array. All texts of an array take the same room, at least one place. -/
def Tensor.raw (t : Tensor) : List UInt8 :=
  let width := (t.items.map Scalar.width).foldl max 1
  t.items.flatMap (Scalar.raw width)

/-- The members of a set in the order of their texts; members of one text stay as they were. -/
def sortedByText (items : List Value) : List Value :=
  items.mergeSort fun a b => Text.precedes a.text b.text

namespace Value

/-- What the engine stores for a value. A scalar is taken as an array would give it back. -/
def storable : Value → Except Fault Value
  | null => pure null
  | bool b => pure (int (if b then 1 else 0))
  | scalar (.bool b) => pure (int (if b then 1 else 0))
  | date d => pure (str d.iso)
  | moment m => pure (str m.iso)
  | time t => pure (str t.iso)
  | instant text _ => pure (str (instantText text))
  | tensor t => pure (bytes .fixed t.raw)
  | scalar (.binary data) => pure (bytes .fixed data)
  | set _ items => str <$> Json.write (list (sortedByText items))
  | list items => str <$> Json.write (list items)
  | tuple items => str <$> Json.write (tuple items)
  | dict entries => str <$> Json.write (dict entries)
  | scalar s => pure s.unpadded.plainValue
  | decimal d => pure (str d.toText)
  | uuid text => pure (str text)
  | member _ _ v => storable v
  | v => pure v

/-- What the engine stores for a list of values, in order. -/
def storables (values : List Value) : Except Fault (List Value) :=
  values.mapM storable

end Value

end Tablewright
