import Tablewright.Fault
import Tablewright.Value.Equality

/-!
# Values as numbers

Three ways to take a number from a value: `measure?`, the floating-point number it stands for if it
stands for one; `toInt`, its integer part, which must exist; and `negated`, its opposite. The order
of numbers of different kinds is the order of their exact quantities.
-/

namespace Tablewright

/-- A numeral written in bytes: only ASCII digits and blanks count. -/
def numeralOfBytes (data : List UInt8) : List Char :=
  Text.trimWhile Text.isAsciiBlank (data.map fun b => Char.ofNat b.toNat)

namespace Decimal

/-- The double-precision number nearest to a decimal. -/
def toBinary : Decimal → Binary
  | .finite negative c e => (DecimalNumeral.mk (natDigits c) [] e).toBinary negative
  | .infinity negative => .infinity negative
  | .nan .. => .nan

/-- The integer part of a decimal. -/
def toInt : Decimal → Except Fault Int
  | .finite negative c e =>
    let n : Int :=
      if 0 ≤ e then c * (Nat.pow 10 e.toNat : Nat) else c / (Nat.pow 10 (-e).toNat : Nat)
    pure (if negative then -n else n)
  | .infinity _ => .error (.misuse .tooLarge)
  | .nan .. => wrongValue

end Decimal

/-- The integer part of a binary number. -/
def Binary.toInt (x : Binary) : Except Fault Int :=
  match x with
  | .nan => wrongValue
  | .infinity _ => .error (.misuse .tooLarge)
  | .finite .. =>
    match x.toRat? with
    | some q => pure (q.num.tdiv q.den)
    | none => wrongValue

/-- An integer that a numeral must stand for. -/
def integerOrRefuse (n? : Option Int) : Except Fault Int :=
  match n? with
  | some n => pure n
  | none => wrongValue

/-- The integer of the 128 bits that an identifier's text writes down. -/
def uuidInt (text : String) : Int :=
  ((text.toList.filterMap Text.hexValue?).foldl (fun n d => 16 * n + d) 0 : Nat)

namespace Binary

/-- The thousandth part of an integer, in double precision. -/
def thousandthOf (n : Int) : Binary :=
  BinaryFormat.double.round ((n : Rat) / 1000)

/-- The thousandth part of a number, in a format. -/
def thousandth (f : BinaryFormat) : Binary → Binary
  | .finite negative m e => f.roundAbs negative ((m : Rat) * powRat 2 e / 1000)
  | x => x

end Binary

namespace Scalar

/-- The double-precision number a scalar stands for. -/
def toBinary? : Scalar → Option Binary
  | bool b => Binary.ofInt? (if b then 1 else 0)
  | int _ _ n => Binary.ofInt? n
  | float _ x => some (x.convert .double)
  | text s => readFloat? s
  | binary data => binaryOfNumeral? (numeralOfBytes data)

/-- The integer part of a scalar. -/
def toInt : Scalar → Except Fault Int
  | bool b => pure (if b then 1 else 0)
  | int _ _ n => pure n
  | float _ x => x.toInt
  | text s => integerOrRefuse (readInteger? s)
  | binary data => integerOrRefuse (integerOfNumeral? (numeralOfBytes data))

/-- An integer brought into the range of a sized type. -/
def wrapInt (signed : Bool) (bits : Nat) (n : Int) : Int :=
  if signed then n.bmod (Nat.pow 2 bits) else n.emod (Nat.pow 2 bits : Nat)

/-- The opposite of a scalar, within its type. -/
def negated : Scalar → Except Fault Scalar
  | int signed bits n => pure (int signed bits (wrapInt signed bits (-n)))
  | float bits x => pure (float bits x.neg)
  | bool _ => wrongType
  | _ => noRule

/-- The thousandth part of a scalar: a whole number becomes a double-precision one. -/
def thousandth : Scalar → Except Fault Scalar
  | bool b => pure (float 64 (.thousandthOf (if b then 1 else 0)))
  | int _ _ n => pure (float 64 ((BinaryFormat.double.round n).thousandth .double))
  | float bits x => pure (float bits (x.thousandth (floatFormat bits)))
  | _ => noRule

end Scalar

namespace Value

/-- The floating-point number a value stands for; none for a value that stands for no number, nor
for one that is undefined. An integer beyond the range of double precision is refused. -/
def measure? (v : Value) : Except Fault (Option Binary) := do
  let x? : Option Binary ← match v with
    | bool b => pure (Binary.ofInt? (if b then 1 else 0))
    | int n =>
      match Binary.ofInt? n with
      | some x => pure (some x)
      | none => .error (.misuse .tooLarge)
    | float x => pure (some x)
    | str s => pure (readFloat? s)
    | bytes _ data => pure (binaryOfNumeral? (numeralOfBytes data))
    | scalar s => pure s.toBinary?
    | tensor ⟨_, _, [s]⟩ => pure s.toBinary?
    | decimal d => pure (some d.toBinary)
    | instant text unit => pure ((Instant.number? text unit).bind Binary.ofInt?)
    | _ => pure none
  pure (x?.filter fun x => !x.isNan)

/-- The integer part of the number a value stands for. -/
def toInt : Value → Except Fault Int
  | bool b => pure (if b then 1 else 0)
  | int n => pure n
  | float x => x.toInt
  | str s => integerOrRefuse (readInteger? s)
  | bytes _ data => integerOrRefuse (integerOfNumeral? (numeralOfBytes data))
  | scalar s => s.toInt
  | tensor ⟨_, _, [s]⟩ => s.toInt
  | decimal d => d.toInt
  | uuid text => pure (uuidInt text)
  | instant text unit =>
    match Instant.number? text unit with
    | some n => pure n
    | none => wrongType
  | _ => wrongType

/-- The element of a sized type that stands for a value. A whole number outside the range of the
type is refused. -/
def sized (element : ElementType) (v : Value) : Except Fault Scalar :=
  match element with
  | .bool => pure (.bool v.truthy)
  | .int signed bits => do
    let n ← v.toInt
    if Scalar.wrapInt signed bits n = n then pure (.int signed bits n)
    else .error (.misuse .tooLarge)
  | .float bits => do
    let x ← v.measure?
    pure (.float bits ((x.getD .nan).convert (floatFormat bits)))
  | .text => pure (.text v.text)
  | .binary => pure (.binary (v.bytes?.getD []))

/-- The opposite of a number. -/
def negated : Value → Except Fault Value
  | bool b => pure (int (if b then -1 else 0))
  | int n => pure (int (-n))
  | float x => pure (float x.neg)
  | decimal d =>
    match d.neg? with
    | some d => pure (decimal d)
    | none => .error (.misuse .undefinedResult)
  | scalar s => scalar <$> s.negated
  | tensor t =>
    match t.element with
    | .bool => wrongType
    | .text | .binary => noRule
    | _ => do pure (tensor { t with items := ← t.items.mapM Scalar.negated })
  | instant .. => noRule
  | _ => wrongType

/-- The thousandth part of a number. A sized integer of eight bits has no room for the thousand it
is divided by; an array has. -/
def thousandth : Value → Except Fault Value
  | bool b => pure (float (.thousandthOf (if b then 1 else 0)))
  | int n =>
    match Binary.thousandthOf n with
    | .infinity _ => .error (.misuse .tooLarge)
    | x => pure (float x)
  | float x => pure (float (x.thousandth .double))
  | decimal d =>
    match d.thousandth? with
    | some d => pure (decimal d)
    | none => .error (.misuse .undefinedResult)
  | scalar (.int _ 8 _) => .error (.misuse .tooLarge)
  | scalar s => scalar <$> s.thousandth
  | tensor t =>
    match t.element with
    | .text | .binary => noRule
    | .float bits => do
      pure (tensor ⟨.float bits, t.shape, ← t.items.mapM Scalar.thousandth⟩)
    | _ => do pure (tensor ⟨.float 64, t.shape, ← t.items.mapM Scalar.thousandth⟩)
  | _ => wrongType

/-- The quantity a value is compared by. An array speaks for its only element. -/
def comparand : Value → Except Fault Value
  | tensor ⟨.text, _, _⟩ => noRule
  | tensor ⟨.binary, _, _⟩ => noRule
  | tensor ⟨_, _, [s]⟩ => pure (scalar s)
  | tensor _ => wrongValue
  | instant .. => noRule
  | v => pure v

/-- Whether the first number is below the second. -/
def less (a b : Value) : Except Fault Bool := do
  let a ← a.comparand
  let b ← b.comparand
  match a, b with
  | decimal (.nan ..), _ => .error (.misuse .undefinedResult)
  | _, decimal (.nan ..) => .error (.misuse .undefinedResult)
  | _, _ =>
    match quantities? a b with
    | some (p, q) => pure (p.less q)
    | none => wrongType

/-- Whether the first number is below the second or equal to it. -/
def atMost (a b : Value) : Except Fault Bool := do
  let a ← a.comparand
  let b ← b.comparand
  match a, b with
  | decimal (.nan ..), _ => .error (.misuse .undefinedResult)
  | _, decimal (.nan ..) => .error (.misuse .undefinedResult)
  | _, _ =>
    match quantities? a b with
    | some (p, q) => pure (p.atMost q)
    | none => wrongType

end Value

end Tablewright
