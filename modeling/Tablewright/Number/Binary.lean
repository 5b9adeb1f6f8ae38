/-!
# Binary floating-point numbers

A number of a binary format is an integer significand times a power of two, or one of the two
infinities, or the value that is no number. Everything here is exact arithmetic on integers and
rationals; the one inexact step is `BinaryFormat.round`, which takes a rational to the nearest
number of the format and a tie to the even significand.
-/

namespace Tablewright

/-- A binary format: the number of bits of a significand, and the exponents of its finest and its
coarsest unit. -/
structure BinaryFormat where
  /-- The bits of a full significand. -/
  precision : Nat
  /-- The exponent of the finest unit. -/
  minExponent : Int
  /-- The exponent of the coarsest unit. -/
  maxExponent : Int
  deriving DecidableEq, Repr

namespace BinaryFormat

/-- The half-precision format. -/
def half : BinaryFormat := ⟨11, -24, 5⟩

/-- The single-precision format. -/
def single : BinaryFormat := ⟨24, -149, 104⟩

/-- The double-precision format. -/
def double : BinaryFormat := ⟨53, -1074, 971⟩

end BinaryFormat

/-- A binary floating-point number. A finite one stands for its significand times two to its
exponent, and keeps the sign of a zero. -/
inductive Binary where
  | nan
  | infinity (negative : Bool)
  | finite (negative : Bool) (significand : Nat) (exponent : Int)
  deriving DecidableEq, Repr, Inhabited

/-- An integer power of a natural number, as a rational. -/
def powRat (base : Nat) (e : Int) : Rat :=
  if 0 ≤ e then (Nat.pow base e.toNat : Nat) else 1 / (Nat.pow base (-e).toNat : Nat)

/-- The nearest integer, a tie going to the even neighbour. -/
def roundHalfEven (q : Rat) : Int :=
  let below := q.floor
  let rest := q - below
  if rest < 1 / 2 then below
  else if 1 / 2 < rest then below + 1
  else if below % 2 = 0 then below
  else below + 1

/-- The difference of the bit lengths of numerator and denominator; the rational lies strictly
within a factor of two of that power of two. -/
def binaryMagnitude (q : Rat) : Int :=
  (q.num.natAbs.log2 : Int) - (q.den.log2 : Int)

namespace BinaryFormat

variable (f : BinaryFormat)

/-- The exponent of the unit in which a positive rational is rounded: the one that gives it a full
significand, but none finer than the format has. -/
def unitExponent (q : Rat) : Int :=
  let e := binaryMagnitude q - f.precision
  let e := if (Nat.pow 2 f.precision : Nat) ≤ (q / powRat 2 e) then e + 1 else e
  max f.minExponent e

/-- The number of the format nearest to the rational `q`, with the sign given apart so that a zero
keeps it. -/
def roundAbs (negative : Bool) (q : Rat) : Binary :=
  if q = 0 then .finite negative 0 f.minExponent
  else
    let e := f.unitExponent q
    let m := (roundHalfEven (q / powRat 2 e)).toNat
    let (m, e) := if m = Nat.pow 2 f.precision then (m / 2, e + 1) else (m, e)
    if f.maxExponent < e then .infinity negative else .finite negative m e

/-- The number of the format nearest to a rational. -/
def round (q : Rat) : Binary :=
  f.roundAbs (q < 0) (if q < 0 then -q else q)

end BinaryFormat

namespace Binary

/-- The exact value of a finite number. -/
def toRat? : Binary → Option Rat
  | nan => none
  | infinity _ => none
  | finite negative m e =>
    let q := (m : Rat) * powRat 2 e
    some (if negative then -q else q)

/-- The number nearest to this one in another format. -/
def convert (f : BinaryFormat) : Binary → Binary
  | nan => nan
  | infinity negative => infinity negative
  | finite negative m e => f.roundAbs negative ((m : Rat) * powRat 2 e)

/-- The number with the opposite sign. -/
def neg : Binary → Binary
  | nan => nan
  | infinity negative => infinity (!negative)
  | finite negative m e => finite (!negative) m e

/-- Whether the number is no number. -/
def isNan : Binary → Bool
  | nan => true
  | _ => false

/-- Whether the number is a zero of either sign. -/
def isZero : Binary → Bool
  | finite _ m _ => m == 0
  | _ => false

/-- Whether the number is a finite integer. -/
def isInteger (x : Binary) : Bool :=
  match x.toRat? with
  | some q => q.den == 1
  | none => false

/-- The double-precision number nearest to an integer, if the integer is not too large. -/
def ofInt? (n : Int) : Option Binary :=
  match BinaryFormat.double.round n with
  | .infinity _ => none
  | x => some x

/-- The zero of double precision. -/
def zero : Binary :=
  finite false 0 BinaryFormat.double.minExponent

/-- The bits of the number in a format whose significands are stored without their first bit,
least significant first when cut into bytes. -/
def toBits (f : BinaryFormat) : Binary → Nat
  | nan => exponentMask f + Nat.pow 2 (f.precision - 2)
  | infinity negative => sign f negative + exponentMask f
  | finite negative m e =>
    let stored := (e - f.minExponent).toNat
    sign f negative +
      if m < Nat.pow 2 (f.precision - 1) then m
      else (stored + 1) * Nat.pow 2 (f.precision - 1) + (m - Nat.pow 2 (f.precision - 1))
where
  /-- The bit pattern with every exponent bit set. -/
  exponentMask (f : BinaryFormat) : Nat :=
    ((f.maxExponent - f.minExponent).toNat + 2) * Nat.pow 2 (f.precision - 1)
  /-- The sign bit, which stands above the exponent. -/
  sign (f : BinaryFormat) (negative : Bool) : Nat :=
    if negative then
      ((f.maxExponent - f.minExponent).toNat + 3) * Nat.pow 2 (f.precision - 1)
    else 0

end Binary

end Tablewright
