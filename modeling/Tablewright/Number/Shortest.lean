import Tablewright.Number.Binary

/-!
# The shortest decimal that reads back

A binary number is written with the fewest decimal digits that still round to it, and of those
with the nearest. `Decimals` is the result, digits and the place of the point; `FloatNotation`
says how a sequence of digits is laid out as text.
-/

namespace Tablewright

/-- Decimal digits behind a point that is moved right by `point` places: `0.d₁d₂… · 10^point`. -/
structure Decimals where
  /-- The digits, none of them leading or trailing zeros. -/
  digits : List Char
  /-- The power of ten by which the fraction is scaled. -/
  point : Int
  deriving DecidableEq, Repr

/-- The place of the point of a positive rational: ten to this power is above it, ten to one less
is not. -/
def decimalPoint (q : Rat) : Int :=
  let estimate := binaryMagnitude q * 30103 / 100000
  (([0, 1, 2].map (estimate + ·)).find? fun e => q < powRat 10 e).getD (estimate + 2)

/-- The rationals that round to a finite positive number: the lower and the upper end, and whether
the ends belong to it. -/
def roundingInterval (f : BinaryFormat) (m : Nat) (e : Int) : Rat × Rat × Bool :=
  let unit := powRat 2 e
  let below := if m = Nat.pow 2 (f.precision - 1) ∧ f.minExponent < e then unit / 4 else unit / 2
  let v := (m : Rat) * unit
  (v - below, v + unit / 2, m % 2 = 0)

/-- The digits of a natural number in base ten. -/
def natDigits (n : Nat) : List Char :=
  (toString n).toList

/-- Drops trailing zeros. -/
def dropTrailingZeros (cs : List Char) : List Char :=
  (cs.reverse.dropWhile (· == '0')).reverse

/-- The point of a decimal grid next to `v` that lies in the interval; of two, the nearer, and of
two equally near the even one. -/
def nearestOnGrid (v low high : Rat) (closed : Bool) (grid : Rat) : Option Nat :=
  let d := (v / grid).floor
  let inside (k : Int) : Bool :=
    let x := (k : Rat) * grid
    if closed then low ≤ x && x ≤ high else low < x && x < high
  let distBelow := v - (d : Rat) * grid
  let distAbove := ((d + 1 : Int) : Rat) * grid - v
  let pick : Int :=
    if inside d && inside (d + 1) then
      if distBelow < distAbove then d
      else if distAbove < distBelow then d + 1
      else if d % 2 = 0 then d else d + 1
    else if inside d then d
    else d + 1
  if inside pick && 0 < pick then some pick.toNat else none

/-- The shortest digits that round to a finite positive number, tried with one digit, two digits,
and so on up to seventeen, which always suffice for double precision. -/
def shortestDecimals (f : BinaryFormat) (m : Nat) (e : Int) : Decimals :=
  let (low, high, closed) := roundingInterval f m e
  let v := (m : Rat) * powRat 2 e
  let point := decimalPoint v
  let hit := ((List.range 17).map Nat.succ).findSome? fun (n : Nat) =>
    (nearestOnGrid v low high closed (powRat 10 (point - (n : Int)))).map fun k => (n, k)
  match hit with
  | none => ⟨[], point⟩
  | some (n, k) =>
    let ds := natDigits k
    ⟨dropTrailingZeros ds, point + ((ds.length : Int) - n)⟩

/-- How digits are laid out: between two decimal exponents with a point, outside with a power of
ten. -/
structure FloatNotation where
  /-- The least exponent of the first digit that is written with a point alone. -/
  leastPositional : Int
  /-- The first exponent of the first digit that is written with a power of ten. -/
  firstScientific : Int
  /-- The text of the value that is no number. -/
  nan : String
  /-- The text of the positive infinity. -/
  infinity : String

/-- An exponent of ten with its sign and at least two digits. -/
def exponentText (x : Int) : List Char :=
  let ds := natDigits x.natAbs
  (if x < 0 then '-' else '+') :: (if ds.length < 2 then '0' :: ds else ds)

/-- Digits as text. A number with a point always shows a digit on both of its sides. -/
def Decimals.layout (style : FloatNotation) (d : Decimals) : List Char :=
  let x := d.point - 1
  if style.leastPositional ≤ x && x < style.firstScientific then
    if d.point ≤ 0 then
      '0' :: '.' :: List.replicate (-d.point).toNat '0' ++ d.digits
    else
      let n := d.point.toNat
      if d.digits.length ≤ n then
        d.digits ++ List.replicate (n - d.digits.length) '0' ++ ['.', '0']
      else d.digits.take n ++ '.' :: d.digits.drop n
  else
    match d.digits with
    | [] => []
    | [c] => c :: 'e' :: exponentText x
    | c :: cs => c :: '.' :: cs ++ 'e' :: exponentText x

/-- A number as text: its sign, and the shortest digits that read back in the format. -/
def Binary.text (f : BinaryFormat) (style : FloatNotation) : Binary → String
  | .nan => style.nan
  | .infinity negative => (if negative then "-" else "") ++ style.infinity
  | .finite negative m e =>
    (if negative then "-" else "") ++
      if m = 0 then "0.0" else String.ofList ((shortestDecimals f m e).layout style)

/-- Numbers are written with a point from one ten-thousandth up to below ten to the sixteenth. -/
def plainNotation : FloatNotation := ⟨-4, 16, "nan", "inf"⟩

/-- The same in JSON texts, where the special values have names of their own. -/
def jsonNotation : FloatNotation := ⟨-4, 16, "NaN", "Infinity"⟩

/-- A double-precision number as text. -/
def Binary.toText (x : Binary) : String :=
  x.text .double plainNotation

end Tablewright
