import Tablewright.Number.Reading
import Tablewright.Number.Shortest

/-!
# Decimal numbers

A decimal number keeps its coefficient and its exponent apart, so that `1.10` and `1.1` are equal
in value and differ in text. Negation and division round to twenty-eight digits, as any other
operation on decimals would.
-/

namespace Tablewright

/-- A decimal number: sign, coefficient and power of ten, or a special value. -/
inductive Decimal where
  | finite (negative : Bool) (coefficient : Nat) (exponent : Int)
  | infinity (negative : Bool)
  | nan (negative : Bool) (signaling : Bool) (payload : List Char)
  deriving DecidableEq, Repr, Inhabited

namespace Decimal

/-- The digits a decimal operation keeps. -/
def workingDigits : Nat := 28

/-- The decimal number a text writes down, without regard to blanks. -/
def read? (s : String) : Option Decimal :=
  let (negative, body) := splitSign s.toList
  if sameLetters body "inf" || sameLetters body "infinity" then some (.infinity negative)
  else
    match body.map Char.toLower with
    | 'n' :: 'a' :: 'n' :: payload => some (.nan negative false payload)
    | 's' :: 'n' :: 'a' :: 'n' :: payload => some (.nan negative true payload)
    | _ => (decimalNumeral? body).map fun d =>
      .finite negative (digitsValue (d.whole ++ d.fraction)) (d.exponent - d.fraction.length)

/-- The text of the digits of a decimal: with a point alone as long as the exponent is not positive
and at most five zeros stand behind the point, else with a power of ten. -/
def digitsText (coefficient : Nat) (exponent : Int) : List Char :=
  let ds := natDigits coefficient
  let left := exponent + ds.length
  let place : Int := if exponent ≤ 0 && -6 < left then left else 1
  let mantissa :=
    if place ≤ 0 then '0' :: '.' :: List.replicate (-place).toNat '0' ++ ds
    else if ds.length ≤ place then ds ++ List.replicate (place.toNat - ds.length) '0'
    else ds.take place.toNat ++ '.' :: ds.drop place.toNat
  let scale := left - place
  if scale = 0 then mantissa
  else mantissa ++ 'E' :: (if scale < 0 then '-' else '+') :: natDigits scale.natAbs

/-- The text of a decimal number. -/
def toText : Decimal → String
  | .finite negative c e => String.ofList ((if negative then ['-'] else []) ++ digitsText c e)
  | .infinity negative => (if negative then "-" else "") ++ "Infinity"
  | .nan negative signaling payload =>
    (if negative then "-" else "") ++ (if signaling then "sNaN" else "NaN") ++
      String.ofList payload

/-- The exact value of a finite decimal. -/
def toRat? : Decimal → Option Rat
  | .finite negative c e =>
    let q := (c : Rat) * powRat 10 e
    some (if negative then -q else q)
  | _ => none

/-- The decimal rounded to the working digits, a tie going to the even neighbour. -/
def fit (negative : Bool) (coefficient : Nat) (exponent : Int) : Decimal :=
  let extra := (natDigits coefficient).length - workingDigits
  if extra = 0 then .finite negative coefficient exponent
  else
    let c := (roundHalfEven ((coefficient : Rat) / ((Nat.pow 10 extra : Nat) : Rat))).toNat
    if c = Nat.pow 10 workingDigits then .finite negative (c / 10) (exponent + extra + 1)
    else .finite negative c (exponent + extra)

/-- The decimal with the opposite sign; a zero comes out positive. A signaling value that is no
number cannot be negated. -/
def neg? : Decimal → Option Decimal
  | .finite negative c e => some (if c = 0 then .finite false 0 e else fit (!negative) c e)
  | .infinity negative => some (.infinity (!negative))
  | .nan _ true _ => none
  | .nan negative false payload => some (.nan negative false payload)

/-- A coefficient without some of its trailing zeros, at most a given number of them, and the
exponent that makes up for them. -/
def dropZeros : Nat → Nat → Int → Nat × Int
  | 0, c, e => (c, e)
  | count + 1, c, e => if c % 10 = 0 then dropZeros count (c / 10) (e + 1) else (c, e)

/-- The thousandth part of a decimal, with the same exponent if that is enough to write it down. A
signaling value that is no number cannot be divided. -/
def thousandth? : Decimal → Option Decimal
  | .finite negative c e =>
    if c = 0 then some (.finite negative 0 e)
    else
      let (c, e) := dropZeros 3 c (e - 3)
      some (fit negative c e)
  | .nan _ true _ => none
  | d => some d

/-- Whether the decimal is a zero of either sign. -/
def isZero : Decimal → Bool
  | .finite _ c _ => c == 0
  | _ => false

end Decimal

end Tablewright
