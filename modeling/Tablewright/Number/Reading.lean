import Tablewright.Number.Binary
import Tablewright.Text.Blank
import Tablewright.Text.Digit

/-!
# Reading numbers from text

A numeral may stand between blanks, may group its digits with single underscores, and may use the
digits of any script. `readInteger?` takes a signed run of digits; `readFloat?` also takes a point,
an exponent and the names of the special values, and rounds to double precision.
-/

namespace Tablewright

open Text

/-- The blanks that may surround a numeral: all but the information separators. -/
def isNumeralBlank (c : Char) : Bool :=
  if c.toNat < 128 then isAsciiBlank c else isBlank c

/-- A text ready for reading: trimmed, with every digit in its ASCII form. -/
def numeralOf (s : String) : List Char :=
  (trimWhile isNumeralBlank s.toList).map fun c =>
    match digitValue? c with
    | some d => Char.ofNat (48 + d)
    | none => c

/-- Drops the underscores that stand between two digits; `none` if one stands elsewhere. The first
argument tells whether a digit came last. -/
def dropGrouping (afterDigit : Bool) : List Char → Option (List Char)
  | [] => some []
  | '_' :: c :: rest =>
    if afterDigit && c.isDigit then (dropGrouping true rest).map (c :: ·) else none
  | '_' :: [] => none
  | c :: rest => (dropGrouping c.isDigit rest).map (c :: ·)

/-- The value of a run of ASCII digits. -/
def digitsValue (ds : List Char) : Nat :=
  ds.foldl (fun n c => 10 * n + (c.toNat - 48)) 0

/-- The sign of a numeral and what follows it. -/
def splitSign : List Char → Bool × List Char
  | '-' :: rest => (true, rest)
  | '+' :: rest => (false, rest)
  | cs => (false, cs)

/-- The most digits an integer numeral may have. -/
def maxIntegerDigits : Nat := 4300

/-- The integer a prepared numeral stands for. -/
def integerOfNumeral? (cs : List Char) : Option Int := do
  let (negative, body) := splitSign cs
  let digits ← dropGrouping false body
  if digits.isEmpty || !digits.all (·.isDigit) || maxIntegerDigits < digits.length then none
  else
    let n : Int := digitsValue digits
    some (if negative then -n else n)

/-- The integer a text stands for. -/
def readInteger? (s : String) : Option Int :=
  integerOfNumeral? (numeralOf s)

/-- A decimal fraction as it is written: the digits before and behind the point, and the power of
ten. -/
structure DecimalNumeral where
  /-- The digits before the point. -/
  whole : List Char
  /-- The digits behind the point. -/
  fraction : List Char
  /-- The power of ten. -/
  exponent : Int
  deriving Repr

/-- The exponent part of a numeral; a numeral may do without one. -/
def exponentOfNumeral? : List Char → Option Int
  | [] => some 0
  | c :: rest =>
    if c == 'e' || c == 'E' then
      let (negative, digits) := splitSign rest
      if digits.isEmpty || !digits.all (·.isDigit) then none
      else some (if negative then -(digitsValue digits : Int) else (digitsValue digits : Int))
    else none

/-- Splits an unsigned numeral at its point and its exponent. -/
def decimalNumeral? (cs : List Char) : Option DecimalNumeral := do
  let whole := cs.takeWhile (·.isDigit)
  let rest := cs.dropWhile (·.isDigit)
  let (fraction, rest) : List Char × List Char := match rest with
    | '.' :: r => (r.takeWhile Char.isDigit, r.dropWhile Char.isDigit)
    | r => ([], r)
  if whole.isEmpty && fraction.isEmpty then none
  else
    let exponent ← exponentOfNumeral? rest
    some ⟨whole, fraction, exponent⟩

/-- The double-precision number nearest to a decimal fraction. The place of the first digit that
counts decides beforehand whether the number is far above or below what the format can hold. -/
def DecimalNumeral.toBinary (negative : Bool) (d : DecimalNumeral) : Binary :=
  let digits := (d.whole ++ d.fraction).dropWhile (· == '0')
  if digits.isEmpty then .finite negative 0 BinaryFormat.double.minExponent
  else
    let scale := d.exponent - d.fraction.length
    let place := scale + digits.length
    if 400 < place then .infinity negative
    else if place < -400 then .finite negative 0 BinaryFormat.double.minExponent
    else BinaryFormat.double.roundAbs negative ((digitsValue digits : Rat) * powRat 10 scale)

/-- Whether two texts agree when the letters of ASCII are taken without case. -/
def sameLetters (cs : List Char) (name : String) : Bool :=
  cs.map Char.toLower == name.toList

/-- The double-precision number a prepared numeral stands for. -/
def binaryOfNumeral? (cs : List Char) : Option Binary := do
  let cs ← dropGrouping false cs
  let (negative, body) := splitSign cs
  if sameLetters body "inf" || sameLetters body "infinity" then some (.infinity negative)
  else if sameLetters body "nan" then some .nan
  else (decimalNumeral? body).map (·.toBinary negative)

/-- The double-precision number a text stands for. -/
def readFloat? (s : String) : Option Binary :=
  binaryOfNumeral? (numeralOf s)

end Tablewright
