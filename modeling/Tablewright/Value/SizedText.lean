import Tablewright.Text.Padded
import Tablewright.Text.Quoted
import Tablewright.Value.Basic

/-!
# Sized numbers and arrays as text

A scalar is written with its type, a floating-point number with the fewest digits that read back in
its own format. An array stands in nested brackets. Its numbers are lined up: whole ones on the
right, the others at their points, which are all written with a power of ten if their sizes lie too
far apart. Rows break before the seventy-fifth place, and a very large array shows only its corners.
-/

namespace Tablewright

open Text (quoted quotedBytes padStart)

/-! ## Scalars -/

namespace ElementType

/-- The name of an element type. -/
def name : ElementType → String
  | bool => "bool"
  | int signed bits => (if signed then "int" else "uint") ++ toString bits
  | float bits => "float" ++ toString bits
  | text => "str"
  | binary => "bytes"

end ElementType

namespace Scalar

/-- The element type of a scalar. -/
def element : Scalar → ElementType
  | bool _ => .bool
  | int signed bits _ => .int signed bits
  | float bits _ => .float bits
  | text _ => .text
  | binary _ => .binary

/-- The name of the type of a scalar that stands alone. -/
def typeName : Scalar → String
  | text _ => "str_"
  | binary _ => "bytes_"
  | s => s.element.name

/-- The plain text of a scalar; a floating-point number has the fewest digits that read back in its
own format. -/
def plain : Scalar → String
  | bool b => if b then "True" else "False"
  | int _ _ n => toString n
  | float bits x => x.text (floatFormat bits) plainNotation
  | text s => s
  | binary data => quotedBytes data

/-- A scalar as it could be written down. -/
def repr : Scalar → String
  | bool b => if b then "np.True_" else "np.False_"
  | text s => "np.str_(" ++ quoted s ++ ")"
  | s => "np." ++ s.typeName ++ "(" ++ s.plain ++ ")"

/-- The number of places a text takes. -/
def width : Scalar → Nat
  | text s => s.length
  | binary data => data.length
  | _ => 0

/-- An element as an array gives it back: null characters at the end of a text are room that it does
not fill. -/
def unpadded : Scalar → Scalar
  | text s => text (String.ofList (s.toList.reverse.dropWhile (· == Char.ofNat 0)).reverse)
  | binary data => binary (data.reverse.dropWhile (· == 0)).reverse
  | s => s

end Scalar

/-! ## Lining up numbers -/

/-- Decimal digits on both sides of a point, and a power of ten. -/
structure DigitGroups where
  /-- The digits before the point. -/
  whole : List Char
  /-- The digits behind the point, without zeros at the end. -/
  fraction : List Char
  /-- The power of ten. -/
  exponent : Int := 0

namespace DigitGroups

/-- The most digits that are shown behind a point. -/
def maxFraction : Nat := 8

/-- A positive number with its point where it belongs, rounded if it has too many digits. -/
def positional (f : BinaryFormat) (m : Nat) (e : Int) : DigitGroups :=
  let d := shortestDecimals f m e
  let behind := (d.digits.length : Int) - d.point
  if behind ≤ maxFraction then
    let zeros := List.replicate (d.point - d.digits.length).toNat '0'
    let lead := List.replicate (-d.point).toNat '0'
    let whole := d.digits.take d.point.toNat ++ zeros
    ⟨if whole.isEmpty then ['0'] else whole, lead ++ d.digits.drop d.point.toNat, 0⟩
  else
    let scale := Nat.pow 10 maxFraction
    let k := (roundHalfEven ((m : Rat) * powRat 2 e * (scale : Nat))).toNat
    ⟨natDigits (k / scale),
      dropTrailingZeros (Text.zeroPadded maxFraction (k % scale)).toList, 0⟩

/-- A positive number with one digit before the point, rounded if it has too many digits. -/
def scientific (f : BinaryFormat) (m : Nat) (e : Int) : DigitGroups :=
  let d := shortestDecimals f m e
  let x := d.point - 1
  if d.digits.length ≤ maxFraction + 1 then ⟨d.digits.take 1, d.digits.drop 1, x⟩
  else
    let k := roundHalfEven ((m : Rat) * powRat 2 e / powRat 10 (x - maxFraction))
    let ds := natDigits k.toNat
    ⟨ds.take 1, dropTrailingZeros (ds.drop 1), if maxFraction + 1 < ds.length then x + 1 else x⟩

end DigitGroups

/-- How the floating-point numbers of an array are lined up. -/
structure FloatColumn where
  /-- Whether they are written with a power of ten. -/
  isScientific : Bool
  /-- The width before the point. -/
  before : Nat
  /-- The width behind the point, apart from the power of ten. -/
  behind : Nat
  /-- The digits of the powers of ten. -/
  exponentDigits : Nat

namespace FloatColumn

/-- The digits of a finite number. -/
def groups (f : BinaryFormat) (isScientific : Bool) (m : Nat) (e : Int) : DigitGroups :=
  if m = 0 then ⟨['0'], [], 0⟩
  else if isScientific then .scientific f m e
  else .positional f m e

/-- The magnitudes of the numbers that are neither zero nor special. -/
def magnitudes (items : List Binary) : List Rat :=
  items.filterMap fun
    | .finite _ m e => if m = 0 then none else some ((m : Rat) * powRat 2 e)
    | _ => none

/-- Whether a number is above a bound. -/
def isAbove (bound : Rat) : Binary → Bool
  | .infinity negative => !negative
  | x => (x.toRat?.map fun q => decide (bound < q)).getD false

/-- Whether numbers are so large, so small or so far apart that powers of ten serve better. -/
def needsPowers (f : BinaryFormat) (items : List Binary) : Bool :=
  match magnitudes items with
  | [] => false
  | q :: rest =>
    let most := rest.foldl (fun a b => if a < b then b else a) q
    let least := rest.foldl (fun a b => if b < a then b else a) q
    let small := (((BinaryFormat.double.round (1 / 10000)).convert f).toRat?).getD 0
    !decide (most < 100000000) || decide (least < small) || isAbove 1000 (f.round (most / least))

/-- The width of what stands before a point. -/
def wholeWidth (negative : Bool) (d : DigitGroups) : Nat :=
  d.whole.length + (if negative then 1 else 0)

/-- The digits of a power of ten, at least two. -/
def powerDigits (least : Nat) (x : Int) : List Char :=
  (Text.zeroPadded (max 2 least) x.natAbs).toList

/-- The column that fits numbers. What is infinite or no number takes the whole width. -/
def fit (f : BinaryFormat) (items : List Binary) : FloatColumn :=
  let isScientific := needsPowers f items
  let finite := items.filterMap fun
    | .finite negative m e => some (negative, groups f isScientific m e)
    | _ => none
  let fraction := (finite.map fun d => d.2.fraction.length).foldl max 0
  let digits := (finite.map fun d => (powerDigits 2 d.2.exponent).length).foldl max 0
  let before := (finite.map fun d => wholeWidth d.1 d.2).foldl max 0
  let room := fraction + 1 + (if isScientific then digits + 2 else 0)
  let special := items.map fun
    | .nan => 3
    | .infinity negative => if negative then 4 else 3
    | .finite .. => 0
  { isScientific, behind := fraction, exponentDigits := digits
    before := special.foldl (fun w n => max w (n - room)) before }

/-- The width of a number in the column. -/
def width (c : FloatColumn) : Nat :=
  c.before + 1 + c.behind + (if c.isScientific then c.exponentDigits + 2 else 0)

/-- A number in the column. -/
def cell (c : FloatColumn) (f : BinaryFormat) : Binary → String
  | .nan => padStart c.width "nan"
  | .infinity negative => padStart c.width (if negative then "-inf" else "inf")
  | .finite negative m e =>
    let d := groups f c.isScientific m e
    let whole := String.ofList ((if negative then ['-'] else []) ++ d.whole)
    let fraction := String.ofList d.fraction
    let missing := c.behind - d.fraction.length
    padStart c.before whole ++ "." ++ fraction ++
      if c.isScientific then
        String.ofList (List.replicate missing '0' ++
          'e' :: (if d.exponent < 0 then '-' else '+') :: powerDigits c.exponentDigits d.exponent)
      else String.ofList (List.replicate missing ' ')

end FloatColumn

/-! ## Arrays -/

namespace Tensor

/-- The number of elements. -/
def size (t : Tensor) : Nat :=
  t.items.length

/-- The most elements of an array that is shown as a whole. -/
def maxShown : Nat := 1000

/-- How many places at each end of an axis are shown if it is not shown as a whole. -/
def edge : Nat := 3

/-- The floating-point number of an element. -/
def number : Scalar → Binary
  | .float _ x => x
  | _ => .nan

/-- The texts of elements of one type, lined up; elements of an array without axes have no others
to be lined up with. -/
def cells (element : ElementType) (isSingle : Bool) (items : List Scalar) : List String :=
  match element with
  | .bool => items.map fun s => if s == .bool true && !isSingle then " True" else s.plain
  | .int .. =>
    let width := (items.map fun s => s.plain.length).foldl max 0
    items.map fun s => padStart width s.plain
  | .float bits =>
    let numbers := items.map number
    let column := FloatColumn.fit (floatFormat bits) numbers
    numbers.map (column.cell (floatFormat bits))
  | .text | .binary => items.map fun s =>
    match s.unpadded with
    | .text s => quoted s
    | s => s.plain

/-- An axis as it is shown: how many places, and whether there is a gap in their middle. -/
structure Axis where
  /-- The places that are shown. -/
  extent : Nat
  /-- Whether places are left out in the middle. -/
  hasGap : Bool

/-- The rows of an array of that many along its first axis. -/
def rows {α : Type} (count : Nat) (items : List α) : List (List α) :=
  let size := items.length / count
  (List.range count).map fun i => (items.drop (i * size)).take size

/-- The corners of an array: of every long axis the places at its ends. -/
def corners {α : Type} : List Nat → List α → List Axis × List α
  | [], items => ([], items)
  | n :: shape, items =>
    let parts := (rows n items).map (corners shape)
    let axes := (parts.head?.map (·.1)).getD []
    let parts := parts.map (·.2)
    if 2 * edge < n then
      (⟨2 * edge, true⟩ :: axes, (parts.take edge ++ parts.drop (n - edge)).flatten)
    else (⟨n, false⟩ :: axes, parts.flatten)

/-- The text without spaces at its end. -/
def trimSpaces (s : String) : String :=
  String.ofList (s.toList.reverse.dropWhile (· == ' ')).reverse

/-- Adds a word to the last line, or to a new line if it does not fit and the last one holds
something already. -/
def extend (width : Nat) (indent : String) (lines : String × String) (word : String) :
    String × String :=
  let (done, line) := lines
  if width < line.length + word.length && indent.length < line.length then
    (done ++ trimSpaces line ++ "\n", indent ++ word)
  else (done, line ++ word)

/-- Words in a row, a separator behind each but the last, broken into lines. -/
def wrap (separator : String) (width : Nat) (indent : String) (lines : String × String) :
    List String → String × String
  | [] => lines
  | [word] => extend width indent lines word
  | word :: rest =>
    let (done, line) := extend width indent lines word
    wrap separator width indent (done, line ++ separator) rest

/-- Items with an ellipsis in their middle, if the axis has a gap. -/
def withGap (axis : Axis) (items : List String) : List String :=
  if axis.hasGap then items.take edge ++ "..." :: items.drop edge else items

/-- Nested brackets around cells. The innermost rows are broken into lines; every other axis puts
each of its parts on a line of its own, and an empty line more for every further axis. -/
def brackets (separator : String) (width : Nat) (indent : String) :
    List Axis → List String → String
  | [], cells => "".intercalate cells
  | [axis], cells =>
    let (done, line) := wrap separator (width - 1) indent ("", indent) (withGap axis cells)
    "[" ++ String.ofList ((done ++ line).toList.drop indent.length) ++ "]"
  | axis :: axes, cells =>
    let parts := (rows axis.extent cells).map
      (brackets separator (width - 1) (indent ++ " ") axes)
    let breaks := trimSpaces separator ++ String.ofList (List.replicate axes.length '\n') ++ indent
    "[" ++ breaks.intercalate (withGap axis parts) ++ "]"

/-- The elements of an array in brackets, on lines of a given width. -/
def layout (t : Tensor) (separator : String) (width indent : Nat) : String :=
  if t.items.isEmpty then "[]"
  else
    let (axes, items) :=
      if maxShown < t.size then corners t.shape t.items
      else (t.shape.map fun n => ⟨n, false⟩, t.items)
    brackets separator width (String.ofList (List.replicate (indent + 1) ' ')) axes
      (cells t.element t.shape.isEmpty items)

/-- The places of a line. -/
def lineWidth : Nat := 75

/-- The plain text of an array; one without axes is as good as its element. -/
def plain (t : Tensor) : String :=
  match t.shape, t.items with
  | [], [s] => s.unpadded.plain
  | _, _ => t.layout " " lineWidth 0

/-- Whether the element type is one that a written array has by itself. -/
def hasDefaultElement (t : Tensor) : Bool :=
  match t.element with
  | .bool | .int true 64 | .float 64 => true
  | _ => false

/-- The element type with the room that its texts take. -/
def elementName (t : Tensor) : String :=
  let width := toString ((t.items.map Scalar.width).foldl max 1)
  match t.element with
  | .text => "<U" ++ width
  | .binary => "|S" ++ width
  | element => element.name

/-- The element type as it is written beside the elements: quoted if it names a room. -/
def elementRemark (t : Tensor) : String :=
  match t.element with
  | .text | .binary => "dtype=" ++ Text.quoted t.elementName
  | _ => "dtype=" ++ t.elementName

/-- The shape of an array between parentheses. -/
def shapeText (t : Tensor) : String :=
  match t.shape with
  | [n] => "(" ++ toString n ++ ",)"
  | shape => "(" ++ ", ".intercalate (shape.map toString) ++ ")"

/-- What has to be said of an array beside its elements: its shape where they do not show it, and
the element type unless it goes without saying. -/
def remarks (t : Tensor) : List String :=
  let hidesShape := (t.items.isEmpty && t.shape != [0]) || maxShown < t.size
  (if hidesShape then ["shape=" ++ t.shapeText] else []) ++
    (if t.hasDefaultElement && !t.items.isEmpty then [] else [t.elementRemark])

/-- The characters behind the last line break. -/
def lastLineLength (s : String) : Nat :=
  (s.toList.reverse.takeWhile (· != '\n')).length

/-- An array as it could be written down. -/
def repr (t : Tensor) : String :=
  let body := "array(" ++ t.layout ", " (lineWidth - 1) 6
  if t.remarks.isEmpty then body ++ ")"
  else
    let text := body ++ ","
    let rest := ", ".intercalate t.remarks ++ ")"
    let fits := lastLineLength text + rest.length + 1 ≤ lineWidth
    text ++ (if fits then " " else "\n      ") ++ rest

end Tensor

end Tablewright
