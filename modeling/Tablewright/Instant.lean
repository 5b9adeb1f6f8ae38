import Tablewright.Calendar
import Tablewright.Number.Reading

/-!
# Time stamps of a fixed unit

A time stamp counts whole units since the first moment of 1970. It is held as its text, which shows
the parts that its unit can tell and no others: a stamp in months has a year and a month, one in
seconds everything down to the second. The text `NaT` stands for no time at all.
-/

namespace Tablewright

namespace Instant

/-- The stamp that stands for no time. -/
def noTime : String := "NaT"

/-- The first moment of 1970, to the finest unit. -/
def epoch : List Char := "1970-01-01T00:00:00.000000000000000000".toList

/-- Whether a stamp stands for the moment at which counting begins. -/
def isEpoch (text : String) : Bool :=
  text.toList.isPrefixOf epoch

/-- The number of characters of the year, its sign included. -/
def yearLength (cs : List Char) : Nat :=
  match cs with
  | '-' :: rest => (rest.takeWhile Char.isDigit).length + 1
  | _ => (cs.takeWhile Char.isDigit).length

/-- The stamp with the parts that its unit does not tell, each at its first value. -/
def completed (text : String) : List Char :=
  let cs := text.toList
  cs ++ epoch.drop (cs.length - yearLength cs + 4)

/-- The year of a stamp. -/
def year (text : String) : Int :=
  let (negative, digits) := splitSign (text.toList.take (yearLength text.toList))
  if negative then -(digitsValue digits : Int) else digitsValue digits

/-- The part of a completed stamp that begins some characters behind the year. -/
def part (text : String) (start length : Nat) : Nat :=
  digitsValue (((completed text).drop (yearLength text.toList + start)).take length)

/-- The days from the first of January 1970 to a date, whose year may be of any sign. The year is
taken to begin in March, so that a leap day is its last day. -/
def daysSinceEpoch (year : Int) (month day : Nat) : Int :=
  let y := if month ≤ 2 then year - 1 else year
  let era := y.fdiv 400
  let yearOfEra := y - 400 * era
  let dayOfYear : Int := (153 * (((month + 9) % 12 : Nat) : Int) + 2) / 5 + day - 1
  era * 146097 + yearOfEra * 365 + yearOfEra / 4 - yearOfEra / 100 + dayOfYear - 719468

/-- The billionths of a billionth of a second since the beginning of 1970. -/
def position (text : String) : Int :=
  let days := daysSinceEpoch (year text) (part text 1 2) (part text 4 2)
  let seconds : Int := 86400 * days +
    (((part text 7 2 * 60 + part text 10 2) * 60 + part text 13 2 : Nat) : Int)
  seconds * 1000000000000000000 + (part text 16 18 : Nat)

/-- The length of a unit in billionths of a billionth of a second, if it has a fixed one. -/
def unitLength? : String → Option Nat
  | "W" => some 604800000000000000000000
  | "D" => some 86400000000000000000000
  | "h" => some 3600000000000000000000
  | "m" => some 60000000000000000000
  | "s" => some 1000000000000000000
  | "ms" => some 1000000000000000
  | "us" => some 1000000000000
  | "ns" => some 1000000000
  | "ps" => some 1000000
  | "fs" => some 1000
  | "as" => some 1
  | _ => none

/-- The number of units that a stamp counts. -/
def count? (text unit : String) : Option Int :=
  if text == noTime then none
  else if unit == "Y" then some (year text - 1970)
  else if unit == "M" then some (12 * (year text - 1970) + part text 1 2 - 1)
  else (unitLength? unit).map fun n => (position text).fdiv n

/-- Whether a unit is a day or longer, so that a stamp is a date. -/
def isDated (unit : String) : Bool :=
  ["Y", "M", "W", "D"].contains unit

/-- Whether a unit is shorter than the shortest part of a moment. -/
def isFine (unit : String) : Bool :=
  ["ns", "ps", "fs", "as"].contains unit

/-- The number that stands for a stamp which is neither a date nor a moment because its unit is too
short or its year too far off. -/
def number? (text unit : String) : Option Int :=
  if isFine unit || year text < 1 || 9999 < year text then count? text unit else none

/-- Whether two stamps stand for the same time; one that stands for none equals nothing. -/
def same (a b : String) : Bool :=
  a != noTime && b != noTime && completed a == completed b

/-- Whether a stamp is a date and the same one. -/
def isDate (text unit : String) (d : Date) : Bool :=
  isDated unit && same text d.iso

/-- Whether a stamp is a moment and the same one, on a clock whose offset is not known. -/
def isMoment (text unit : String) (m : Moment) : Bool :=
  !isDated unit && !isFine unit && m.time.offset.isNone && same text m.iso

end Instant

end Tablewright
