import Tablewright.Text.Padded

/-!
# Dates and times

Dates of the proleptic Gregorian calendar, times of day to the microsecond, and fixed offsets from
universal time, with their ISO-8601 texts.
-/

namespace Tablewright

open Text (zeroPadded)

/-- A calendar date. -/
structure Date where
  /-- The year, from 1 to 9999. -/
  year : Nat
  /-- The month, from 1 to 12. -/
  month : Nat
  /-- The day of the month. -/
  day : Nat
  deriving DecidableEq, Repr

/-- A time of day, with the distance from universal time in seconds if it is known. -/
structure TimeOfDay where
  /-- The hour, from 0 to 23. -/
  hour : Nat
  /-- The minute. -/
  minute : Nat
  /-- The second. -/
  second : Nat
  /-- The millionths of a second. -/
  microsecond : Nat
  /-- Seconds east of universal time; `none` for a local time. -/
  offset : Option Int
  deriving DecidableEq, Repr

/-- A date together with a time of day. -/
structure Moment where
  /-- The date. -/
  date : Date
  /-- The time of that day. -/
  time : TimeOfDay
  deriving DecidableEq, Repr

namespace Date

/-- The text `YYYY-MM-DD`. -/
def iso (d : Date) : String :=
  zeroPadded 4 d.year ++ "-" ++ zeroPadded 2 d.month ++ "-" ++ zeroPadded 2 d.day

/-- The number of leap days before a year. -/
def leapDaysBefore (year : Nat) : Nat :=
  (year - 1) / 4 - (year - 1) / 100 + (year - 1) / 400

/-- Whether the year has a leap day. -/
def isLeap (year : Nat) : Bool :=
  year % 4 == 0 && (year % 100 != 0 || year % 400 == 0)

/-- The days of a common year before each month. -/
def daysBeforeMonth (month : Nat) : Nat :=
  ([0, 31, 59, 90, 120, 151, 181, 212, 243, 273, 304, 334][month - 1]?).getD 0

/-- The days since the first day of the year 1, counted from 1. -/
def dayNumber (d : Date) : Nat :=
  365 * (d.year - 1) + leapDaysBefore d.year + daysBeforeMonth d.month +
    (if 2 < d.month && isLeap d.year then 1 else 0) + d.day

end Date

namespace TimeOfDay

/-- An offset as `+HH:MM`, with the seconds if there are any. -/
def offsetText (seconds : Int) : String :=
  let n := seconds.natAbs
  (if seconds < 0 then "-" else "+") ++ zeroPadded 2 (n / 3600) ++ ":" ++
    zeroPadded 2 (n / 60 % 60) ++
    (if n % 60 = 0 then "" else ":" ++ zeroPadded 2 (n % 60))

/-- The text `HH:MM:SS`, with the microseconds if there are any, then the offset. -/
def iso (t : TimeOfDay) : String :=
  zeroPadded 2 t.hour ++ ":" ++ zeroPadded 2 t.minute ++ ":" ++ zeroPadded 2 t.second ++
    (if t.microsecond = 0 then "" else "." ++ zeroPadded 6 t.microsecond) ++
    (match t.offset with
      | none => ""
      | some seconds => offsetText seconds)

/-- The microseconds since midnight. -/
def microseconds (t : TimeOfDay) : Nat :=
  ((t.hour * 60 + t.minute) * 60 + t.second) * 1000000 + t.microsecond

/-- Whether two times of day are the same time: both local and equal, or equal once moved to
universal time. -/
def same (s t : TimeOfDay) : Bool :=
  match s.offset, t.offset with
  | none, none => s.microseconds == t.microseconds
  | some a, some b =>
    (s.microseconds : Int) - a * 1000000 == (t.microseconds : Int) - b * 1000000
  | _, _ => false

end TimeOfDay

namespace Moment

/-- Date and time joined by a separator. -/
def text (separator : String) (m : Moment) : String :=
  m.date.iso ++ separator ++ m.time.iso

/-- The ISO-8601 text. -/
def iso (m : Moment) : String :=
  m.text "T"

/-- The microseconds since the calendar began, as the clock on the spot counts them. -/
def microseconds (m : Moment) : Nat :=
  m.date.dayNumber * 86400000000 + m.time.microseconds

/-- Whether two moments are the same: both local and equal, or equal once moved to universal
time. -/
def same (m n : Moment) : Bool :=
  match m.time.offset, n.time.offset with
  | none, none => m.microseconds == n.microseconds
  | some a, some b =>
    (m.microseconds : Int) - a * 1000000 == (n.microseconds : Int) - b * 1000000
  | _, _ => false

/-- A stamp in universal time with milliseconds, the finer digits cut off: the form in which the
schema fills its own time columns. -/
def stamp (m : Moment) : String :=
  m.date.iso ++ "T" ++ zeroPadded 2 m.time.hour ++ ":" ++ zeroPadded 2 m.time.minute ++ ":" ++
    zeroPadded 2 m.time.second ++ "." ++ zeroPadded 3 (m.time.microsecond / 1000) ++ "Z"

end Moment

end Tablewright
