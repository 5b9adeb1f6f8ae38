import Tablewright.Calendar
import Tablewright.Proofs.Text.Order
import Mathlib.Order.Lattice

/-!
# The order of stamps

A stamp shows the year, the month, the day, the hour, the minute, the second and the millisecond of
a moment, each in a width of its own. The calendar counts days in the order of years, months and
days (`Date.dayNumber_lt_iff`), and a clock goes through its hours, minutes and seconds likewise, so
stamps are ordered as texts in the way the moments follow each other, down to the millisecond
(`Moment.stamp_order`).
-/

namespace Tablewright

/-! ## Dates -/

namespace Date

/-- The days of a month, in a leap year or another one. -/
def monthLength (leap : Bool) (month : ℕ) : ℕ :=
  ([31, 28, 31, 30, 31, 30, 31, 31, 30, 31, 30, 31][month - 1]?).getD 0 +
    if month = 2 && leap then 1 else 0

/-- A date of the calendar, in a year that has room in four digits. -/
structure Valid (d : Date) : Prop where
  /-- There is no year before the first. -/
  year : 1 ≤ d.year ∧ d.year ≤ 9999
  /-- A year has twelve months. -/
  month : 1 ≤ d.month ∧ d.month ≤ 12
  /-- A month has its days. -/
  day : 1 ≤ d.day ∧ d.day ≤ monthLength (isLeap d.year) d.month

/-- The year, the month and the day. -/
def parts (d : Date) : List ℕ :=
  [d.year, d.month, d.day]

/-- The days before a year. -/
def yearStart (year : ℕ) : ℕ :=
  365 * (year - 1) + leapDaysBefore year

/-- The days of a year before one of its months. -/
def monthStart (leap : Bool) (month : ℕ) : ℕ :=
  daysBeforeMonth month + if 2 < month && leap then 1 else 0

/-- The days of a year. -/
def yearLength (leap : Bool) : ℕ :=
  if leap then 366 else 365

variable {d d' : Date}

theorem dayNumber_eq (d : Date) :
    d.dayNumber = yearStart d.year + monthStart (isLeap d.year) d.month + d.day := by
  simp only [dayNumber, yearStart, monthStart]
  omega

/-- Every year begins where the one before it ends. -/
theorem yearStart_succ {year : ℕ} (h : 1 ≤ year) :
    yearStart (year + 1) = yearStart year + yearLength (isLeap year) := by
  -- of the three divisors, each counts a year exactly if it divides it
  have hfour : year / 4 = (year - 1) / 4 + if year % 4 = 0 then 1 else 0 := by split <;> omega
  have hcentury : year / 100 = (year - 1) / 100 + if year % 100 = 0 then 1 else 0 := by
    split <;> omega
  have hfourth : year / 400 = (year - 1) / 400 + if year % 400 = 0 then 1 else 0 := by
    split <;> omega
  have hfewer : (year - 1) / 100 ≤ (year - 1) / 4 := Nat.div_le_div_left (by decide) (by decide)
  have hleap : yearLength (isLeap year) =
      if year % 4 = 0 ∧ (year % 100 ≠ 0 ∨ year % 400 = 0) then 366 else 365 := by
    simp [yearLength, isLeap]
  rw [hleap, yearStart, yearStart, leapDaysBefore, leapDaysBefore, Nat.add_sub_cancel, hfour,
    hcentury, hfourth]
  split_ifs <;> omega

/-- A year is over before a later one begins. -/
theorem yearStart_add_le {year year' : ℕ} (h : 1 ≤ year) (hlt : year < year') :
    yearStart year + yearLength (isLeap year) ≤ yearStart year' := by
  rw [← yearStart_succ h]
  have hstep : ∀ n, yearStart (n + 1) ≤ yearStart (n + 1 + 1) := fun n => by
    rw [yearStart_succ (Nat.le_add_left 1 n)]
    exact Nat.le_add_right _ _
  obtain ⟨k, rfl⟩ := Nat.exists_eq_add_of_lt hlt
  exact monotone_nat_of_le_succ hstep (by omega : year ≤ year + k)

/-- A month is over before a later one of its year begins. -/
theorem monthStart_add_le : ∀ leap : Bool, ∀ month ∈ List.range 13, ∀ month' ∈ List.range 13,
    1 ≤ month → month < month' →
      monthStart leap month + monthLength leap month ≤ monthStart leap month' := by
  decide

/-- A month is over before its year is. -/
theorem monthStart_add_le_yearLength : ∀ leap : Bool, ∀ month ∈ List.range 13, 1 ≤ month →
    monthStart leap month + monthLength leap month ≤ yearLength leap := by
  decide

/-- **A date that comes before another in its parts is counted before it.** -/
theorem dayNumber_lt_of_parts_lt (h : d.Valid) (h' : d'.Valid) (hlt : d.parts < d'.parts) :
    d.dayNumber < d'.dayNumber := by
  obtain ⟨hmonth, hmonth'⟩ := h.month
  obtain ⟨hday, hday'⟩ := h.day
  have hmem : d.month ∈ List.range 13 := List.mem_range.2 (by omega)
  have hmem' : d'.month ∈ List.range 13 := List.mem_range.2 (by have := h'.month; omega)
  have hfirst : 1 ≤ d'.day := h'.day.1
  rw [dayNumber_eq, dayNumber_eq]
  simp only [parts, List.cons_lt_cons_iff, List.not_lt_nil, and_false, or_false] at hlt
  rcases hlt with hyear | ⟨hyear, hlater | ⟨hmonths, hdays⟩⟩
  · -- the year is over
    have hmonthOver := monthStart_add_le_yearLength (isLeap d.year) d.month hmem hmonth
    have hyearOver := yearStart_add_le h.year.1 hyear
    omega
  · -- the month is over
    have hmonthOver := monthStart_add_le (isLeap d.year) d.month hmem d'.month hmem' hmonth hlater
    rw [← hyear]
    omega
  · rw [← hyear, ← hmonths]
    omega

/-- **The calendar counts days in the order of years, months and days.** -/
theorem dayNumber_lt_iff (h : d.Valid) (h' : d'.Valid) :
    d.dayNumber < d'.dayNumber ↔ d.parts < d'.parts := by
  refine ⟨fun hlt => ?_, dayNumber_lt_of_parts_lt h h'⟩
  rcases lt_trichotomy d.parts d'.parts with hbefore | hsame | hafter
  · exact hbefore
  · have hequal : d = d' := by
      cases d
      cases d'
      simpa [parts] using hsame
    exact absurd hlt (hequal ▸ lt_irrefl _)
  · exact absurd (dayNumber_lt_of_parts_lt h' h hafter) hlt.asymm

end Date

/-! ## Moments -/

/-- A time of the day. -/
structure TimeOfDay.Valid (t : TimeOfDay) : Prop where
  /-- A day has its hours. -/
  hour : t.hour < 24
  /-- An hour has its minutes. -/
  minute : t.minute < 60
  /-- A minute has its seconds. -/
  second : t.second < 60
  /-- A second has its microseconds. -/
  microsecond : t.microsecond < 1000000

namespace Moment

/-- A moment as the clock of universal time shows it. -/
structure Universal (m : Moment) : Prop where
  /-- Its date is one of the calendar. -/
  date : m.date.Valid
  /-- Its time is one of the day. -/
  time : m.time.Valid
  /-- It is not moved against universal time. -/
  offset : m.time.offset.getD 0 = 0

/-- The millisecond in which a moment falls, counted since the calendar began. -/
def millisecond (m : Moment) : ℕ :=
  m.microseconds / 1000

/-- The numbers that a stamp shows. -/
def parts (m : Moment) : List ℕ :=
  m.date.parts ++ [m.time.hour, m.time.minute, m.time.second, m.time.microsecond / 1000]

/-- How a stamp shows them: in which width, and with what behind them. -/
def stampLayout : List (ℕ × String) :=
  [(4, "-"), (2, "-"), (2, "T"), (2, ":"), (2, ":"), (2, "."), (3, "Z")]

variable {m n : Moment}

/-- **A stamp is a row of numerals**, each of one width. -/
theorem stamp_eq (m : Moment) : m.stamp = Text.numerals stampLayout m.parts := by
  simp only [stamp, Date.iso, stampLayout, parts, Date.parts, List.cons_append, List.nil_append,
    Text.numerals, String.append_assoc, String.append_empty]

/-- The numbers of a stamp have room in their widths. -/
theorem Universal.hasRoom (h : m.Universal) : Text.HasRoom stampLayout m.parts := by
  have hlength : ∀ leap : Bool, ∀ month ∈ List.range 13, Date.monthLength leap month ≤ 31 := by
    decide
  have hmonth := h.date.month
  have hday := h.date.day.2.trans (hlength _ m.date.month (List.mem_range.2 (by omega)))
  obtain ⟨hhour, hminute, hsecond, hmicrosecond⟩ := h.time
  have hyear := h.date.year.2
  simp only [Text.HasRoom, stampLayout, parts, Date.parts, List.cons_append, List.nil_append,
    List.forall₂_cons, List.forall₂_nil_left_iff, Nat.reducePow, and_true]
  omega

/-- The millisecond of a moment by the parts of the clock. -/
theorem millisecond_eq (m : Moment) : m.millisecond =
    m.date.dayNumber * 86400000 + (m.time.hour * 3600000 + (m.time.minute * 60000 +
      (m.time.second * 1000 + m.time.microsecond / 1000))) := by
  simp only [millisecond, microseconds, TimeOfDay.microseconds]
  omega

/-- Of two counts that are carried at a base, the one that was carried more often is more, whatever
is left of them. -/
theorem carried_lt_iff {base a b x y : ℕ} (hx : x < base) (hy : y < base) :
    a * base + x < b * base + y ↔ a < b ∨ a = b ∧ x < y := by
  have hcarried : ∀ {c d : ℕ}, c < d → c * base + base ≤ d * base := by
    intro c d hlt
    rw [← Nat.add_one_mul]
    exact Nat.mul_le_mul_right base hlt
  constructor
  · intro h
    rcases lt_trichotomy a b with hlt | rfl | hgt
    · exact Or.inl hlt
    · exact Or.inr ⟨rfl, Nat.lt_of_add_lt_add_left h⟩
    · have := hcarried hgt
      omega
  · rintro (hlt | ⟨rfl, hlt⟩)
    · have := hcarried hlt
      omega
    · exact Nat.add_lt_add_left hlt _

/-- **A moment falls in an earlier millisecond exactly if its parts come first.** -/
theorem millisecond_lt_iff (hm : m.Universal) (hn : n.Universal) :
    m.millisecond < n.millisecond ↔ m.parts < n.parts := by
  have hday : m.date.dayNumber = n.date.dayNumber ↔ m.date.parts = n.date.parts := by
    simp only [le_antisymm_iff, ← not_lt, Date.dayNumber_lt_iff hm.date hn.date,
      Date.dayNumber_lt_iff hn.date hm.date]
  have hlength : m.date.parts.length = n.date.parts.length := rfl
  obtain ⟨hhour, hminute, hsecond, hmicrosecond⟩ := hm.time
  obtain ⟨hhour', hminute', hsecond', hmicrosecond'⟩ := hn.time
  rw [millisecond_eq, millisecond_eq, carried_lt_iff (by omega) (by omega),
    carried_lt_iff (by omega) (by omega), carried_lt_iff (by omega) (by omega),
    carried_lt_iff (by omega) (by omega), Date.dayNumber_lt_iff hm.date hn.date, hday, parts,
    parts, Text.list_append_lt_append_iff hlength]
  simp only [List.cons_lt_cons_iff, List.not_lt_nil, and_false, or_false]

/-- **Stamps are ordered as the milliseconds** in which their moments fall. -/
theorem stamp_lt_iff (hm : m.Universal) (hn : n.Universal) :
    m.stamp < n.stamp ↔ m.millisecond < n.millisecond := by
  rw [stamp_eq, stamp_eq, Text.numerals_lt_iff hm.hasRoom hn.hasRoom, millisecond_lt_iff hm hn]

theorem stamp_le_iff (hm : m.Universal) (hn : n.Universal) :
    m.stamp ≤ n.stamp ↔ m.millisecond ≤ n.millisecond := by
  rw [← not_lt, ← not_lt, stamp_lt_iff hn hm]

/-- **Stamps sort as text.** The stamp of a moment comes before that of a later one or equals it,
and they are equal exactly if both moments fall in one millisecond. -/
theorem stamp_order (hm : m.Universal) (hn : n.Universal) :
    (m.microseconds ≤ n.microseconds → m.stamp ≤ n.stamp) ∧
      (m.stamp = n.stamp ↔ m.millisecond = n.millisecond) := by
  refine ⟨fun hle => ?_, ?_⟩
  · exact (stamp_le_iff hm hn).2 (Nat.div_le_div_right hle)
  · rw [le_antisymm_iff, stamp_le_iff hm hn, stamp_le_iff hn hm, ← le_antisymm_iff]

/-- A leap day so many microseconds into its last second. -/
def leapDayEnd (microsecond : ℕ) : Moment :=
  { date := ⟨2024, 2, 29⟩, time := ⟨23, 59, 59, microsecond, some 0⟩ }

/-- The midnight behind it. -/
def leapDayOver : Moment :=
  { date := ⟨2024, 3, 1⟩, time := ⟨0, 0, 0, 0, some 0⟩ }

theorem universal_leapDayEnd {microsecond : ℕ} (h : microsecond < 1000000) :
    (leapDayEnd microsecond).Universal := by
  have hdate : Date.Valid ⟨2024, 2, 29⟩ := ⟨by decide, by decide, by decide⟩
  exact ⟨hdate, ⟨by simp [leapDayEnd], by simp [leapDayEnd], by simp [leapDayEnd], h⟩, rfl⟩

theorem universal_leapDayOver : leapDayOver.Universal where
  date := ⟨by decide, by decide, by decide⟩
  time := ⟨by decide, by decide, by decide, by decide⟩
  offset := rfl

/-- **The last microsecond of a leap day** has the stamp of its last millisecond, and the midnight
behind it has a later one. -/
theorem stamp_order_of_leapDay :
    (leapDayEnd 999999).stamp = (leapDayEnd 999000).stamp ∧
      (leapDayEnd 999999).stamp ≤ leapDayOver.stamp ∧
      (leapDayEnd 999999).stamp ≠ leapDayOver.stamp := by
  have hlast : (leapDayEnd 999999).Universal := universal_leapDayEnd (by decide)
  have hbefore : (leapDayEnd 999000).Universal := universal_leapDayEnd (by decide)
  obtain ⟨hle, heq⟩ := stamp_order hlast universal_leapDayOver
  exact ⟨(stamp_order hlast hbefore).2.2 (by decide), hle (by decide), mt heq.1 (by decide)⟩

end Moment

end Tablewright
