import Timespan.Calendar.Gregorian

/-!
# Dates

A date is a year, a month and a day of that month that exists. Dates and days, in
the numbering of `Timespan.Calendar.Gregorian`, are the same thing told in two ways:

* `Date.toDay` and `Date.ofDay` are inverse to each other (`Date.toDay_ofDay`,
  `Date.ofDay_toDay`), so a statement about dates can be read off the days;
* moving a date by **days** is an addition on the side of the days, moving it by
  **months** one on the side of the dates (`Date.monthIndex`), where a day of the
  month that the target month lacks becomes its last (`Date.addMonths?`).

Dates exist for all years, but the calendar that this library reckons with has
the years `1` to `9999` only (`InCalendar`). Moves that leave it have no result.
-/

namespace Timespan.Calendar

/-- A day of the calendar, named by year, month and day of the month. -/
structure Date where
  /-- The year. -/
  year : Int
  /-- The month, where January is `1`. -/
  month : Int
  /-- The day of the month, where the first is `1`. -/
  day : Int
  /-- Months begin with January. -/
  one_le_month : 1 ≤ month
  /-- Months end with December. -/
  month_le : month ≤ 12
  /-- Days of a month begin with the first. -/
  one_le_day : 1 ≤ day
  /-- The month has that day. -/
  day_le : day ≤ monthLength year month
deriving DecidableEq

/-! ### The years of the calendar -/

/-- The first day of the calendar, the first of January of the year `1`. -/
def firstDay : Int := -719162

/-- The last day of the calendar, the thirty-first of December of the year `9999`. -/
def lastDay : Int := 2932896

/-- Whether a day lies in the years `1` to `9999`. -/
def InCalendar (d : Int) : Prop :=
  firstDay ≤ d ∧ d ≤ lastDay

instance (d : Int) : Decidable (InCalendar d) :=
  inferInstanceAs (Decidable (_ ∧ _))

/-- The days of the calendar are those whose year has one to four digits. -/
theorem inCalendar_iff {d : Int} : InCalendar d ↔ 1 ≤ yearOfDay d ∧ yearOfDay d ≤ 9999 := by
  obtain ⟨h₁, h₂⟩ := newYear_yearOfDay d
  have hfirst : newYear 1 = firstDay := by decide
  have hlast : newYear 10000 = lastDay + 1 := by decide
  have h₃ : newYear 1 ≤ newYear (yearOfDay d) ↔ 1 ≤ yearOfDay d := newYear_le_newYear_iff
  have h₄ : newYear 1 ≤ newYear (yearOfDay d + 1) ↔ 1 ≤ yearOfDay d + 1 := newYear_le_newYear_iff
  have h₅ : newYear (yearOfDay d + 1) ≤ newYear 10000 ↔ yearOfDay d + 1 ≤ 10000 :=
    newYear_le_newYear_iff
  have h₆ : newYear 10000 ≤ newYear (yearOfDay d) ↔ 10000 ≤ yearOfDay d := newYear_le_newYear_iff
  have h₇ : newYear (yearOfDay d + 1) ≤ newYear 1 ↔ yearOfDay d + 1 ≤ 1 := newYear_le_newYear_iff
  unfold InCalendar
  omega

namespace Date

/-! ### Dates and days -/

/-- The number of the day that a date names. -/
def toDay (d : Date) : Int :=
  newYear d.year + daysBeforeMonth d.year d.month + (d.day - 1)

/-- How many days of its year have passed when a day begins. -/
def yearDay (n : Int) : Int :=
  n - newYear (yearOfDay n)

theorem yearDay_nonneg (n : Int) : 0 ≤ yearDay n := by
  have := (newYear_yearOfDay n).1
  unfold yearDay
  omega

theorem yearDay_lt (n : Int) : yearDay n < yearLength (yearOfDay n) := by
  have := (newYear_yearOfDay n).2
  rw [newYear_succ] at this
  unfold yearDay
  omega

/-- The date of a day. -/
def ofDay (n : Int) : Date where
  year := yearOfDay n
  month := monthOfYearDay (yearOfDay n) (yearDay n)
  day := yearDay n - daysBeforeMonth (yearOfDay n) (monthOfYearDay (yearOfDay n) (yearDay n)) + 1
  one_le_month := (daysBeforeMonth_monthOfYearDay (yearDay_nonneg n) (yearDay_lt n)).1
  month_le := (daysBeforeMonth_monthOfYearDay (yearDay_nonneg n) (yearDay_lt n)).2.1
  one_le_day := by
    have := (daysBeforeMonth_monthOfYearDay (yearDay_nonneg n) (yearDay_lt n)).2.2.1
    omega
  day_le := by
    obtain ⟨h₁, h₂, -, h₃⟩ := daysBeforeMonth_monthOfYearDay (yearDay_nonneg n) (yearDay_lt n)
    rw [daysBeforeMonth_succ h₁ h₂] at h₃
    omega

@[simp] theorem toDay_ofDay (n : Int) : (ofDay n).toDay = n := by
  simp only [toDay, ofDay, yearDay]
  omega

theorem daysBeforeMonth_add_day_le (d : Date) :
    0 ≤ daysBeforeMonth d.year d.month ∧
      daysBeforeMonth d.year d.month + d.day ≤ yearLength d.year := by
  have hone := daysBeforeMonth_one d.year
  have hend := daysBeforeMonth_thirteen d.year
  have hsucc := daysBeforeMonth_succ (y := d.year) d.one_le_month d.month_le
  have := d.day_le
  constructor
  · rcases (by have := d.one_le_month; omega : 1 = d.month ∨ 1 < d.month) with h | h
    · rw [← h]
      omega
    · have := daysBeforeMonth_lt (y := d.year) h
      omega
  · rcases (by have := d.month_le; omega : d.month + 1 = 13 ∨ d.month + 1 < 13) with h | h
    · rw [h] at hsucc
      omega
    · have := daysBeforeMonth_lt (y := d.year) h
      omega

@[simp] theorem yearOfDay_toDay (d : Date) : yearOfDay d.toDay = d.year := by
  obtain ⟨h₁, h₂⟩ := d.daysBeforeMonth_add_day_le
  have := d.one_le_day
  rw [yearOfDay_eq_iff, newYear_succ, toDay]
  omega

@[simp] theorem ofDay_toDay (d : Date) : ofDay d.toDay = d := by
  obtain ⟨h₁, h₂⟩ := d.daysBeforeMonth_add_day_le
  have h₃ := d.one_le_day
  have hday : yearDay d.toDay = daysBeforeMonth d.year d.month + (d.day - 1) := by
    rw [yearDay, yearOfDay_toDay, toDay]
    omega
  have hmonth : monthOfYearDay d.year (yearDay d.toDay) = d.month := by
    have h₄ := d.day_le
    have h₅ := daysBeforeMonth_succ (y := d.year) d.one_le_month d.month_le
    rw [monthOfYearDay_eq_iff (yearDay_nonneg _) (by omega) d.one_le_month, hday]
    omega
  have heq : (ofDay d.toDay).day = d.day := by
    simp only [ofDay, yearOfDay_toDay, hmonth]
    omega
  cases d
  simp only [ofDay, yearOfDay_toDay, mk.injEq] at *
  exact ⟨trivial, hmonth, heq⟩

/-! ### Weeks -/

/-- The day of the week of a date, where Sunday is `0`. The first day of 1970 was
a Thursday. -/
def weekday (d : Date) : Int :=
  (d.toDay + 4) % 7

/-! ### Moving a date -/

/-- The date `n` days later, if the calendar has it. -/
def addDays? (d : Date) (n : Int) : Option Date :=
  if InCalendar (d.toDay + n) then some (ofDay (d.toDay + n)) else none

/-- The number of months before the month of a date, counted from the beginning
of the year zero. -/
def monthIndex (d : Date) : Int :=
  12 * d.year + (d.month - 1)

/-- The date with the given day in the month `index`, or the last of that month if
it has no such day. -/
def ofMonthIndex (index day : Int) (h : 1 ≤ day) : Date where
  year := index / 12
  month := index % 12 + 1
  day := min day (monthLength (index / 12) (index % 12 + 1))
  one_le_month := by omega
  month_le := by omega
  one_le_day := by
    have := monthLength_pos (index / 12) (index % 12 + 1)
    omega
  day_le := by omega

/-- The date `k` months later, if the calendar has it. A day that the new month
lacks becomes its last. -/
def addMonths? (d : Date) (k : Int) : Option Date :=
  if 1 ≤ (d.monthIndex + k) / 12 ∧ (d.monthIndex + k) / 12 ≤ 9999 then
    some (ofMonthIndex (d.monthIndex + k) d.day d.one_le_day)
  else none

@[simp] theorem monthIndex_ofMonthIndex (index day : Int) (h : 1 ≤ day) :
    (ofMonthIndex index day h).monthIndex = index := by
  simp only [monthIndex, ofMonthIndex]
  omega

/-- The first day of the month of a date. -/
def firstOfMonth (d : Date) : Date where
  year := d.year
  month := d.month
  day := 1
  one_le_month := d.one_le_month
  month_le := d.month_le
  one_le_day := by omega
  day_le := by
    have := monthLength_pos d.year d.month
    omega

/-- The first day of the year of a date. -/
def firstOfYear (d : Date) : Date where
  year := d.year
  month := 1
  day := 1
  one_le_month := by omega
  month_le := by omega
  one_le_day := by omega
  day_le := by
    have := monthLength_pos d.year 1
    omega

end Date

end Timespan.Calendar
