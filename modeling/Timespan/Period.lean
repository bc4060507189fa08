import Timespan.Failure
import Timespan.Span

/-!
# Days, weeks, months and years around an instant

An instant lies in a day, a week, a month and a year of the clocks of a zone. Each
of them begins at a midnight on the wall (`Period.firstDay` tells which), and they
end in two ways:

* a **day** and a **week** have their length, twenty-four hours and seven times as
  many, whatever happens to the clocks in between. Weeks begin on Sunday;
* a **month** and a **year** end where the next one begins, so they are shorter or
  longer where the clocks change, and they end only if the calendar still has the
  next one.

The last millisecond belongs to the period: it stops one before the next begins.
-/

namespace Timespan

open Calendar

/-- The periods of the calendar. -/
inductive Period
  /-- From midnight to midnight. -/
  | day
  /-- Seven days from a Sunday on. -/
  | week
  /-- A month of the calendar. -/
  | month
  /-- A year of the calendar. -/
  | year
deriving DecidableEq

namespace Period

/-- The day on which the period of a date begins. -/
def firstDay : Period → Date → Int
  | day, d => d.toDay
  | week, d => d.toDay - d.weekday
  | month, d => d.firstOfMonth.toDay
  | year, d => d.firstOfYear.toDay

/-- The day on which the next period begins. -/
def nextFirstDay : Period → Date → Int
  | day, d => d.toDay + 1
  | week, d => d.toDay - d.weekday + 7
  | month, d => d.firstOfMonth.toDay + monthLength d.year d.month
  | year, d => d.firstOfYear.toDay + yearLength d.year

/-- A date does not lie before its period. -/
theorem firstDay_le_toDay (p : Period) (d : Date) : p.firstDay d ≤ d.toDay := by
  have hday := d.one_le_day
  cases p with
  | day => exact Int.le_refl _
  | week =>
    have : 0 ≤ d.weekday := Int.emod_nonneg _ (by decide)
    simp only [firstDay]
    omega
  | month =>
    simp only [firstDay, Date.toDay, Date.firstOfMonth]
    omega
  | year =>
    have := d.daysBeforeMonth_add_day_le.1
    simp only [firstDay, Date.toDay, Date.firstOfYear, daysBeforeMonth_one]
    omega

/-- A date lies before the next period. -/
theorem toDay_lt_nextFirstDay (p : Period) (d : Date) : d.toDay < p.nextFirstDay d := by
  cases p with
  | day => exact Int.lt_add_one_of_le (Int.le_refl _)
  | week =>
    have : d.weekday < 7 := Int.emod_lt_of_pos _ (by decide)
    simp only [nextFirstDay]
    omega
  | month =>
    have := d.day_le
    simp only [nextFirstDay, Date.toDay, Date.firstOfMonth]
    omega
  | year =>
    have := d.daysBeforeMonth_add_day_le.2
    simp only [nextFirstDay, Date.toDay, Date.firstOfYear, daysBeforeMonth_one]
    omega

/-- The length of a period that has one, whatever the clocks do. -/
def length? : Period → Option Int
  | day => some Duration.day
  | week => some Duration.week
  | month => none
  | year => none

/-- The period around an instant on the clocks of a zone. -/
def span? (p : Period) (z : Zone) (instant : Int) : Option Span := do
  let w ← z.wallClock? instant
  let start ← z.midnight? (p.firstDay w.date)
  let next ← match p.length? with
    | some length => some (start + length)
    | none => z.midnight? (p.nextFirstDay w.date)
  return { start, stop := next - 1 }

/-- **The period around an instant** in a zone. -/
def span (p : Period) (tz : Option Text) (instant : Int) : Except Failure Span :=
  inZone tz (.outOfRange instant) fun z => p.span? z instant

end Period

end Timespan
