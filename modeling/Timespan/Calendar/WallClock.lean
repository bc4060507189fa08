import Timespan.Calendar.Date
import Timespan.Instant

/-!
# What a clock on the wall shows

A clock on the wall shows a date and a time of day, and no offset: the same
reading belongs to different instants in different places, in one place to two
instants when the clock has been put back, and to none when it has been put
forward. A reading is kept as the milliseconds from the midnight that begins day
`0`, so that it moves like a number, and `WallClock.date` and
`WallClock.timeOfDay` take it apart.
-/

namespace Timespan.Calendar

/-- The reading of a clock on the wall. -/
structure WallClock where
  /-- Milliseconds since the midnight that begins day `0`. -/
  millis : Int
deriving DecidableEq

namespace WallClock

/-- A reading is the number it is kept as. -/
@[ext] theorem ext {w w' : WallClock} (h : w.millis = w'.millis) : w = w' :=
  congrArg mk h

/-! ### Date and time of day -/

/-- The reading at a time of day, in milliseconds, of the day `n`. -/
def ofDay (n timeOfDay : Int) : WallClock :=
  ⟨n * Duration.day + timeOfDay⟩

/-- The number of the day. -/
def day (w : WallClock) : Int :=
  w.millis / Duration.day

/-- The date. -/
def date (w : WallClock) : Date :=
  Date.ofDay w.day

/-- The milliseconds since midnight. -/
def timeOfDay (w : WallClock) : Int :=
  w.millis % Duration.day

/-- The hour, from `0` to `23`. -/
def hour (w : WallClock) : Int :=
  w.timeOfDay / Duration.hour

/-- The minute of the hour. -/
def minute (w : WallClock) : Int :=
  w.timeOfDay % Duration.hour / Duration.minute

/-- The second of the minute. -/
def second (w : WallClock) : Int :=
  w.timeOfDay % Duration.minute / Duration.second

/-- The millisecond of the second. -/
def millisecond (w : WallClock) : Int :=
  w.timeOfDay % Duration.second

theorem ofDay_day_timeOfDay (w : WallClock) : ofDay w.day w.timeOfDay = w := by
  cases w
  simp [ofDay, day, timeOfDay, Int.mul_comm, Int.mul_ediv_add_emod]

theorem timeOfDay_nonneg (w : WallClock) : 0 ≤ w.timeOfDay :=
  Int.emod_nonneg _ (by decide)

theorem timeOfDay_lt (w : WallClock) : w.timeOfDay < Duration.day :=
  Int.emod_lt_of_pos _ (by decide)

theorem day_ofDay {n t : Int} (h₁ : 0 ≤ t) (h₂ : t < Duration.day) : (ofDay n t).day = n := by
  rw [Duration.day_eq] at h₂
  simp only [day, ofDay, Duration.day_eq]
  omega

theorem timeOfDay_ofDay {n t : Int} (h₁ : 0 ≤ t) (h₂ : t < Duration.day) :
    (ofDay n t).timeOfDay = t := by
  rw [Duration.day_eq] at h₂
  simp only [timeOfDay, ofDay, Duration.day_eq]
  omega

/-! ### Moving the date -/

/-- The same time of day on another date. -/
def onDate (w : WallClock) (d : Date) : WallClock :=
  ofDay d.toDay w.timeOfDay

/-- **A move of the date** by months and then by days, at the same time of day.
The months must land in the calendar, even if the days would lead back to it. -/
def shift? (w : WallClock) (months days : Int) : Option WallClock := do
  let d ← w.date.addMonths? months
  let d ← d.addDays? days
  return w.onDate d

end WallClock

end Timespan.Calendar
