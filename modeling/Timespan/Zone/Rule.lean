import Timespan.Calendar.Gregorian

/-!
# Rules for daylight saving time

From some time on the clocks of a zone follow a rule: either they keep one offset
for good, or they change twice in every year (`Timespan.Zone.Rule`). A change is
given the way laws give it, as in “the second Sunday of March at two o'clock”
(`Timespan.Zone.Changeover`), and the time of day is the one shown by the clocks that
are about to be changed. It may be negative, or lie past the end of the day.

A rule is asked two questions, and each gives its own answer around a change:
which offset is in force at a second of Coordinated Universal Time
(`Rule.offsetAt`), and which one a reading of the clock on the wall has
(`Rule.offsetOnWall`). The second one counts a change from where both clocks have
passed it, so a reading that was skipped or repeated has the offset in force
before. Times are seconds throughout, and offsets are seconds east.
-/

namespace Timespan.Zone

open Calendar

/-! ### The day of a change -/

/-- The time of a yearly change: on the `week`-th day of the week `weekday` in a
month, where the fifth may be the fourth and means the last. -/
structure Changeover where
  /-- The month, where January is `1`. -/
  month : Int
  /-- Which of the month, from `1` to `5`. -/
  week : Int
  /-- The day of the week, where Sunday is `0`. -/
  weekday : Int
  /-- The time in seconds after the midnight that begins the day. -/
  time : Int := 7200

namespace Changeover

/-- The day on which the month of the change begins. -/
def firstOfMonth (c : Changeover) (y : Int) : Int :=
  newYear y + daysBeforeMonth y c.month

/-- How far into its month the day of the change lies, as if every month had
five weeks. -/
def dayOfMonth (c : Changeover) (y : Int) : Int :=
  (c.weekday - (c.firstOfMonth y + 4)) % 7 + 7 * (c.week - 1)

/-- The day of the change, a week earlier if the month is over by then. -/
def day (c : Changeover) (y : Int) : Int :=
  if c.dayOfMonth y < monthLength y c.month then c.firstOfMonth y + c.dayOfMonth y
  else c.firstOfMonth y + c.dayOfMonth y - 7

/-- The second of the change in a year, on the clocks about to be changed. -/
def second (c : Changeover) (y : Int) : Int :=
  86400 * c.day y + c.time

end Changeover

/-! ### The rules -/

/-- What the clocks of a zone do from some time on. -/
inductive Rule
  /-- They keep one offset. -/
  | fixed (offset : Int)
  /-- Every year they are put to daylight saving time and back. -/
  | yearly (standard daylight : Int) (start stop : Changeover)

namespace Rule

/-- Whether daylight saving time is on at `t` in a year in which it begins and
ends at the given times. South of the equator it ends before it begins. -/
def isDaylight (start stop t : Int) : Bool :=
  if start < stop then decide (start ≤ t ∧ t < stop) else !decide (stop ≤ t ∧ t < start)

/-- The year in which a second lies. -/
def yearOfSecond (t : Int) : Int :=
  yearOfDay (t / 86400)

/-- The offset in force at a second of Coordinated Universal Time. -/
def offsetAt (r : Rule) (t : Int) : Int :=
  match r with
  | fixed offset => offset
  | yearly standard daylight start stop =>
    let y := yearOfSecond t
    if isDaylight (start.second y - standard) (stop.second y - daylight) t then daylight
    else standard

/-- The offset of a reading of the clock on the wall. -/
def offsetOnWall (r : Rule) (w : Int) : Int :=
  match r with
  | fixed offset => offset
  | yearly standard daylight start stop =>
    let y := yearOfSecond w
    let later := max standard daylight
    if isDaylight (start.second y - standard + later) (stop.second y - daylight + later) w then
      daylight
    else standard

end Rule

end Timespan.Zone
