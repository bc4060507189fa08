import Timespan.Calendar.WallClock
import Timespan.Zone.Rule

/-!
# Time zones

The clocks of a zone have a past and a future. The past is a table of transitions
that have happened at known times; after the last of them a rule holds
(`Timespan.Zone.Rule`). As with the rule, two questions are asked of the table:

* `Timespan.Zone.offsetAt` – the offset in force at a second of Coordinated
  Universal Time: the one of the last transition until then;
* `Timespan.Zone.offsetOnWall` – the offset of a reading of the clock on the wall,
  where each transition counts from where both clocks have passed it.

From them come the two conversions between instants and readings,
`Timespan.Zone.wallClock?` and `Timespan.Zone.instant?`. They are partial, since the
calendar has only the years `1` to `9999`, and they are not inverse to each other:
a repeated reading is converted to the earlier of its two instants, a skipped one
to the instant at which the clocks before the change would have shown it.
-/

namespace Timespan

/-- A change of the clocks of a zone. -/
structure Transition where
  /-- The second of Coordinated Universal Time from which on it holds. -/
  time : Int
  /-- The offset from then on, in seconds east. -/
  offset : Int
deriving DecidableEq

/-- The clocks of a place. -/
structure Zone where
  /-- The offset before the first transition. -/
  initial : Int
  /-- The transitions, in the order of time. -/
  transitions : List Transition
  /-- What happens after the last transition. -/
  after : Zone.Rule
  /-- How many milliseconds before a time that is to be converted must still lie
  in the calendar. -/
  lookback : Int := 0

namespace Zone

open Calendar

/-! ### Looking up an offset -/

/-- The offset that a table gives at `t`, where `initial` holds before it: the one
of the last transition until then. -/
def tableOffset (initial : Int) : List Transition → Int → Int
  | [], _ => initial
  | c :: rest, t => if t < c.time then initial else tableOffset c.offset rest t

/-- The table on the clocks of the wall: each transition counts from where the
clock before and the clock after it have both passed it. -/
def onWall (initial : Int) : List Transition → List Transition
  | [] => []
  | c :: rest => ⟨c.time + max initial c.offset, c.offset⟩ :: onWall c.offset rest

/-- The offset in force at a second of Coordinated Universal Time. The table is
asked up to its last transition and on its very second, the rule after it. -/
def offsetAt (z : Zone) (t : Int) : Int :=
  if z.transitions.all fun c => c.time < t then z.after.offsetAt t
  else tableOffset z.initial z.transitions t

/-- The offset of a second on the wall. -/
def offsetOnWall (z : Zone) (w : Int) : Int :=
  let table := onWall z.initial z.transitions
  if table.all fun c => c.time < w then z.after.offsetOnWall w
  else tableOffset z.initial table w

/-! ### Instants and readings -/

/-- Whether a time, in milliseconds of whichever clock, can be converted: the
calendar must have its day and, for a zone that looks back, an earlier one. -/
def Reaches (z : Zone) (millis : Int) : Prop :=
  InCalendar (millis / Duration.day) ∧ InCalendar ((millis - z.lookback) / Duration.day)

instance (z : Zone) (millis : Int) : Decidable (z.Reaches millis) :=
  inferInstanceAs (Decidable (_ ∧ _))

/-- The reading of the clocks of a zone at an instant. -/
def reading (z : Zone) (instant : Int) : WallClock :=
  ⟨instant + Duration.second * z.offsetAt (instant / Duration.second)⟩

/-- **From an instant to the wall**, if both are in the calendar. -/
def wallClock? (z : Zone) (instant : Int) : Option WallClock :=
  if z.Reaches instant ∧ InCalendar (z.reading instant).day then some (z.reading instant)
  else none

/-- **From the wall to an instant**, if the reading is in the calendar. The
instant itself need not be. -/
def instant? (z : Zone) (w : WallClock) : Option Int :=
  if z.Reaches w.millis then
    some (w.millis - Duration.second * z.offsetOnWall (w.millis / Duration.second))
  else none

/-- The instant at which the day `n` begins. -/
def midnight? (z : Zone) (n : Int) : Option Int :=
  z.instant? (WallClock.ofDay n 0)

end Zone

end Timespan
