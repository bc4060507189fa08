import Timespan.Failure

/-!
# The local time of an instant

What the clocks of a zone show at an instant, together with the offset of what
they show. The offset is that of the **reading**: where a reading is repeated, it
is the earlier one also at the later instant. The machine's own zone shows its
time without an offset.
-/

namespace Timespan

open Calendar

/-- A reading and its offset. -/
structure LocalTime where
  /-- What the clocks show. -/
  wall : WallClock
  /-- The offset of the reading in seconds east, in a zone that was named. -/
  offset : Option Int
deriving DecidableEq

namespace LocalTime

/-- The local time of an instant on the clocks of a zone, where `named` tells
whether the zone was named. -/
def ofInstant? (named : Bool) (z : Zone) (instant : Int) : Option LocalTime := do
  let wall ← z.wallClock? instant
  let offset := z.offsetOnWall (wall.millis / Duration.second)
  return { wall, offset := if named then some offset else none }

/-- **The local time of an instant** in a zone. -/
def ofInstant (tz : Option Text) (instant : Int) : Except Failure LocalTime :=
  inZone tz (.unrepresentable instant) fun z => ofInstant? tz.isSome z instant

end LocalTime

end Timespan
