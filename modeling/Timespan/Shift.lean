import Timespan.Failure

/-!
# Moving an instant by days, months and years

An instant is moved on the wall: its reading is moved by months and then by days,
keeping the time of day, and the reading it lands on is converted back. Years are
twelve months each. Since readings are skipped and repeated, even a move by
nothing may change the instant.
-/

namespace Timespan

open Calendar

/-- How far to move. -/
structure Shift where
  /-- The number of days. -/
  days : Int := 0
  /-- The number of months. -/
  months : Int := 0
  /-- The number of years. -/
  years : Int := 0
deriving DecidableEq

namespace Shift

/-- Years and months, in months. -/
def totalMonths (s : Shift) : Int :=
  12 * s.years + s.months

/-- The first number of months that is too large to be taken: from here on a
number rounds beyond the greatest finite one of double precision. -/
def monthLimit : Nat := Nat.pow 2 1024 - Nat.pow 2 970

/-- Whether the number of months can be taken. The limit holds for that number
alone, also where the years outweigh it. -/
def IsCountable (s : Shift) : Prop :=
  s.months.natAbs < monthLimit

instance (s : Shift) : Decidable s.IsCountable :=
  inferInstanceAs (Decidable (_ < _))

/-- The reading on which the move of an instant lands. -/
def target? (s : Shift) (z : Zone) (instant : Int) : Option WallClock := do
  guard s.IsCountable
  let w ← z.wallClock? instant
  w.shift? s.totalMonths s.days

/-- The instant moved on the clocks of a zone. -/
def move? (s : Shift) (z : Zone) (instant : Int) : Option Int := do
  let w ← s.target? z instant
  z.instant? w

/-- **The instant moved** in a zone. -/
def move (s : Shift) (tz : Option Text) (instant : Int) : Except Failure Int :=
  inZone tz (.outOfRange instant) fun z => s.move? z instant

end Shift

end Timespan
