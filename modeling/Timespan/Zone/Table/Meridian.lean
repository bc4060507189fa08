import Timespan.Zone.Basic

/-!
# Zones of the prime meridian, and the two extremes

Coordinated Universal Time, two zones whose standard time agrees with it, and two
constant offsets far from it on either side.
-/

namespace Timespan.Zone

/-- Coordinated Universal Time, which every other zone is measured against. -/
def utc : Zone where
  initial := 0
  transitions := []
  after := .fixed 0

/-- Monrovia, which kept an offset with odd seconds until 1972. -/
def monrovia : Zone where
  initial := -2588
  transitions :=
    [⟨-1604359012, -2670⟩, ⟨63593070, 0⟩]
  after := .fixed 0

/-- Troll in Antarctica, whose summer time is ahead by two hours. -/
def troll : Zone where
  initial := 0
  transitions :=
    [⟨1108166400, 0⟩]
  after := .yearly 0 7200
    { month := 3, week := 5, weekday := 0, time := 3600 }
    { month := 10, week := 5, weekday := 0, time := 10800 }

/-- Twelve hours behind at all times. -/
def gmtPlus12 : Zone where
  initial := -43200
  transitions := []
  after := .fixed (-43200)

/-- Fourteen hours ahead at all times. -/
def gmtMinus14 : Zone where
  initial := 50400
  transitions := []
  after := .fixed 50400

end Timespan.Zone
