import Timespan.Decimal
import Timespan.Instant

/-!
# Spans of time

A span runs from one instant to another. Nothing says that it runs forward: a
span whose first instant is the later one is a legitimate answer, and its
duration is negative.
-/

namespace Timespan

/-- The time from `start` to `stop`. -/
structure Span where
  /-- Where the span starts. -/
  start : Int
  /-- Where the span stops. -/
  stop : Int
deriving DecidableEq

namespace Span

/-- The span between two instants, from the earlier to the later. -/
def between (a b : Int) : Span :=
  ⟨min a b, max a b⟩

/-- The distance from start to stop, negative when the span runs backwards. -/
def duration (s : Span) : Int :=
  s.stop - s.start

/-- The span later by `k` milliseconds. -/
def later (s : Span) (k : Int) : Span :=
  ⟨s.start + k, s.stop + k⟩

/-- A span for the reader: its two ends and its duration. There is no such text
when one of the three numbers has too many digits. -/
def describe? (s : Span) : Option Text := do
  let start ← Decimal.write? s.start
  let stop ← Decimal.write? s.stop
  let duration ← Decimal.write? s.duration
  return "Range(".toList ++ start ++ "→".toList ++ stop ++ ", ".toList ++ duration ++ "ms)".toList

theorem start_le_stop_between (a b : Int) : (between a b).start ≤ (between a b).stop := by
  simp only [between]
  omega

end Span

end Timespan
