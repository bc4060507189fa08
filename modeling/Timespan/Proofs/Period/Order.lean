import Timespan.Proofs.Period.Moved
import Timespan.Proofs.Period.Tiling

/-!
# Periods run forward

A day and a week stop where their length has run out, so they run forward whatever the clocks
do. A month or a year has no such length: its two ends are midnights that are converted to
instants one by one, each with the offset that the zone has for it. They come out in their
order because what the clocks show at the start is a day late at most, and a month is longer
than that (`Period.Spans.start_le_stop`).
-/

namespace Timespan.Period

variable {p : Period} {tz : Option Text} {z : Zone} {instant k : Int} {r : Span}

/-- The midnights of two successive openings are converted in their order. -/
theorem Spans.start_le_stop (hp : p.length? = none) (hz : Zone.find tz = .ok z)
    (h : p.Spans z k r) : r.start ≤ r.stop := by
  have hstart := (Zone.instant?_eq_some_iff.1 h.start).2
  have hnext := (Zone.instant?_eq_some_iff.1 h.next).2
  have hlt : z.earliest (.ofDay (p.opening k) 0) < z.earliest (.ofDay (p.opening (k + 1)) 0) := by
    refine earliest_opening_lt p hz (by omega) ?_
    have h₁ := day_reading_midnight_le hz (p.opening k)
    have h₂ := opening_add_le hp k
    omega
  omega

theorem length_pos {length : Int} (hp : p.length? = some length) : 0 < length := by
  cases p with
  | day | week =>
    obtain rfl := Option.some.inj hp
    decide
  | month | year => exact absurd hp (by simp [length?])

/-- **A period runs forward.** -/
theorem start_le_stop (h : p.span tz instant = .ok r) : r.start ≤ r.stop := by
  obtain ⟨z, hz, hspan⟩ := exists_find_of_inZone h
  cases hp : p.length? with
  | none =>
    obtain ⟨w, -, hspans⟩ := (span_eq_ok_iff hp hz).1 h
    exact hspans.start_le_stop hp hz
  | some length =>
    obtain ⟨w, -, -, hstop⟩ := span?_eq_some_iff.1 hspan
    have hlength := length_pos hp
    rw [hp] at hstop
    simp only at hstop
    omega

end Timespan.Period
