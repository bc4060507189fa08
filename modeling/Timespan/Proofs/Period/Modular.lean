import Timespan.Proofs.Keyword.Bounds

/-!
# Days and weeks by division

In universal time all days are equally long, and so are all weeks. So they can be found without a
calendar: an instant is as far into its day as it leaves over when it is divided by a day
(`Period.tile_day`), and likewise for weeks, which are counted from the Sunday before the Thursday
with which 1970 began (`Period.tile_week`). The remainder is never negative, also before 1970.

The calendar goes another way, over the date and its day of the week, and what it knows besides is
only where it ends: it has all of its days, and the weeks from its first Sunday on, since it begins
with a Monday (`Period.day_and_week_by_division`).
-/

namespace Timespan.Period

open Calendar

variable {p : Period} {instant : Int} {r : Span}

/-- **A period has a span** around the origins from which the keyword that names it reaches. -/
theorem span_utc_eq_ok_iff_inReach {k : Keyword} (hp : k.period? = some p)
    (hs : k.shift? = none) : p.span (some "UTC".toList) instant = .ok r ↔
      k.InReach instant ∧ r = p.tile (p.index (WallClock.date ⟨instant⟩)) := by
  rw [span_utc_eq_ok_iff, Keyword.inReach_iff hp, Keyword.stride_of_shift? hs, Int.add_zero]
  constructor
  · rintro ⟨⟨hday, hopening, hnext⟩, hr⟩
    exact ⟨⟨hday, hopening, index_le_final hday, hnext⟩, hr⟩
  · rintro ⟨⟨hday, hopening, -, hnext⟩, hr⟩
    exact ⟨⟨hday, hopening, hnext⟩, hr⟩

/-- **The day of an instant**, by division. -/
theorem tile_day (instant : Int) : day.tile (day.index (WallClock.date ⟨instant⟩)) =
    ⟨instant - instant % Duration.day, instant - instant % Duration.day + Duration.day - 1⟩ := by
  rw [index_day_date, tile, WallClock.day]
  simp only [opening, Duration.day_eq, Span.mk.injEq]
  omega

/-- **The week of an instant**, by division. The first day of 1970 was the fifth of its week. -/
theorem tile_week (instant : Int) : week.tile (week.index (WallClock.date ⟨instant⟩)) =
    ⟨instant - (instant + 4 * Duration.day) % Duration.week,
      instant - (instant + 4 * Duration.day) % Duration.week + Duration.week - 1⟩ := by
  rw [index_week_date, tile, WallClock.day]
  simp only [opening, Duration.week, Duration.day_eq, Span.mk.injEq]
  omega

/-- **Days and weeks in universal time** are found by division. Every instant of the years `1` to
`9999` has its day, and from the first Sunday on, the seventh of January, it has its week; no other
instant has either. -/
theorem day_and_week_by_division (instant : Int) :
    (∀ r, day.span (some "UTC".toList) instant = .ok r ↔
      (firstInstant ≤ instant ∧ instant ≤ lastInstant) ∧
        r = ⟨instant - instant % Duration.day,
          instant - instant % Duration.day + Duration.day - 1⟩) ∧
    ∀ r, week.span (some "UTC".toList) instant = .ok r ↔
      (firstInstant + 6 * Duration.day ≤ instant ∧ instant ≤ lastInstant) ∧
        r = ⟨instant - (instant + 4 * Duration.day) % Duration.week,
          instant - (instant + 4 * Duration.day) % Duration.week + Duration.week - 1⟩ := by
  constructor
  · intro r
    rw [span_utc_eq_ok_iff_inReach (k := .today) rfl rfl, tile_day, Keyword.InReach]
  · intro r
    rw [span_utc_eq_ok_iff_inReach (k := .thisWeek) rfl rfl, tile_week, Keyword.InReach]

end Timespan.Period
