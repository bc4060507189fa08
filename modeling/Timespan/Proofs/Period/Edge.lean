import Timespan.Proofs.Shift.Reading
import Timespan.Proofs.Universal

/-!
# The edges of the calendar

The calendar has the years `1` to `9999`. What of it is needed to move an instant and to find
the period around one is told here for universal time, first on the days and then on the
numbers of the periods:

* an instant can be moved if its reading can (`Shift.exists_move_utc_iff`), that is, if neither the
  months nor the days lead out of the calendar (`Calendar.WallClock.shift?_eq_some_iff`);
* a period is found if its number lies between `Period.eve` and `Period.final`
  (`Period.fits_utc_iff`). The calendar begins with a day, a month and a year but in the middle
  of a week, and after the last month and the last year nothing opens that could end them.
-/

namespace Timespan

open Calendar

variable {w : WallClock} {instant j months days : Int} {p : Period} {s : Shift} {r : Span}

/-! ### Questions to universal time -/

theorem Zone.reaches_utc_iff :
    Zone.utc.Reaches instant ↔ InCalendar (WallClock.day ⟨instant⟩) := by
  rw [Zone.Reaches, show Zone.utc.lookback = 0 from rfl, Int.sub_zero]
  exact and_self_iff

theorem Zone.reaches_utc_midnight_iff {n : Int} :
    Zone.utc.Reaches (n * Duration.day) ↔ InCalendar n := by
  rw [Zone.reaches_utc_iff, WallClock.day, Int.mul_ediv_cancel _ (by decide)]

theorem shows_utc_iff : Shows (some "UTC".toList) instant w ↔
    InCalendar (WallClock.day ⟨instant⟩) ∧ w = ⟨instant⟩ := by
  rw [shows_iff (z := Zone.utc) rfl, Zone.isUniversal_utc.wallClock?_eq_some_iff,
    Zone.reaches_utc_iff]

namespace Shift

theorem move_utc_eq_ok_iff : s.move (some "UTC".toList) instant = .ok j ↔
    s.IsCountable ∧ InCalendar (WallClock.day ⟨instant⟩) ∧
      (⟨instant⟩ : WallClock).shift? s.totalMonths s.days = some ⟨j⟩ ∧
      InCalendar (WallClock.day ⟨j⟩) := by
  rw [move, inZone_eq_ok_iff rfl, move?_eq_some_iff_reaches Zone.isUniversal_utc,
    Zone.reaches_utc_iff, Zone.reaches_utc_iff]

/-- **A move in universal time** needs the day that it starts from, and it succeeds if the move
of the reading does. -/
theorem exists_move_utc_iff (hs : s.IsCountable) :
    (∃ j, s.move (some "UTC".toList) instant = .ok j) ↔ InCalendar (WallClock.day ⟨instant⟩) ∧
      ∃ w', (⟨instant⟩ : WallClock).shift? s.totalMonths s.days = some w' := by
  simp only [move_utc_eq_ok_iff]
  constructor
  · rintro ⟨j, -, hday, hshift, -⟩
    exact ⟨hday, ⟨j⟩, hshift⟩
  · rintro ⟨hday, w', hshift⟩
    exact ⟨w'.millis, hs, hday, hshift, WallClock.inCalendar_of_shift? hshift⟩

theorem eq_add_of_move_utc (h : move { days := days } (some "UTC".toList) instant = .ok j) :
    j = instant + days * Duration.day := by
  obtain ⟨-, -, hshift, -⟩ := move_utc_eq_ok_iff.1 h
  have hmove := (carries_of_shift? hshift).eq_addDays
  exact (congrArg WallClock.millis hmove).trans (WallClock.millis_addDays _ _)

end Shift

namespace Period

/-- The number of the last period that opens before the calendar begins. -/
def eve : Period → Int
  | day => -719163
  | week => -102737
  | month => 11
  | year => 0

/-- The number of the last period that opens in the calendar. -/
def final : Period → Int
  | day => 2932896
  | week => 418985
  | month => 119999
  | year => 9999

theorem index_eve (p : Period) : p.index (Date.ofDay (Calendar.firstDay - 1)) = p.eve := by
  cases p <;> decide

theorem index_final (p : Period) : p.index (Date.ofDay lastDay) = p.final := by
  cases p <;> decide

/-- **The openings of the calendar**. -/
theorem inCalendar_opening_iff {n : Int} :
    InCalendar (p.opening n) ↔ p.eve < n ∧ n ≤ p.final := by
  rw [← index_eve, ← index_final, ← p.opening_le_iff, ← Int.not_le (a := n), ← p.opening_le_iff,
    InCalendar]
  omega

theorem index_day_date (w : WallClock) : day.index w.date = w.day :=
  Date.toDay_ofDay _

theorem index_week_date (w : WallClock) : week.index w.date = (w.day + 4) / 7 := by
  rw [index, Shift.toDay_date]

/-- The days of the calendar lie in no later period. -/
theorem index_le_final (h : InCalendar (WallClock.day ⟨instant⟩)) :
    p.index (WallClock.date ⟨instant⟩) ≤ p.final := by
  rw [← index_final]
  exact p.index_ofDay_mono h.2

/-- The calendar begins with a day, a month and a year, but in the middle of a week. -/
theorem eve_lt_index (hp : p ≠ week) (h : InCalendar (WallClock.day ⟨instant⟩)) :
    p.eve < p.index (WallClock.date ⟨instant⟩) := by
  have hopening : p.opening (p.eve + 1) = Calendar.firstDay := by
    cases p with
    | day | month | year => decide
    | week => exact absurd rfl hp
  exact p.opening_le_iff.1 (Int.le_trans (Int.le_of_eq hopening) h.1)

/-- **A period fits into the calendar** of universal time if it opens there and, unless it has a
length of its own, the next one does. -/
theorem fits_utc_iff : p.Fits Zone.utc instant ↔ InCalendar (WallClock.day ⟨instant⟩) ∧
    p.eve < p.index (WallClock.date ⟨instant⟩) ∧
    (p.length? = none → p.index (WallClock.date ⟨instant⟩) < p.final) := by
  constructor
  · rintro ⟨hreach, hopening, hnext⟩
    rw [Zone.reaches_utc_midnight_iff, inCalendar_opening_iff] at hopening
    refine ⟨Zone.reaches_utc_iff.1 hreach, hopening.1, fun hp => ?_⟩
    have := hnext hp
    rw [Zone.reaches_utc_midnight_iff, inCalendar_opening_iff] at this
    omega
  · rintro ⟨hday, hopening, hnext⟩
    refine ⟨Zone.reaches_utc_iff.2 hday, ?_, fun hp => ?_⟩
    · rw [Zone.reaches_utc_midnight_iff, inCalendar_opening_iff]
      exact ⟨hopening, index_le_final hday⟩
    · have := hnext hp
      rw [Zone.reaches_utc_midnight_iff, inCalendar_opening_iff]
      omega

theorem span_utc_eq_ok_iff : p.span (some "UTC".toList) instant = .ok r ↔
    (InCalendar (WallClock.day ⟨instant⟩) ∧ p.eve < p.index (WallClock.date ⟨instant⟩) ∧
      (p.length? = none → p.index (WallClock.date ⟨instant⟩) < p.final)) ∧
    r = p.tile (p.index (WallClock.date ⟨instant⟩)) := by
  rw [span, inZone_eq_ok_iff rfl, span?_eq_some_iff_fits Zone.isUniversal_utc, fits_utc_iff]

end Period

/-! ### The first and the last instant -/

/-- The instant at which a date begins in universal time. -/
def Calendar.Date.midnight (d : Date) : Int :=
  d.toDay * Duration.day

/-- The first instant of the calendar, in universal time. -/
def Calendar.firstInstant : Int :=
  (Date.written 1 1 1 (by decide)).midnight

/-- The last instant of the calendar, in universal time. -/
def Calendar.lastInstant : Int :=
  (Date.written 9999 12 31 (by decide)).midnight + Duration.day - 1

/-- The calendar has the days of the instants from its first to its last. -/
theorem inCalendar_day_iff : InCalendar (WallClock.day ⟨instant⟩) ↔
    firstInstant ≤ instant ∧ instant ≤ lastInstant := by
  have hfirst : firstInstant = firstDay * Duration.day := by decide
  have hlast : lastInstant = (lastDay + 1) * Duration.day - 1 := by decide
  rw [InCalendar, hfirst, hlast, WallClock.day]
  simp only [firstDay, lastDay, Duration.day_eq]
  omega

theorem inCalendar_day_add_iff {n : Int} : InCalendar (WallClock.day ⟨instant⟩ + n) ↔
    firstInstant ≤ instant + n * Duration.day ∧ instant + n * Duration.day ≤ lastInstant := by
  have hmillis : (⟨instant⟩ : WallClock).addDays n = ⟨instant + n * Duration.day⟩ :=
    WallClock.ext (WallClock.millis_addDays _ _)
  rw [← inCalendar_day_iff, ← hmillis, WallClock.day_addDays]

/-- **From the opening of a period on** its number has been reached. -/
theorem Period.le_index_iff {n : Int} {d : Date} (h : p.opening n = d.toDay) :
    n ≤ p.index (WallClock.date ⟨instant⟩) ↔ d.midnight ≤ instant := by
  rw [WallClock.date, ← p.opening_le_iff, h]
  exact Int.le_ediv_iff_mul_le (by decide)

end Timespan
