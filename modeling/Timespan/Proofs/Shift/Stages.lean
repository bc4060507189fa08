import Timespan.Proofs.Keyword.Bounds

/-!
# Moving an instant in two stages

In universal time a reading is its instant, so what is true of moved readings is true of moved
instants. A move by days adds them (`Shift.move_utc_days_iff`), and any other move is two in
succession, one by its months and years and one by its days (`Shift.move_utc_eq_ok_iff_stages`),
with one thing between them and the whole: the limit on the number of months
(`Shift.IsCountable`) is asked of the months before the years are counted. Months beyond it are
refused also where the years take them back, although no stage leaves the calendar
(`Shift.uncountable_months_not_moved`).

A move that fails names the instant that it was to start from, whichever stage has failed.
-/

namespace Timespan.Shift

open Calendar

variable {s : Shift} {instant i j days months : Int} {f : Failure}

/-! ### Moves in universal time -/

/-- **An instant is moved** as its reading is. -/
theorem move_utc_eq_ok_iff_reading : s.move (some "UTC".toList) instant = .ok j ↔
    s.IsCountable ∧ InCalendar (WallClock.day ⟨instant⟩) ∧
      InCalendar ((⟨instant⟩ : WallClock).addMonths s.totalMonths).day ∧
      ((⟨instant⟩ : WallClock).addMonths s.totalMonths).addDays s.days = ⟨j⟩ ∧
      InCalendar (WallClock.day ⟨j⟩) := by
  rw [move_utc_eq_ok_iff, WallClock.shift?_eq_some_iff]
  constructor
  · rintro ⟨hcountable, hfrom, ⟨hmonths, -, hmoved⟩, hto⟩
    exact ⟨hcountable, hfrom, hmonths, hmoved.symm, hto⟩
  · rintro ⟨hcountable, hfrom, hmonths, hmoved, hto⟩
    refine ⟨hcountable, hfrom, ⟨hmonths, ?_, hmoved.symm⟩, hto⟩
    rwa [← WallClock.day_addDays, hmoved]

/-- So many months as there are between two days of the calendar can be counted. -/
theorem isCountable_of_natAbs_lt (h : s.months.natAbs < 120000) : s.IsCountable :=
  Nat.lt_of_lt_of_le h (by decide +kernel)

/-- **A move by days** leads to the same time of day some days on. -/
theorem move_utc_days_iff : move { days } (some "UTC".toList) instant = .ok j ↔
    InCalendar (WallClock.day ⟨instant⟩) ∧ InCalendar (WallClock.day ⟨j⟩) ∧
      (⟨instant⟩ : WallClock).addDays days = ⟨j⟩ := by
  have hmonths : totalMonths { days } = 0 := rfl
  rw [move_utc_eq_ok_iff_reading, hmonths, WallClock.addMonths_zero]
  constructor
  · rintro ⟨-, hfrom, -, hmoved, hto⟩
    exact ⟨hfrom, hto, hmoved⟩
  · rintro ⟨hfrom, hto, hmoved⟩
    exact ⟨isCountable_of_natAbs_lt (Nat.zero_lt_succ _), hfrom, hfrom, hmoved, hto⟩

/-- **A move by months** leads to the reading of the same time of day some months on. -/
theorem move_utc_months_iff : move { months } (some "UTC".toList) instant = .ok j ↔
    InCalendar (WallClock.day ⟨instant⟩) ∧ InCalendar (WallClock.day ⟨j⟩) ∧
      (⟨instant⟩ : WallClock).addMonths months = ⟨j⟩ := by
  have hmonths : totalMonths { months } = months := Int.zero_add months
  rw [move_utc_eq_ok_iff_reading, hmonths, WallClock.addDays_zero]
  constructor
  · rintro ⟨-, hfrom, -, hmoved, hto⟩
    exact ⟨hfrom, hto, hmoved⟩
  · rintro ⟨hfrom, hto, hmoved⟩
    have hreached : InCalendar ((⟨instant⟩ : WallClock).addMonths months).day := hmoved ▸ hto
    exact ⟨isCountable_of_natAbs_lt (WallClock.natAbs_lt_of_addMonths hfrom hreached), hfrom,
      hreached, hmoved, hto⟩

/-- **A move has two stages**, first the months of its months and years, then the days. -/
theorem move_utc_eq_ok_iff_stages : s.move (some "UTC".toList) instant = .ok j ↔
    s.IsCountable ∧ ∃ i, move { months := s.totalMonths } (some "UTC".toList) instant = .ok i ∧
      move { days := s.days } (some "UTC".toList) i = .ok j := by
  rw [move_utc_eq_ok_iff_reading]
  simp only [move_utc_months_iff, move_utc_days_iff]
  constructor
  · rintro ⟨hcountable, hfrom, hmonths, hmoved, hto⟩
    exact ⟨hcountable, _, ⟨hfrom, hmonths, rfl⟩, hmonths, hto, hmoved⟩
  · rintro ⟨hcountable, i, ⟨hfrom, hbetween, hmonths⟩, -, hto, hdays⟩
    rw [← hmonths] at hbetween hdays
    exact ⟨hcountable, hfrom, hbetween, hdays, hto⟩

/-- **A move by days adds them**, between the first instant and the last. -/
theorem move_utc_days_eq_ok_iff_add : move { days } (some "UTC".toList) instant = .ok j ↔
    (firstInstant ≤ instant ∧ instant ≤ lastInstant) ∧
      (firstInstant ≤ instant + days * Duration.day ∧
        instant + days * Duration.day ≤ lastInstant) ∧
      j = instant + days * Duration.day := by
  have hmillis : (⟨instant⟩ : WallClock).addDays days = ⟨j⟩ ↔ j = instant + days * Duration.day := by
    rw [WallClock.mk.injEq, WallClock.millis_addDays, eq_comm]
  rw [move_utc_days_iff, hmillis, inCalendar_day_iff, inCalendar_day_iff]
  constructor
  · rintro ⟨hfrom, hto, rfl⟩
    exact ⟨hfrom, hto, rfl⟩
  · rintro ⟨hfrom, hto, rfl⟩
    exact ⟨hfrom, hto, rfl⟩

/-! ### Moves that fail -/

theorem eq_outOfRange_of_move (h : s.move (some "UTC".toList) instant = .error f) :
    f = .outOfRange instant :=
  ((inZone_eq_error_iff rfl).1 h).2.symm

/-- Where the months lead out of the calendar, no days lead back. -/
theorem move_utc_of_months {w : WallClock} (hw : Shows (some "UTC".toList) instant w)
    (hmonths : ¬ InCalendar (w.addMonths s.totalMonths).day) :
    s.move (some "UTC".toList) instant = .error (.rejected (.outOfRange instant)) := by
  obtain ⟨hfrom, rfl⟩ := shows_utc_iff.1 hw
  have hwritable : Decimal.Writable instant := (Zone.reaches_utc_iff.2 hfrom).writable
  cases hmove : s.move (some "UTC".toList) instant with
  | ok j => exact absurd (move_utc_eq_ok_iff_reading.1 hmove).2.2.1 hmonths
  | error f => rw [eq_outOfRange_of_move hmove, Failure.outOfRange_of_writable hwritable]

/-- **Moves in universal time** are exact, and they fail at the edges of the calendar. A move by
days adds them if the calendar has both ends. Any other is a move by months and then one by days,
if the number of months can be counted. A move that fails names the instant that it was to start
from, if that can be written, and so does one whose months lead out of the calendar, whatever its
days. -/
theorem moves_in_universal_time (instant days months years : Int) :
    (∀ j, move { days } (some "UTC".toList) instant = .ok j ↔
      (firstInstant ≤ instant ∧ instant ≤ lastInstant) ∧
      (firstInstant ≤ instant + days * Duration.day ∧
        instant + days * Duration.day ≤ lastInstant) ∧
      j = instant + days * Duration.day) ∧
    (∀ j, move { days, months, years } (some "UTC".toList) instant = .ok j ↔
      months.natAbs < monthLimit ∧
      ∃ i, move { months := 12 * years + months } (some "UTC".toList) instant = .ok i ∧
        move { days } (some "UTC".toList) i = .ok j) ∧
    (∀ f, move { days, months, years } (some "UTC".toList) instant = .error f →
      (Decimal.Writable instant → f = .rejected (.outOfRange instant)) ∧
      (¬ Decimal.Writable instant → f = .unwritable instant)) ∧
    ∀ w, Shows (some "UTC".toList) instant w →
      ¬ (1 ≤ (w.date.monthIndex + (12 * years + months)) / 12 ∧
        (w.date.monthIndex + (12 * years + months)) / 12 ≤ 9999) →
      move { days, months, years } (some "UTC".toList) instant =
        .error (.rejected (.outOfRange instant)) := by
  refine ⟨fun j => move_utc_days_eq_ok_iff_add, fun j => move_utc_eq_ok_iff_stages, ?_, ?_⟩
  · intro f hf
    obtain rfl := eq_outOfRange_of_move hf
    exact ⟨Failure.outOfRange_of_writable, Failure.outOfRange_of_not_writable⟩
  · intro w hw hyear
    exact move_utc_of_months hw fun hmonths => hyear (WallClock.inCalendar_addMonths_iff.1 hmonths)

/-- From the last instant of the calendar a month leads out of it, and forty days back do not lead
back, although nine days can be gone back at once. So far out that it has no name, no instant can
be moved. -/
theorem moves_in_universal_time_last_month :
    let tz := some "UTC".toList
    (Shows tz lastInstant ⟨lastInstant⟩ ∧
      move { days := -40, months := 1 } tz lastInstant =
        .error (.rejected (.outOfRange lastInstant))) ∧
    (Decimal.Writable lastInstant ∧ ∀ f, move { days := 1 } tz lastInstant = .error f →
      f = .rejected (.outOfRange lastInstant)) ∧
    move { days := -9 } tz lastInstant = .ok 253401523199999 ∧
    ¬ Decimal.Writable Decimal.firstUnwritable ∧
    ∀ f, move {} tz Decimal.firstUnwritable = .error f → f = .unwritable Decimal.firstUnwritable := by
  intro tz
  have hshows : Shows tz lastInstant ⟨lastInstant⟩ :=
    shows_utc_iff.2 ⟨inCalendar_day_iff.2 (by decide), rfl⟩
  have hwritable : Decimal.Writable lastInstant := Decimal.writable_of_le (by decide) (by decide)
  have hfar := Decimal.not_writable_firstUnwritable
  refine ⟨⟨hshows, ?_⟩, ⟨hwritable, fun f hf => ?_⟩, ?_, hfar, fun f hf => ?_⟩
  · exact (moves_in_universal_time lastInstant (-40) 1 0).2.2.2 _ hshows (by decide)
  · exact ((moves_in_universal_time lastInstant 1 0 0).2.2.1 f hf).1 hwritable
  · exact ((moves_in_universal_time lastInstant (-9) 0 0).1 _).2 (by decide)
  · exact ((moves_in_universal_time _ 0 0 0).2.2.1 f hf).2 hfar

/-- A number of months beyond the limit is refused although the years take all of it back and
nothing is left to be moved by. And an instant that cannot be written is not named. -/
theorem uncountable_months_not_moved :
    let tz := some "UTC".toList
    let s : Shift := { months := 12 * monthLimit, years := -monthLimit }
    (s.move tz 0 = .error (.rejected (.outOfRange 0)) ∧
      move { months := 12 * s.years + s.months } tz 0 = .ok 0 ∧
      move { days := s.days } tz 0 = .ok 0) ∧
    move {} tz Decimal.firstUnwritable = .error (.unwritable Decimal.firstUnwritable) ∧
      ∀ e, move {} tz Decimal.firstUnwritable ≠ .error (.rejected e) := by
  intro tz s
  have hpos : 0 < monthLimit := by decide +kernel
  have huncountable : ¬ s.IsCountable := by
    have hmonths : s.months = 12 * (monthLimit : Int) := rfl
    unfold IsCountable
    rw [hmonths]
    omega
  have hnothing : 12 * s.years + s.months = 0 := by
    simp only [s]
    omega
  have hday : InCalendar (WallClock.day ⟨0⟩) := by decide
  refine ⟨⟨?_, ?_, ?_⟩, ?_⟩
  · cases hmove : s.move tz 0 with
    | ok j => exact absurd (move_utc_eq_ok_iff_stages.1 hmove).1 huncountable
    | error f => rw [eq_outOfRange_of_move hmove, Failure.outOfRange_of_writable (by decide)]
  · rw [hnothing]
    exact move_utc_months_iff.2 ⟨hday, hday, WallClock.addMonths_zero _⟩
  · exact move_utc_days_iff.2 ⟨hday, hday, WallClock.addDays_zero _⟩
  · have hutc : Zone.find tz = .ok .utc := rfl
    have hfails := move_of_not_writable {} hutc Decimal.not_writable_firstUnwritable
    exact ⟨hfails, fun e => by simp [hfails]⟩

end Timespan.Shift
