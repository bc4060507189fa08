import Mathlib.Algebra.Ring.Int.Defs
import Timespan.Proofs.Period.Edge

/-!
# How long months and years are

The calendar finds the end of a month or a year by where the next one opens. How long that makes
it stands in a table of twelve numbers, of which only that of February depends on the year
(`Calendar.monthLengths`). A month is as long as its number says, and the numbers before it add up
to what has passed of the year when the month opens (`Calendar.exists_monthLengths_eq_append`).

In universal time a span is as long as it is far from one opening to the next
(`Period.duration_tile`), so the table holds for the spans around an instant, to the millisecond.
There a month lies in its year and a day in its month, with both ends, because their openings do
(`Period.openings_around`).
-/

namespace Timespan

open Calendar

/-! ### The table of the months -/

namespace Calendar

variable {y m : Int}

/-- The rule of the leap years by what divides them. -/
theorem isLeap_iff_dvd : IsLeap y ↔ (4 ∣ y ∧ ¬ 100 ∣ y) ∨ 400 ∣ y := by
  unfold IsLeap
  omega

theorem yearLength_eq_ite (y : Int) :
    yearLength y = if (4 ∣ y ∧ ¬ 100 ∣ y) ∨ 400 ∣ y then 366 else 365 :=
  if_congr isLeap_iff_dvd rfl rfl

/-- **The lengths of the months** of a year, from January to December. -/
def monthLengths (y : Int) : List Int :=
  [31, if (4 ∣ y ∧ ¬ 100 ∣ y) ∨ 400 ∣ y then 29 else 28, 31, 30, 31, 30, 31, 31, 30, 31, 30, 31]

theorem monthLengths_getElem? (y : Int) : ∀ {n : Nat}, n < 12 →
    (monthLengths y)[n]? = some (monthLength y (n + 1))
  | 1, _ => by
    -- February is the only month that looks at the year
    have hfebruary : monthLength y 2 = if IsLeap y then 29 else 28 := rfl
    exact congrArg some ((if_congr isLeap_iff_dvd rfl rfl).symm.trans hfebruary.symm)
  | 0, _ | 2, _ | 3, _ | 4, _ | 5, _ | 6, _ | 7, _ | 8, _ | 9, _ | 10, _ | 11, _ => rfl

/-- The numbers before that of a month are the days before it. -/
theorem sum_take_monthLengths (y : Int) {n : Nat} (h : n ≤ 12) :
    ((monthLengths y).take n).sum = daysBeforeMonth y (n + 1) := by
  induction n with
  | zero => exact (daysBeforeMonth_one y).symm
  | succ n ih =>
    have hsucc := daysBeforeMonth_succ (y := y) (m := n + 1) (by omega) (by omega)
    rw [List.take_add_one, monthLengths_getElem? y (by omega), List.sum_append, ih (by omega)]
    simpa using hsucc.symm

/-- **The table at a month**: its length, and before it the lengths of the earlier months. -/
theorem exists_monthLengths_eq_append (h₁ : 1 ≤ m) (h₂ : m ≤ 12) :
    ∃ earlier later, monthLengths y = earlier ++ monthLength y m :: later ∧
      (earlier.length : Int) = m - 1 ∧ earlier.sum = daysBeforeMonth y m := by
  obtain ⟨n, rfl⟩ : ∃ n : Nat, m = n + 1 := ⟨(m - 1).toNat, by omega⟩
  have hn : n < 12 := by omega
  obtain ⟨hlt, hlength⟩ := List.getElem?_eq_some_iff.1 (monthLengths_getElem? y hn)
  refine ⟨(monthLengths y).take n, (monthLengths y).drop (n + 1), ?_, ?_, ?_⟩
  · rw [← hlength, ← List.drop_eq_getElem_cons hlt, List.take_append_drop]
  · rw [List.length_take_of_le (Nat.le_of_lt hlt)]
    omega
  · exact sum_take_monthLengths y (Nat.le_of_lt hn)

end Calendar

/-! ### Openings around a date -/

namespace Period

theorem opening_month_index (d : Date) :
    month.opening (month.index d) = year.opening d.year + daysBeforeMonth d.year d.month := by
  simp only [opening, index, monthIndex_ediv, monthIndex_emod]

theorem opening_month_index_succ (d : Date) : month.opening (month.index d + 1) =
    month.opening (month.index d) + monthLength d.year d.month := by
  rw [opening_succ]
  simp only [index, monthIndex_ediv, monthIndex_emod]

/-- **Openings around a date**: first the year opens and then the month, and after the date first
the next month and then the next year. -/
theorem openings_around (d : Date) :
    year.opening (year.index d) ≤ month.opening (month.index d) ∧
      month.opening (month.index d) ≤ d.toDay ∧ d.toDay < month.opening (month.index d + 1) ∧
      month.opening (month.index d + 1) ≤ year.opening (year.index d + 1) := by
  have h₁ := month.firstDay_le_toDay d
  have h₂ := month.toDay_lt_nextFirstDay d
  rw [firstDay_eq] at h₁
  rw [nextFirstDay_eq] at h₂
  have hjanuary : daysBeforeMonth d.year 1 ≤ daysBeforeMonth d.year d.month :=
    Zone.daysBeforeMonth_mono d.one_le_month
  have hdecember : daysBeforeMonth d.year (d.month + 1) ≤ daysBeforeMonth d.year 13 :=
    Zone.daysBeforeMonth_mono (by have := d.month_le; omega)
  rw [daysBeforeMonth_one] at hjanuary
  rw [daysBeforeMonth_succ d.one_le_month d.month_le, daysBeforeMonth_thirteen] at hdecember
  refine ⟨?_, h₁, h₂, ?_⟩
  · rw [opening_month_index]
    simp only [index]
    omega
  · rw [opening_month_index_succ, opening_month_index, opening_succ]
    simp only [index]
    omega

/-! ### Spans in universal time -/

/-- A period is as long as it is far to the next opening. -/
theorem duration_tile {p : Period} {k days : Int} (h : p.opening (k + 1) = p.opening k + days) :
    (p.tile k).duration + 1 = days * Duration.day := by
  simp only [tile, Span.duration]
  rw [h, Int.add_mul]
  omega

/-- **Where the year has a span**, the month and the day have one. -/
theorem spans_of_year {instant : Int} {d : Date} {r : Span} (hd : WallClock.date ⟨instant⟩ = d)
    (h : year.span (some "UTC".toList) instant = .ok r) :
    Shows (some "UTC".toList) instant ⟨instant⟩ ∧ r = year.tile (year.index d) ∧
      month.span (some "UTC".toList) instant = .ok (month.tile (month.index d)) ∧
      day.span (some "UTC".toList) instant = .ok (day.tile (day.index d)) := by
  obtain ⟨⟨hday, -, hlast⟩, rfl⟩ := span_utc_eq_ok_iff.1 h
  have hmonth := eve_lt_index (p := month) (by simp) hday
  have hopened := eve_lt_index (p := day) (by simp) hday
  rw [hd] at hlast hmonth hopened
  refine ⟨shows_utc_iff.2 ⟨hday, rfl⟩, by rw [hd], ?_, ?_⟩
  · -- a month of a year that is not the last one is not the last one either
    have hyear := monthIndex_ediv d
    have hfinal : d.year < 9999 := hlast rfl
    have hnext : d.monthIndex < 119999 := by omega
    rw [span_utc_eq_ok_iff, hd]
    exact ⟨⟨hday, hmonth, fun _ => hnext⟩, rfl⟩
  · rw [span_utc_eq_ok_iff, hd]
    exact ⟨⟨hday, hopened, fun hnone => absurd hnone (by simp [length?])⟩, rfl⟩

/-- **Months and years in universal time** have the lengths of the table, and day, month and year
lie in each other. -/
theorem lengths_and_nesting {instant : Int} {r : Span}
    (h : year.span (some "UTC".toList) instant = .ok r) :
    ∃ w s t earlier length later,
      Shows (some "UTC".toList) instant w ∧
      month.span (some "UTC".toList) instant = .ok s ∧
      day.span (some "UTC".toList) instant = .ok t ∧
      monthLengths w.date.year = earlier ++ length :: later ∧
      (earlier.length : Int) = w.date.month - 1 ∧
      r.duration + 1 =
        (if (4 ∣ w.date.year ∧ ¬ 100 ∣ w.date.year) ∨ 400 ∣ w.date.year then 366 else 365) *
          Duration.day ∧
      s.duration + 1 = length * Duration.day ∧
      s.start = r.start + earlier.sum * Duration.day ∧
      r.start ≤ s.start ∧ s.start ≤ t.start ∧ t.start ≤ instant ∧
      instant ≤ t.stop ∧ t.stop ≤ s.stop ∧ s.stop ≤ r.stop := by
  obtain ⟨d, hd⟩ : ∃ d, WallClock.date ⟨instant⟩ = d := ⟨_, rfl⟩
  obtain ⟨hshows, rfl, hmonth, hday⟩ := spans_of_year hd h
  obtain ⟨earlier, later, htable, hcount, hsum⟩ :=
    exists_monthLengths_eq_append (y := d.year) d.one_le_month d.month_le
  refine ⟨_, _, _, earlier, monthLength d.year d.month, later, hshows, hmonth, hday, ?_, ?_, ?_,
    ?_, ?_, ?_⟩
  · rw [hd]
    exact htable
  · rw [hd]
    exact hcount
  · rw [hd, ← yearLength_eq_ite]
    exact duration_tile (opening_succ year d.year)
  · exact duration_tile (opening_month_index_succ d)
  · simp only [tile]
    rw [opening_month_index, hsum, Int.add_mul]
    rfl
  · have htoday : d.toDay = instant / Duration.day := hd ▸ index_day_date _
    obtain ⟨h₁, h₂, h₃, h₄⟩ := openings_around d
    simp only [tile, opening, index, Duration.day_eq] at *
    omega

/-- In 1600, a leap year although a hundredth one, February has twenty-nine days, and the last of
them lies in it. -/
theorem lengths_and_nesting_leap_century :
    let instant := -11670953103211
    let r : Span := ⟨-11676096000000, -11644473600001⟩
    year.span (some "UTC".toList) instant = .ok r ∧
    ∃ w s t earlier length later,
      Shows (some "UTC".toList) instant w ∧
      month.span (some "UTC".toList) instant = .ok s ∧
      day.span (some "UTC".toList) instant = .ok t ∧
      monthLengths w.date.year = earlier ++ length :: later ∧
      (earlier.length : Int) = w.date.month - 1 ∧
      r.duration + 1 =
        (if (4 ∣ w.date.year ∧ ¬ 100 ∣ w.date.year) ∨ 400 ∣ w.date.year then 366 else 365) *
          Duration.day ∧
      s.duration + 1 = length * Duration.day ∧
      s.start = r.start + earlier.sum * Duration.day ∧
      r.start ≤ s.start ∧ s.start ≤ t.start ∧ t.start ≤ instant ∧
      instant ≤ t.stop ∧ t.stop ≤ s.stop ∧ s.stop ≤ r.stop := by
  intro instant r
  have h : year.span (some "UTC".toList) instant = .ok r := eq_ok_of_toOption (by decide +kernel)
  exact ⟨h, lengths_and_nesting h⟩

end Period

end Timespan
