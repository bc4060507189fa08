import Timespan.Proofs.Shift.Stages

/-!
# Months by a detour

Months are not days: two moves by months are not always one by their sum. The month in between may
lack the day of the month, and the day that has become its last does not grow again. So the day
on which the detour ends is the day on which the direct move ends or, if the month in between is
shorter, the last that it has (`Calendar.WallClock.day_date_addMonths_addMonths`). All months have
twenty-eight days and none has more than thirty-one, so no more than three days are lost.

Nothing else is lost, neither the month (`Calendar.WallClock.monthIndex_date_addMonths`) nor the
time of day. Hence in universal time the two moves end whole days apart
(`Shift.months_compose_up_to_clamping`).
-/

namespace Timespan

open Calendar

variable {w v : WallClock} {instant i j a b : Int}

namespace Calendar

/-! ### Dates of one month -/

theorem Date.year_eq_and_month_eq {d d' : Date} (h : d.monthIndex = d'.monthIndex) :
    d.year = d'.year ∧ d.month = d'.month := by
  rw [← Period.monthIndex_ediv, ← Period.monthIndex_emod, h]
  exact ⟨Period.monthIndex_ediv d', Period.monthIndex_emod d'⟩

namespace WallClock

/-- **Readings of one month** at one time of day are as far apart as their days of the month. -/
theorem millis_sub_millis (hmonth : w.date.monthIndex = v.date.monthIndex)
    (htime : w.timeOfDay = v.timeOfDay) :
    w.millis - v.millis = (w.date.day - v.date.day) * Duration.day := by
  obtain ⟨hyear, hmonth⟩ := Date.year_eq_and_month_eq hmonth
  have hday : w.day - v.day = w.date.day - v.date.day := by
    rw [← Shift.toDay_date w, ← Shift.toDay_date v, Date.toDay, Date.toDay, hyear, hmonth]
    omega
  have hw := congrArg millis w.ofDay_day_timeOfDay
  have hv := congrArg millis v.ofDay_day_timeOfDay
  simp only [ofDay] at hw hv
  rw [← hday, Int.sub_mul, ← hw, ← hv, htime]
  omega

/-! ### Some months on -/

@[simp] theorem timeOfDay_addMonths (w : WallClock) (n : Int) :
    (w.addMonths n).timeOfDay = w.timeOfDay :=
  timeOfDay_onDate _ _

@[simp] theorem monthIndex_date_addMonths (w : WallClock) (n : Int) :
    (w.addMonths n).date.monthIndex = w.date.monthIndex + n := by
  rw [addMonths, date_onDate, Date.monthIndex_ofMonthIndex]

theorem day_date_addMonths (w : WallClock) (n : Int) : (w.addMonths n).date.day =
    min w.date.day (monthLength (w.addMonths n).date.year (w.addMonths n).date.month) := by
  rw [addMonths, date_onDate]
  rfl

/-- A detour ends in the month in which the direct move ends. -/
theorem monthIndex_date_detour (w : WallClock) (a b : Int) :
    ((w.addMonths a).addMonths b).date.monthIndex = (w.addMonths (a + b)).date.monthIndex := by
  simp only [monthIndex_date_addMonths]
  omega

/-- **The day on which a detour ends** is that on which the direct move ends, or the last that the
month in between has. -/
theorem day_date_addMonths_addMonths (w : WallClock) (a b : Int) :
    ((w.addMonths a).addMonths b).date.day = min (w.addMonths (a + b)).date.day
      (monthLength (w.addMonths a).date.year (w.addMonths a).date.month) := by
  obtain ⟨hyear, hmonth⟩ := Date.year_eq_and_month_eq (w.monthIndex_date_detour a b)
  have hbetween := w.day_date_addMonths a
  have hdirect := w.day_date_addMonths (a + b)
  have hdetour := (w.addMonths a).day_date_addMonths b
  rw [hyear, hmonth] at hdetour
  omega

theorem inCalendar_detour_iff (w : WallClock) (a b : Int) :
    InCalendar ((w.addMonths a).addMonths b).day ↔ InCalendar (w.addMonths (a + b)).day := by
  rw [inCalendar_day_iff_year, inCalendar_day_iff_year,
    (Date.year_eq_and_month_eq (w.monthIndex_date_detour a b)).1]

/-- **What a detour loses**: the days by which the month in between is too short. -/
def detourLoss (w : WallClock) (a b : Int) : Int :=
  max 0 ((w.addMonths (a + b)).date.day -
    monthLength (w.addMonths a).date.year (w.addMonths a).date.month)

theorem millis_sub_detour (w : WallClock) (a b : Int) :
    (w.addMonths (a + b)).millis - ((w.addMonths a).addMonths b).millis =
      w.detourLoss a b * Duration.day := by
  rw [millis_sub_millis (w.monthIndex_date_detour a b).symm (by simp),
    day_date_addMonths_addMonths, detourLoss]
  congr 1
  omega

theorem detourLoss_nonneg (w : WallClock) (a b : Int) : 0 ≤ w.detourLoss a b :=
  Int.le_max_left _ _

theorem detourLoss_le (w : WallClock) (a b : Int) : w.detourLoss a b ≤ 3 := by
  have hshortest := monthLength_pos (w.addMonths a).date.year (w.addMonths a).date.month
  have hlongest := monthLength_le (w.addMonths (a + b)).date.year (w.addMonths (a + b)).date.month
  have hdirect := w.day_date_addMonths (a + b)
  unfold detourLoss
  omega

/-- Nothing is lost of a day that all months have. -/
theorem detourLoss_eq_zero (h : w.date.day ≤ 28) (a b : Int) : w.detourLoss a b = 0 := by
  have hshortest := monthLength_pos (w.addMonths a).date.year (w.addMonths a).date.month
  have hdirect := w.day_date_addMonths (a + b)
  unfold detourLoss
  omega

/-- No detour ends later than the direct move. -/
theorem detour_le (w : WallClock) (a b : Int) :
    ((w.addMonths a).addMonths b).millis ≤ (w.addMonths (a + b)).millis := by
  have hlost := w.millis_sub_detour a b
  have hnonneg := w.detourLoss_nonneg a b
  rw [Duration.day_eq] at hlost
  omega

end WallClock

end Calendar

/-! ### Moves in universal time -/

namespace Shift

/-- **Where a detour leads**, a direct move leads. -/
theorem move_utc_add_months (ha : move { months := a } (some "UTC".toList) instant = .ok i)
    (hb : move { months := b } (some "UTC".toList) i = .ok j) :
    move { months := a + b } (some "UTC".toList) instant =
      .ok ((⟨instant⟩ : WallClock).addMonths (a + b)).millis := by
  obtain ⟨hfrom, -, hbetween⟩ := move_utc_months_iff.1 ha
  obtain ⟨-, hto, hdetour⟩ := move_utc_months_iff.1 hb
  rw [← hdetour, ← hbetween, WallClock.inCalendar_detour_iff] at hto
  exact move_utc_months_iff.2 ⟨hfrom, hto, rfl⟩

/-- **Some months away** there is a way back. -/
theorem move_utc_neg_months (ha : move { months := a } (some "UTC".toList) instant = .ok i) :
    move { months := -a } (some "UTC".toList) i =
      .ok (((⟨instant⟩ : WallClock).addMonths a).addMonths (-a)).millis := by
  obtain ⟨hfrom, hto, hbetween⟩ := move_utc_months_iff.1 ha
  have hback : InCalendar (((⟨instant⟩ : WallClock).addMonths a).addMonths (-a)).day := by
    rw [WallClock.inCalendar_detour_iff, Int.add_right_neg, WallClock.addMonths_zero]
    exact hfrom
  exact move_utc_months_iff.2 ⟨hto, hback, by rw [hbetween]⟩

/-- **Moves by months add up**, but for the days that the month in between lacks. They end whole
days before the move by their sum, at most three, and none if the day of the month is one that all
months have. Some months away and back end no later than they began, at the same time of day, and
lose the days by which the month in between is too short. -/
theorem months_compose_up_to_clamping
    (ha : move { months := a } (some "UTC".toList) instant = .ok i) :
    ∃ w v, Shows (some "UTC".toList) instant w ∧ Shows (some "UTC".toList) i v ∧
      (∀ b j, move { months := b } (some "UTC".toList) i = .ok j →
        ∃ k n, move { months := a + b } (some "UTC".toList) instant = .ok k ∧ j ≤ k ∧
          k - j = n * Duration.day ∧ 0 ≤ n ∧ n ≤ 3 ∧ (w.date.day ≤ 28 → n = 0)) ∧
      ∃ j u, move { months := -a } (some "UTC".toList) i = .ok j ∧
        Shows (some "UTC".toList) j u ∧ j ≤ instant ∧
        instant - j = max 0 (w.date.day - monthLength v.date.year v.date.month) * Duration.day ∧
        u.timeOfDay = w.timeOfDay := by
  obtain ⟨hfrom, hto, hbetween⟩ := move_utc_months_iff.1 ha
  refine ⟨⟨instant⟩, ⟨i⟩, shows_utc_iff.2 ⟨hfrom, rfl⟩, shows_utc_iff.2 ⟨hto, rfl⟩, ?_, ?_⟩
  · intro b j hb
    obtain ⟨-, -, hdetour⟩ := move_utc_months_iff.1 hb
    have hlost := WallClock.millis_sub_detour ⟨instant⟩ a b
    have hle := WallClock.detour_le ⟨instant⟩ a b
    rw [hbetween, hdetour] at hlost hle
    exact ⟨_, _, move_utc_add_months ha hb, hle, hlost, WallClock.detourLoss_nonneg _ a b,
      WallClock.detourLoss_le _ a b, fun h => WallClock.detourLoss_eq_zero h a b⟩
  · have hback := move_utc_neg_months ha
    have hlost := WallClock.millis_sub_detour ⟨instant⟩ a (-a)
    have hle := WallClock.detour_le ⟨instant⟩ a (-a)
    rw [WallClock.detourLoss] at hlost
    rw [Int.add_right_neg, WallClock.addMonths_zero] at hlost hle
    refine ⟨_, _, hback, shows_utc_iff.2 ⟨(move_utc_months_iff.1 hback).2.1, rfl⟩, hle, ?_, ?_⟩
    · rw [hlost, hbetween]
    · exact (WallClock.timeOfDay_addMonths _ _).trans (WallClock.timeOfDay_addMonths _ _)

/-- From the thirty-first of March 2024 a month back leads to the twenty-ninth of February, and
from there a month on leads to the twenty-ninth of March, two days before. -/
theorem months_compose_up_to_clamping_leap_february :
    let tz := some "UTC".toList
    let instant := 1711843200001
    let i := 1709164800001
    move { months := -1 } tz instant = .ok i ∧ move { months := 1 } tz i = .ok 1711670400001 ∧
    ∃ w v, Shows tz instant w ∧ Shows tz i v ∧
      (∃ k n, move { months := -1 + 1 } tz instant = .ok k ∧ 1711670400001 ≤ k ∧
        k - 1711670400001 = n * Duration.day ∧ 0 ≤ n ∧ n ≤ 3 ∧ (w.date.day ≤ 28 → n = 0)) ∧
      ∃ j u, move { months := - -1 } tz i = .ok j ∧ Shows tz j u ∧ j ≤ instant ∧
        instant - j = max 0 (w.date.day - monthLength v.date.year v.date.month) * Duration.day ∧
        u.timeOfDay = w.timeOfDay := by
  intro tz instant i
  have haway : move { months := -1 } tz instant = .ok i := eq_ok_of_toOption (by decide +kernel)
  have hback : move { months := 1 } tz i = .ok 1711670400001 :=
    eq_ok_of_toOption (by decide +kernel)
  obtain ⟨w, v, hw, hv, hsum, hneg⟩ := months_compose_up_to_clamping haway
  exact ⟨haway, hback, w, v, hw, hv, hsum _ _ hback, hneg⟩

end Shift

end Timespan
