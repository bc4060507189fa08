import Timespan.Proofs.Period.Moved

/-!
# Moving a reading

A move of a reading has two stages. The months lead to another month, where a day that it lacks
becomes its last (`Calendar.WallClock.addMonths`), and the days lead on from there
(`Calendar.WallClock.addDays`). Both stages must end in the calendar, the first one also if the
second would lead back, and nothing else can go wrong (`Calendar.WallClock.shift?_eq_some_iff`).
-/

namespace Timespan.Calendar

variable {w w' : WallClock} {days months : Int}

/-! ### Dates -/

namespace Date

theorem inCalendar_toDay_iff (d : Date) : InCalendar d.toDay ↔ 1 ≤ d.year ∧ d.year ≤ 9999 := by
  rw [inCalendar_iff, yearOfDay_toDay]

/-- No months later there is the same date. -/
theorem ofMonthIndex_monthIndex (d : Date) : ofMonthIndex d.monthIndex d.day d.one_le_day = d := by
  have hsame : d.Is d.year d.month d.day := ⟨rfl, rfl, rfl⟩
  refine Is.unique ⟨?_, ?_, ?_⟩ hsame
  · exact Period.monthIndex_ediv d
  · exact Period.monthIndex_emod d
  · have := d.day_le
    simp only [ofMonthIndex, Period.monthIndex_ediv, Period.monthIndex_emod]
    omega

end Date

namespace WallClock

/-! ### The two stages -/

@[simp] theorem day_onDate (w : WallClock) (d : Date) : (w.onDate d).day = d.toDay :=
  day_ofDay w.timeOfDay_nonneg w.timeOfDay_lt

@[simp] theorem timeOfDay_onDate (w : WallClock) (d : Date) :
    (w.onDate d).timeOfDay = w.timeOfDay :=
  timeOfDay_ofDay w.timeOfDay_nonneg w.timeOfDay_lt

@[simp] theorem date_onDate (w : WallClock) (d : Date) : (w.onDate d).date = d := by
  rw [date, day_onDate, Date.ofDay_toDay]

theorem onDate_date (w : WallClock) : w.onDate w.date = w := by
  rw [onDate, Shift.toDay_date, ofDay_day_timeOfDay]

theorem onDate_ofDay_add (w : WallClock) (d : Date) (n : Int) :
    w.onDate (Date.ofDay (d.toDay + n)) = (w.onDate d).addDays n := by
  rw [addDays, day_onDate, timeOfDay_onDate, onDate, Date.toDay_ofDay]

/-- The same time of day, some months on: on the same day of the month, or on its last. -/
def addMonths (w : WallClock) (n : Int) : WallClock :=
  w.onDate (Date.ofMonthIndex (w.date.monthIndex + n) w.date.day w.date.one_le_day)

@[simp] theorem addMonths_zero (w : WallClock) : w.addMonths 0 = w := by
  have hsame : Date.ofMonthIndex (w.date.monthIndex + 0) w.date.day w.date.one_le_day = w.date := by
    simp only [Int.add_zero, Date.ofMonthIndex_monthIndex]
  rw [addMonths, hsame, onDate_date]

@[simp] theorem addDays_zero (w : WallClock) : w.addDays 0 = w := by
  rw [addDays, Int.add_zero, ofDay_day_timeOfDay]

/-! ### Staying in the calendar -/

theorem inCalendar_day_iff_year : InCalendar w.day ↔ 1 ≤ w.date.year ∧ w.date.year ≤ 9999 := by
  rw [← Shift.toDay_date, Date.inCalendar_toDay_iff]

/-- The months lead to the year in which they are counted. -/
theorem inCalendar_addMonths_iff : InCalendar (w.addMonths months).day ↔
    1 ≤ (w.date.monthIndex + months) / 12 ∧ (w.date.monthIndex + months) / 12 ≤ 9999 := by
  rw [inCalendar_day_iff_year, addMonths, date_onDate]
  exact Iff.rfl

/-- Between days of the calendar there are few months. -/
theorem natAbs_lt_of_addMonths (hfrom : InCalendar w.day)
    (hto : InCalendar (w.addMonths months).day) : months.natAbs < 120000 := by
  have hyear := Period.monthIndex_ediv w.date
  rw [inCalendar_day_iff_year] at hfrom
  rw [inCalendar_addMonths_iff] at hto
  omega

/-- **A move of a reading** succeeds if neither of its stages leads out of the calendar. -/
theorem shift?_eq_some_iff : w.shift? months days = some w' ↔
    InCalendar (w.addMonths months).day ∧ InCalendar ((w.addMonths months).day + days) ∧
      w' = (w.addMonths months).addDays days := by
  rw [inCalendar_addMonths_iff, addMonths, day_onDate, ← onDate_ofDay_add]
  unfold shift? Date.addMonths? Date.addDays?
  by_cases hmonths : 1 ≤ (w.date.monthIndex + months) / 12 ∧
      (w.date.monthIndex + months) / 12 ≤ 9999
  · by_cases hdays : InCalendar ((Date.ofMonthIndex (w.date.monthIndex + months) w.date.day
        w.date.one_le_day).toDay + days)
    · simp [hmonths, hdays, eq_comm]
    · simp [hmonths, hdays]
  · simp [hmonths]

theorem exists_shift?_days_iff (h : InCalendar w.day) :
    (∃ w', w.shift? 0 days = some w') ↔ InCalendar (w.day + days) := by
  simp [shift?_eq_some_iff, h]

theorem exists_shift?_months_iff : (∃ w', w.shift? months 0 = some w') ↔
    1 ≤ (w.date.monthIndex + months) / 12 ∧ (w.date.monthIndex + months) / 12 ≤ 9999 := by
  simp [shift?_eq_some_iff, ← inCalendar_addMonths_iff]

/-- What a reading is moved to is in the calendar. -/
theorem inCalendar_of_shift? (h : w.shift? months days = some w') : InCalendar w'.day := by
  obtain ⟨-, hto, rfl⟩ := shift?_eq_some_iff.1 h
  rwa [day_addDays]

end WallClock

end Timespan.Calendar
