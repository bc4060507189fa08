import Timespan.Proofs.Landing
import Timespan.Proofs.Zone.Midnight

/-!
# Periods around a moved instant

An instant that is moved lands on a reading, and the date that the clocks show then is the
date of that reading or the day after (`Shift.exists_day_of_move`), as settled in
`Timespan.Proofs.Zone.Midnight`. The period around the moved instant depends on that date
alone (`Period.span_congr`), and a day later the period is the same or, if one opens on
that day, the next (`Period.index_ofDay_succ`).

As for where a period starts: the midnight of a day that the clocks show at all is
converted to that day (`Period.day_reading_midnight`), and periods start in the order of
their numbers (`Period.earliest_opening_lt`).
-/

namespace Timespan

open Calendar

variable {tz : Option Text} {z : Zone} {w w' v : WallClock} {instant j n : Int} {r : Span}

/-- The clocks show a day, at some instant. -/
def ShowsDay (tz : Option Text) (n : Int) : Prop :=
  ∃ i w, Shows tz i w ∧ w.day = n

/-! ### Moves of the date -/

/-- The same time of day, some days on. -/
def Calendar.WallClock.addDays (w : WallClock) (n : Int) : WallClock :=
  .ofDay (w.day + n) w.timeOfDay

@[simp] theorem Calendar.WallClock.day_addDays (w : WallClock) (n : Int) :
    (w.addDays n).day = w.day + n :=
  day_ofDay w.timeOfDay_nonneg w.timeOfDay_lt

theorem Calendar.WallClock.millis_addDays (w : WallClock) (n : Int) :
    (w.addDays n).millis = w.millis + n * Duration.day := by
  have h := congrArg millis w.ofDay_day_timeOfDay
  simp only [ofDay] at h
  simp only [addDays, ofDay]
  rw [← h, Int.add_mul]
  omega

namespace Shift

variable {s : Shift}

/-- **Without days, a shift counts months** and takes the day of the month or the last one
that there is. -/
theorem Carries.date (h : s.Carries w w') (hs : s.days = 0) :
    w'.date.monthIndex = w.date.monthIndex + (12 * s.years + s.months) ∧
      w'.date.day = min w.date.day (monthLength w'.date.year w'.date.month) := by
  obtain ⟨d, hmonths, hday, hdays, -⟩ := h
  rw [hs, Int.add_zero] at hdays
  have hdate : w'.date = d := by
    rw [WallClock.date, hdays, Date.ofDay_toDay]
  rw [hdate]
  exact ⟨hmonths, hday⟩

theorem toDay_date (w : WallClock) : w.date.toDay = w.day :=
  Date.toDay_ofDay w.day

/-- **A shift by days** counts them and keeps the time of day. -/
theorem Carries.eq_addDays (h : Carries { days := n } w w') :
    w' = w.addDays n := by
  obtain ⟨d, hmonths, hday, hdays, htime⟩ := h
  have hindex : d.monthIndex = w.date.monthIndex := by
    simpa using hmonths
  have hyear : d.year = w.date.year := by
    rw [← Period.monthIndex_ediv d, hindex, Period.monthIndex_ediv]
  have hmonth : d.month = w.date.month := by
    rw [← Period.monthIndex_emod d, hindex, Period.monthIndex_emod]
  have hsame : d.toDay = w.day := by
    have := w.date.day_le
    rw [hyear, hmonth] at hday
    rw [← toDay_date w, Date.toDay, Date.toDay, hyear, hmonth]
    omega
  rw [← w'.ofDay_day_timeOfDay, hdays, htime, hsame, WallClock.addDays]

/-- **A moved instant has the date of its target**, or that of the day after if a leap skips
the target. -/
theorem exists_day_of_move (h : s.move tz instant = .ok j) (hw : Shows tz instant w)
    (hv : Shows tz j v) : ∃ w', s.Carries w w' ∧ (¬ Zone.Overleaps tz w' → v.day = w'.day) ∧
      (Zone.Overleaps tz w' → v.day = w'.day + 1) := by
  obtain ⟨z, w₀, w', hz, hw₀, hcarries, rfl⟩ := exists_carries_of_move h
  obtain rfl := hw.unique hw₀
  obtain ⟨-, -, rfl⟩ := Zone.wallClock?_eq_some_iff.1 ((shows_iff hz).1 hv)
  exact ⟨w', hcarries, Zone.day_reading_earliest hz, Zone.day_reading_earliest_of_overleaps hz⟩

end Shift

/-! ### Periods -/

namespace Period

variable {p : Period}

/-- Around instants of one period lies one span. -/
theorem span_congr (hw : Shows tz instant w) (hv : Shows tz j v)
    (h : p.index w.date = p.index v.date) (hr : p.span tz instant = .ok r) :
    p.span tz j = .ok r := by
  obtain ⟨z, hz, hr⟩ := exists_find_of_inZone hr
  obtain ⟨w₀, hw₀, hspan⟩ := span?_eq_some_iff.1 hr
  obtain rfl := hw.unique ((shows_iff hz).2 hw₀)
  rw [h] at hspan
  exact (inZone_eq_ok_iff hz).2 (span?_eq_some_iff.2 ⟨v, (shows_iff hz).1 hv, hspan⟩)

instance : (p : Period) → (n : Int) → Decidable (p.Opens n)
  | day, _ => inferInstanceAs (Decidable True)
  | week, _ => inferInstanceAs (Decidable (_ = _))
  | month, _ => inferInstanceAs (Decidable (_ = _))
  | year, _ => inferInstanceAs (Decidable (_ ∧ _))

/-- From one day to the next the number of the period stays or, if one opens, increases by
one. -/
theorem index_ofDay_succ (p : Period) (n : Int) :
    (¬ p.Opens (n + 1) → p.index (Date.ofDay (n + 1)) = p.index (Date.ofDay n)) ∧
      (p.Opens (n + 1) → p.index (Date.ofDay (n + 1)) = p.index (Date.ofDay n) + 1) := by
  obtain ⟨h₁, h₂⟩ := (p.index_ofDay_eq_iff (n := n)).1 rfl
  have h₃ := p.opening_lt_succ (p.index (Date.ofDay n) + 1)
  rw [opens_iff]
  by_cases hlast : n + 1 = p.opening (p.index (Date.ofDay n) + 1)
  · have hnext : p.index (Date.ofDay (n + 1)) = p.index (Date.ofDay n) + 1 :=
      p.index_ofDay_eq_iff.2 ⟨by omega, by omega⟩
    refine ⟨fun hnot => absurd ?_ hnot, fun _ => hnext⟩
    rw [hnext]
    exact hlast.symm
  · have hsame : p.index (Date.ofDay (n + 1)) = p.index (Date.ofDay n) :=
      p.index_ofDay_eq_iff.2 ⟨by omega, by omega⟩
    refine ⟨fun _ => hsame, fun hopens => ?_⟩
    rw [hsame] at hopens
    omega

/-! ### Starts -/

theorem day_reading_midnight_le (hz : Zone.find tz = .ok z) (n : Int) :
    (z.reading (z.earliest (.ofDay n 0))).day ≤ n + 1 := by
  have hday : (WallClock.ofDay n 0).day = n := WallClock.day_ofDay (by decide) (by decide)
  by_cases h : Zone.Overleaps tz (.ofDay n 0)
  · have := Zone.day_reading_earliest_of_overleaps hz h
    omega
  · have := Zone.day_reading_earliest hz h
    omega

theorem not_skipsDay_of_showsDay (hz : Zone.find tz = .ok z) (h : ShowsDay tz n) :
    ¬ Zone.SkipsDay tz (Date.ofDay n) := by
  obtain ⟨i, w, hw, rfl⟩ := h
  exact fun hskip => Zone.not_shows_of_overleaps hz (Or.inl hskip) i hw

/-- **Midnight is converted to its day** if the clocks show that day, whether or not they
show the midnight. -/
theorem day_reading_midnight (hz : Zone.find tz = .ok z) (h : ShowsDay tz n) :
    (z.reading (z.earliest (.ofDay n 0))).day = n := by
  have hday : (WallClock.ofDay n 0).day = n := WallClock.day_ofDay (by decide) (by decide)
  have hhour : (WallClock.ofDay n 0).hour = 0 := by
    rw [WallClock.hour, WallClock.timeOfDay_ofDay (by decide) (by decide)]
    decide
  rw [Zone.day_reading_earliest hz, hday]
  rintro (hskip | ⟨-, hlate⟩)
  · rw [WallClock.date, hday] at hskip
    exact not_skipsDay_of_showsDay hz h hskip
  · rw [hhour] at hlate
    exact absurd hlate (by decide)

/-- **Periods start in order**, if the earlier one does not start past its end. -/
theorem earliest_opening_lt (p : Period) (hz : Zone.find tz = .ok z) {k k' : Int} (hlt : k < k')
    (hday : (z.reading (z.earliest (.ofDay (p.opening k) 0))).day < p.opening (k + 1)) :
    z.earliest (.ofDay (p.opening k) 0) < z.earliest (.ofDay (p.opening k') 0) := by
  have h₁ := p.opening_lt_succ k
  have h₂ := p.opening_mono (by omega : k + 1 ≤ k')
  refine Zone.earliest_lt_earliest hz (not_misread_midnight tz _) (not_misread_midnight tz _) ?_ ?_
  · simp only [WallClock.ofDay, Duration.day_eq]
    omega
  · rw [WallClock.day_ofDay (by decide) (by decide)]
    omega

end Period

end Timespan
