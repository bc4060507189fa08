import Timespan.Proofs.Zone.Leap
import Timespan.Proofs.Zone.Reading

/-!
# The date on which a reading is converted

A reading is converted to an instant, and there the clocks show a reading again. How its
date compares with the one asked for is settled here, in the words of the calendar. The
readings that a leap skips are known by their date, and for some by their hour
(`Zone.overleaps_iff`):

| zone                                   | readings                                       |
|----------------------------------------|------------------------------------------------|
| those of `Zone.skippedDays`            | all of the day                                 |
| Santiago                               | from eleven on, on the 21st of May 1947        |
| Nuuk, from 2024 on                     | from eleven on, on the eve of the last Sunday of March |

At the instant to which such a reading is converted the clocks show the next day
(`Zone.day_reading_earliest_of_overleaps`). At that of any other they show the day of the
reading (`Zone.day_reading_earliest`), be it skipped, shown twice or misread. So the date
is either kept or one ahead, and it is one ahead for readings only that the clocks never
show (`Zone.not_shows_of_overleaps`).
-/

namespace Timespan

open Calendar

/-! ### Dates as they are written -/

/-- **A date is written** with a year, a month and a day. -/
def Calendar.Date.Is (d : Date) (year month day : Int) : Prop :=
  d.year = year ∧ d.month = month ∧ d.day = day

instance (d : Date) (year month day : Int) : Decidable (d.Is year month day) :=
  inferInstanceAs (Decidable (_ ∧ _ ∧ _))

/-- There is one date that is written so. -/
theorem Calendar.Date.Is.unique {d d' : Date} {year month day : Int} (h : d.Is year month day)
    (h' : d'.Is year month day) : d = d' := by
  obtain ⟨rfl, rfl, rfl⟩ := h
  obtain ⟨hy, hm, hd⟩ := h'
  cases d
  cases d'
  simp only at hy hm hd
  subst hy hm hd
  rfl

/-- The date that is written with a year, a month and a day, if they make one up. -/
def Calendar.Date.written (year month day : Int)
    (h : (1 ≤ month ∧ month ≤ 12) ∧ 1 ≤ day ∧ day ≤ monthLength year month) : Date :=
  ⟨year, month, day, h.1.1, h.1.2, h.2.1, h.2.2⟩

theorem Calendar.Date.ofDay_is_iff {n year month day : Int}
    (h : (1 ≤ month ∧ month ≤ 12) ∧ 1 ≤ day ∧ day ≤ monthLength year month) :
    (ofDay n).Is year month day ↔ n = (written year month day h).toDay := by
  constructor
  · intro his
    rw [← toDay_ofDay n]
    exact congrArg toDay (his.unique ⟨rfl, rfl, rfl⟩)
  · rintro rfl
    rw [ofDay_toDay]
    exact ⟨rfl, rfl, rfl⟩

namespace Zone

/-! ### Days and hours that are skipped -/

/-- The days that the clocks of a zone have left out. -/
def skippedDays : List (Text × Date) :=
  [(manilaKey, .written 1844 12 31 (by decide)), (kwajaleinKey, .written 1993 8 21 (by decide)),
   (kiritimatiKey, .written 1994 12 31 (by decide)), (apiaKey, .written 2011 12 30 (by decide))]

/-- The clocks leave out the day of a date. -/
def SkipsDay (tz : Option Text) (d : Date) : Prop :=
  ∃ e ∈ skippedDays, tz = some e.1 ∧ e.2 = d

instance (tz : Option Text) (d : Date) : Decidable (SkipsDay tz d) :=
  inferInstanceAs (Decidable (∃ e ∈ skippedDays, _ ∧ _))

/-- The clocks leave out the last hour of the day of a date. -/
def SkipsLastHour (tz : Option Text) (d : Date) : Prop :=
  tz = some santiagoKey ∧ d.Is 1947 5 21 ∨
    tz = some nuukKey ∧ 2024 ≤ d.year ∧ d.month = 3 ∧ 24 ≤ d.day ∧ d.day ≤ 30 ∧ d.weekday = 6

instance (tz : Option Text) (d : Date) : Decidable (SkipsLastHour tz d) :=
  inferInstanceAs (Decidable (_ ∧ _ ∨ _ ∧ _ ∧ _))

/-- **The readings from which the clocks are taken over midnight**: those of a day that
they leave out and those of a last hour that they leave out. -/
def Overleaps (tz : Option Text) (w : WallClock) : Prop :=
  SkipsDay tz w.date ∨ SkipsLastHour tz w.date ∧ w.hour = 23

instance (tz : Option Text) (w : WallClock) : Decidable (Overleaps tz w) :=
  inferInstanceAs (Decidable (_ ∨ _ ∧ _))

variable {tz : Option Text} {z : Zone} {w v : WallClock} {n s i : Int} {c : Change}

/-- The clocks of Nuuk are put forward on the eve of the last Sunday of March. -/
theorem eq_nuukSpring_day_iff {y : Int} :
    n = nuukSpring.day y - 1 ↔ (Date.ofDay n).year = y ∧ (Date.ofDay n).month = 3 ∧
      24 ≤ (Date.ofDay n).day ∧ (Date.ofDay n).day ≤ 30 ∧ (Date.ofDay n).weekday = 6 := by
  have hlength : monthLength y 3 = 31 := by
    simp [monthLength]
  have hday : nuukSpring.day y = if (-(newYear y + daysBeforeMonth y 3 + 4)) % 7 < 3 then
      newYear y + daysBeforeMonth y 3 + (-(newYear y + daysBeforeMonth y 3 + 4)) % 7 + 28 else
      newYear y + daysBeforeMonth y 3 + (-(newYear y + daysBeforeMonth y 3 + 4)) % 7 + 21 := by
    simp only [Changeover.day, Changeover.dayOfMonth, Changeover.firstOfMonth, nuukSpring, hlength]
    omega
  have htoDay := Date.toDay_ofDay n
  rw [hday, Date.weekday, htoDay]
  constructor
  · intro h
    have hsaturday : 24 ≤ n - (newYear y + daysBeforeMonth y 3) + 1 ∧
        n - (newYear y + daysBeforeMonth y 3) + 1 ≤ 30 ∧ (n + 4) % 7 = 6 := by
      omega
    obtain ⟨hy, hm, hd⟩ : (Date.ofDay n).Is y 3 (n - (newYear y + daysBeforeMonth y 3) + 1) :=
      (Date.ofDay_is_iff (by omega)).2 (by simp only [Date.toDay, Date.written]; omega)
    exact ⟨hy, hm, by omega, by omega, hsaturday.2.2⟩
  · rintro ⟨rfl, hm, h₁, h₂, hw⟩
    rw [Date.toDay, hm] at htoDay
    omega

/-! ### Leaps by their dates -/

/-- A change at midnight by a day skips a day. -/
theorem skips_iff_of_day {n : Int} (h₁ : c.time + c.before = 86400 * n) (h₂ : c.stride = 86400) :
    c.Skips s ↔ s / 86400 = n := by
  unfold Change.Skips
  unfold Change.stride at h₂
  omega

/-- A change by an hour at eleven in the evening skips the last hour of the day. -/
theorem skips_iff_of_lastHour {n : Int} (h₁ : c.time + c.before = 86400 * n + 82800)
    (h₂ : c.stride = 3600) : c.Skips s ↔ s / 86400 = n ∧ s % 86400 / 3600 = 23 := by
  unfold Change.Skips
  unfold Change.stride at h₂
  omega

theorem nuukLeap_skips_iff {y : Int} :
    (nuukLeap y).Skips s ↔ s / 86400 = nuukSpring.day y - 1 ∧ s % 86400 / 3600 = 23 := by
  refine skips_iff_of_lastHour ?_ rfl
  simp only [nuukLeap, Changeover.second, nuukSpring]
  omega

theorem santiagoLeap_skips_iff :
    (⟨-18000, -14400, -713649600⟩ : Change).Skips s ↔
      s / 86400 = (Date.written 1947 5 21 (by decide)).toDay ∧ s % 86400 / 3600 = 23 :=
  skips_iff_of_lastHour (by decide) (by decide)

theorem exists_leap_of_skipsDay (h : SkipsDay tz (Date.ofDay (s / 86400))) :
    ∃ c, Leaps tz c ∧ c.Skips s := by
  have hall : ∀ e ∈ skippedDays, ∃ l ∈ leaps, l.1 = e.1 ∧
      l.2.time + l.2.before = 86400 * e.2.toDay ∧ l.2.stride = 86400 := by
    decide +kernel
  obtain ⟨e, hmem, rfl, hdate⟩ := h
  obtain ⟨⟨key, c⟩, hc, rfl, hreached, hstride⟩ := hall _ hmem
  refine ⟨c, Or.inl ⟨_, rfl, hc⟩, (skips_iff_of_day hreached hstride).2 ?_⟩
  rw [hdate, Date.toDay_ofDay]

theorem exists_leap_of_skipsLastHour (h : SkipsLastHour tz (Date.ofDay (s / 86400)))
    (hhour : s % 86400 / 3600 = 23) : ∃ c, Leaps tz c ∧ c.Skips s := by
  obtain ⟨rfl, his⟩ | ⟨rfl, hy, hdate⟩ := h
  · refine ⟨⟨-18000, -14400, -713649600⟩, Or.inl ⟨_, rfl, List.mem_cons_self⟩,
      santiagoLeap_skips_iff.2 ⟨(Date.ofDay_is_iff (by decide)).1 his, hhour⟩⟩
  · exact ⟨nuukLeap _, Or.inr ⟨rfl, _, hy, rfl⟩,
      nuukLeap_skips_iff.2 ⟨eq_nuukSpring_day_iff.2 ⟨rfl, hdate⟩, hhour⟩⟩

theorem skipsDay_or_skipsLastHour (h : Leaps tz c) (hs : c.Skips s) :
    SkipsDay tz (Date.ofDay (s / 86400)) ∨
      SkipsLastHour tz (Date.ofDay (s / 86400)) ∧ s % 86400 / 3600 = 23 := by
  have hall : ∀ l ∈ leaps, l = (santiagoKey, ⟨-18000, -14400, -713649600⟩) ∨
      ∃ e ∈ skippedDays, l.1 = e.1 ∧ l.2.time + l.2.before = 86400 * e.2.toDay ∧
        l.2.stride = 86400 := by
    decide +kernel
  obtain ⟨key, rfl, hmem⟩ | ⟨rfl, y, hy, rfl⟩ := h
  · rcases hall _ hmem with heq | ⟨e, he, rfl, hreached, hstride⟩
    · obtain ⟨rfl, rfl⟩ := Prod.mk.inj heq
      obtain ⟨hday, hhour⟩ := santiagoLeap_skips_iff.1 hs
      exact Or.inr ⟨Or.inl ⟨rfl, (Date.ofDay_is_iff (by decide)).2 hday⟩, hhour⟩
    · refine Or.inl ⟨e, he, rfl, ?_⟩
      rw [(skips_iff_of_day hreached hstride).1 hs, Date.ofDay_toDay]
  · obtain ⟨hday, hhour⟩ := nuukLeap_skips_iff.1 hs
    obtain ⟨hyear, hdate⟩ := eq_nuukSpring_day_iff.1 hday
    exact Or.inr ⟨Or.inr ⟨rfl, by omega, hdate⟩, hhour⟩

/-! ### Readings by the second -/

theorem day_eq_ediv (w : WallClock) : w.day = w.millis / 1000 / 86400 := by
  simp only [WallClock.day, Duration.day_eq]
  omega

theorem hour_eq_ediv (w : WallClock) : w.hour = w.millis / 1000 % 86400 / 3600 := by
  simp only [WallClock.hour, WallClock.timeOfDay, Duration.day, Duration.hour, Duration.minute,
    Duration.second]
  omega

/-- **The readings that are carried past midnight** are those that a leap skips. -/
theorem overleaps_iff : Overleaps tz w ↔ ∃ c, Leaps tz c ∧ c.Skips (w.millis / 1000) := by
  rw [Overleaps, WallClock.date, day_eq_ediv, hour_eq_ediv]
  constructor
  · rintro (h | ⟨h, h'⟩)
    · exact exists_leap_of_skipsDay h
    · exact exists_leap_of_skipsLastHour h h'
  · rintro ⟨c, hc, hs⟩
    exact skipsDay_or_skipsLastHour hc hs

/-! ### What the clocks show -/

theorem not_misread_of_leaps (h : Leaps tz c) (hs : c.Skips s) : ¬ Misread tz s := by
  rintro ⟨rfl, h₁, h₂⟩
  have hother : ∀ l ∈ leaps, l.1 ≠ nuukKey := by
    decide
  obtain ⟨key, hkey, hmem⟩ | ⟨-, y, hy, rfl⟩ := h
  · exact hother _ hmem (Option.some.inj hkey).symm
  · have hlate := nuukSpring_second_lt_iff.2 hy
    obtain ⟨h₃, -⟩ := hs
    simp only [nuukLeap, Changeover.second, nuukSpring] at hlate h₃
    omega

/-- What the clocks show at the instant of a reading, to the second. -/
theorem millis_reading_earliest_ediv (z : Zone) (w : WallClock) :
    (z.reading (z.earliest w)).millis / 1000 =
      landing z.offsetAt z.offsetOnWall (w.millis / 1000) := by
  rw [millis_reading, earliest_ediv, earliest, landing]
  omega

section Find

variable (hz : find tz = .ok z)
include hz

theorem exists_near_of_not_misread (h : ¬ Misread tz s) :
    ∃ c, Near z.offsetAt z.offsetOnWall s c :=
  (regular_of_find hz).exists_near (settled_of_not_misread hz h)

/-- A reading in the misread hour is converted an hour too early. -/
theorem millis_reading_of_misread (h : Misread tz (w.millis / 1000)) :
    (z.reading (z.earliest w)).millis = w.millis - 3600000 := by
  obtain ⟨hshow, -⟩ := shows_earliest_of_misread hz h
  rw [((wallClock?_eq_some_iff.1 ((shows_iff hz).1 hshow)).2.2)]

/-- **The date is kept** where no leap skips the reading. -/
theorem day_reading_earliest (h : ¬ Overleaps tz w) : (z.reading (z.earliest w)).day = w.day := by
  by_cases hmis : Misread tz (w.millis / 1000)
  · obtain ⟨-, h₁, h₂⟩ := id hmis
    rw [WallClock.day, millis_reading_of_misread hz hmis, WallClock.day]
    simp only [Duration.day_eq]
    omega
  · rw [day_eq_ediv, millis_reading_earliest_ediv, day_eq_ediv]
    obtain ⟨c, hc⟩ := exists_near_of_not_misread hz hmis
    rcases hc.landing_eq_or_skips with heq | ⟨t, hs⟩
    · rw [heq]
    · rw [hc.landing_of_skips (regular_of_find hz).withinDay_offsetAt hs]
      rcases keepsDate_or_leaps hz hs.before_lt_after with hkeeps | hleaps
      · exact hkeeps.ediv_eq hs
      · exact absurd (overleaps_iff.2 ⟨_, hleaps, hs⟩) h

/-- **The date is one ahead** where a leap skips the reading. -/
theorem day_reading_earliest_of_overleaps (h : Overleaps tz w) :
    (z.reading (z.earliest w)).day = w.day + 1 := by
  obtain ⟨c, hleaps, hs⟩ := overleaps_iff.1 h
  obtain ⟨c', hc'⟩ := exists_near_of_not_misread hz (not_misread_of_leaps hleaps hs)
  have hchange := changeAt_of_leaps hz hleaps
  have hland := hc'.landing_of_skips (t := c.time) (regular_of_find hz).withinDay_offsetAt
    (by rw [hchange]; exact hs)
  rw [day_eq_ediv, millis_reading_earliest_ediv, day_eq_ediv, hland, hchange, hleaps.ediv_eq hs]

/-- The clocks never show what a leap skips. -/
theorem not_shows_of_overleaps (h : Overleaps tz w) (i : Int) : ¬ Shows tz i w := by
  intro hshow
  obtain ⟨c, hleaps, hs⟩ := overleaps_iff.1 h
  obtain ⟨c', hc'⟩ := exists_near_of_not_misread hz (not_misread_of_leaps hleaps hs)
  refine hc'.not_shown_of_skips (t := c.time) (regular_of_find hz).withinDay_offsetAt
    (by rw [changeAt_of_leaps hz hleaps]; exact hs) (i / 1000) ?_
  exact add_offsetAt_of_reading (wallClock?_eq_some_iff.1 ((shows_iff hz).1 hshow)).2.2

/-- **Readings a day apart** are converted in their order, unless the clocks have come to
the day of the later one already with the earlier one. -/
theorem earliest_lt_earliest {w' : WallClock} (hw : ¬ Misread tz (w.millis / 1000))
    (hw' : ¬ Misread tz (w'.millis / 1000)) (hle : w.millis + 86400000 ≤ w'.millis)
    (hland : (z.reading (z.earliest w)).day < w'.day) : z.earliest w < z.earliest w' := by
  obtain ⟨c, hc⟩ := exists_near_of_not_misread hz hw
  obtain ⟨c', hc'⟩ := exists_near_of_not_misread hz hw'
  rw [day_eq_ediv, millis_reading_earliest_ediv, day_eq_ediv] at hland
  have hlt := hc.sub_lt_sub hc' (by omega) (by omega)
  unfold earliest
  omega

end Find

end Zone
end Timespan
