import Timespan.Proofs.Zone.Change
import Timespan.Zone.Rule

/-!
# The yearly rules, season by season

A yearly rule changes the clocks twice in every year, never near its ends and never
twice in a month, if the two changes are in different months from February to
November (`Zone.Rule.Regular`). So a year has an inner season, from the earlier change to
the later one, and an outer season, which goes on over the turn of the year
(`Zone.season`); which of them is daylight saving time depends on the hemisphere.

* `Rule.exists_near`: seen from any reading, a regular rule changes the clocks at
  most once.
* `Rule.offset_of_quiet`: between two times of a year with no change in between, the
  offset stays what it is (`Rule.Quiet`).
-/

namespace Timespan.Zone

open Calendar

/-! ### The day of a change -/

theorem daysBeforeMonth_mono {y a b : Int} (h : a ≤ b) :
    daysBeforeMonth y a ≤ daysBeforeMonth y b := by
  rcases Int.lt_or_eq_of_le h with h | rfl
  · exact Int.le_of_lt (daysBeforeMonth_lt h)
  · exact Int.le_refl _

namespace Changeover

/-- A change from February to November, at most a day away from its day. -/
def Midyear (c : Changeover) : Prop :=
  2 ≤ c.month ∧ c.month ≤ 11 ∧ 1 ≤ c.week ∧ c.week ≤ 5 ∧ -86400 ≤ c.time ∧ c.time ≤ 86400

instance (c : Changeover) : Decidable c.Midyear :=
  inferInstanceAs (Decidable (_ ∧ _))

variable {c d : Changeover}

/-- The day of a change lies in its month. -/
theorem day_mem_month (h : c.Midyear) (y : Int) :
    newYear y + daysBeforeMonth y c.month ≤ c.day y ∧
      c.day y < newYear y + daysBeforeMonth y (c.month + 1) := by
  obtain ⟨hm₁, hm₂, hw₁, hw₂, -, -⟩ := h
  have hlen := monthLength_pos y c.month
  rw [daysBeforeMonth_succ (by omega) (by omega)]
  have hday : 0 ≤ c.dayOfMonth y ∧ c.dayOfMonth y ≤ 34 := by
    unfold dayOfMonth
    omega
  unfold day
  split
  · simp only [firstOfMonth]
    omega
  · -- the month has no such week, so the change comes a week earlier
    simp only [firstOfMonth]
    omega

/-- A change is a month away from the ends of its year. -/
theorem day_mem_year (h : c.Midyear) (y : Int) :
    newYear y + 31 ≤ c.day y ∧ c.day y + 31 < newYear (y + 1) := by
  obtain ⟨hd₁, hd₂⟩ := day_mem_month h y
  obtain ⟨hm₁, hm₂, -⟩ := h
  have hfebruary : daysBeforeMonth y 2 = 31 := by
    simp [daysBeforeMonth, februaryGap]
  have hdecember : daysBeforeMonth y 12 + 31 = yearLength y := by
    have hlength : monthLength y 12 = 31 := by simp [monthLength]
    rw [← daysBeforeMonth_thirteen, ← hlength]
    exact (daysBeforeMonth_succ (by omega) (by omega)).symm
  have h₁ : daysBeforeMonth y 2 ≤ daysBeforeMonth y c.month := daysBeforeMonth_mono hm₁
  have h₂ : daysBeforeMonth y (c.month + 1) ≤ daysBeforeMonth y 12 :=
    daysBeforeMonth_mono (by omega)
  rw [newYear_succ]
  omega

/-- Two changes with a month between them are four weeks apart. -/
theorem day_add_le_day (hc : c.Midyear) (hd : d.Midyear) (h : c.month + 2 ≤ d.month) (y : Int) :
    c.day y + 28 ≤ d.day y := by
  obtain ⟨-, hc₂⟩ := day_mem_month hc y
  obtain ⟨hd₁, -⟩ := day_mem_month hd y
  obtain ⟨hm₁, -⟩ := hc
  obtain ⟨-, hm₂, -⟩ := hd
  have hlen := monthLength_pos y (c.month + 1)
  have hsucc := daysBeforeMonth_succ (y := y) (m := c.month + 1) (by omega) (by omega)
  have hmono : daysBeforeMonth y (c.month + 1 + 1) ≤ daysBeforeMonth y d.month :=
    daysBeforeMonth_mono (by omega)
  omega

end Changeover

/-! ### Two seasons -/

/-- The offset at `t`, if every year has an inner season that opens and closes at the
given times. -/
def season (outer inner : Int) (opens closes : Int → Int) (t : Int) : Int :=
  if opens (Rule.yearOfSecond t) ≤ t ∧ t < closes (Rule.yearOfSecond t) then inner else outer

theorem yearOfSecond_eq_iff {t y : Int} :
    Rule.yearOfSecond t = y ↔ 86400 * newYear y ≤ t ∧ t < 86400 * newYear (y + 1) := by
  rw [Rule.yearOfSecond, yearOfDay_eq_iff]
  omega

/-- **The inner season keeps its distance** from the ends of the year, and it is not
short. -/
structure Seasonal (opens closes : Int → Int) : Prop where
  /-- It opens days after the beginning of the year. -/
  opens_ge : ∀ y, 86400 * newYear y + 259200 ≤ opens y
  /-- It closes days after it has opened. -/
  closes_ge : ∀ y, opens y + 345600 ≤ closes y
  /-- It closes days before the end of the year. -/
  closes_le : ∀ y, closes y + 259200 ≤ 86400 * newYear (y + 1)

section Season

variable {outer inner : Int} {opens closes : Int → Int} {w y : Int}

/-- From the last days of the year before until it is about to close, a season only
opens. -/
theorem season_of_lt_closes (h : Seasonal opens closes) {t : Int}
    (h₁ : 86400 * newYear y - 86400 ≤ t) (h₂ : t < closes y) :
    season outer inner opens closes t = if t < opens y then outer else inner := by
  have ho := h.opens_ge y
  have hc := h.closes_le y
  rcases (by omega : t < 86400 * newYear y ∨ 86400 * newYear y ≤ t) with hlt | hge
  · -- the year before has closed its season
    have hlast := h.closes_le (y - 1)
    have hopen := h.opens_ge (y - 1)
    have hclose := h.closes_ge (y - 1)
    rw [Int.sub_add_cancel] at hlast
    have hyear : Rule.yearOfSecond t = y - 1 := by
      rw [yearOfSecond_eq_iff, Int.sub_add_cancel]
      omega
    rw [season, hyear, if_neg (by omega), if_pos (by omega)]
  · have hyear : Rule.yearOfSecond t = y := yearOfSecond_eq_iff.2 ⟨hge, by omega⟩
    rw [season, hyear]
    by_cases hopen : t < opens y
    · rw [if_neg (by omega), if_pos hopen]
    · rw [if_pos (by omega), if_neg hopen]

/-- From when it has opened into the first days of the next year, a season only
closes. -/
theorem season_of_opens_le (h : Seasonal opens closes) {t : Int} (h₁ : opens y ≤ t)
    (h₂ : t < 86400 * newYear (y + 1) + 86400) :
    season outer inner opens closes t = if t < closes y then inner else outer := by
  have ho := h.opens_ge y
  have hc := h.closes_le y
  rcases (by omega : t < 86400 * newYear (y + 1) ∨ 86400 * newYear (y + 1) ≤ t) with hlt | hge
  · have hyear : Rule.yearOfSecond t = y := yearOfSecond_eq_iff.2 ⟨by omega, hlt⟩
    rw [season, hyear]
    by_cases hclose : t < closes y
    · rw [if_pos (by omega), if_pos hclose]
    · rw [if_neg (by omega), if_neg hclose]
  · -- the next year has not opened its season
    have hopen := h.opens_ge (y + 1)
    have hclose := h.closes_ge (y + 1)
    have hend := h.closes_le (y + 1)
    have hyear : Rule.yearOfSecond t = y + 1 := by
      rw [yearOfSecond_eq_iff]
      omega
    rw [season, hyear, if_neg (by omega), if_neg (by omega)]

/-- **Two seasons change the clocks one at a time.** A reading of the first half of
its year sees the season open, one of the second half sees it close. -/
theorem exists_near_season (h : Seasonal opens closes) (ho : WithinDay outer)
    (hi : WithinDay inner) (hw : beginning + 31622400 ≤ w) :
    ∃ c, Near (season outer inner opens closes)
      (season outer inner (fun y => opens y + max outer inner)
        (fun y => closes y + max outer inner)) w c := by
  obtain ⟨y, hy⟩ : ∃ y, Rule.yearOfSecond w = y := ⟨_, rfl⟩
  obtain ⟨hw₁, hw₂⟩ := yearOfSecond_eq_iff.1 hy
  have hopen := h.opens_ge y
  have hclose := h.closes_ge y
  have hend := h.closes_le y
  have hbegin : beginning ≤ opens y := by
    have hlength := yearLength_le y
    rw [newYear_succ] at hw₂
    omega
  obtain ⟨ho₁, ho₂⟩ := ho
  obtain ⟨hi₁, hi₂⟩ := hi
  by_cases hhalf : w < opens y + 172800
  · -- two days after it has opened the season is still days away from closing
    refine ⟨⟨outer, inner, opens y⟩, ⟨ho₁, ho₂⟩, ⟨hi₁, hi₂⟩, Or.inr hbegin, ?_, ?_⟩
    · intro t ht₁ ht₂
      exact season_of_lt_closes h (by omega) (by omega)
    · simp only [season, hy, Change.offsetOnWall]
      by_cases hlt : w < opens y + max outer inner
      · rw [if_neg (by omega), if_pos hlt]
      · rw [if_pos (by omega), if_neg hlt]
  · refine ⟨⟨inner, outer, closes y⟩, ⟨hi₁, hi₂⟩, ⟨ho₁, ho₂⟩,
      Or.inr (by omega : beginning ≤ closes y), ?_, ?_⟩
    · intro t ht₁ ht₂
      exact season_of_opens_le h (by omega) (by omega)
    · simp only [season, hy, Change.offsetOnWall]
      by_cases hlt : w < closes y + max inner outer
      · rw [if_pos (by omega), if_pos hlt]
      · rw [if_neg (by omega), if_neg hlt]

end Season

/-! ### The rules -/

namespace Rule

/-- The offset that a yearly rule gives at `t`, where its changes come late by
`delay`. -/
def yearlyOffset (standard daylight : Int) (start stop : Changeover) (delay t : Int) : Int :=
  if isDaylight (start.second (yearOfSecond t) - standard + delay)
      (stop.second (yearOfSecond t) - daylight + delay) t then daylight
  else standard

/-- **A regular rule**: offsets are shorter than a day, and the changes lie in
different seasons. -/
def Regular : Rule → Prop
  | fixed offset => WithinDay offset
  | yearly standard daylight start stop =>
    WithinDay standard ∧ WithinDay daylight ∧ start.Midyear ∧ stop.Midyear ∧
      (start.month + 2 ≤ stop.month ∨ stop.month + 2 ≤ start.month)

instance : (r : Rule) → Decidable r.Regular
  | fixed _ => inferInstanceAs (Decidable (WithinDay _))
  | yearly _ _ _ _ => inferInstanceAs (Decidable (_ ∧ _))

variable {standard daylight : Int} {start stop : Changeover}

theorem offsetAt_yearly :
    (yearly standard daylight start stop).offsetAt =
      yearlyOffset standard daylight start stop 0 := by
  funext t
  simp only [offsetAt, yearlyOffset, Int.add_zero]

theorem offsetOnWall_yearly :
    (yearly standard daylight start stop).offsetOnWall =
      yearlyOffset standard daylight start stop (max standard daylight) := rfl

/-- The season between two changes of the clocks, which are no more than a day
away from where the offsets put them. -/
theorem seasonal_of_month_lt {c d : Changeover} (hc : c.Midyear) (hd : d.Midyear)
    (h : c.month + 2 ≤ d.month) {a b : Int} (ha : WithinDay a) (hb : WithinDay b) :
    Seasonal (fun y => c.second y - a) (fun y => d.second y - b) := by
  obtain ⟨ha₁, ha₂⟩ := ha
  obtain ⟨hb₁, hb₂⟩ := hb
  have htime := hc.2.2.2.2
  have htime' := hd.2.2.2.2
  refine ⟨fun y => ?_, fun y => ?_, fun y => ?_⟩
  · have := Changeover.day_mem_year hc y
    simp only [Changeover.second]
    omega
  · have := Changeover.day_add_le_day hc hd h y
    simp only [Changeover.second]
    omega
  · have := Changeover.day_mem_year hd y
    simp only [Changeover.second]
    omega

theorem isDaylight_iff_of_lt {a b t : Int} (h : a < b) :
    isDaylight a b t = true ↔ a ≤ t ∧ t < b := by
  rw [isDaylight, if_pos h, decide_eq_true_eq]

theorem isDaylight_iff_of_le {a b t : Int} (h : b ≤ a) :
    isDaylight a b t = true ↔ ¬ (b ≤ t ∧ t < a) := by
  rw [isDaylight, if_neg (by omega), Bool.not_eq_true', decide_eq_false_iff_not]

/-- North of the equator daylight saving time is the inner season. -/
theorem yearlyOffset_north {delay : Int}
    (h : Seasonal (fun y => start.second y - standard) (fun y => stop.second y - daylight)) :
    yearlyOffset standard daylight start stop delay =
      season standard daylight (fun y => start.second y - standard + delay)
        (fun y => stop.second y - daylight + delay) := by
  funext t
  have hopen := h.closes_ge (yearOfSecond t)
  have hlt : start.second (yearOfSecond t) - standard + delay <
      stop.second (yearOfSecond t) - daylight + delay := by omega
  simp only [yearlyOffset, season, isDaylight_iff_of_lt hlt]

/-- South of the equator standard time is the inner season. -/
theorem yearlyOffset_south {delay : Int}
    (h : Seasonal (fun y => stop.second y - daylight) (fun y => start.second y - standard)) :
    yearlyOffset standard daylight start stop delay =
      season daylight standard (fun y => stop.second y - daylight + delay)
        (fun y => start.second y - standard + delay) := by
  funext t
  have hopen := h.closes_ge (yearOfSecond t)
  have hle : stop.second (yearOfSecond t) - daylight + delay ≤
      start.second (yearOfSecond t) - standard + delay := by omega
  simp only [yearlyOffset, season, isDaylight_iff_of_le hle, ite_not]

/-- **A regular rule changes the clocks one at a time**, from a year after the beginning
on. -/
theorem exists_near {r : Rule} (h : r.Regular) {w : Int} (hw : beginning + 31622400 ≤ w) :
    ∃ c, Near r.offsetAt r.offsetOnWall w c := by
  cases r with
  | fixed offset => exact ⟨.none offset, near_none h w⟩
  | yearly standard daylight start stop =>
    obtain ⟨hs, hd, hstart, hstop, hmonth⟩ := h
    rw [offsetAt_yearly, offsetOnWall_yearly]
    rcases hmonth with hmonth | hmonth
    · have hseason := seasonal_of_month_lt hstart hstop hmonth hs hd
      rw [yearlyOffset_north hseason, yearlyOffset_north hseason]
      simpa using exists_near_season hseason hs hd hw
    · have hseason := seasonal_of_month_lt hstop hstart hmonth hd hs
      rw [yearlyOffset_south hseason, yearlyOffset_south hseason, Int.max_comm]
      simpa using exists_near_season hseason hd hs hw

theorem withinDay_yearlyOffset (hs : WithinDay standard) (hd : WithinDay daylight)
    (delay t : Int) : WithinDay (yearlyOffset standard daylight start stop delay t) := by
  unfold yearlyOffset
  split
  · exact hd
  · exact hs

theorem withinDay_offsetAt {r : Rule} (h : r.Regular) (t : Int) : WithinDay (r.offsetAt t) := by
  cases r with
  | fixed offset => exact h
  | yearly standard daylight start stop =>
    rw [offsetAt_yearly]
    exact withinDay_yearlyOffset h.1 h.2.1 0 t

theorem withinDay_offsetOnWall {r : Rule} (h : r.Regular) (w : Int) :
    WithinDay (r.offsetOnWall w) := by
  cases r with
  | fixed offset => exact h
  | yearly standard daylight start stop =>
    rw [offsetOnWall_yearly]
    exact withinDay_yearlyOffset h.1 h.2.1 _ w

/-! ### Quiet times -/

/-- How late the changes of a rule come on the wall. -/
def delayOnWall : Rule → Int
  | fixed _ => 0
  | yearly standard daylight _ _ => max standard daylight

/-- The offset that a rule gives at `t`, where its changes come late by `delay`. -/
def offset (r : Rule) (delay t : Int) : Int :=
  match r with
  | fixed offset => offset
  | yearly standard daylight start stop => yearlyOffset standard daylight start stop delay t

theorem offsetAt_eq_offset (r : Rule) : r.offsetAt = r.offset 0 := by
  cases r with
  | fixed offset => rfl
  | yearly standard daylight start stop => exact offsetAt_yearly

theorem offsetOnWall_eq_offset (r : Rule) : r.offsetOnWall = r.offset r.delayOnWall := by
  cases r with
  | fixed offset => rfl
  | yearly standard daylight start stop => rfl

/-- **A quiet time**: from `u` to `v` the clocks do not change, where changes come late
by `delay`. -/
def Quiet (r : Rule) (delay u v : Int) : Prop :=
  match r with
  | fixed _ => True
  | yearly standard daylight start stop =>
    yearOfSecond u = yearOfSecond v ∧
      (start.second (yearOfSecond u) - standard + delay ≤ u ∨
        v < start.second (yearOfSecond u) - standard + delay) ∧
      (stop.second (yearOfSecond u) - daylight + delay ≤ u ∨
        v < stop.second (yearOfSecond u) - daylight + delay)

instance : (r : Rule) → (delay u v : Int) → Decidable (r.Quiet delay u v)
  | fixed _, _, _, _ => inferInstanceAs (Decidable True)
  | yearly _ _ _ _, _, _, _ => inferInstanceAs (Decidable (_ ∧ _))

theorem isDaylight_congr {a b t u : Int} (ha : a ≤ t ↔ a ≤ u) (hb : b ≤ t ↔ b ≤ u) :
    isDaylight a b t = isDaylight a b u := by
  have ha' : t < a ↔ u < a := by omega
  have hb' : t < b ↔ u < b := by omega
  simp only [isDaylight, ha, hb, ha', hb']

theorem offset_of_quiet {r : Rule} {delay u v t : Int} (h : r.Quiet delay u v) (h₁ : u ≤ t)
    (h₂ : t ≤ v) : r.offset delay t = r.offset delay u := by
  cases r with
  | fixed offset => rfl
  | yearly standard daylight start stop =>
    obtain ⟨hyear, hstart, hstop⟩ := h
    -- the changes that matter are those of one year
    have hyear' : yearOfSecond t = yearOfSecond u := by
      have hu := yearOfSecond_eq_iff.1 (rfl : yearOfSecond u = _)
      have hv := yearOfSecond_eq_iff.1 hyear.symm
      exact yearOfSecond_eq_iff.2 ⟨by omega, by omega⟩
    simp only [offset, yearlyOffset, hyear']
    rw [isDaylight_congr (t := t) (u := u) (by omega) (by omega)]

end Rule

end Timespan.Zone
