import Timespan.Proofs.Zone.Midnight

/-!
# Midnights part the days

Clocks that are put back show some readings twice, and in between they may have shown later
ones. So the instants at which they show a day, or a month, need not lie together: where the
clocks go back from half past midnight to half past eleven, the new day begins, is interrupted
by the old one, and begins again.

No zone does so. Its changes may begin or end at a midnight, but none has a midnight strictly
between the two readings that it connects (`Zone.clearOfMidnight_of_find`), and so the instant
to which a midnight is converted parts all others: from then on the clocks show the day that
begins there or a later one, and never before (`Zone.earliest_midnight_le_iff`).

For clocks that change one at a time this holds of any reading that is not strictly inside a
change (`Zone.Near.sub_le_iff`). What is particular to midnights is only the check of the
tables and rules.
-/

namespace Timespan.Zone

open Calendar

variable {offsetAt offsetOnWall : Int → Int} {tz : Option Text} {z : Zone} {w t : Int} {c : Change}

/-! ### Readings inside a change -/

/-- **A change goes over a reading** that lies strictly between the last reading of the clocks
before the change and the first one after it, whichever of the two is ahead. -/
def Change.GoesOver (c : Change) (w : Int) : Prop :=
  c.time + min c.before c.after < w ∧ w < c.time + max c.before c.after

/-- **A reading parts the instants** if the change near it does not go over it: the clocks have
come to it, or past it, from the second on to which it is converted. -/
theorem Near.sub_le_iff (h : Near offsetAt offsetOnWall w c) (hday : ∀ t, WithinDay (offsetAt t))
    (hc : ¬ c.GoesOver w) : w - offsetOnWall w ≤ t ↔ w ≤ t + offsetAt t := by
  obtain ⟨⟨hb₁, hb₂⟩, ⟨ha₁, ha₂⟩, -, hat, hwall⟩ := h
  obtain ⟨hd₁, hd₂⟩ := hday t
  -- a day away the offset does not matter, and nearer there is the one change
  have hnear := hat t
  simp only [Change.GoesOver, Change.offsetAt, Change.offsetOnWall] at hc hnear hwall
  omega

/-- The change near a reading that it goes over is made by the clocks. -/
theorem Near.changeAt_of_goesOver (h : Near offsetAt offsetOnWall w c) (hc : c.GoesOver w) :
    changeAt offsetAt c.time = c ∧ c.before ≠ c.after := by
  obtain ⟨⟨hb₁, hb₂⟩, ⟨ha₁, ha₂⟩, -, hat, -⟩ := h
  obtain ⟨h₁, h₂⟩ := hc
  have hbefore := hat (c.time - 1) (by omega) (by omega)
  have hafter := hat c.time (by omega) (by omega)
  rw [Change.offsetAt, if_pos (by omega)] at hbefore
  rw [Change.offsetAt, if_neg (by omega)] at hafter
  exact ⟨by rw [changeAt, hbefore, hafter], by omega⟩

/-! ### Changes and midnights -/

/-- **A change is clear of midnight** if it goes over none: the two readings that it connects
lie within one day, its ends included. -/
def Change.ClearOfMidnight (c : Change) : Prop :=
  (c.time + min c.before c.after) % 86400 + (max c.before c.after - min c.before c.after) ≤ 86400

instance (c : Change) : Decidable c.ClearOfMidnight :=
  inferInstanceAs (Decidable (_ ≤ _))

theorem Change.ClearOfMidnight.not_goesOver (h : c.ClearOfMidnight) (n : Int) :
    ¬ c.GoesOver (86400 * n) := by
  unfold ClearOfMidnight at h
  rintro ⟨h₁, h₂⟩
  omega

/-- Both changes of a rule are clear of midnight, in every year. -/
def Rule.ClearOfMidnight : Rule → Prop
  | .fixed _ => True
  | .yearly standard daylight start stop =>
    (start.time - standard + min standard daylight) % 86400 +
        (max standard daylight - min standard daylight) ≤ 86400 ∧
      (stop.time - daylight + min standard daylight) % 86400 +
        (max standard daylight - min standard daylight) ≤ 86400

instance : (r : Rule) → Decidable r.ClearOfMidnight
  | .fixed _ => inferInstanceAs (Decidable True)
  | .yearly _ _ _ _ => inferInstanceAs (Decidable (_ ∧ _))

theorem Rule.ClearOfMidnight.of_isChange {r : Rule} (h : r.ClearOfMidnight) (hc : r.IsChange c) :
    c.ClearOfMidnight := by
  cases r with
  | fixed offset => exact absurd hc id
  | yearly standard daylight start stop =>
    obtain ⟨hstart, hstop⟩ := h
    obtain ⟨y, rfl | rfl⟩ := hc
    · simp only [Change.ClearOfMidnight, Changeover.second]
      omega
    · simp only [Change.ClearOfMidnight, Changeover.second]
      omega

/-- **Clocks are clear of midnight** if the changes of their table and of their rule are. -/
def ClearOfMidnight (z : Zone) : Prop :=
  (∀ c ∈ changes z.initial z.transitions, c.ClearOfMidnight) ∧ z.after.ClearOfMidnight

instance (z : Zone) : Decidable z.ClearOfMidnight :=
  inferInstanceAs (Decidable (_ ∧ _))

/-- **The clocks of every zone** are clear of midnight. -/
theorem clearOfMidnight_of_find (hz : find tz = .ok z) : z.ClearOfMidnight := by
  cases tz with
  | none =>
    obtain rfl : host = z := Except.ok.inj hz
    decide
  | some key =>
    have hall : ∀ e ∈ catalogue, e.2.ClearOfMidnight := by
      decide +kernel
    exact hall _ (mem_of_find hz)

theorem clearOfMidnight_changeAt (hz : find tz = .ok z) (hne : z.offsetAt (t - 1) ≠ z.offsetAt t) :
    (changeAt z.offsetAt t).ClearOfMidnight := by
  obtain ⟨htable, hrule⟩ := clearOfMidnight_of_find hz
  rcases (regular_of_find hz).changeAt_mem hne with hmem | ⟨hchange, -⟩
  · exact htable _ hmem
  · exact hrule.of_isChange hchange

/-! ### Midnights -/

/-- No change near a midnight goes over it. -/
theorem not_goesOver_midnight (hz : find tz = .ok z) {n : Int}
    (h : Near z.offsetAt z.offsetOnWall (86400 * n) c) : ¬ c.GoesOver (86400 * n) := by
  intro hover
  obtain ⟨heq, hne⟩ := h.changeAt_of_goesOver hover
  have hmade : z.offsetAt (c.time - 1) ≠ z.offsetAt c.time := by
    rw [← heq] at hne
    exact hne
  have hclear := clearOfMidnight_changeAt hz hmade
  rw [heq] at hclear
  exact hclear.not_goesOver n hover

/-- **Midnights part the days**: from the instant to which the midnight of a day is converted
the clocks show that day or a later one, and before it they show earlier ones. -/
theorem earliest_midnight_le_iff (hz : find tz = .ok z) {n i : Int} :
    z.earliest (.ofDay n 0) ≤ i ↔ n ≤ (z.reading i).day := by
  have hsecond : (WallClock.ofDay n 0).millis / 1000 = 86400 * n := by
    simp only [WallClock.ofDay, Duration.day_eq]
    omega
  obtain ⟨c, hc⟩ := exists_near_of_not_misread hz (not_misread_midnight tz n)
  rw [hsecond] at hc
  have hparts := hc.sub_le_iff (t := i / 1000) (regular_of_find hz).withinDay_offsetAt
    (not_goesOver_midnight hz hc)
  rw [day_eq_ediv, millis_reading, earliest, hsecond]
  simp only [WallClock.ofDay, Duration.day_eq]
  omega

end Timespan.Zone
