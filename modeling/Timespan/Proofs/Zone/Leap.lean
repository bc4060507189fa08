import Timespan.Proofs.Zone.Changes

/-!
# Changes that lead to another date

When the clocks are put forward by an hour in the small hours of a day, a reading that
they skip is taken to a reading of the same day. A few changes are not like that, and the
clocks go over midnight with the readings that they skip: these changes are called
**leaps**. Four zones have once left out a whole day to change sides of the date line,
Santiago has once put its clocks forward at eleven in the evening, and Nuuk does so every
spring from 2024 on, as its rule is an hour before midnight.

That these are all is a check of the tables and rules (`Zone.keepsDate_or_leaps`): a
change that puts the clocks forward keeps the date, or it is a leap. A leap leads to the
next day, never further (`Zone.Leaps.ediv_eq`), and all of them are made
(`Zone.changeAt_of_leaps`).
-/

namespace Timespan.Zone

open Calendar

/-! ### Changes that keep the date -/

/-- **A change keeps the date** if what it skips lies so early in a day that the stride of
the change does not lead out of it. -/
def Change.KeepsDate (c : Change) : Prop :=
  (c.time + c.before) % 86400 + 2 * c.stride ≤ 86400

instance (c : Change) : Decidable c.KeepsDate :=
  inferInstanceAs (Decidable (_ ≤ _))

theorem Change.KeepsDate.ediv_eq {c : Change} {w : Int} (h : c.KeepsDate) (hs : c.Skips w) :
    (w + c.stride) / 86400 = w / 86400 := by
  obtain ⟨h₁, h₂⟩ := hs
  unfold KeepsDate stride at *
  omega

/-- The change that puts the clocks forward keeps the date in every year. -/
def Rule.KeepsDate : Rule → Prop
  | .fixed _ => True
  | .yearly standard daylight start stop =>
    (standard < daylight → start.time % 86400 + 2 * (daylight - standard) ≤ 86400) ∧
      (daylight < standard → stop.time % 86400 + 2 * (standard - daylight) ≤ 86400)

instance : (r : Rule) → Decidable r.KeepsDate
  | .fixed _ => inferInstanceAs (Decidable True)
  | .yearly _ _ _ _ => inferInstanceAs (Decidable (_ ∧ _))

theorem Rule.KeepsDate.keepsDate {r : Rule} {c : Change} (h : r.KeepsDate) (hc : r.IsChange c)
    (hlt : c.before < c.after) : c.KeepsDate := by
  cases r with
  | fixed offset => exact absurd hc id
  | yearly standard daylight start stop =>
    obtain ⟨hstart, hstop⟩ := h
    obtain ⟨y, rfl | rfl⟩ := hc
    · have := hstart hlt
      simp only [Change.KeepsDate, Change.stride, Changeover.second]
      omega
    · have := hstop hlt
      simp only [Change.KeepsDate, Change.stride, Changeover.second]
      omega

/-! ### Leaps -/

/-- The key of the zone in which the clocks once left out the hour before midnight. -/
def santiagoKey : Text := "America/Santiago".toList

/-- The key of a zone that left out a day in 1844. -/
def manilaKey : Text := "Asia/Manila".toList

/-- The key of a zone that left out a day in 2011. -/
def apiaKey : Text := "Pacific/Apia".toList

/-- The key of a zone that left out a day in 1994. -/
def kiritimatiKey : Text := "Pacific/Kiritimati".toList

/-- The key of a zone that left out a day in 1993. -/
def kwajaleinKey : Text := "Pacific/Kwajalein".toList

/-- The leaps that are transitions of a table. -/
def leaps : List (Text × Change) :=
  [(santiagoKey, ⟨-18000, -14400, -713649600⟩),
   (manilaKey, ⟨-57368, 29032, -3944621032⟩),
   (apiaKey, ⟨-36000, 50400, 1325239200⟩),
   (kiritimatiKey, ⟨-36000, 50400, 788868000⟩),
   (kwajaleinKey, ⟨-43200, 43200, 745934400⟩)]

/-- When Nuuk puts its clocks forward: an hour before the last Sunday of March begins. -/
def nuukSpring : Changeover where
  month := 3
  week := 5
  weekday := 0
  time := -3600

/-- The leap of Nuuk in the spring of a year. -/
def nuukLeap (y : Int) : Change where
  before := -7200
  after := -3600
  time := nuukSpring.second y + 7200

/-- **The leaps** of a zone: those of its table, and for Nuuk those of its rule once the
table has ended. -/
def Leaps (tz : Option Text) (c : Change) : Prop :=
  (∃ key, tz = some key ∧ (key, c) ∈ leaps) ∨
    tz = some nuukKey ∧ ∃ y, 2024 ≤ y ∧ c = nuukLeap y

/-- A leap leads to the next day. -/
theorem Leaps.ediv_eq {tz : Option Text} {c : Change} {w : Int} (h : Leaps tz c)
    (hs : c.Skips w) : (w + c.stride) / 86400 = w / 86400 + 1 := by
  have hall : ∀ e ∈ leaps, e.2.after = e.2.before + 86400 ∧ (e.2.time + e.2.before) % 86400 = 0 ∨
      e.2.after = e.2.before + 3600 ∧ (e.2.time + e.2.before) % 86400 = 82800 := by
    decide +kernel
  obtain ⟨h₁, h₂⟩ := hs
  unfold Change.stride
  obtain ⟨key, -, hmem⟩ | ⟨-, y, -, rfl⟩ := h
  · have := hall _ hmem
    simp only at this
    omega
  · simp only [nuukLeap, Changeover.second, nuukSpring] at h₁ h₂ ⊢
    omega

theorem nuukSpring_midyear : nuukSpring.Midyear := by
  decide

/-- The table of Nuuk ends in the autumn of 2023. -/
theorem nuukSpring_second_lt_iff {y : Int} :
    1698541200 < nuukSpring.second y + 7200 ↔ 2024 ≤ y := by
  obtain ⟨h₁, h₂⟩ := Changeover.day_mem_year nuukSpring_midyear y
  have htime : nuukSpring.time = -3600 := rfl
  unfold Changeover.second
  rcases Int.lt_trichotomy y 2023 with hlt | rfl | hgt
  · have := newYear_le_newYear_iff.2 (by omega : y + 1 ≤ 2023)
    have hyear : newYear 2023 = 19358 := by decide
    omega
  · have hday : nuukSpring.day 2023 = 19442 := by decide
    omega
  · have := newYear_le_newYear_iff.2 (by omega : 2024 ≤ y)
    have hyear : newYear 2024 = 19723 := by decide
    omega

variable {tz : Option Text} {z : Zone} {t : Int} {c : Change}

/-- **What puts the clocks forward** keeps the date or is a leap. -/
theorem keepsDate_or_leaps (hz : find tz = .ok z)
    (hlt : (changeAt z.offsetAt t).before < (changeAt z.offsetAt t).after) :
    (changeAt z.offsetAt t).KeepsDate ∨ Leaps tz (changeAt z.offsetAt t) := by
  have hchange := (regular_of_find hz).changeAt_mem (t := t) (Int.ne_of_lt hlt)
  cases tz with
  | none =>
    obtain rfl : host = z := Except.ok.inj hz
    obtain hmem | ⟨hrule, -⟩ := hchange
    · exact absurd hmem (by simp [changes, host, utc])
    · exact absurd hrule id
  | some key =>
    have hz' := mem_of_find hz
    obtain hmem | ⟨hrule, hpast⟩ := hchange
    · have htable : ∀ e ∈ catalogue, ∀ c ∈ changes e.2.initial e.2.transitions,
          c.before < c.after → c.KeepsDate ∨ (e.1, c) ∈ leaps := by
        decide +kernel
      rcases htable _ hz' _ hmem hlt with hkeeps | hleaps
      · exact Or.inl hkeeps
      · exact Or.inr (Or.inl ⟨key, rfl, hleaps⟩)
    · have hrules : ∀ e ∈ catalogue, e.2.after.KeepsDate ∨ e.1 = nuukKey := by
        decide +kernel
      rcases hrules _ hz' with hkeeps | rfl
      · exact Or.inl (hkeeps.keepsDate hrule hlt)
      · obtain rfl : nuuk = z := Except.ok.inj (find_nuuk.symm.trans hz)
        obtain ⟨y, hy | hy⟩ := hrule
        · have hlast : (⟨1698541200, -7200⟩ : Transition) ∈ nuuk.transitions := by
            decide +kernel
          have htime : t = nuukSpring.second y + 7200 := congrArg Change.time hy
          have := hpast _ hlast
          rw [htime] at this
          exact Or.inr (Or.inr ⟨rfl, y, nuukSpring_second_lt_iff.1 this, hy⟩)
        · rw [hy] at hlt
          exact absurd hlt (show ¬ (-3600 : Int) < -7200 by decide)

theorem offsetAt_nuuk_of_lt {t : Int} (ht : 1698541200 < t) :
    nuuk.offsetAt t = nuuk.after.offsetAt t := by
  have htimes : ∀ c ∈ nuuk.transitions, c.time ≤ 1698541200 := by
    decide +kernel
  rw [offsetAt_eq_offsetBy, offsetBy_of_forall_lt fun c hc => Int.lt_of_le_of_lt (htimes c hc) ht]

theorem changeAt_nuuk {y : Int} (hy : 2024 ≤ y) :
    changeAt nuuk.offsetAt (nuukLeap y).time = nuukLeap y := by
  have hlate := nuukSpring_second_lt_iff.2 hy
  have hhour : nuukSpring.second y % 3600 = 0 := by
    simp only [Changeover.second, nuukSpring]
    omega
  -- the second before is past the last transition too
  have hrule := Rule.changeAt_start (regular_of_find find_nuuk).1 (by decide) y
  have hbefore := offsetAt_nuuk_of_lt (t := nuukSpring.second y + 7200 - 1) (by omega)
  rw [changeAt, nuukLeap, hbefore, offsetAt_nuuk_of_lt hlate]
  exact hrule

/-- **The leaps are made** by the clocks of their zones. -/
theorem changeAt_of_leaps (hz : find tz = .ok z) (h : Leaps tz c) :
    changeAt z.offsetAt c.time = c := by
  obtain ⟨key, rfl, hmem⟩ | ⟨rfl, y, hy, rfl⟩ := h
  · have hall : ∀ e ∈ catalogue, ∀ l ∈ leaps, l.1 = e.1 →
        changeAt e.2.offsetAt l.2.time = l.2 := by
      decide +kernel
    exact hall _ (mem_of_find hz) _ hmem rfl
  · obtain rfl : nuuk = z := Except.ok.inj (find_nuuk.symm.trans hz)
    exact changeAt_nuuk hy

end Timespan.Zone
