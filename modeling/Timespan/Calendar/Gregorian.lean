/-!
# The Gregorian calendar

The calendar in its proleptic form: the rules of today hold for all years, those
before the reform, year zero and the negative ones included. Days are numbered
from the first of January 1970, which is day `0`.

| question                                   | answered by                                  |
|--------------------------------------------|----------------------------------------------|
| how long is a year, a month                | `yearLength`, `monthLength`                  |
| on which day does a year begin             | `newYear`                                    |
| how many days of a year precede a month    | `daysBeforeMonth`                            |
| in which year does a day lie               | `yearOfDay`, pinned down by `yearOfDay_eq_iff` |
| in which month does a day of the year lie  | `monthOfYearDay`, by `monthOfYearDay_eq_iff`  |

The last two are the inverses of the two before them. A year is found by an
odometer whose wheels are the cycles of four hundred, one hundred, four and one
years; the wheels of a hundred and of one year stop one short of a full turn on
the last day of a leap year.
-/

namespace Timespan.Calendar

/-! ### Leap years -/

/-- Every fourth year is a leap year, of the hundredth years every fourth. -/
def IsLeap (y : Int) : Prop :=
  y % 4 = 0 ∧ (y % 100 ≠ 0 ∨ y % 400 = 0)

instance (y : Int) : Decidable (IsLeap y) :=
  inferInstanceAs (Decidable (_ ∧ _))

/-- The number of days of a year. -/
def yearLength (y : Int) : Int :=
  if IsLeap y then 366 else 365

/-- The number of days of the month `m` of a year, where January is `1`. -/
def monthLength (y m : Int) : Int :=
  if m = 2 then (if IsLeap y then 29 else 28)
  else if m = 4 ∨ m = 6 ∨ m = 9 ∨ m = 11 then 30
  else 31

theorem yearLength_pos (y : Int) : 365 ≤ yearLength y := by
  unfold yearLength
  split <;> omega

theorem yearLength_le (y : Int) : yearLength y ≤ 366 := by
  unfold yearLength
  split <;> omega

theorem monthLength_pos (y m : Int) : 28 ≤ monthLength y m := by
  unfold monthLength
  split
  · split <;> omega
  · split <;> omega

theorem monthLength_le (y m : Int) : monthLength y m ≤ 31 := by
  unfold monthLength
  split
  · split <;> omega
  · split <;> omega

/-! ### The years -/

/-- The number of days of the first `n` years from the year one on. -/
def daysInYears (n : Int) : Int :=
  365 * n + n / 4 - n / 100 + n / 400

/-- The day on which a year begins. The year 1970 begins on day `0`. -/
def newYear (y : Int) : Int :=
  daysInYears (y - 1) - 719162

/-- **A year is as long as it is far to the next.** -/
theorem newYear_succ (y : Int) : newYear (y + 1) = newYear y + yearLength y := by
  have h : yearLength y = 365 + (y / 4 - (y - 1) / 4) - (y / 100 - (y - 1) / 100) +
      (y / 400 - (y - 1) / 400) := by
    by_cases h : IsLeap y
    · rw [yearLength, if_pos h]
      unfold IsLeap at h
      omega
    · rw [yearLength, if_neg h]
      unfold IsLeap at h
      omega
  unfold newYear daysInYears
  rw [h, Int.add_sub_cancel]
  omega

theorem newYear_lt_newYear {a b : Int} (h : a < b) : newYear a < newYear b := by
  unfold newYear daysInYears
  omega

theorem newYear_le_newYear_iff {a b : Int} : newYear a ≤ newYear b ↔ a ≤ b := by
  constructor
  · intro h
    by_cases hab : a ≤ b
    · exact hab
    · have := newYear_lt_newYear (by omega : b < a)
      omega
  · intro h
    rcases Int.lt_or_eq_of_le h with h | rfl
    · exact Int.le_of_lt (newYear_lt_newYear h)
    · exact Int.le_refl _

/-- **The odometer**: the year in which a day lies. -/
def yearOfDay (d : Int) : Int :=
  let days := d + 719162
  let inCycle := days % 146097
  let century := min (inCycle / 36524) 3
  let inCentury := inCycle - 36524 * century
  let inFour := inCentury % 1461
  400 * (days / 146097) + 100 * century + 4 * (inCentury / 1461) + min (inFour / 365) 3 + 1

/-- The days that have passed when the odometer shows these wheels. -/
theorem daysInYears_wheels {q c b e : Int} (hc : 0 ≤ c ∧ c ≤ 3) (hb : 0 ≤ b ∧ b ≤ 24)
    (he : 0 ≤ e ∧ e ≤ 3) :
    daysInYears (400 * q + 100 * c + 4 * b + e) =
      146097 * q + 36524 * c + 1461 * b + 365 * e := by
  have h₁ : (400 * q + 100 * c + 4 * b + e) / 4 = 100 * q + 25 * c + b := by omega
  have h₂ : (400 * q + 100 * c + 4 * b + e) / 100 = 4 * q + c := by omega
  have h₃ : (400 * q + 100 * c + 4 * b + e) / 400 = q := by omega
  rw [daysInYears, h₁, h₂, h₃]
  omega

/-- The position of the wheels on a day, and how many days of the year have
passed: the last day of a leap year is the only one with three hundred and
sixty-five days before it. -/
theorem exists_wheels (d : Int) : ∃ q c b e : Int,
    yearOfDay d = 400 * q + 100 * c + 4 * b + e + 1 ∧
      (0 ≤ c ∧ c ≤ 3) ∧ (0 ≤ b ∧ b ≤ 24) ∧ (0 ≤ e ∧ e ≤ 3) ∧
      0 ≤ d + 719162 - (146097 * q + 36524 * c + 1461 * b + 365 * e) ∧
      d + 719162 - (146097 * q + 36524 * c + 1461 * b + 365 * e) ≤ 365 ∧
      (d + 719162 - (146097 * q + 36524 * c + 1461 * b + 365 * e) = 365 →
        e = 3 ∧ (b = 24 → c = 3)) := by
  refine ⟨(d + 719162) / 146097, min ((d + 719162) % 146097 / 36524) 3,
    ((d + 719162) % 146097 - 36524 * min ((d + 719162) % 146097 / 36524) 3) / 1461,
    min (((d + 719162) % 146097 - 36524 * min ((d + 719162) % 146097 / 36524) 3) % 1461 / 365) 3,
    rfl, ?_, ?_, ?_, ?_, ?_, ?_⟩ <;> omega

/-- A day lies in the year that the odometer shows. -/
theorem newYear_yearOfDay (d : Int) :
    newYear (yearOfDay d) ≤ d ∧ d < newYear (yearOfDay d + 1) := by
  obtain ⟨q, c, b, e, hy, hc, hb, he, h₀, h₁, hlast⟩ := exists_wheels d
  have hdays : newYear (yearOfDay d) = 146097 * q + 36524 * c + 1461 * b + 365 * e - 719162 := by
    rw [newYear, hy, Int.add_sub_cancel, daysInYears_wheels hc hb he]
  refine ⟨by omega, ?_⟩
  rw [newYear_succ, hdays, yearLength]
  split
  · omega
  · next hleap =>
    unfold IsLeap at hleap
    omega

/-- **The year of a day** is the one that has begun by then and has not ended. -/
theorem yearOfDay_eq_iff {d y : Int} :
    yearOfDay d = y ↔ newYear y ≤ d ∧ d < newYear (y + 1) := by
  constructor
  · rintro rfl
    exact newYear_yearOfDay d
  · rintro ⟨h₁, h₂⟩
    obtain ⟨h₃, h₄⟩ := newYear_yearOfDay d
    have h₅ : y ≤ yearOfDay d := by
      by_cases h : y ≤ yearOfDay d
      · exact h
      · have := newYear_le_newYear_iff.2 (by omega : yearOfDay d + 1 ≤ y)
        omega
    have h₆ : yearOfDay d ≤ y := by
      by_cases h : yearOfDay d ≤ y
      · exact h
      · have := newYear_le_newYear_iff.2 (by omega : y + 1 ≤ yearOfDay d)
        omega
    omega

/-! ### The months of a year -/

/-- How far February falls short of thirty days, seen from the month `m`. -/
def februaryGap (y m : Int) : Int :=
  if m ≤ 2 then 0 else if IsLeap y then 1 else 2

/-- The number of days of a year that precede its month `m`. -/
def daysBeforeMonth (y m : Int) : Int :=
  (367 * m - 362) / 12 - februaryGap y m

/-- The month in which the day `k` of a year lies, where the first is day `0`. -/
def monthOfYearDay (y k : Int) : Int :=
  (12 * (k + if k < daysBeforeMonth y 3 then 0 else if IsLeap y then 1 else 2) + 373) / 367

theorem daysBeforeMonth_one (y : Int) : daysBeforeMonth y 1 = 0 := by
  simp [daysBeforeMonth, februaryGap]

/-- **A month is as long as it is far to the next**, where after December comes the
end of the year. -/
theorem daysBeforeMonth_succ {y m : Int} (h₁ : 1 ≤ m) (h₂ : m ≤ 12) :
    daysBeforeMonth y (m + 1) = daysBeforeMonth y m + monthLength y m := by
  have h : m = 1 ∨ m = 2 ∨ m = 3 ∨ m = 4 ∨ m = 5 ∨ m = 6 ∨ m = 7 ∨ m = 8 ∨ m = 9 ∨ m = 10 ∨
      m = 11 ∨ m = 12 := by omega
  rcases h with rfl | rfl | rfl | rfl | rfl | rfl | rfl | rfl | rfl | rfl | rfl | rfl <;>
    by_cases hy : IsLeap y <;> simp [daysBeforeMonth, februaryGap, monthLength, hy]

theorem daysBeforeMonth_thirteen (y : Int) : daysBeforeMonth y 13 = yearLength y := by
  by_cases hy : IsLeap y <;> simp [daysBeforeMonth, februaryGap, yearLength, hy]

/-- A day of the year lies in the month found for it. -/
theorem daysBeforeMonth_monthOfYearDay {y k : Int} (h₁ : 0 ≤ k) (h₂ : k < yearLength y) :
    1 ≤ monthOfYearDay y k ∧ monthOfYearDay y k ≤ 12 ∧
      daysBeforeMonth y (monthOfYearDay y k) ≤ k ∧
      k < daysBeforeMonth y (monthOfYearDay y k + 1) := by
  unfold yearLength at h₂
  by_cases hy : IsLeap y
  · simp only [hy, if_true] at h₂
    simp only [monthOfYearDay, daysBeforeMonth, februaryGap, hy, if_true]
    repeat' split
    all_goals omega
  · simp only [hy, if_false] at h₂
    simp only [monthOfYearDay, daysBeforeMonth, februaryGap, hy, if_false]
    repeat' split
    all_goals omega

theorem daysBeforeMonth_lt {y a b : Int} (h : a < b) :
    daysBeforeMonth y a < daysBeforeMonth y b := by
  unfold daysBeforeMonth februaryGap
  repeat' split
  all_goals omega

/-- **The month of a day of the year** is the one that has begun by then and has
not ended. -/
theorem monthOfYearDay_eq_iff {y k m : Int} (h₁ : 0 ≤ k) (h₂ : k < yearLength y) (hm : 1 ≤ m) :
    monthOfYearDay y k = m ↔ daysBeforeMonth y m ≤ k ∧ k < daysBeforeMonth y (m + 1) := by
  obtain ⟨h₃, -, h₄, h₅⟩ := daysBeforeMonth_monthOfYearDay h₁ h₂
  constructor
  · rintro rfl
    exact ⟨h₄, h₅⟩
  · rintro ⟨h₆, h₇⟩
    have h₈ : ¬ m < monthOfYearDay y k := by
      intro h
      rcases (by omega : m + 1 < monthOfYearDay y k ∨ m + 1 = monthOfYearDay y k) with h | h
      · have := daysBeforeMonth_lt (y := y) h
        omega
      · rw [h] at h₇
        omega
    have h₉ : ¬ monthOfYearDay y k < m := by
      intro h
      rcases (by omega : monthOfYearDay y k + 1 < m ∨ monthOfYearDay y k + 1 = m) with h | h
      · have := daysBeforeMonth_lt (y := y) h
        omega
      · rw [h] at h₅
        omega
    omega

end Timespan.Calendar
