import Timespan.Period

/-!
# Periods by their number

The periods of one kind follow one another, so they can be numbered, and a period is
known by its number as well as by any of its dates:

| function         | day     | week                 | month                  | year             |
|------------------|---------|----------------------|------------------------|------------------|
| `Period.index`   | the day | weeks since a Sunday | months since year zero | the year         |
| `Period.opening` | the day | its Sunday           | the first of the month | first of January |

The first day of a period and the first day of the next are the openings of two
successive numbers (`Period.firstDay_eq`, `Period.nextFirstDay_eq`), and a day lies in
the period whose opening is the last not after it (`Period.index_ofDay_eq_iff`). That the
first day is the right one can also be said without numbers: `Period.isFirstDay_firstDay`.
-/

namespace Timespan.Period

open Calendar

/-! ### Numbers and openings -/

/-- The number of the period in which a date lies. -/
def index : Period → Date → Int
  | day, d => d.toDay
  | week, d => (d.toDay + 4) / 7
  | month, d => d.monthIndex
  | year, d => d.year

/-- The day on which the period of a number opens. -/
def opening : Period → Int → Int
  | day, k => k
  | week, k => 7 * k - 4
  | month, k => newYear (k / 12) + daysBeforeMonth (k / 12) (k % 12 + 1)
  | year, k => newYear k

theorem monthIndex_ediv (d : Date) : d.monthIndex / 12 = d.year := by
  have h₁ := d.one_le_month
  have h₂ := d.month_le
  unfold Date.monthIndex
  omega

theorem monthIndex_emod (d : Date) : d.monthIndex % 12 + 1 = d.month := by
  have h₁ := d.one_le_month
  have h₂ := d.month_le
  unfold Date.monthIndex
  omega

theorem firstDay_eq (p : Period) (d : Date) : p.firstDay d = p.opening (p.index d) := by
  cases p with
  | day => rfl
  | week =>
    simp only [firstDay, opening, index, Date.weekday]
    omega
  | month =>
    simp only [firstDay, opening, index, monthIndex_ediv, monthIndex_emod, Date.toDay,
      Date.firstOfMonth]
    omega
  | year =>
    simp only [firstDay, opening, index, Date.toDay, Date.firstOfYear, daysBeforeMonth_one]
    omega

/-- **A month or a year is as long as it is far to the next**, and so are days and
weeks. After December the next month is January of the next year. -/
theorem opening_succ (p : Period) (k : Int) :
    p.opening (k + 1) = p.opening k + match p with
      | day => 1
      | week => 7
      | month => monthLength (k / 12) (k % 12 + 1)
      | year => yearLength k := by
  cases p with
  | day => rfl
  | week =>
    simp only [opening]
    omega
  | month =>
    simp only [opening]
    rcases (by omega : k % 12 + 1 < 12 ∨ k % 12 + 1 = 12) with h | h
    · have hsucc := daysBeforeMonth_succ (y := k / 12) (m := k % 12 + 1) (by omega) (by omega)
      rw [show (k + 1) / 12 = k / 12 by omega, show (k + 1) % 12 + 1 = k % 12 + 1 + 1 by omega]
      omega
    · -- December, after which the year has as many days as it has
      have hsucc := daysBeforeMonth_succ (y := k / 12) (m := 12) (by omega) (by omega)
      have hend := daysBeforeMonth_thirteen (k / 12)
      rw [show (k + 1) / 12 = k / 12 + 1 by omega, show (k + 1) % 12 + 1 = 1 by omega,
        newYear_succ, daysBeforeMonth_one, h]
      rw [show (12 : Int) + 1 = 13 from rfl] at hsucc
      omega
  | year => exact newYear_succ k

theorem nextFirstDay_eq (p : Period) (d : Date) :
    p.nextFirstDay d = p.opening (p.index d + 1) := by
  rw [opening_succ, ← firstDay_eq]
  cases p with
  | day => rfl
  | week => rfl
  | month => simp only [firstDay, nextFirstDay, index, monthIndex_ediv, monthIndex_emod]
  | year => rfl

/-- A month is at least twenty-eight days long, and so is a year. -/
theorem opening_add_le {p : Period} (hp : p.length? = none) (k : Int) :
    p.opening k + 28 ≤ p.opening (k + 1) := by
  rw [opening_succ]
  cases p with
  | day => exact absurd hp (by simp [length?])
  | week => exact absurd hp (by simp [length?])
  | month =>
    have := monthLength_pos (k / 12) (k % 12 + 1)
    simp only
    omega
  | year =>
    have := yearLength_pos k
    simp only
    omega

theorem opening_lt_succ (p : Period) (k : Int) : p.opening k < p.opening (k + 1) := by
  cases p with
  | day =>
    simp only [opening]
    omega
  | week =>
    simp only [opening]
    omega
  | month =>
    have := opening_add_le (p := month) rfl k
    omega
  | year =>
    have := opening_add_le (p := year) rfl k
    omega

/-! ### The period of a day -/

theorem opening_mono (p : Period) {a b : Int} (h : a ≤ b) : p.opening a ≤ p.opening b := by
  have hstep : ∀ n : Nat, p.opening a ≤ p.opening (a + n) := by
    intro n
    induction n with
    | zero => simp
    | succ n ih =>
      have := p.opening_lt_succ (a + n)
      rw [show a + ((n + 1 : Nat) : Int) = a + n + 1 by omega]
      omega
  have := hstep (b - a).toNat
  rwa [show a + ((b - a).toNat : Int) = b by omega] at this

/-- **The period of a day** is the one that has opened by then, when the next has not. -/
theorem index_ofDay_eq_iff (p : Period) {n k : Int} :
    p.index (Date.ofDay n) = k ↔ p.opening k ≤ n ∧ n < p.opening (k + 1) := by
  have h₁ := p.firstDay_le_toDay (Date.ofDay n)
  have h₂ := p.toDay_lt_nextFirstDay (Date.ofDay n)
  rw [firstDay_eq, Date.toDay_ofDay] at h₁
  rw [nextFirstDay_eq, Date.toDay_ofDay] at h₂
  constructor
  · rintro rfl
    exact ⟨h₁, h₂⟩
  · rintro ⟨h₃, h₄⟩
    -- two periods that have both opened by then and not been followed are one
    rcases Int.lt_trichotomy (p.index (Date.ofDay n)) k with hlt | heq | hgt
    · have := p.opening_mono (by omega : p.index (Date.ofDay n) + 1 ≤ k)
      omega
    · exact heq
    · have := p.opening_mono (by omega : k + 1 ≤ p.index (Date.ofDay n))
      omega

/-- The number of the period does not decrease from day to day. -/
theorem index_ofDay_mono (p : Period) {m n : Int} (h : m ≤ n) :
    p.index (Date.ofDay m) ≤ p.index (Date.ofDay n) := by
  obtain ⟨hopened, -⟩ := (p.index_ofDay_eq_iff (n := m)).1 rfl
  obtain ⟨-, hopens⟩ := (p.index_ofDay_eq_iff (n := n)).1 rfl
  refine Int.not_lt.mp fun hlt => ?_
  -- the next period would have opened by the earlier day
  have := p.opening_mono (by omega : p.index (Date.ofDay n) + 1 ≤ p.index (Date.ofDay m))
  omega

/-- **Opening and number**: a period has opened by a day if the number of the day's own period
is no smaller. -/
theorem opening_le_iff (p : Period) {n k : Int} :
    p.opening k ≤ n ↔ k ≤ p.index (Date.ofDay n) := by
  obtain ⟨hopened, hnext⟩ := (p.index_ofDay_eq_iff (n := n)).1 rfl
  constructor
  · intro h
    refine Int.not_lt.mp fun hlt => ?_
    -- the period after that of the day has not opened, and neither has any later one
    have := p.opening_mono (by omega : p.index (Date.ofDay n) + 1 ≤ k)
    omega
  · intro h
    exact Int.le_trans (p.opening_mono h) hopened

/-! ### First days -/

/-- Whether a period opens on a day: every day is the first of a day, Sundays are the
first of a week. -/
def Opens (p : Period) (n : Int) : Prop :=
  match p with
  | day => True
  | week => (Date.ofDay n).weekday = 0
  | month => (Date.ofDay n).day = 1
  | year => (Date.ofDay n).month = 1 ∧ (Date.ofDay n).day = 1

/-- **The first day of the period of a date**: the last day not after it on which such a
period opens. -/
structure IsFirstDay (p : Period) (d : Date) (n : Int) : Prop where
  /-- The period opens then. -/
  opens : p.Opens n
  /-- It has opened by the date. -/
  le_toDay : n ≤ d.toDay
  /-- No other opens up to the date. -/
  last : ∀ m, n < m → m ≤ d.toDay → ¬ p.Opens m

/-- A period opens on its opening and on no other of its days. -/
theorem opens_iff (p : Period) {n : Int} :
    p.Opens n ↔ p.opening (p.index (Date.ofDay n)) = n := by
  have hday : (Date.ofDay n).toDay = n := Date.toDay_ofDay n
  rw [← firstDay_eq]
  cases p with
  | day => simp [Opens, firstDay]
  | week =>
    simp only [Opens, firstDay, hday]
    omega
  | month =>
    simp only [Opens, firstDay]
    unfold Date.toDay at hday ⊢
    simp only [Date.firstOfMonth]
    omega
  | year =>
    have h₁ := (Date.ofDay n).one_le_day
    have h₂ := (Date.ofDay n).one_le_month
    have hone := daysBeforeMonth_one (Date.ofDay n).year
    simp only [Opens, firstDay]
    unfold Date.toDay at hday ⊢
    simp only [Date.firstOfYear, hone]
    constructor
    · rintro ⟨hm, hd⟩
      rw [hm, hone] at hday
      omega
    · intro h
      rcases (by omega : (Date.ofDay n).month = 1 ∨ 1 < (Date.ofDay n).month) with hm | hm
      · rw [hm, hone] at hday
        exact ⟨hm, by omega⟩
      · have := daysBeforeMonth_lt (y := (Date.ofDay n).year) hm
        omega

/-- **The first day of a period** is what it should be. -/
theorem isFirstDay_firstDay (p : Period) (d : Date) : p.IsFirstDay d (p.firstDay d) := by
  have h₁ := p.firstDay_le_toDay d
  have h₂ := p.toDay_lt_nextFirstDay d
  rw [firstDay_eq] at h₁ ⊢
  rw [nextFirstDay_eq] at h₂
  -- all days up to the date lie in one period
  have hindex : ∀ m, p.opening (p.index d) ≤ m → m ≤ d.toDay →
      p.index (Date.ofDay m) = p.index d := fun m hm₁ hm₂ =>
    p.index_ofDay_eq_iff.2 ⟨hm₁, by omega⟩
  refine ⟨?_, h₁, fun m hm₁ hm₂ hopens => ?_⟩
  · rw [opens_iff, hindex _ (Int.le_refl _) h₁]
  · rw [opens_iff, hindex m (by omega) hm₂] at hopens
    omega

/-! ### The span of a period -/

/-- **A period runs** from one opening to the next or, if it has a length, so far. -/
theorem span?_eq_some_iff {p : Period} {z : Zone} {instant : Int} {r : Span} :
    p.span? z instant = some r ↔ ∃ w, z.wallClock? instant = some w ∧
      z.midnight? (p.opening (p.index w.date)) = some r.start ∧
      match p.length? with
      | some length => r.start + length = r.stop + 1
      | none => z.midnight? (p.opening (p.index w.date + 1)) = some (r.stop + 1) := by
  obtain ⟨start, stop⟩ := r
  simp only [span?, firstDay_eq, nextFirstDay_eq]
  cases p.length? with
  | none =>
    simp only [Option.bind_eq_bind, Option.bind_eq_some_iff, Option.pure_def,
      Option.some.injEq, Span.mk.injEq]
    refine ⟨fun h => ?_, fun h => ?_⟩
    · obtain ⟨w, hw, a, ha, b, hb, rfl, rfl⟩ := h
      exact ⟨w, hw, ha, by rw [hb, Int.sub_add_cancel]⟩
    · obtain ⟨w, hw, ha, hb⟩ := h
      exact ⟨w, hw, start, ha, stop + 1, hb, rfl, Int.add_sub_cancel stop 1⟩
  | some length =>
    simp only [Option.bind_eq_bind, Option.bind_eq_some_iff, Option.pure_def,
      Option.some.injEq, Span.mk.injEq]
    refine ⟨fun h => ?_, fun h => ?_⟩
    · obtain ⟨w, hw, a, ha, b, rfl, rfl, rfl⟩ := h
      exact ⟨w, hw, ha, by omega⟩
    · obtain ⟨w, hw, ha, hb⟩ := h
      exact ⟨w, hw, start, ha, _, rfl, rfl, by omega⟩

end Timespan.Period
