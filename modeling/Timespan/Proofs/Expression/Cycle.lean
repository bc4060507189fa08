import Timespan.Proofs.Expression.Form
import Timespan.Proofs.Operator
import Timespan.Proofs.Universal

/-!
# Four hundred years later

The calendar repeats after four hundred years. They have `146097` days, a whole number of
weeks, so that every date comes back on the same day of the week; and in universal time
everything that an expression can name comes back with it
(`Expression.universal_repeats_with_calendar`).

This is seen on the numbers of the periods (`Period.index`), not on their dates: there are
`Period.inCycle` periods of each kind in the cycle, the opening of the period with so much
greater a number is a cycle later (`Period.opening_add_inCycle`), and hence a day a cycle
later lies in that period (`Period.index_ofDay_add_cycleDays`). All that a keyword does is to
add its stride to such a number.
-/

namespace Timespan

open Calendar

/-! ### The calendar -/

namespace Calendar

/-- The number of days in four hundred years. -/
def cycleDays : Int := 146097

/-- The length of four hundred years. -/
def cycle : Int := cycleDays * Duration.day

theorem isLeap_add_cycle (y : Int) : IsLeap (y + 400) ↔ IsLeap y := by
  unfold IsLeap
  omega

theorem monthLength_add_cycle (y m : Int) : monthLength (y + 400) m = monthLength y m := by
  simp only [monthLength, isLeap_add_cycle]

theorem daysBeforeMonth_add_cycle (y m : Int) :
    daysBeforeMonth (y + 400) m = daysBeforeMonth y m := by
  simp only [daysBeforeMonth, februaryGap, isLeap_add_cycle]

/-- **Four hundred years** are as long as the cycle, wherever they begin. -/
theorem newYear_add_cycle (y : Int) : newYear (y + 400) = newYear y + cycleDays := by
  unfold newYear daysInYears cycleDays
  omega

namespace WallClock

theorem day_add_cycle (i : Int) : day ⟨i + cycle⟩ = day ⟨i⟩ + cycleDays := by
  simp only [day, cycle, cycleDays, Duration.day_eq]
  omega

end WallClock

end Calendar

/-! ### Periods -/

namespace Period

/-- How many periods of a kind there are in four hundred years. -/
def inCycle : Period → Int
  | day => 146097
  | week => 20871
  | month => 4800
  | year => 400

theorem opening_add_inCycle (p : Period) (k : Int) :
    p.opening (k + p.inCycle) = p.opening k + cycleDays := by
  cases p with
  | day => rfl
  | week =>
    simp only [opening, inCycle, cycleDays]
    omega
  | month =>
    simp only [opening, inCycle]
    rw [show (k + 4800) / 12 = k / 12 + 400 by omega, show (k + 4800) % 12 = k % 12 by omega,
      newYear_add_cycle, daysBeforeMonth_add_cycle]
    omega
  | year => exact newYear_add_cycle k

/-- **A cycle later** a day lies in the period whose number is greater by that of all the
periods in the cycle. -/
theorem index_ofDay_add_cycleDays (p : Period) (n : Int) :
    p.index (Date.ofDay (n + cycleDays)) = p.index (Date.ofDay n) + p.inCycle := by
  obtain ⟨h₁, h₂⟩ := (p.index_ofDay_eq_iff (n := n)).1 rfl
  rw [index_ofDay_eq_iff, Int.add_right_comm, opening_add_inCycle, opening_add_inCycle]
  omega

theorem tile_add_inCycle (p : Period) (k : Int) :
    p.tile (k + p.inCycle) = (p.tile k).later cycle := by
  rw [tile, tile, Int.add_right_comm, opening_add_inCycle, opening_add_inCycle]
  simp only [Span.later, Span.mk.injEq, cycle, Duration.day_eq]
  omega

end Period

/-! ### Moves -/

/-- **Four hundred years ahead** there is the same date, also if it is a leap day. -/
theorem Shift.Carries.eq_addDays_cycleDays {w w' : WallClock}
    (h : Carries { years := 400 } w w') : w' = w.addDays cycleDays := by
  obtain ⟨d, hmonths, hday, hdays, htime⟩ := h
  have hindex : d.monthIndex = w.date.monthIndex + 4800 := hmonths
  have hyear : d.year = w.date.year + 400 := by
    rw [← Period.monthIndex_ediv d, ← Period.monthIndex_ediv w.date]
    omega
  have hmonth : d.month = w.date.month := by
    rw [← Period.monthIndex_emod d, ← Period.monthIndex_emod w.date]
    omega
  have hsame : d.toDay = w.day + cycleDays := by
    have := w.date.day_le
    rw [hyear, hmonth, monthLength_add_cycle] at hday
    rw [← toDay_date w, Date.toDay, Date.toDay, hyear, hmonth, newYear_add_cycle,
      daysBeforeMonth_add_cycle]
    omega
  rw [← w'.ofDay_day_timeOfDay, hdays, htime, hsame, Int.add_zero, WallClock.addDays]

/-! ### Keywords, terms and forms -/

theorem Keyword.universalSpan_add_cycle (k : Keyword) (origin : Int) :
    k.universalSpan (origin + cycle) = (k.universalSpan origin).later cycle := by
  rw [universalSpan, universalSpan]
  cases k.period? with
  | none => rfl
  | some p =>
    simp only [WallClock.date, WallClock.day_add_cycle]
    rw [p.index_ofDay_add_cycleDays, Int.add_right_comm, p.tile_add_inCycle]

theorem Term.universalSpan_add_cycle (t : Term) (origin : Int) :
    t.universalSpan (origin + cycle) = (t.universalSpan origin).later cycle := by
  cases t with
  | keyword k => exact k.universalSpan_add_cycle origin
  | quantity count unit =>
    rw [universalSpan, universalSpan, Int.add_right_comm, Span.between_later]

namespace Expression

/-- What is made of later spans is later. -/
theorem Form.span_later {spanOf spanOf' : Term → Span} {k : Int}
    (h : ∀ t, spanOf' t = (spanOf t).later k) (f : Form) :
    f.span spanOf' = (f.span spanOf).later k := by
  cases f with
  | single t => exact h t
  | sequence t u =>
    rw [span, span, h t, h u]
    rfl
  | window t offset =>
    have hstart : (spanOf' t).start = (spanOf t).start + k := congrArg Span.start (h t)
    rw [span, span, hstart, Int.add_right_comm, Span.between_later]

/-- **What an expression names comes back after four hundred years**, in universal time: if it
has a span from an origin and from the one a cycle later, the second is the first, a cycle
later. And a move by four hundred years is a move by the cycle. -/
theorem universal_repeats_with_calendar (text : Option Text) (origin : Int) :
    (∀ r r', evaluate text (some "UTC".toList) origin = .ok r →
      evaluate text (some "UTC".toList) (origin + cycle) = .ok r' →
      r' = ⟨r.start + cycle, r.stop + cycle⟩) ∧
    ∀ j, Shift.move { years := 400 } (some "UTC".toList) origin = .ok j → j = origin + cycle := by
  have hz : Zone.find (some "UTC".toList) = .ok Zone.utc := rfl
  constructor
  · intro r r' hr hr'
    cases text with
    | none => exact absurd hr (by simp [evaluate, isVacant])
    | some text =>
      obtain ⟨f, hf, rfl⟩ := exists_form_of_evaluate
        (fun t _ => t.eq_universalSpan hz Zone.isUniversal_utc) hr
      obtain ⟨f', hf', rfl⟩ := exists_form_of_evaluate
        (fun t _ => t.eq_universalSpan hz Zone.isUniversal_utc) hr'
      obtain rfl := Option.some.inj (hf.symm.trans hf')
      exact f.span_later fun t => t.universalSpan_add_cycle origin
  · intro j hj
    obtain ⟨z, w, w', hz', hw, hcarries, rfl⟩ := Shift.exists_carries_of_move hj
    obtain rfl := Except.ok.inj (hz.symm.trans hz')
    obtain rfl := hw.eq_of_isUniversal hz Zone.isUniversal_utc
    rw [Zone.isUniversal_utc.earliest, hcarries.eq_addDays_cycleDays, WallClock.millis_addDays]
    rfl

/-- The leap day of the year 2000 is a Tuesday, and so is that of the year 2400. -/
theorem universal_repeats_with_calendar_leap_day :
    let tz := some "UTC".toList
    evaluate (some "last month -> last week".toList) tz 951818400123 =
        .ok ⟨946684800000, 951609599999⟩ ∧
      evaluate (some "last month -> last week".toList) tz (951818400123 + cycle) =
        .ok ⟨13569465600000, 13574390399999⟩ ∧
      (⟨13569465600000, 13574390399999⟩ : Span) =
        ⟨946684800000 + cycle, 951609599999 + cycle⟩ ∧
      Shift.move { years := 400 } tz 951818400123 = .ok 13574599200123 ∧
      (13574599200123 : Int) = 951818400123 + cycle := by
  intro tz
  have hr : evaluate (some "last month -> last week".toList) tz 951818400123 =
      .ok ⟨946684800000, 951609599999⟩ :=
    eq_ok_of_toOption (by decide +kernel)
  have hr' : evaluate (some "last month -> last week".toList) tz (951818400123 + cycle) =
      .ok ⟨13569465600000, 13574390399999⟩ :=
    eq_ok_of_toOption (by decide +kernel)
  have hj : Shift.move { years := 400 } tz 951818400123 = .ok 13574599200123 :=
    eq_ok_of_toOption (by decide +kernel)
  obtain ⟨hspans, hmoves⟩ :=
    universal_repeats_with_calendar (some "last month -> last week".toList) 951818400123
  exact ⟨hr, hr', hspans _ _ hr hr', hj, hmoves _ hj⟩

end Expression

end Timespan
