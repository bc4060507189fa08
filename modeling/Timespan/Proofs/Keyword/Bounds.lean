import Timespan.Proofs.Period.Edge
import Timespan.Proofs.Reach

/-!
# Where the keywords end

A keyword needs more of the calendar than its origin: the instant to which it moves, the day
on which the period opens, and for a month or a year also the day on which the next one does.
In universal time it can be said from which origins there is all of that
(`Keyword.InReach`):

| keyword     | first origin                     | last origin                    |
|-------------|----------------------------------|--------------------------------|
| `today`     | the first instant                | the last instant               |
| `yesterday` | a day after the first            | the last                       |
| `tomorrow`  | the first                        | a day before the last          |
| `thisweek`  | six days after the first         | the last                       |
| `lastweek`  | thirteen days after the first    | the last                       |
| `thismonth` | the first                        | before December of year `9999` |
| `lastmonth` | the first of February, year `1`  | the last                       |
| `thisyear`  | the first                        | before the year `9999`         |
| `lastyear`  | the first of January, year `2`   | the last                       |

The weeks are cut short because the calendar begins on a Monday, and the months and years
because nothing opens after its end. All of it is seen on the number of the period that the
keyword names (`Keyword.inReach_iff`), which needs no more than that the origin can be moved
(`Keyword.exists_anchor`) and that the period moved to fits (`Period.fits_utc_iff`).

A rejection names the origin, with one exception (`Keyword.fault`). In the second week of the
calendar the move back by a week succeeds, but the week that it leads to has no Sunday, so it
is the instant moved to that is named. What cannot be written down is not named at all.
-/

namespace Timespan

open Calendar

variable {origin j days : Int} {p : Period} {k : Keyword} {s : Shift}

/-! ### The first and the last origin -/

namespace Keyword

/-- **From where a keyword reaches**: the origins from which universal time has all that the
keyword needs. -/
def InReach : Keyword → Int → Prop
  | now, _ => True
  | today, origin => firstInstant ≤ origin ∧ origin ≤ lastInstant
  | yesterday, origin => firstInstant + Duration.day ≤ origin ∧ origin ≤ lastInstant
  | tomorrow, origin => firstInstant ≤ origin ∧ origin ≤ lastInstant - Duration.day
  | thisWeek, origin => firstInstant + 6 * Duration.day ≤ origin ∧ origin ≤ lastInstant
  | lastWeek, origin => firstInstant + 13 * Duration.day ≤ origin ∧ origin ≤ lastInstant
  | thisMonth, origin =>
    firstInstant ≤ origin ∧ origin < (Date.written 9999 12 1 (by decide)).midnight
  | lastMonth, origin =>
    (Date.written 1 2 1 (by decide)).midnight ≤ origin ∧ origin ≤ lastInstant
  | thisYear, origin =>
    firstInstant ≤ origin ∧ origin < (Date.written 9999 1 1 (by decide)).midnight
  | lastYear, origin =>
    (Date.written 2 1 1 (by decide)).midnight ≤ origin ∧ origin ≤ lastInstant

instance (k : Keyword) (origin : Int) : Decidable (k.InReach origin) :=
  match k with
  | now => inferInstanceAs (Decidable True)
  | today | yesterday | tomorrow | thisWeek | lastWeek | thisMonth | lastMonth | thisYear
  | lastYear => inferInstanceAs (Decidable (_ ∧ _))

/-- The instant that the rejection names when a keyword is out of reach. -/
def fault (k : Keyword) (origin : Int) : Int :=
  if k = lastWeek ∧ firstInstant + 7 * Duration.day ≤ origin ∧
      origin < firstInstant + 13 * Duration.day then
    origin - 7 * Duration.day
  else origin

/-- **A keyword is in reach** if the calendar has the origin and the period that the keyword
names opens there and, if it is a month or a year, is not the last that does. -/
theorem inReach_iff (hp : k.period? = some p) : k.InReach origin ↔
    InCalendar (WallClock.day ⟨origin⟩) ∧ p.eve < p.index (WallClock.date ⟨origin⟩) + k.stride ∧
      p.index (WallClock.date ⟨origin⟩) + k.stride ≤ p.final ∧
      (p.length? = none → p.index (WallClock.date ⟨origin⟩) + k.stride < p.final) := by
  have hfirst : firstInstant = -62135596800000 := by decide
  have hlast : lastInstant = 253402300799999 := by decide
  have hfinal : InCalendar (WallClock.day ⟨origin⟩) →
    p.index (WallClock.date ⟨origin⟩) ≤ p.final := Period.index_le_final
  rw [inCalendar_day_iff] at hfinal ⊢
  cases k with
  | now => exact absurd hp (by simp [period?])
  | today | yesterday | tomorrow =>
    obtain rfl := Option.some.inj hp
    have hindex : Period.day.index (WallClock.date ⟨origin⟩) = origin / Duration.day :=
      Period.index_day_date _
    simp only [InReach, stride, Period.eve, Period.final, Period.length?, reduceCtorEq,
      false_implies, and_true, Duration.day_eq] at *
    omega
  | thisWeek | lastWeek =>
    obtain rfl := Option.some.inj hp
    have hindex : Period.week.index (WallClock.date ⟨origin⟩) = (origin / Duration.day + 4) / 7 :=
      Period.index_week_date _
    simp only [InReach, stride, Period.eve, Period.final, Period.length?, reduceCtorEq,
      false_implies, and_true, Duration.day_eq] at *
    omega
  | thisMonth | lastMonth =>
    obtain rfl := Option.some.inj hp
    have hopen : 12 ≤ Period.month.index (WallClock.date ⟨origin⟩) ↔ firstInstant ≤ origin :=
      Period.le_index_iff (by decide)
    have hfebruary : 13 ≤ Period.month.index (WallClock.date ⟨origin⟩) ↔
        (Date.written 1 2 1 (by decide)).midnight ≤ origin :=
      Period.le_index_iff (by decide)
    have hdecember : 119999 ≤ Period.month.index (WallClock.date ⟨origin⟩) ↔
        (Date.written 9999 12 1 (by decide)).midnight ≤ origin :=
      Period.le_index_iff (by decide)
    have hend : (Date.written 9999 12 1 (by decide)).midnight ≤ lastInstant := by decide
    simp only [InReach, stride, Period.eve, Period.final, Period.length?, true_implies] at *
    omega
  | thisYear | lastYear =>
    obtain rfl := Option.some.inj hp
    have hopen : 1 ≤ Period.year.index (WallClock.date ⟨origin⟩) ↔ firstInstant ≤ origin :=
      Period.le_index_iff (by decide)
    have hsecond : 2 ≤ Period.year.index (WallClock.date ⟨origin⟩) ↔
        (Date.written 2 1 1 (by decide)).midnight ≤ origin :=
      Period.le_index_iff (by decide)
    have hlastYear : 9999 ≤ Period.year.index (WallClock.date ⟨origin⟩) ↔
        (Date.written 9999 1 1 (by decide)).midnight ≤ origin :=
      Period.le_index_iff (by decide)
    have hend : (Date.written 9999 1 1 (by decide)).midnight ≤ lastInstant := by decide
    simp only [InReach, stride, Period.eve, Period.final, Period.length?, true_implies] at *
    omega

/-! ### Anchors -/

theorem isCountable_of_shift? (hs : k.shift? = some s) : s.IsCountable := by
  cases k with
  | now | today | thisWeek | thisMonth | thisYear => exact absurd hs (by simp [shift?])
  | yesterday | tomorrow | lastWeek | lastMonth | lastYear =>
    obtain rfl := Option.some.inj hs
    decide +kernel

theorem anchor_of_shift? (hs : k.shift? = some s) (tz : Option Text) :
    k.anchor tz origin = s.move tz origin := by
  rw [anchor, hs]

/-- **A move between days of the calendar** is all that it takes to come to an anchor. -/
theorem inCalendar_anchor_iff (h : k.anchor (some "UTC".toList) origin = .ok j) :
    InCalendar (WallClock.day ⟨j⟩) ↔ InCalendar (WallClock.day ⟨origin⟩) := by
  rcases anchor_eq_ok_iff.1 h with ⟨-, rfl⟩ | ⟨s, -, hmove⟩
  · exact Iff.rfl
  · obtain ⟨-, hfrom, -, hto⟩ := Shift.move_utc_eq_ok_iff.1 hmove
    exact iff_of_true hto hfrom

/-- **A keyword has an anchor** where the period that it names opens in the calendar. -/
theorem exists_anchor (hp : k.period? = some p) (hday : InCalendar (WallClock.day ⟨origin⟩))
    (heve : p.eve < p.index (WallClock.date ⟨origin⟩) + k.stride)
    (hfinal : p.index (WallClock.date ⟨origin⟩) + k.stride ≤ p.final) :
    ∃ j, k.anchor (some "UTC".toList) origin = .ok j := by
  cases hs : k.shift? with
  | none => exact ⟨origin, anchor_eq_ok_iff.2 (Or.inl ⟨hs, rfl⟩)⟩
  | some s =>
    rw [anchor_of_shift? hs, Shift.exists_move_utc_iff (isCountable_of_shift? hs)]
    refine ⟨hday, ?_⟩
    cases k with
    | now | today | thisWeek | thisMonth | thisYear => exact absurd hs (by simp [shift?])
    | yesterday | tomorrow =>
      obtain rfl := Option.some.inj hs
      obtain rfl := Option.some.inj hp
      refine (WallClock.exists_shift?_days_iff hday).2 ?_
      rw [Period.index_day_date] at heve hfinal
      simp only [stride, Period.eve, Period.final, InCalendar, firstDay, lastDay] at *
      omega
    | lastWeek =>
      obtain rfl := Option.some.inj hs
      obtain rfl := Option.some.inj hp
      refine (WallClock.exists_shift?_days_iff hday).2 ?_
      rw [Period.index_week_date] at heve hfinal
      simp only [stride, Period.eve, Period.final, InCalendar, firstDay, lastDay] at *
      omega
    | lastMonth =>
      obtain rfl := Option.some.inj hs
      obtain rfl := Option.some.inj hp
      refine WallClock.exists_shift?_months_iff.2 ?_
      simp only [Period.index, stride, Period.eve, Period.final, Shift.totalMonths] at *
      omega
    | lastYear =>
      obtain rfl := Option.some.inj hs
      obtain rfl := Option.some.inj hp
      refine WallClock.exists_shift?_months_iff.2 ?_
      have hyear := Period.monthIndex_ediv (WallClock.date ⟨origin⟩)
      simp only [Period.index, stride, Period.eve, Period.final, Shift.totalMonths] at *
      omega

/-- **In reach** a keyword has a span, and nowhere else. -/
theorem exists_span_iff_inReach :
    (∃ r, k.span (some "UTC".toList) origin = .ok r) ↔ k.InReach origin := by
  constructor
  · rintro ⟨r, hr⟩
    rcases span_eq_ok_iff.1 hr with ⟨hp, -⟩ | ⟨p, j, hp, hanchor, hspan⟩
    · obtain rfl := period?_eq_none_iff.1 hp
      trivial
    · obtain ⟨⟨hday, heve, hnext⟩, -⟩ := Period.span_utc_eq_ok_iff.1 hspan
      have hfinal := Period.index_le_final (p := p) hday
      rw [index_anchor rfl Zone.isUniversal_utc hp hanchor] at heve hfinal hnext
      exact (inReach_iff hp).2 ⟨(inCalendar_anchor_iff hanchor).1 hday, heve, hfinal, hnext⟩
  · intro h
    cases hp : k.period? with
    | none =>
      obtain rfl := period?_eq_none_iff.1 hp
      exact ⟨_, span_now _ _⟩
    | some p =>
      obtain ⟨hday, heve, hfinal, hnext⟩ := (inReach_iff hp).1 h
      obtain ⟨j, hanchor⟩ := exists_anchor hp hday heve hfinal
      rw [← index_anchor rfl Zone.isUniversal_utc hp hanchor] at heve hnext
      have hspan := Period.span_utc_eq_ok_iff.2
        ⟨⟨(inCalendar_anchor_iff hanchor).2 hday, heve, hnext⟩, rfl⟩
      exact ⟨_, span_eq_ok_iff.2 (Or.inr ⟨p, j, hp, hanchor, hspan⟩)⟩

/-! ### What a rejection names -/

/-- **The week before** is looked for from the second week of the calendar on. -/
theorem exists_anchor_lastWeek_iff :
    (∃ j, lastWeek.anchor (some "UTC".toList) origin = .ok j) ↔
      firstInstant + 7 * Duration.day ≤ origin ∧ origin ≤ lastInstant := by
  have hs : lastWeek.shift? = some { days := -7 } := rfl
  rw [anchor_of_shift? hs, Shift.exists_move_utc_iff (isCountable_of_shift? hs)]
  constructor
  · rintro ⟨hday, hshift⟩
    have hto : InCalendar (WallClock.day ⟨origin⟩ + -7) :=
      (WallClock.exists_shift?_days_iff hday).1 hshift
    rw [inCalendar_day_add_iff] at hto
    rw [inCalendar_day_iff] at hday
    omega
  · rintro ⟨hfirst, hlast⟩
    have hpos : 0 < Duration.day := by decide
    have hday : InCalendar (WallClock.day ⟨origin⟩) := inCalendar_day_iff.2 (by omega)
    have hto : InCalendar (WallClock.day ⟨origin⟩ + -7) := inCalendar_day_add_iff.2 (by omega)
    exact ⟨hday, (WallClock.exists_shift?_days_iff hday).2 hto⟩

/-- Only `lastweek` moves to a week, and only moves back end in a month or a year. -/
theorem ne_week_and_stride_of_shift? (hk : k ≠ lastWeek) (hs : k.shift? = some s)
    (hp : k.period? = some p) : p ≠ .week ∧ (p.length? = none → k.stride = -1) := by
  cases k with
  | lastWeek => exact absurd rfl hk
  | now | today | thisWeek | thisMonth | thisYear => exact absurd hs (by simp [shift?])
  | yesterday | tomorrow | lastMonth | lastYear =>
    obtain rfl := Option.some.inj hp
    decide

/-- **Any other keyword** that moves the origin has a span if the move succeeds. -/
theorem inReach_of_move (hk : k ≠ lastWeek) (hs : k.shift? = some s)
    (h : k.anchor (some "UTC".toList) origin = .ok j) : k.InReach origin := by
  cases hp : k.period? with
  | none =>
    obtain rfl := period?_eq_none_iff.1 hp
    trivial
  | some p =>
    obtain ⟨hweek, hstride⟩ := ne_week_and_stride_of_shift? hk hs hp
    have hto : InCalendar (WallClock.day ⟨j⟩) := by
      rw [anchor_of_shift? hs] at h
      exact (Shift.move_utc_eq_ok_iff.1 h).2.2.2
    have hday := (inCalendar_anchor_iff h).1 hto
    have heve := Period.eve_lt_index hweek hto
    have hfinal := Period.index_le_final (p := p) hto
    have hfinal' := Period.index_le_final (p := p) hday
    rw [index_anchor rfl Zone.isUniversal_utc hp h] at heve hfinal
    refine (inReach_iff hp).2 ⟨hday, heve, hfinal, fun hnone => ?_⟩
    have := hstride hnone
    omega

/-- **What has been moved to** where the keyword is out of reach is what the rejection names. -/
theorem eq_fault_of_anchor (hreach : ¬ k.InReach origin)
    (h : k.anchor (some "UTC".toList) origin = .ok j) : j = k.fault origin := by
  by_cases hk : k = lastWeek
  · subst hk
    have hrange := exists_anchor_lastWeek_iff.1 ⟨j, h⟩
    have hj : j = origin + -7 * Duration.day := Shift.eq_add_of_move_utc h
    simp only [InReach] at hreach
    rw [fault, if_pos ⟨rfl, hrange.1, by omega⟩]
    omega
  · rw [fault, if_neg fun hcond => hk hcond.1]
    rcases anchor_eq_ok_iff.1 h with ⟨-, hj⟩ | ⟨s, hs, -⟩
    · exact hj
    · exact absurd (inReach_of_move hk hs h) hreach

/-- **If the move fails** the rejection names the origin. -/
theorem fault_of_anchor_eq_error {f : Failure}
    (h : k.anchor (some "UTC".toList) origin = .error f) : k.fault origin = origin := by
  refine if_neg ?_
  rintro ⟨rfl, hfirst, hsecond⟩
  have hlast : firstInstant + 13 * Duration.day ≤ lastInstant := by decide
  obtain ⟨j, hj⟩ := exists_anchor_lastWeek_iff.2 ⟨hfirst, by omega⟩
  exact absurd (h.symm.trans hj) (by simp)

/-- **Out of reach** a keyword fails with the instant that is named. -/
theorem span_of_not_inReach (hreach : ¬ k.InReach origin) :
    k.span (some "UTC".toList) origin = .error (.outOfRange (k.fault origin)) := by
  cases hspan : k.span (some "UTC".toList) origin with
  | ok r => exact absurd (exists_span_iff_inReach.1 ⟨r, hspan⟩) hreach
  | error f =>
    refine congrArg Except.error ?_
    obtain ⟨p, -, hanchor | ⟨j, hanchor, hj⟩⟩ := span_eq_error_iff.1 hspan
    · obtain ⟨s, -, hmove⟩ := anchor_eq_error_iff.1 hanchor
      rw [fault_of_anchor_eq_error hanchor]
      exact ((inZone_eq_error_iff rfl).1 hmove).2.symm
    · rw [← eq_fault_of_anchor hreach hanchor]
      exact ((inZone_eq_error_iff rfl).1 hj).2.symm

theorem writable_of_inReach (hp : k.period? = some p) (h : k.InReach origin) :
    Decimal.Writable origin :=
  (Zone.reaches_utc_iff.2 ((inReach_iff hp).1 h).1).writable

theorem writable_fault (h : Decimal.Writable origin) : Decimal.Writable (k.fault origin) := by
  have hfirst : firstInstant = -62135596800000 := by decide
  unfold fault
  split
  · next hcond =>
    rw [hfirst, Duration.day_eq] at *
    exact Decimal.writable_of_le (by omega) (by omega)
  · exact h

theorem fault_of_not_writable (h : ¬ Decimal.Writable origin) : k.fault origin = origin := by
  have hfirst : firstInstant = -62135596800000 := by decide
  refine if_neg fun hcond => h ?_
  rw [hfirst, Duration.day_eq] at hcond
  exact Decimal.writable_of_le (by omega) (by omega)

/-- **Where the keywords end**, in universal time. In reach a keyword has the span that it has
to have. Out of reach it is rejected with the instant that is named, unless the origin cannot
be written down. -/
theorem reach_in_universal_time (k : Keyword) (origin : Int) :
    let tz := some "UTC".toList
    (∀ o, k.operand tz origin = .ok o ↔
      k.InReach origin ∧ o = .ofSpan (k.universalSpan origin)) ∧
    (¬ k.InReach origin → Decimal.Writable origin →
      k.operand tz origin = .error (.rejected (.outOfRange (k.fault origin)))) ∧
    (¬ k.InReach origin → ¬ Decimal.Writable origin →
      k.operand tz origin = .error (.unwritable origin)) := by
  intro tz
  refine ⟨fun o => ?_, fun hreach hwritable => ?_, fun hreach hwritable => ?_⟩
  · constructor
    · intro h
      obtain ⟨r, hspan, ho⟩ := bind_eq_ok_iff.1 h
      obtain rfl := k.eq_universalSpan rfl Zone.isUniversal_utc hspan
      exact ⟨exists_span_iff_inReach.1 ⟨_, hspan⟩, (Except.ok.inj ho).symm⟩
    · rintro ⟨hreach, rfl⟩
      obtain ⟨r, hspan⟩ := exists_span_iff_inReach.2 hreach
      obtain rfl := k.eq_universalSpan rfl Zone.isUniversal_utc hspan
      exact bind_eq_ok_iff.2 ⟨_, hspan, rfl⟩
  · rw [operand, span_of_not_inReach hreach, bind_error,
      Failure.outOfRange_of_writable (writable_fault hwritable)]
  · rw [operand, span_of_not_inReach hreach, bind_error, fault_of_not_writable hwritable,
      Failure.outOfRange_of_not_writable hwritable]

/-- A week after the calendar has begun the week before has no Sunday, and it is the first
instant of the calendar that is named. The origin six days later is the first with a whole week
before it. -/
theorem reach_in_universal_time_second_week :
    let tz := some "UTC".toList
    (¬ lastWeek.InReach (firstInstant + 7 * Duration.day) ∧
      Decimal.Writable (firstInstant + 7 * Duration.day) ∧
      lastWeek.operand tz (firstInstant + 7 * Duration.day) =
        .error (.rejected (.outOfRange firstInstant))) ∧
    (lastWeek.InReach (firstInstant + 13 * Duration.day) ∧
      lastWeek.operand tz (firstInstant + 13 * Duration.day) =
        .ok (.ofSpan ⟨-62135078400000, -62134473600001⟩)) ∧
    ¬ lastWeek.InReach Decimal.firstUnwritable ∧ ¬ Decimal.Writable Decimal.firstUnwritable ∧
      lastWeek.operand tz Decimal.firstUnwritable =
        .error (.unwritable Decimal.firstUnwritable) := by
  intro tz
  have hout : ¬ lastWeek.InReach (firstInstant + 7 * Duration.day) := by decide
  have hwritable : Decimal.Writable (firstInstant + 7 * Duration.day) :=
    Decimal.writable_of_le (by decide) (by decide)
  have hin : lastWeek.InReach (firstInstant + 13 * Duration.day) := by decide
  have hfar := Decimal.not_writable_firstUnwritable
  have houtFar : ¬ lastWeek.InReach Decimal.firstUnwritable := fun h =>
    hfar (writable_of_inReach rfl h)
  refine ⟨⟨hout, hwritable, ?_⟩, ⟨hin, ?_⟩, houtFar, hfar, ?_⟩
  · exact (reach_in_universal_time lastWeek _).2.1 hout hwritable
  · exact ((reach_in_universal_time lastWeek _).1 _).2 ⟨hin, by decide⟩
  · exact (reach_in_universal_time lastWeek _).2.2 houtFar hfar

/-- So far out the day of the origin is not rejected, although the calendar has none. -/
theorem today_unnamed_far_out :
    ¬ today.InReach Decimal.firstUnwritable ∧
      today.operand (some "UTC".toList) Decimal.firstUnwritable =
        .error (.unwritable Decimal.firstUnwritable) ∧
      ∀ e, today.operand (some "UTC".toList) Decimal.firstUnwritable ≠ .error (.rejected e) := by
  have hfar := Decimal.not_writable_firstUnwritable
  have hfails : today.operand (some "UTC".toList) Decimal.firstUnwritable =
      .error (.unwritable Decimal.firstUnwritable) := by
    rw [operand, span_of_not_writable (z := Zone.utc) rfl rfl hfar, bind_error]
  refine ⟨fun h => hfar (writable_of_inReach rfl h), hfails, fun e => ?_⟩
  rw [hfails]
  simp

end Keyword

end Timespan
