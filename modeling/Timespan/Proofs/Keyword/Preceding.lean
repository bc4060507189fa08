import Timespan.Keyword
import Timespan.Proofs.Period.Order

/-!
# The month before and the year before

Last month is the month around the instant a month before the origin, and likewise last
year. The date of that instant lies in the month before, or in the year before: the day of
the month is clamped, and if the instant comes out a day late because the clocks have
skipped its target, that is a day of the same month still. It is not if the day skipped is
the last one of the month. Only the day of a New Year's Eve has ever been skipped so
(`overleaps_and_opens_iff`), in two zones (`Zone.SkipsNewYearsEve`).

So last month and last year precede this month and this year
(`Keyword.lastMonth_and_lastYear_precede`) unless the move leads to that New Year's Eve,
which it does from the last day of January and from the next New Year's Eve. From there
the period before is taken to be the one around the origin.
-/

namespace Timespan

open Calendar

variable {tz : Option Text} {z : Zone} {w w' v : WallClock} {instant j y : Int}
  {last this : Span} {p : Period} {s : Shift}

/-- **A span precedes another** if it begins before it and stops right before it begins. -/
structure Span.Precedes (last this : Span) : Prop where
  /-- It stops right before the other begins. -/
  stop_add_one : last.stop + 1 = this.start
  /-- It begins before the other. -/
  start_lt : last.start < this.start

/-! ### The last day of a year -/

/-- The clocks of a zone have left out the last day of a year. -/
def Zone.SkipsNewYearsEve (tz : Option Text) (year : Int) : Prop :=
  tz = some manilaKey ∧ year = 1844 ∨ tz = some kiritimatiKey ∧ year = 1994

/-- Within a month no other one opens. -/
theorem not_opens_succ (hp : p = .month ∨ p = .year)
    (h : w.date.day < monthLength w.date.year w.date.month) : ¬ p.Opens (w.day + 1) := by
  have hdate : (Date.ofDay (w.day + 1)).Is w.date.year w.date.month (w.date.day + 1) := by
    have := w.date.one_le_day
    refine (Date.ofDay_is_iff ⟨⟨w.date.one_le_month, w.date.month_le⟩, by omega, h⟩).2 ?_
    rw [← Shift.toDay_date w]
    simp only [Date.toDay, Date.written]
    omega
  have hday := w.date.one_le_day
  obtain ⟨-, -, hnext⟩ := hdate
  rintro hopens
  rcases hp with rfl | rfl
  · have : (Date.ofDay (w.day + 1)).day = 1 := hopens
    omega
  · have : (Date.ofDay (w.day + 1)).day = 1 := hopens.2
    omega

/-- After a skipped day a month opens if the day was a New Year's Eve. -/
theorem opens_iff_of_skipsDay (hp : p = .month ∨ p = .year) (h : Zone.SkipsDay tz w.date) :
    p.Opens (w.day + 1) ↔ ∃ y, Zone.SkipsNewYearsEve tz y ∧ w.date.Is y 12 31 := by
  have hall : ∀ e ∈ Zone.skippedDays, ∀ p ∈ [Period.month, Period.year],
      p.Opens (e.2.toDay + 1) ↔ e.1 = Zone.manilaKey ∧ e.2.Is 1844 12 31 ∨
        e.1 = Zone.kiritimatiKey ∧ e.2.Is 1994 12 31 := by
    decide +kernel
  obtain ⟨e, hmem, rfl, hdate⟩ := h
  rw [← Shift.toDay_date, ← hdate, hall e hmem p (by rcases hp with rfl | rfl <;> decide)]
  constructor
  · rintro (⟨hkey, his⟩ | ⟨hkey, his⟩)
    · exact ⟨1844, Or.inl ⟨congrArg some hkey, rfl⟩, his⟩
    · exact ⟨1994, Or.inr ⟨congrArg some hkey, rfl⟩, his⟩
  · rintro ⟨y, ⟨hkey, rfl⟩ | ⟨hkey, rfl⟩, his⟩
    · exact Or.inl ⟨Option.some.inj hkey, his⟩
    · exact Or.inr ⟨Option.some.inj hkey, his⟩

/-- **The clocks are taken into another month** by a leap, or into another year, from the
readings of a skipped New Year's Eve. -/
theorem overleaps_and_opens_iff (hp : p = .month ∨ p = .year) :
    Zone.Overleaps tz w ∧ p.Opens (w.day + 1) ↔
      ∃ y, Zone.SkipsNewYearsEve tz y ∧ w.date.Is y 12 31 := by
  constructor
  · rintro ⟨hday | ⟨hlate, -⟩, hopens⟩
    · exact (opens_iff_of_skipsDay hp hday).1 hopens
    · -- the last hours that were skipped were none of a month
      refine absurd hopens (not_opens_succ hp ?_)
      rcases hlate with ⟨-, -, hm, hd⟩ | ⟨-, -, hm, -, hd, -⟩
      · rw [hm, hd, show monthLength w.date.year 5 = 31 from rfl]
        omega
      · rw [hm, show monthLength w.date.year 3 = 31 from rfl]
        omega
  · intro h
    have hday : Zone.SkipsDay tz w.date := by
      obtain ⟨y, ⟨rfl, rfl⟩ | ⟨rfl, rfl⟩, his⟩ := h
      · exact ⟨(_, .written 1844 12 31 (by decide)), by decide, rfl,
          Date.Is.unique ⟨rfl, rfl, rfl⟩ his⟩
      · exact ⟨(_, .written 1994 12 31 (by decide)), by decide, rfl,
          Date.Is.unique ⟨rfl, rfl, rfl⟩ his⟩
    exact ⟨Or.inl hday, (opens_iff_of_skipsDay hp hday).2 h⟩

/-! ### The period before -/

/-- **Months precede each other** by their numbers, and so do years. -/
theorem Period.Spans.precedes {k : Int} (hp : p.length? = none) (hz : Zone.find tz = .ok z)
    (hlast : p.Spans z k last) (hthis : p.Spans z (k + 1) this) : last.Precedes this := by
  have hstop := Option.some.inj (hlast.next.symm.trans hthis.start)
  have hforward := hlast.start_le_stop hp hz
  exact ⟨hstop, by omega⟩

/-- **The period around the instant before** precedes that around the instant, if the shift
takes one from its number and does not lead to a skipped New Year's Eve. -/
theorem Period.precedes_of_move (hp : p = .month ∨ p = .year)
    (hback : ∀ {w w'}, s.Carries w w' → p.index w'.date + 1 = p.index w.date)
    (hmove : s.move tz instant = .ok j) (hlast : p.span tz j = .ok last)
    (hthis : p.span tz instant = .ok this) :
    ∃ w w', Shows tz instant w ∧ s.Carries w w' ∧
      (¬ (∃ y, Zone.SkipsNewYearsEve tz y ∧ w'.date.Is y 12 31) → last.Precedes this) ∧
      ((∃ y, Zone.SkipsNewYearsEve tz y ∧ w'.date.Is y 12 31) → last = this) := by
  have hlong : p.length? = none := by
    rcases hp with rfl | rfl <;> rfl
  obtain ⟨z, hz, -⟩ := exists_find_of_inZone hmove
  obtain ⟨w, hw, hspans⟩ := (span_eq_ok_iff hlong hz).1 hthis
  obtain ⟨v, hv, hspans'⟩ := (span_eq_ok_iff hlong hz).1 hlast
  obtain ⟨w', hcarries, hsame, hnext⟩ := Shift.exists_day_of_move hmove hw hv
  have hindex := hback hcarries
  obtain ⟨hstay, hstep⟩ := p.index_ofDay_succ w'.day
  refine ⟨w, w', hw, hcarries, fun h => ?_, fun h => ?_⟩
  · have hbefore : p.index v.date = p.index w'.date := by
      rw [WallClock.date, WallClock.date]
      by_cases hover : Zone.Overleaps tz w'
      · rw [hnext hover]
        exact hstay fun hopens => h ((overleaps_and_opens_iff hp).1 ⟨hover, hopens⟩)
      · rw [hsame hover]
    rw [hbefore] at hspans'
    rw [← hindex] at hspans
    exact hspans'.precedes hlong hz hspans
  · obtain ⟨hover, hopens⟩ := (overleaps_and_opens_iff hp).2 h
    have hafter : p.index v.date = p.index w.date := by
      rw [← hindex, WallClock.date, hnext hover]
      exact hstep hopens
    exact Except.ok.inj (hlast.symm.trans (Period.span_congr hw hv hafter.symm hthis))

/-! ### Last month and last year -/

namespace Keyword

/-- A month back, the number of the month is one less. -/
theorem carries_month_back (h : Shift.Carries { months := -1 } w w') :
    Period.month.index w'.date + 1 = Period.month.index w.date ∧
      ∀ y, w'.date.Is y 12 31 ↔ w.date.Is (y + 1) 1 31 := by
  obtain ⟨hindex, hday⟩ := h.date rfl
  have hback : w'.date.monthIndex + 1 = w.date.monthIndex := by
    rw [hindex]
    show w.date.monthIndex + (12 * 0 + -1) + 1 = _
    omega
  refine ⟨hback, fun y => ?_⟩
  have h₁ := w.date.one_le_month
  have h₂ := w.date.month_le
  have h₃ := w'.date.one_le_month
  have h₄ := w'.date.month_le
  have h₅ := w.date.day_le
  simp only [Date.monthIndex] at hback
  constructor
  · rintro ⟨hy, hm, hd⟩
    have hyear : w.date.year = y + 1 := by omega
    have hmonth : w.date.month = 1 := by omega
    rw [hmonth, show monthLength w.date.year 1 = 31 from rfl] at h₅
    exact ⟨hyear, hmonth, by omega⟩
  · rintro ⟨hy, hm, hd⟩
    have hmonth : w'.date.month = 12 := by omega
    rw [hmonth, show monthLength w'.date.year 12 = 31 from rfl] at hday
    exact ⟨by omega, hmonth, by omega⟩

/-- A year back, the date is the same but for a leap day. -/
theorem carries_year_back (h : Shift.Carries { years := -1 } w w') :
    Period.year.index w'.date + 1 = Period.year.index w.date ∧
      ∀ y, w'.date.Is y 12 31 ↔ w.date.Is (y + 1) 12 31 := by
  obtain ⟨hindex, hday⟩ := h.date rfl
  have hback : w'.date.monthIndex + 12 = w.date.monthIndex := by
    rw [hindex]
    show w.date.monthIndex + (12 * -1 + 0) + 12 = _
    omega
  have hyear : w'.date.year + 1 = w.date.year := by
    rw [← Period.monthIndex_ediv w'.date, ← Period.monthIndex_ediv w.date]
    omega
  have hmonth : w'.date.month = w.date.month := by
    rw [← Period.monthIndex_emod w'.date, ← Period.monthIndex_emod w.date]
    omega
  refine ⟨hyear, fun y => ?_⟩
  have h₅ := w.date.day_le
  constructor
  · rintro ⟨hy, hm, hd⟩
    rw [← hmonth, hm, show monthLength w.date.year 12 = 31 from rfl] at h₅
    exact ⟨by omega, by omega, by omega⟩
  · rintro ⟨hy, hm, hd⟩
    rw [hmonth, hm, show monthLength w'.date.year 12 = 31 from rfl] at hday
    exact ⟨by omega, by omega, by omega⟩

/-- **Last month and last year precede** this month and this year, except when the day a
month before, or a year before, is a New Year's Eve that the clocks have skipped. -/
theorem lastMonth_and_lastYear_precede (tz : Option Text) (origin : Int) :
    (∀ last this, lastMonth.span tz origin = .ok last → thisMonth.span tz origin = .ok this →
      ∃ w, Shows tz origin w ∧
        (¬ (∃ y, Zone.SkipsNewYearsEve tz y ∧ w.date.Is (y + 1) 1 31) → last.Precedes this) ∧
        ((∃ y, Zone.SkipsNewYearsEve tz y ∧ w.date.Is (y + 1) 1 31) → last = this)) ∧
      ∀ last this, lastYear.span tz origin = .ok last → thisYear.span tz origin = .ok this →
        ∃ w, Shows tz origin w ∧
          (¬ (∃ y, Zone.SkipsNewYearsEve tz y ∧ w.date.Is (y + 1) 12 31) → last.Precedes this) ∧
          ((∃ y, Zone.SkipsNewYearsEve tz y ∧ w.date.Is (y + 1) 12 31) → last = this) := by
  constructor
  · intro last this hlast hthis
    obtain ⟨j, hmove, hlast⟩ := bind_eq_ok_iff.1 hlast
    obtain ⟨w, w', hw, hcarries, h⟩ := Period.precedes_of_move (Or.inl rfl)
      (fun h => (carries_month_back h).1) hmove hlast hthis
    simp only [(carries_month_back hcarries).2] at h
    exact ⟨w, hw, h⟩
  · intro last this hlast hthis
    obtain ⟨j, hmove, hlast⟩ := bind_eq_ok_iff.1 hlast
    obtain ⟨w, w', hw, hcarries, h⟩ := Period.precedes_of_move (Or.inr rfl)
      (fun h => (carries_year_back h).1) hmove hlast hthis
    simp only [(carries_year_back hcarries).2] at h
    exact ⟨w, hw, h⟩

/-- On the thirtieth of January 1995 the month before is the December of thirty days. -/
theorem lastMonth_and_lastYear_precede_kiritimati :
    let tz := some Zone.kiritimatiKey
    lastMonth.span tz 791416800000 = .ok ⟨786276000000, 788867999999⟩ ∧
      thisMonth.span tz 791416800000 = .ok ⟨788868000000, 791546399999⟩ ∧
      Span.Precedes ⟨786276000000, 788867999999⟩ ⟨788868000000, 791546399999⟩ ∧
      lastYear.span tz 791416800000 = .ok ⟨757418400000, 788867999999⟩ ∧
      thisYear.span tz 791416800000 = .ok ⟨788868000000, 820403999999⟩ ∧
      Span.Precedes ⟨757418400000, 788867999999⟩ ⟨788868000000, 820403999999⟩ := by
  intro tz
  have hlastMonth : lastMonth.span tz 791416800000 = .ok ⟨786276000000, 788867999999⟩ :=
    eq_ok_of_toOption (by decide +kernel)
  have hthisMonth : thisMonth.span tz 791416800000 = .ok ⟨788868000000, 791546399999⟩ :=
    eq_ok_of_toOption (by decide +kernel)
  have hlastYear : lastYear.span tz 791416800000 = .ok ⟨757418400000, 788867999999⟩ :=
    eq_ok_of_toOption (by decide +kernel)
  have hthisYear : thisYear.span tz 791416800000 = .ok ⟨788868000000, 820403999999⟩ :=
    eq_ok_of_toOption (by decide +kernel)
  -- the clocks read noon of the thirtieth of January
  have hread : Shows tz 791416800000 ⟨791467200000⟩ :=
    (shows_iff (z := Zone.kiritimati) rfl).2 (by decide +kernel)
  obtain ⟨hmonth, hyear⟩ := lastMonth_and_lastYear_precede tz 791416800000
  refine ⟨hlastMonth, hthisMonth, ?_, hlastYear, hthisYear, ?_⟩
  · obtain ⟨w, hw, hprecedes, -⟩ := hmonth _ _ hlastMonth hthisMonth
    obtain rfl := hread.unique hw
    refine hprecedes ?_
    rintro ⟨y, -, -, -, hday⟩
    exact absurd hday (by decide +kernel)
  · obtain ⟨w, hw, hprecedes, -⟩ := hyear _ _ hlastYear hthisYear
    obtain rfl := hread.unique hw
    refine hprecedes ?_
    rintro ⟨y, -, -, -, hday⟩
    exact absurd hday (by decide +kernel)

/-- A day later it is no more found: the thirty-first of December 1994, which the clocks have
skipped, comes out as the first of January. -/
theorem lastMonth_eq_thisMonth_kiritimati :
    lastMonth.span (some Zone.kiritimatiKey) 791503200000 = .ok ⟨788868000000, 791546399999⟩ ∧
      thisMonth.span (some Zone.kiritimatiKey) 791503200000 =
        .ok ⟨788868000000, 791546399999⟩ ∧
      ¬ Span.Precedes ⟨788868000000, 791546399999⟩ ⟨788868000000, 791546399999⟩ := by
  refine ⟨eq_ok_of_toOption (by decide +kernel), eq_ok_of_toOption (by decide +kernel),
    fun h => ?_⟩
  exact absurd h.start_lt (by decide)

end Keyword

end Timespan
