import Timespan.Proofs.Universal
import Timespan.Proofs.Zone.Parting

/-!
# The instants of a period

Midnights part the days, so the instants at which the clocks show a period are those from the
midnight of its opening up to that of the next (`Period.index_eq_iff`). What the span of a period
has to do with them depends on where it ends:

* a **month** and a **year** end where the next one opens, so their span holds these instants and
  no others (`Period.months_and_years_hold_instants`);
* a **day** and a **week** end when their length has run out. If the clocks have been put back
  since the midnight, that is too early: the span is over by as much before the clocks have come
  to the next midnight, and then *today* is a day to which the origin does not belong
  (`Period.days_and_weeks_hold_instant`).

No span starts after its instant (`Period.start_le`), and at its start the clocks show the same
period if they show anything, so that it is found again from there (`Period.span_start`).
-/

namespace Timespan

open Calendar

variable {p : Period} {tz : Option Text} {z : Zone} {w v : WallClock} {instant j k : Int}
  {r : Span}

/-! ### Instants of a span -/

/-- **The instants of a span** are those from its start to its stop, both included. -/
instance : Membership Int Span :=
  ⟨fun r i => r.start ≤ i ∧ i ≤ r.stop⟩

theorem Span.mem_iff {i : Int} : i ∈ r ↔ r.start ≤ i ∧ i ≤ r.stop :=
  Iff.rfl

instance (i : Int) (r : Span) : Decidable (i ∈ r) :=
  decidable_of_iff _ Span.mem_iff.symm

namespace Period

/-! ### Openings and instants -/

/-- **The period of an instant** is the one that has opened by then, when the next has not. -/
theorem index_eq_iff (hz : Zone.find tz = .ok z) (hv : Shows tz j v) :
    p.index v.date = k ↔ z.earliest (.ofDay (p.opening k) 0) ≤ j ∧
      j < z.earliest (.ofDay (p.opening (k + 1)) 0) := by
  obtain ⟨-, -, rfl⟩ := Zone.wallClock?_eq_some_iff.1 ((shows_iff hz).1 hv)
  rw [WallClock.date, index_ofDay_eq_iff, ← Int.not_le, ← Int.not_le,
    Zone.earliest_midnight_le_iff hz, Zone.earliest_midnight_le_iff hz]

/-- **A period with a span** is that of what the clocks show, and its span starts at the midnight
of the opening. -/
theorem exists_opening_of_span (h : p.span tz instant = .ok r) : ∃ z w, Zone.find tz = .ok z ∧
    Shows tz instant w ∧ z.earliest (.ofDay (p.opening (p.index w.date)) 0) = r.start := by
  obtain ⟨z, w, hz, hw, hstart⟩ := exists_midnight_of_span h
  rw [firstDay_eq] at hstart
  exact ⟨z, w, hz, hw, hstart⟩

/-- **No period starts after the instant** it is asked for. -/
theorem start_le (h : p.span tz instant = .ok r) : r.start ≤ instant := by
  obtain ⟨z, w, hz, hw, hstart⟩ := exists_opening_of_span h
  rw [← hstart]
  exact ((index_eq_iff hz hw).1 rfl).1

/-! ### Months and years -/

/-- **A span from opening to opening** holds the instants of its period. -/
theorem Spans.mem_iff_index (hz : Zone.find tz = .ok z) (h : p.Spans z k r) (hv : Shows tz j v) :
    j ∈ r ↔ p.index v.date = k := by
  have hstart := (Zone.instant?_eq_some_iff.1 h.start).2
  have hnext := (Zone.instant?_eq_some_iff.1 h.next).2
  rw [index_eq_iff hz hv, hstart, hnext, Int.lt_add_one_iff, Span.mem_iff]

/-- **Periods without a length** hold the instants at which the clocks show them. -/
theorem exists_mem_iff_index (hp : p.length? = none) (h : p.span tz instant = .ok r) :
    ∃ w, Shows tz instant w ∧ ∀ j v, Shows tz j v → (j ∈ r ↔ p.index v.date = p.index w.date) := by
  obtain ⟨z, hz, -⟩ := exists_find_of_inZone h
  obtain ⟨w, hw, hspans⟩ := (span_eq_ok_iff hp hz).1 h
  exact ⟨w, hw, fun j v hv => hspans.mem_iff_index hz hv⟩

/-- Dates of one month are those that agree in it and in the year. -/
theorem index_month_eq_iff {d d' : Date} :
    month.index d = month.index d' ↔ d.year = d'.year ∧ d.month = d'.month := by
  have h₁ := d.one_le_month
  have h₂ := d.month_le
  have h₃ := d'.one_le_month
  have h₄ := d'.month_le
  simp only [index, Date.monthIndex]
  omega

/-- **Months and years hold their instants**: the span of the month around an instant has just
those instants at which the clocks show a date of that month, and likewise the span of the year.
The instant itself is one of them. -/
theorem months_and_years_hold_instants (tz : Option Text) (instant : Int) :
    (∀ r, month.span tz instant = .ok r → ∃ w, Shows tz instant w ∧ instant ∈ r ∧
      ∀ j v, Shows tz j v → (j ∈ r ↔ v.date.year = w.date.year ∧ v.date.month = w.date.month)) ∧
    ∀ r, year.span tz instant = .ok r → ∃ w, Shows tz instant w ∧ instant ∈ r ∧
      ∀ j v, Shows tz j v → (j ∈ r ↔ v.date.year = w.date.year) := by
  constructor
  · intro r hr
    obtain ⟨w, hw, hmem⟩ := exists_mem_iff_index (p := month) rfl hr
    refine ⟨w, hw, (hmem instant w hw).2 rfl, fun j v hv => ?_⟩
    rw [hmem j v hv, index_month_eq_iff]
  · intro r hr
    obtain ⟨w, hw, hmem⟩ := exists_mem_iff_index (p := year) rfl hr
    exact ⟨w, hw, (hmem instant w hw).2 rfl, fun j v hv => hmem j v hv⟩

/-- In September 1969 the clocks of Kwajalein were put back by twenty-three hours as the month
ended, and showed its last day a second time. That day belongs to the month all the same. -/
theorem months_and_years_hold_instants_kwajalein :
    let tz := some Zone.kwajaleinKey
    let september : Span := ⟨-10580400000, -7905600001⟩
    let whole : Span := ⟨-31575600000, 43199999⟩
    month.span tz (-8000000000) = .ok september ∧ year.span tz (-8000000000) = .ok whole ∧
      Shows tz (-7980000000) ⟨-8023200000⟩ ∧ -7980000000 ∈ september ∧ -7980000000 ∈ whole ∧
      Shows tz (-7900000000) ⟨-7943200000⟩ ∧ -7900000000 ∉ september ∧ -7900000000 ∈ whole := by
  intro tz september whole
  have hshows : ∀ {i w}, Zone.kwajalein.wallClock? i = some w → Shows tz i w := fun h =>
    (shows_iff (z := Zone.kwajalein) rfl).2 h
  have hmonth : month.span tz (-8000000000) = .ok september :=
    eq_ok_of_toOption (by decide +kernel)
  have hyear : year.span tz (-8000000000) = .ok whole :=
    eq_ok_of_toOption (by decide +kernel)
  have hread : Shows tz (-8000000000) ⟨-7960400000⟩ := hshows (by decide +kernel)
  have hagain : Shows tz (-7980000000) ⟨-8023200000⟩ := hshows (by decide +kernel)
  have hlater : Shows tz (-7900000000) ⟨-7943200000⟩ := hshows (by decide +kernel)
  obtain ⟨hmonths, hyears⟩ := months_and_years_hold_instants tz (-8000000000)
  obtain ⟨w, hw, -, hinMonth⟩ := hmonths _ hmonth
  obtain rfl := hread.unique hw
  obtain ⟨w', hw', -, hinYear⟩ := hyears _ hyear
  obtain rfl := hread.unique hw'
  refine ⟨hmonth, hyear, hagain, (hinMonth _ _ hagain).2 (by decide +kernel),
    (hinYear _ _ hagain).2 (by decide +kernel), hlater, fun h => ?_,
    (hinYear _ _ hlater).2 (by decide +kernel)⟩
  exact absurd ((hinMonth _ _ hlater).1 h) (by decide +kernel)

end Period

/-! ### Days and weeks -/

/-- **How far the clocks have been put back** at an instant since the midnight of a day, in
milliseconds: by how much the offset of the midnight exceeds the one in force. If they have been
put forward the number is negative. -/
def Zone.setBack (z : Zone) (n instant : Int) : Int :=
  Duration.second * (z.offsetOnWall ((WallClock.ofDay n 0).millis / Duration.second) -
    z.offsetAt (instant / Duration.second))

/-- **The time since a midnight** is what the clocks show since then and what they have been put
back. -/
theorem Zone.sub_earliest_midnight (z : Zone) (n instant : Int) :
    instant - z.earliest (.ofDay n 0) =
      (z.reading instant).millis + z.setBack n instant - n * Duration.day := by
  rw [millis_reading, earliest, setBack]
  simp only [WallClock.ofDay, Duration.second]
  omega

namespace Period

/-- A reading lies before the next midnight at which a period opens. -/
theorem millis_lt_nextFirstDay (p : Period) (w : WallClock) :
    w.millis < p.nextFirstDay w.date * Duration.day := by
  have hnext := p.toDay_lt_nextFirstDay w.date
  rw [Shift.toDay_date, WallClock.day] at hnext
  simp only [Duration.day_eq] at hnext ⊢
  omega

/-- **A span of a length** holds the instant it was asked for if the clocks have not been put
back, since its midnight, by as much as is left of the period on them. -/
theorem mem_iff_setBack {length : Int} (hp : p.length? = some length)
    (hz : Zone.find tz = .ok z) (hw : Shows tz instant w) (h : p.span tz instant = .ok r) :
    instant ∈ r ↔ w.millis + z.setBack (p.firstDay w.date) instant <
      p.nextFirstDay w.date * Duration.day := by
  have hstart := start_le h
  obtain ⟨w', hw', hmidnight, hstop⟩ := span?_eq_some_iff.1 ((inZone_eq_ok_iff hz).1 h)
  obtain rfl := hw.unique ((shows_iff hz).2 hw')
  rw [hp] at hstop
  simp only at hstop
  obtain ⟨-, hearliest⟩ := Zone.instant?_eq_some_iff.1 hmidnight
  have hsince := z.sub_earliest_midnight (p.firstDay w.date) instant
  rw [(Zone.wallClock?_eq_some_iff.1 hw').2.2, firstDay_eq, hearliest] at hsince
  rw [Span.mem_iff, firstDay_eq, nextFirstDay_eq, opening_succ_mul_day hp]
  omega

/-- **Days and weeks hold the instant** they are asked for, unless the clocks have been put back
since their midnight: then they are over too early, by as much. They never start after it. What
is called today, or this week, is the day or the week around the origin. -/
theorem days_and_weeks_hold_instant (tz : Option Text) (instant : Int) :
    (∀ p r, p = day ∨ p = week → p.span tz instant = .ok r →
      ∃ z w, Zone.find tz = .ok z ∧ Shows tz instant w ∧ r.start ≤ instant ∧
        (z.setBack (p.firstDay w.date) instant ≤ 0 → instant ∈ r) ∧
        (instant ∈ r ↔ w.millis + z.setBack (p.firstDay w.date) instant <
          p.nextFirstDay w.date * Duration.day)) ∧
      Keyword.today.span tz instant = day.span tz instant ∧
      Keyword.thisWeek.span tz instant = week.span tz instant := by
  refine ⟨fun p r hp hr => ?_, rfl, rfl⟩
  obtain ⟨length, hlength⟩ : ∃ length, p.length? = some length := by
    rcases hp with rfl | rfl
    · exact ⟨_, rfl⟩
    · exact ⟨_, rfl⟩
  obtain ⟨z, w, hz, hw, -⟩ := exists_opening_of_span hr
  have hmem := mem_iff_setBack hlength hz hw hr
  refine ⟨z, w, hz, hw, start_le hr, fun hback => ?_, hmem⟩
  have hnext := p.millis_lt_nextFirstDay w
  rw [hmem]
  omega

/-- At half past ten in the evening of the day on which the clocks have been put back by an hour,
in California in November 2024, there is still half an hour left of the span. -/
theorem days_and_weeks_hold_instant_usPacific :
    let tz := some "US/Pacific".toList
    let sunday : Span := ⟨1730617200000, 1730703599999⟩
    day.span tz 1730701800000 = .ok sunday ∧ Shows tz 1730701800000 ⟨1730673000000⟩ ∧
      WallClock.hour ⟨1730673000000⟩ = 22 ∧ Zone.usPacific.setBack 20030 1730701800000 = 3600000 ∧
      1730701800000 ∈ sunday := by
  intro tz sunday
  have hz : Zone.find tz = .ok Zone.usPacific := rfl
  have hday : day.span tz 1730701800000 = .ok sunday := eq_ok_of_toOption (by decide +kernel)
  have hread : Shows tz 1730701800000 ⟨1730673000000⟩ := (shows_iff hz).2 (by decide +kernel)
  obtain ⟨z, w, hz', hw, -, -, hmem⟩ :=
    (days_and_weeks_hold_instant tz 1730701800000).1 day _ (Or.inl rfl) hday
  obtain rfl := Except.ok.inj (hz.symm.trans hz')
  obtain rfl := hread.unique hw
  exact ⟨hday, hread, by decide +kernel, by decide +kernel, hmem.2 (by decide +kernel)⟩

/-- An hour later, at half past eleven, the clocks still show that Sunday, but it is over. At half
past eleven of the Saturday that ends the week, the week is over too. -/
theorem today_over_usPacific :
    let tz := some "US/Pacific".toList
    Shows tz 1730705400000 ⟨1730676600000⟩ ∧ WallClock.day ⟨1730676600000⟩ = 20030 ∧
      Keyword.today.span tz 1730705400000 = .ok ⟨1730617200000, 1730703599999⟩ ∧
      1730705400000 ∉ (⟨1730617200000, 1730703599999⟩ : Span) ∧
      Shows tz 1731223800000 ⟨1731195000000⟩ ∧ WallClock.day ⟨1731195000000⟩ = 20036 ∧
      Keyword.thisWeek.span tz 1731223800000 = .ok ⟨1730617200000, 1731221999999⟩ ∧
      1731223800000 ∉ (⟨1730617200000, 1731221999999⟩ : Span) := by
  intro tz
  have hshows : ∀ {i w}, Zone.usPacific.wallClock? i = some w → Shows tz i w := fun h =>
    (shows_iff (z := Zone.usPacific) rfl).2 h
  exact ⟨hshows (by decide +kernel), by decide, eq_ok_of_toOption (by decide +kernel), by decide,
    hshows (by decide +kernel), by decide, eq_ok_of_toOption (by decide +kernel), by decide⟩

/-! ### Starts -/

/-- **At the start of a period** the clocks show that period, if they show anything. -/
theorem index_start (h : p.span tz instant = .ok r) (hw : Shows tz instant w)
    (hv : Shows tz r.start v) : p.index w.date = p.index v.date := by
  obtain ⟨z, w', hz, hw', hstart⟩ := exists_opening_of_span h
  obtain rfl := hw.unique hw'
  obtain ⟨-, hnext⟩ := (index_eq_iff (p := p) hz hw).1 rfl
  have hle := start_le h
  exact ((index_eq_iff hz hv).2 ⟨Int.le_of_eq hstart, by omega⟩).symm

/-- **A period is found again from its start**, if the calendar has the start. -/
theorem span_start (p : Period) (tz : Option Text) (instant : Int) (r : Span)
    (h : p.span tz instant = .ok r) :
    (∀ r', p.span tz r.start = .ok r' → r' = r) ∧
      ((∃ v, Shows tz r.start v) → p.span tz r.start = .ok r) := by
  obtain ⟨z, w, hz, hw, -⟩ := exists_opening_of_span h
  have hagain : ∀ v, Shows tz r.start v → p.span tz r.start = .ok r := fun v hv =>
    span_congr hw hv (index_start h hw hv) h
  refine ⟨fun r' hr' => ?_, fun ⟨v, hv⟩ => hagain v hv⟩
  obtain ⟨-, v, -, hv, -⟩ := exists_opening_of_span hr'
  exact Except.ok.inj (hr'.symm.trans (hagain v hv))

/-- The week that began on the fourth of November 2018 in São Paulo started at one o'clock, since
its midnight was skipped. From there it is found again. -/
theorem span_start_saoPaulo :
    let tz := some "America/Sao_Paulo".toList
    let r : Span := ⟨1541300400000, 1541905199999⟩
    week.span tz 1541480400000 = .ok r ∧ Shows tz r.start ⟨1541293200000⟩ ∧
      WallClock.hour ⟨1541293200000⟩ = 1 ∧ week.span tz r.start = .ok r := by
  intro tz r
  have hweek : week.span tz 1541480400000 = .ok r := eq_ok_of_toOption (by decide +kernel)
  have hread : Shows tz r.start ⟨1541293200000⟩ :=
    (shows_iff (z := Zone.saoPaulo) rfl).2 (by decide +kernel)
  exact ⟨hweek, hread, by decide +kernel, (span_start week tz _ r hweek).2 ⟨_, hread⟩⟩

end Period

end Timespan
