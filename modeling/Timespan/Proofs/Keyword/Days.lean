import Timespan.Keyword
import Timespan.Proofs.Period.Moved

/-!
# The days and weeks that keywords name

Two readings are converted before a keyword has a start: that to which the origin is
moved, and the midnight of the period around it. The second conversion does no harm. The
midnight of a day that the clocks show is converted to that day, and periods start in
their order. The first does: if a leap skips the reading, the instant has the date of the
day after (`Zone.Overleaps`), and what follows from that depends on the keyword.

| keyword     | starts on             | if a leap skips the reading             |
|-------------|-----------------------|-----------------------------------------|
| `today`     | the day of the origin |                                         |
| `yesterday` | the day before        | it is today                             |
| `tomorrow`  | the day after         | it starts a day late                    |
| `thisweek`  | the last Sunday       |                                         |
| `lastweek`  | the Sunday before     | it is this week, if the origin is of a Saturday |

A day that is left out cannot be named, so yesterday is rightly today if yesterday has been
left out. But a last hour that is left out belongs to a day that the clocks have shown.
-/

namespace Timespan

open Calendar

variable {tz : Option Text} {z : Zone} {w v : WallClock} {instant origin j n : Int} {r t : Span}

/-! ### Where periods start -/

/-- **A span starts on a day**: the clocks show it at the start, if they show anything. -/
def Span.StartsOn (tz : Option Text) (r : Span) (n : Int) : Prop :=
  ∀ v, Shows tz r.start v → v.day = n

namespace Period

variable {p : Period}

/-- **A period starts on its first day**, if the clocks show that day. -/
theorem startsOn (hw : Shows tz instant w) (hr : p.span tz instant = .ok r)
    (h : ShowsDay tz (p.firstDay w.date)) : r.StartsOn tz (p.firstDay w.date) := by
  obtain ⟨z, w', hz, hw', hstart⟩ := exists_midnight_of_span hr
  obtain rfl := hw.unique hw'
  intro v hv
  rw [← hstart, shows_iff hz, Zone.wallClock?_eq_some_iff] at hv
  rw [← hv.2.2, day_reading_midnight hz h]

/-- **The earlier period starts earlier**, if the clocks show its first day or if it has
others. -/
theorem start_lt_start (hv : Shows tz j v) (hw : Shows tz instant w)
    (hr : p.span tz j = .ok r) (ht : p.span tz instant = .ok t)
    (hlt : p.index v.date < p.index w.date)
    (h : ShowsDay tz (p.firstDay v.date) ∨ p.firstDay v.date + 1 < p.opening (p.index v.date + 1)) :
    r.start < t.start := by
  obtain ⟨z, v', hz, hv', hstart⟩ := exists_midnight_of_span hr
  obtain ⟨z', w', hz', hw', hstart'⟩ := exists_midnight_of_span ht
  obtain rfl := hv.unique hv'
  obtain rfl := hw.unique hw'
  obtain rfl := Except.ok.inj (hz.symm.trans hz')
  rw [← hstart, ← hstart', firstDay_eq, firstDay_eq]
  refine earliest_opening_lt p hz hlt ?_
  rw [firstDay_eq] at h
  rcases h with hshown | hlong
  · rw [day_reading_midnight hz hshown]
    exact opening_lt_succ p _
  · exact Int.lt_of_le_of_lt (day_reading_midnight_le hz _) hlong

/-- **Around an instant moved by days** lies the period of the day so far ahead, or of the day
after it if a leap skips the reading there. -/
theorem exists_day_of_move (hw : Shows tz instant w)
    (hr : (Shift.move { days := n } tz instant >>= p.span tz) = .ok r) :
    ∃ j v, Shows tz j v ∧ p.span tz j = .ok r ∧
      (¬ Zone.Overleaps tz (w.addDays n) → v.day = w.day + n) ∧
      (Zone.Overleaps tz (w.addDays n) → v.day = w.day + n + 1) := by
  obtain ⟨j, hmove, hr⟩ := bind_eq_ok_iff.1 hr
  obtain ⟨z, v, hz, hv, -⟩ := exists_midnight_of_span hr
  obtain ⟨w', hcarries, h⟩ := Shift.exists_day_of_move hmove hw hv
  obtain rfl := hcarries.eq_addDays
  rw [WallClock.day_addDays] at h
  exact ⟨j, v, hv, hr, h⟩

end Period

/-! ### Days and weeks -/

theorem firstDay_day_date (w : WallClock) : Period.day.firstDay w.date = w.day :=
  Shift.toDay_date w

theorem firstDay_week_date (w : WallClock) :
    Period.week.firstDay w.date = w.day - (w.day + 4) % 7 := by
  rw [Period.firstDay, Date.weekday, Shift.toDay_date]

theorem weekday_date (w : WallClock) : w.date.weekday = (w.day + 4) % 7 := by
  rw [Date.weekday, Shift.toDay_date]

namespace Keyword

variable (hw : Shows tz origin w)
include hw

/-- Today starts on the day of the origin. -/
theorem today_starts_on (hr : today.span tz origin = .ok r) : r.StartsOn tz w.day := by
  have := Period.startsOn (p := .day) hw hr
  rw [firstDay_day_date] at this
  exact this ⟨origin, w, hw, rfl⟩

/-- **Yesterday is the day before**, or today. -/
theorem yesterday_starts_on (hr : yesterday.span tz origin = .ok r) :
    (¬ Zone.Overleaps tz (w.addDays (-1)) → r.StartsOn tz (w.day - 1) ∧
      ∀ t, today.span tz origin = .ok t → r.start < t.start) ∧
      (Zone.Overleaps tz (w.addDays (-1)) → today.span tz origin = .ok r) := by
  obtain ⟨j, v, hv, hr, hsame, hnext⟩ := Period.exists_day_of_move hw hr
  have hshown : ShowsDay tz (Period.day.firstDay v.date) := by
    rw [firstDay_day_date]
    exact ⟨j, v, hv, rfl⟩
  refine ⟨fun h => ⟨?_, fun t ht => ?_⟩, fun h => ?_⟩
  · have := Period.startsOn hv hr hshown
    rwa [firstDay_day_date, hsame h] at this
  · refine Period.start_lt_start hv hw hr ht ?_ (Or.inl hshown)
    have := hsame h
    simp only [Period.index, Shift.toDay_date]
    omega
  · refine Period.span_congr hv hw ?_ hr
    have := hnext h
    simp only [Period.index, Shift.toDay_date]
    omega

/-- **Tomorrow is the day after**, or the one after that. -/
theorem tomorrow_starts_on (hr : tomorrow.span tz origin = .ok r) :
    (¬ Zone.Overleaps tz (w.addDays 1) → r.StartsOn tz (w.day + 1)) ∧
      (Zone.Overleaps tz (w.addDays 1) → r.StartsOn tz (w.day + 2)) ∧
      ∀ t, today.span tz origin = .ok t → t.start < r.start := by
  obtain ⟨j, v, hv, hr, hsame, hnext⟩ := Period.exists_day_of_move hw hr
  have hstart : r.StartsOn tz v.day := by
    have := Period.startsOn hv hr
    rw [firstDay_day_date] at this
    exact this ⟨j, v, hv, rfl⟩
  refine ⟨fun h => ?_, fun h => ?_, fun t ht => ?_⟩
  · rwa [hsame h] at hstart
  · rwa [hnext h, Int.add_assoc] at hstart
  · refine Period.start_lt_start hw hv ht hr ?_ (Or.inl ?_)
    · simp only [Period.index, Shift.toDay_date]
      by_cases h : Zone.Overleaps tz (w.addDays 1)
      · have := hnext h
        omega
      · have := hsame h
        omega
    · rw [firstDay_day_date]
      exact ⟨origin, w, hw, rfl⟩

/-- This week starts on the last Sunday. -/
theorem thisWeek_starts_on (hr : thisWeek.span tz origin = .ok r)
    (h : ShowsDay tz (w.day - w.date.weekday)) : r.StartsOn tz (w.day - w.date.weekday) := by
  rw [weekday_date, ← firstDay_week_date] at *
  exact Period.startsOn hw hr h

/-- **Last week is the week before**, or this week: from a Saturday the move leads to a
Saturday, and a leap leads from there to the Sunday of this week. -/
theorem lastWeek_starts_on (hr : lastWeek.span tz origin = .ok r) :
    (¬ (Zone.Overleaps tz (w.addDays (-7)) ∧ w.date.weekday = 6) →
      (ShowsDay tz (w.day - w.date.weekday - 7) →
        r.StartsOn tz (w.day - w.date.weekday - 7)) ∧
      ∀ t, thisWeek.span tz origin = .ok t → r.start < t.start) ∧
      (Zone.Overleaps tz (w.addDays (-7)) ∧ w.date.weekday = 6 →
        thisWeek.span tz origin = .ok r) := by
  obtain ⟨j, v, hv, hr, hsame, hnext⟩ := Period.exists_day_of_move hw hr
  rw [weekday_date]
  refine ⟨fun h => ?_, fun h => ?_⟩
  · -- the day on which the move ends up lies in the week before
    have hweek : v.day - (v.day + 4) % 7 = w.day - (w.day + 4) % 7 - 7 := by
      by_cases hover : Zone.Overleaps tz (w.addDays (-7))
      · have hsaturday : (w.day + 4) % 7 ≠ 6 := fun h' => h ⟨hover, h'⟩
        have := hnext hover
        omega
      · have := hsame hover
        omega
    refine ⟨fun hshown => ?_, fun t ht => ?_⟩
    · rw [← hweek, ← firstDay_week_date] at *
      exact Period.startsOn hv hr hshown
    · refine Period.start_lt_start hv hw hr ht ?_ (Or.inr ?_)
      · simp only [Period.index, Shift.toDay_date]
        omega
      · rw [firstDay_week_date]
        simp only [Period.opening, Period.index, Shift.toDay_date]
        omega
  · refine Period.span_congr hv hw ?_ hr
    have := hnext h.1
    simp only [Period.index, Shift.toDay_date]
    omega

/-- **The days and weeks that keywords name**, around an origin at which the clocks read `w`. -/
theorem day_and_week_keywords :
    (∀ r, today.span tz origin = .ok r → r.StartsOn tz w.day) ∧
    (∀ r, yesterday.span tz origin = .ok r →
      (¬ Zone.Overleaps tz (w.addDays (-1)) → r.StartsOn tz (w.day - 1) ∧
        ∀ t, today.span tz origin = .ok t → r.start < t.start) ∧
      (Zone.Overleaps tz (w.addDays (-1)) → today.span tz origin = .ok r)) ∧
    (∀ r, tomorrow.span tz origin = .ok r →
      (¬ Zone.Overleaps tz (w.addDays 1) → r.StartsOn tz (w.day + 1)) ∧
      (Zone.Overleaps tz (w.addDays 1) → r.StartsOn tz (w.day + 2)) ∧
      ∀ t, today.span tz origin = .ok t → t.start < r.start) ∧
    (∀ r, thisWeek.span tz origin = .ok r → ShowsDay tz (w.day - w.date.weekday) →
      r.StartsOn tz (w.day - w.date.weekday)) ∧
    ∀ r, lastWeek.span tz origin = .ok r →
      (¬ (Zone.Overleaps tz (w.addDays (-7)) ∧ w.date.weekday = 6) →
        (ShowsDay tz (w.day - w.date.weekday - 7) →
          r.StartsOn tz (w.day - w.date.weekday - 7)) ∧
        ∀ t, thisWeek.span tz origin = .ok t → r.start < t.start) ∧
      (Zone.Overleaps tz (w.addDays (-7)) ∧ w.date.weekday = 6 →
        thisWeek.span tz origin = .ok r) :=
  ⟨fun _ => today_starts_on hw, fun _ => yesterday_starts_on hw, fun _ => tomorrow_starts_on hw,
    fun _ => thisWeek_starts_on hw, fun _ => lastWeek_starts_on hw⟩

omit hw

/-- Seen from the evening of the fourth of November 2018, a Sunday that began at one o'clock
in São Paulo. -/
theorem day_and_week_keywords_saoPaulo :
    let tz := some "America/Sao_Paulo".toList
    Shows tz 1541381400000 ⟨1541374200000⟩ ∧ WallClock.day ⟨1541374200000⟩ = 17839 ∧
      (today.span tz 1541381400000 = .ok ⟨1541300400000, 1541386799999⟩ ∧
        Span.StartsOn tz ⟨1541300400000, 1541386799999⟩ 17839) ∧
      (yesterday.span tz 1541381400000 = .ok ⟨1541214000000, 1541300399999⟩ ∧
        Span.StartsOn tz ⟨1541214000000, 1541300399999⟩ 17838) ∧
      (tomorrow.span tz 1541381400000 = .ok ⟨1541383200000, 1541469599999⟩ ∧
        Span.StartsOn tz ⟨1541383200000, 1541469599999⟩ 17840) ∧
      (thisWeek.span tz 1541381400000 = .ok ⟨1541300400000, 1541905199999⟩ ∧
        Span.StartsOn tz ⟨1541300400000, 1541905199999⟩ 17839) ∧
      lastWeek.span tz 1541381400000 = .ok ⟨1540695600000, 1541300399999⟩ ∧
        Span.StartsOn tz ⟨1540695600000, 1541300399999⟩ 17832 := by
  intro tz
  have hshows : ∀ {i w}, Zone.saoPaulo.wallClock? i = some w → Shows tz i w := fun h =>
    (shows_iff (z := Zone.saoPaulo) rfl).2 h
  have hread : Shows tz 1541381400000 ⟨1541374200000⟩ := hshows (by decide +kernel)
  have hsunday : ShowsDay tz 17839 := ⟨_, _, hread, by decide +kernel⟩
  have hlastSunday : ShowsDay tz 17832 :=
    ⟨1540776600000, ⟨1540765800000⟩, hshows (by decide +kernel), by decide +kernel⟩
  have htoday : today.span tz 1541381400000 = .ok ⟨1541300400000, 1541386799999⟩ :=
    eq_ok_of_toOption (by decide +kernel)
  have hyesterday : yesterday.span tz 1541381400000 = .ok ⟨1541214000000, 1541300399999⟩ :=
    eq_ok_of_toOption (by decide +kernel)
  have htomorrow : tomorrow.span tz 1541381400000 = .ok ⟨1541383200000, 1541469599999⟩ :=
    eq_ok_of_toOption (by decide +kernel)
  have hthisWeek : thisWeek.span tz 1541381400000 = .ok ⟨1541300400000, 1541905199999⟩ :=
    eq_ok_of_toOption (by decide +kernel)
  have hlastWeek : lastWeek.span tz 1541381400000 = .ok ⟨1540695600000, 1541300399999⟩ :=
    eq_ok_of_toOption (by decide +kernel)
  obtain ⟨h₁, h₂, h₃, h₄, h₅⟩ := day_and_week_keywords hread
  refine ⟨hread, by decide +kernel, ⟨htoday, h₁ _ htoday⟩, ⟨hyesterday, ?_⟩, ⟨htomorrow, ?_⟩,
    ⟨hthisWeek, h₄ _ hthisWeek hsunday⟩, hlastWeek, ?_⟩
  · exact ((h₂ _ hyesterday).1 (by decide +kernel)).1
  · exact (h₃ _ htomorrow).1 (by decide +kernel)
  · exact ((h₅ _ hlastWeek).1 (by decide +kernel)).1 hlastSunday

/-- Half past eleven in the evening has been skipped in Nuuk on the thirtieth of March 2024,
and the day before the thirty-first is taken to be that day itself. -/
theorem yesterday_eq_today_nuuk :
    let tz := some Zone.nuukKey
    Shows tz 1711931400000 ⟨1711927800000⟩ ∧ WallClock.day ⟨1711927800000⟩ = 19813 ∧
      ShowsDay tz 19812 ∧
      yesterday.span tz 1711931400000 = .ok ⟨1711846800000, 1711933199999⟩ ∧
      today.span tz 1711931400000 = .ok ⟨1711846800000, 1711933199999⟩ ∧
      ¬ Span.StartsOn tz ⟨1711846800000, 1711933199999⟩ 19812 := by
  intro tz
  have hshows : ∀ {i w}, Zone.nuuk.wallClock? i = some w → Shows tz i w := fun h =>
    (shows_iff Zone.find_nuuk).2 h
  refine ⟨hshows (by decide +kernel), by decide +kernel, ?_, eq_ok_of_toOption (by decide +kernel),
    eq_ok_of_toOption (by decide +kernel), fun h => ?_⟩
  · exact ⟨1711846799000, ⟨1711839599000⟩, hshows (by decide +kernel), by decide +kernel⟩
  · have := h ⟨1711843200000⟩ (hshows (by decide +kernel))
    exact absurd this (by decide)

end Keyword

end Timespan
