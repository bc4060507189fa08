import Timespan.Proofs.Period.Opening
import Timespan.Proofs.Zone.Reading
import Timespan.Shift

/-!
# Where moves and periods land

A move carries a reading to another reading (`Shift.Carries`), a period begins at the
midnight of its first day (`Period.IsFirstDay`), and both have to find the instant to
which the reading they land on belongs (`BelongsAt`). They find it in every zone
(`belongsAt_of_move_and_span`), with the one exception of the misread hour: a move that
lands there ends up an hour early. Periods begin at midnight, so they are never misread.
-/

namespace Timespan

open Calendar

/-! ### The reading a move lands on -/

namespace Shift

/-- **A move carries a reading to another**: the months are counted first, where a day
that the month lacks becomes its last, and the days from there. The time of day stays. -/
def Carries (s : Shift) (w w' : WallClock) : Prop :=
  ∃ d : Date, d.monthIndex = w.date.monthIndex + (12 * s.years + s.months) ∧
    d.day = min w.date.day (monthLength d.year d.month) ∧
    w'.day = d.toDay + s.days ∧ w'.timeOfDay = w.timeOfDay

theorem carries_of_shift? {s : Shift} {w w' : WallClock}
    (h : w.shift? s.totalMonths s.days = some w') : s.Carries w w' := by
  obtain ⟨d, hd, h⟩ := Option.bind_eq_some_iff.1 h
  obtain ⟨d', hd', h⟩ := Option.bind_eq_some_iff.1 h
  obtain rfl := Option.some.inj h
  have hmonths : Date.ofMonthIndex (w.date.monthIndex + s.totalMonths) w.date.day
      w.date.one_le_day = d := by
    rw [Date.addMonths?] at hd
    split at hd
    · exact Option.some.inj hd
    · exact absurd hd (by simp)
  have hdays : d'.toDay = d.toDay + s.days := by
    rw [Date.addDays?] at hd'
    split at hd'
    · obtain rfl := Option.some.inj hd'
      exact Date.toDay_ofDay _
    · exact absurd hd' (by simp)
  have h₁ := w.timeOfDay_nonneg
  have h₂ := w.timeOfDay_lt
  -- the clamped date is `d`; the days are counted from there
  refine ⟨d, ?_, ?_, ?_, WallClock.timeOfDay_ofDay h₁ h₂⟩
  · rw [← hmonths, Date.monthIndex_ofMonthIndex, totalMonths]
  · rw [← hmonths]
    rfl
  · rw [← hdays]
    exact WallClock.day_ofDay h₁ h₂

theorem guard_eq_some_iff (s : Shift) :
    (guard s.IsCountable : Option Unit) = some () ↔ s.IsCountable := by
  unfold guard
  split
  · next h => exact ⟨fun _ => h, fun _ => rfl⟩
  · next h => exact ⟨fun h => absurd h (by simp), fun h' => absurd h' h⟩

/-- **A move** goes over the wall. -/
theorem move?_eq_some_iff {s : Shift} {z : Zone} {instant j : Int} :
    s.move? z instant = some j ↔ s.IsCountable ∧ ∃ w w', z.wallClock? instant = some w ∧
      w.shift? s.totalMonths s.days = some w' ∧ z.instant? w' = some j := by
  rw [move?, Option.bind_eq_bind, Option.bind_eq_some_iff]
  refine ⟨fun h => ?_, fun h => ?_⟩
  · obtain ⟨w', htarget, hj⟩ := h
    rw [target?, Option.bind_eq_bind, Option.bind_eq_some_iff] at htarget
    obtain ⟨u, hc, htarget⟩ := htarget
    rw [Option.bind_eq_bind, Option.bind_eq_some_iff] at htarget
    obtain ⟨w, hw, hshift⟩ := htarget
    exact ⟨s.guard_eq_some_iff.1 hc, w, w', hw, hshift, hj⟩
  · obtain ⟨hc, w, w', hw, hshift, hj⟩ := h
    refine ⟨w', ?_, hj⟩
    rw [target?, Option.bind_eq_bind, Option.bind_eq_some_iff]
    refine ⟨(), s.guard_eq_some_iff.2 hc, ?_⟩
    rw [Option.bind_eq_bind, Option.bind_eq_some_iff]
    exact ⟨w, hw, hshift⟩

/-- A move that succeeds has been made on the wall. -/
theorem exists_carries_of_move {s : Shift} {tz : Option Text} {instant j : Int}
    (h : s.move tz instant = .ok j) : ∃ z w w', Zone.find tz = .ok z ∧ Shows tz instant w ∧
      s.Carries w w' ∧ z.earliest w' = j := by
  obtain ⟨z, hz, h⟩ := exists_find_of_inZone h
  obtain ⟨-, w, w', hw, hshift, hw'⟩ := move?_eq_some_iff.1 h
  exact ⟨z, w, w', hz, (shows_iff hz).2 hw, carries_of_shift? hshift,
    (Zone.instant?_eq_some_iff.1 hw').2⟩

end Shift

/-! ### Midnights -/

/-- A period that has a span begins at a midnight. -/
theorem Period.exists_midnight_of_span {p : Period} {tz : Option Text} {instant : Int} {r : Span}
    (h : p.span tz instant = .ok r) : ∃ z w, Zone.find tz = .ok z ∧ Shows tz instant w ∧
      z.earliest (.ofDay (p.firstDay w.date) 0) = r.start := by
  obtain ⟨z, hz, h⟩ := exists_find_of_inZone h
  obtain ⟨w, hw, hstart, -⟩ := Period.span?_eq_some_iff.1 h
  rw [← Period.firstDay_eq] at hstart
  exact ⟨z, w, hz, (shows_iff hz).2 hw, (Zone.instant?_eq_some_iff.1 hstart).2⟩

/-! ### Landing -/

/-- **Moves and periods land where their readings belong.** A move out of the misread
hour's way and every period end up at the first instant that shows the reading they aim
at or, if there is none, at one when the clocks have gone past it. A move into the
misread hour ends up an hour before the only instant that shows its reading. -/
theorem belongsAt_of_move_and_span (tz : Option Text) (instant : Int) :
    (∀ (s : Shift) (j : Int), s.move tz instant = .ok j →
      ∃ w w', Shows tz instant w ∧ s.Carries w w' ∧
        (¬ Zone.Misread tz (w'.millis / 1000) → BelongsAt tz w' j) ∧
        (Zone.Misread tz (w'.millis / 1000) →
          Shows tz j ⟨w'.millis - 3600000⟩ ∧ ∀ i, Shows tz i w' ↔ i = j + 3600000)) ∧
    (∀ (p : Period) (r : Span), p.span tz instant = .ok r →
      ∃ w n, Shows tz instant w ∧ p.IsFirstDay w.date n ∧
        BelongsAt tz (.ofDay n 0) r.start) := by
  constructor
  · intro s j h
    obtain ⟨z, w, w', hz, hw, hcarries, rfl⟩ := Shift.exists_carries_of_move h
    exact ⟨w, w', hw, hcarries, belongsAt_earliest hz, shows_earliest_of_misread hz⟩
  · intro p r h
    obtain ⟨z, w, hz, hw, hstart⟩ := Period.exists_midnight_of_span h
    rw [← hstart]
    exact ⟨w, p.firstDay w.date, hw, p.isFirstDay_firstDay w.date,
      belongsAt_earliest hz (not_misread_midnight tz _)⟩

/-- On the fourth of November 2018 the clocks of São Paulo skipped midnight, and on the
sixteenth of February they showed half past eleven in the evening twice. -/
theorem belongsAt_in_saoPaulo :
    let tz := some "America/Sao_Paulo".toList
    Shift.move { months := 3, days := 12 } tz 1541381400000 = .ok 1550367000000 ∧
      (∃ w w', Shows tz 1541381400000 w ∧ Shift.Carries { months := 3, days := 12 } w w' ∧
        BelongsAt tz w' 1550367000000) ∧
      Period.day.span tz 1541381400000 = .ok ⟨1541300400000, 1541386799999⟩ ∧
      ∃ w n, Shows tz 1541381400000 w ∧ Period.day.IsFirstDay w.date n ∧
        BelongsAt tz (.ofDay n 0) 1541300400000 := by
  have hz : Zone.find (some "America/Sao_Paulo".toList) = .ok Zone.saoPaulo := rfl
  have hmove : Shift.move { months := 3, days := 12 } (some "America/Sao_Paulo".toList)
      1541381400000 = .ok 1550367000000 :=
    (inZone_eq_ok_iff hz).2 (by decide +kernel)
  have hspan : Period.day.span (some "America/Sao_Paulo".toList) 1541381400000 =
      .ok ⟨1541300400000, 1541386799999⟩ :=
    (inZone_eq_ok_iff hz).2 (by decide +kernel)
  obtain ⟨hmoves, hspans⟩ :=
    belongsAt_of_move_and_span (some "America/Sao_Paulo".toList) 1541381400000
  obtain ⟨w, w', hw, hcarries, hbelongs, -⟩ := hmoves _ _ hmove
  refine ⟨hmove, ⟨w, w', hw, hcarries, hbelongs fun h => ?_⟩, hspan, hspans _ _ hspan⟩
  exact absurd h.1 (by decide)

/-- Half past eleven in the evening is not found in the misread hour, although the clocks
show it: the move a day ahead ends up when they show half past ten. -/
theorem not_belongsAt_in_misread_hour :
    ∃ w w', Shows (some Zone.nuukKey) 1698456600000 w ∧ Shift.Carries { days := 1 } w w' ∧
      Shift.move { days := 1 } (some Zone.nuukKey) 1698456600000 = .ok 1698539400000 ∧
      Shows (some Zone.nuukKey) 1698543000000 w' ∧
      ¬ BelongsAt (some Zone.nuukKey) w' 1698539400000 := by
  have hw : Shows (some Zone.nuukKey) 1698456600000 ⟨1698449400000⟩ :=
    (shows_iff Zone.find_nuuk).2 (by decide +kernel)
  have hlate : Shows (some Zone.nuukKey) 1698543000000 ⟨1698535800000⟩ :=
    (shows_iff Zone.find_nuuk).2 (by decide +kernel)
  have hearly : Shows (some Zone.nuukKey) 1698539400000 ⟨1698532200000⟩ :=
    (shows_iff Zone.find_nuuk).2 (by decide +kernel)
  refine ⟨⟨1698449400000⟩, ⟨1698535800000⟩, hw, Shift.carries_of_shift? (by decide +kernel),
    (inZone_eq_ok_iff Zone.find_nuuk).2 (by decide +kernel), hlate, fun h => ?_⟩
  have := (h.first ⟨_, hlate⟩).1.unique hearly
  exact absurd this (by decide)

end Timespan
