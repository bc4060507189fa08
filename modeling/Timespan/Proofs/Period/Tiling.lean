import Timespan.Proofs.Landing

/-!
# Months and years tile time

A month ends where the next one begins, and so does a year; but each is found around an
instant, on its own. To say that they tile time one has to walk: from the period around
an instant to the period around the instant after its end, and so on (`Period.nth`).

What carries the walk is that a period is known by its number. Its two ends are the
midnights of two successive openings (`Period.Spans`), and around the instant to which
the midnight of an opening is converted lies the period that opens there, even if the
clocks skip that midnight: they are less than two days ahead, and no month is that short
(`Period.index_of_midnight`). So each step counts one further (`Period.spans_nth`).
-/

namespace Timespan.Period

open Calendar

variable {p : Period} {tz : Option Text} {z : Zone} {instant j k : Int} {w : WallClock}
  {r r' : Span}

/-! ### The walk -/

/-- **The periods one after another**, beginning with the one around an instant: the next
is the one around the instant after the end of the last. -/
def nth (p : Period) (tz : Option Text) (instant : Int) : Nat → Except Failure Span
  | 0 => p.span tz instant
  | n + 1 => do
    let r ← p.nth tz instant n
    p.span tz (r.stop + 1)

theorem nth_succ_eq_ok_iff {n : Nat} :
    p.nth tz instant (n + 1) = .ok r' ↔
      ∃ r, p.nth tz instant n = .ok r ∧ p.span tz (r.stop + 1) = .ok r' :=
  bind_eq_ok_iff

/-! ### Periods by their number -/

/-- **A span is the period of a number**: it runs between the midnights of two
openings. -/
structure Spans (p : Period) (z : Zone) (k : Int) (r : Span) : Prop where
  /-- It starts at the midnight of its opening. -/
  start : z.midnight? (p.opening k) = some r.start
  /-- It stops before the midnight of the next. -/
  next : z.midnight? (p.opening (k + 1)) = some (r.stop + 1)

theorem span_eq_ok_iff (hp : p.length? = none) (hz : Zone.find tz = .ok z) :
    p.span tz instant = .ok r ↔ ∃ w, Shows tz instant w ∧ p.Spans z (p.index w.date) r := by
  rw [span, inZone_eq_ok_iff hz, span?_eq_some_iff, hp]
  simp only [shows_iff hz]
  refine ⟨fun h => ?_, fun h => ?_⟩
  · obtain ⟨w, hw, hstart, hnext⟩ := h
    exact ⟨w, hw, hstart, hnext⟩
  · obtain ⟨w, hw, hstart, hnext⟩ := h
    exact ⟨w, hw, hstart, hnext⟩

/-- **Around a midnight that opens a period** lies that period, whether or not the clocks
show the midnight. -/
theorem index_of_midnight (hp : p.length? = none) (hz : Zone.find tz = .ok z)
    (hj : z.midnight? (p.opening k) = some j) (hw : Shows tz j w) : p.index w.date = k := by
  obtain ⟨-, rfl⟩ := Zone.instant?_eq_some_iff.1 hj
  rw [shows_iff hz, Zone.wallClock?_eq_some_iff] at hw
  obtain ⟨-, -, hread⟩ := hw
  have hres := (Zone.regular_of_find hz).resolves
    (Zone.settled_of_not_misread hz (not_misread_midnight tz (p.opening k)))
  have h₁ := Zone.le_reading_earliest hres
  have h₂ := Zone.reading_earliest_lt hres
  have hlong := opening_add_le hp k
  rw [hread] at h₁ h₂
  -- the clocks show something between the midnight and two days after it
  simp only [WallClock.ofDay, Duration.day_eq]
    at h₁ h₂
  rw [WallClock.date, index_ofDay_eq_iff]
  simp only [WallClock.day, Duration.day_eq]
  omega

/-- **A step of the walk** leads to the next number, and leaves no gap. -/
theorem Spans.succ (hp : p.length? = none) (hz : Zone.find tz = .ok z) (h : p.Spans z k r)
    (hr' : p.span tz (r.stop + 1) = .ok r') :
    p.Spans z (k + 1) r' ∧ r'.start = r.stop + 1 := by
  obtain ⟨w, hw, hspans⟩ := (span_eq_ok_iff hp hz).1 hr'
  rw [index_of_midnight hp hz h.next hw] at hspans
  exact ⟨hspans, Option.some.inj (hspans.start.symm.trans h.next)⟩

/-- **The walk counts**: after `n` steps it has come to the period whose number is greater
by `n`. -/
theorem spans_nth (hp : p.length? = none) (hz : Zone.find tz = .ok z) (hw : Shows tz instant w)
    {n : Nat} (h : p.nth tz instant n = .ok r) : p.Spans z (p.index w.date + n) r := by
  induction n generalizing r with
  | zero =>
    obtain ⟨w', hw', hspans⟩ := (span_eq_ok_iff hp hz).1 h
    obtain rfl := hw.unique hw'
    simpa using hspans
  | succ n ih =>
    obtain ⟨r₀, hr₀, hr⟩ := nth_succ_eq_ok_iff.1 h
    have := ((ih hr₀).succ hp hz hr).1
    rwa [show p.index w.date + ((n + 1 : Nat) : Int) = p.index w.date + n + 1 by omega]

/-- A walk that has come somewhere began somewhere. -/
theorem exists_nth_zero {n : Nat} (h : p.nth tz instant n = .ok r) :
    ∃ r₀, p.nth tz instant 0 = .ok r₀ := by
  induction n generalizing r with
  | zero => exact ⟨r, h⟩
  | succ n ih =>
    obtain ⟨r₀, hr₀, -⟩ := nth_succ_eq_ok_iff.1 h
    exact ih hr₀

/-- **The walk has a zone and a beginning**, from which its periods are counted. -/
theorem exists_spans_of_nth (hp : p.length? = none) {n : Nat} (h : p.nth tz instant n = .ok r) :
    ∃ z w, Zone.find tz = .ok z ∧ Shows tz instant w ∧ p.Spans z (p.index w.date + n) r := by
  obtain ⟨r₀, h₀⟩ := exists_nth_zero h
  obtain ⟨z, hz, -⟩ := exists_find_of_inZone h₀
  obtain ⟨w, hw, -⟩ := (span_eq_ok_iff hp hz).1 h₀
  exact ⟨z, w, hz, hw, spans_nth hp hz hw h⟩

/-! ### Tiling -/

/-- A year opens with its first month. -/
theorem opening_month_mul (k : Int) : month.opening (12 * k) = year.opening k := by
  simp only [opening]
  rw [show 12 * k / 12 = k by omega, show 12 * k % 12 + 1 = 1 by omega, daysBeforeMonth_one]
  omega

/-- **Twelve months fill a year.** -/
theorem year_eq_twelve_months {y last : Span} (hy : year.span tz instant = .ok y)
    (hlast : month.nth tz y.start 11 = .ok last) :
    ∃ first, month.nth tz y.start 0 = .ok first ∧ first.start = y.start ∧
      last.stop = y.stop := by
  obtain ⟨z, hz, -⟩ := exists_find_of_inZone hy
  obtain ⟨w, hw, hyear⟩ := (span_eq_ok_iff rfl hz).1 hy
  obtain ⟨first, hfirst⟩ := exists_nth_zero hlast
  obtain ⟨w', hw', hmonth⟩ := (span_eq_ok_iff rfl hz).1 hfirst
  -- the year starts in its January, so the walk begins there
  have hjanuary : month.index w'.date = 12 * year.index w.date := by
    refine index_of_midnight rfl hz ?_ hw'
    rw [opening_month_mul]
    exact hyear.start
  have hdecember := (spans_nth rfl hz hw' hlast).next
  rw [hjanuary] at hmonth hdecember
  have hstart := hmonth.start
  rw [opening_month_mul, hyear.start] at hstart
  rw [show 12 * year.index w.date + ((11 : Nat) : Int) + 1 = 12 * (year.index w.date + 1) by
    omega, opening_month_mul, hyear.next] at hdecember
  refine ⟨first, hfirst, (Option.some.inj hstart).symm, ?_⟩
  have := Option.some.inj hdecember
  omega

/-- **Months and years tile time.** In a walk from month to month or from year to year
each period starts right after the last one, and around the instant after the `n`-th lies
the one whose number is greater by `n + 1`. Twelve months fill a year. -/
theorem months_and_years_tile (tz : Option Text) (instant : Int) :
    (∀ p, p = month ∨ p = year → ∀ n r, p.nth tz instant n = .ok r →
      ∃ w, Shows tz instant w ∧
        (∀ w', Shows tz (r.stop + 1) w' → p.index w'.date = p.index w.date + (n + 1)) ∧
        ∀ r', p.nth tz instant (n + 1) = .ok r' →
          r'.start = r.stop + 1 ∧ ∃ w', Shows tz (r.stop + 1) w') ∧
    (∀ y last, year.span tz instant = .ok y → month.nth tz y.start 11 = .ok last →
      ∃ first, month.nth tz y.start 0 = .ok first ∧ first.start = y.start ∧
        last.stop = y.stop) := by
  refine ⟨fun p hmonth n r h => ?_, fun y last => year_eq_twelve_months⟩
  -- neither has a length of its own, they end where the next one begins
  have hp : p.length? = none := by
    rcases hmonth with rfl | rfl
    · rfl
    · rfl
  obtain ⟨z, w, hz, hw, hspans⟩ := exists_spans_of_nth hp h
  refine ⟨w, hw, fun w' hw' => ?_, fun r' hr' => ?_⟩
  · rw [index_of_midnight hp hz hspans.next hw']
    omega
  · obtain ⟨r₁, hr₁, hnext⟩ := nth_succ_eq_ok_iff.1 hr'
    obtain rfl := Except.ok.inj (h.symm.trans hr₁)
    obtain ⟨w', hw', -⟩ := (span_eq_ok_iff hp hz).1 hnext
    exact ⟨(hspans.succ hp hz hnext).2, w', hw'⟩

/-- The clocks of São Paulo skipped the midnight at which December 1949 began; all the
same December follows November and ends the year. -/
theorem months_and_years_tile_saoPaulo :
    let tz := some "America/Sao_Paulo".toList
    let november : Span := ⟨-636411600000, -633819600001⟩
    let december : Span := ⟨-633819600000, -631144800001⟩
    let whole : Span := ⟨-662677200000, -631144800001⟩
    month.nth tz (-635000000000) 0 = .ok november ∧
      month.nth tz (-635000000000) 1 = .ok december ∧
      december.start = november.stop + 1 ∧
      (∃ w w', Shows tz (-635000000000) w ∧ Shows tz (november.stop + 1) w' ∧
        month.index w'.date = month.index w.date + 1) ∧
      year.span tz (-635000000000) = .ok whole ∧
      month.nth tz whole.start 11 = .ok december ∧ december.stop = whole.stop := by
  intro tz november december whole
  have hnovember : month.nth tz (-635000000000) 0 = .ok november :=
    eq_ok_of_toOption (by decide +kernel)
  have hdecember : month.nth tz (-635000000000) 1 = .ok december :=
    eq_ok_of_toOption (by decide +kernel)
  have hwhole : year.span tz (-635000000000) = .ok whole :=
    eq_ok_of_toOption (by decide +kernel)
  have htwelve : month.nth tz whole.start 11 = .ok december :=
    eq_ok_of_toOption (by decide +kernel)
  obtain ⟨hwalk, hyear⟩ := months_and_years_tile tz (-635000000000)
  obtain ⟨w, hw, hindex, hnext⟩ := hwalk month (Or.inl rfl) 0 november hnovember
  obtain ⟨hstart, w', hw'⟩ := hnext december hdecember
  obtain ⟨-, -, -, hstop⟩ := hyear whole december hwhole htwelve
  exact ⟨hnovember, hdecember, hstart, ⟨w, w', hw, hw', by simpa using hindex w' hw'⟩, hwhole,
    htwelve, hstop⟩

end Timespan.Period
