import Timespan.Proofs.Keyword.Anchor
import Timespan.Proofs.Keyword.Preceding
import Timespan.Proofs.Term.Meaning

/-!
# Universal time

On clocks that show Coordinated Universal Time a reading is its instant, and what the calendar
answers can be written down without asking it. The period of a number runs from midnight to
midnight (`Period.tile`), and the period of a keyword is that whose number differs by
`Keyword.stride` from the number of the period around the origin, whatever the lengths of the
months in between (`Keyword.index_of_carries`). So the spans of keywords and terms are
functions of the origin, `Keyword.universalSpan` and `Term.universalSpan`. The calendar may
still give no answer where it ends, but if it gives one it is this
(`Term.eq_universalSpan`).

Whether it gives one is a question of which times the zone reaches. A period takes three of
them (`Period.Fits`), a move two, besides that the date can be moved
(`Shift.move?_eq_some_iff_reaches`).
-/

namespace Timespan

open Calendar

variable {tz : Option Text} {z : Zone} {w w' : WallClock} {instant origin : Int} {r : Span}

/-! ### Zones -/

namespace Zone

/-- **A zone keeps universal time** if its clocks are never ahead or behind. -/
structure IsUniversal (z : Zone) : Prop where
  /-- No offset is in force. -/
  offsetAt : ∀ t, z.offsetAt t = 0
  /-- No reading has an offset. -/
  offsetOnWall : ∀ t, z.offsetOnWall t = 0

theorem isUniversal_utc : utc.IsUniversal :=
  ⟨fun _ => rfl, fun _ => rfl⟩

theorem IsUniversal.reading (hu : z.IsUniversal) (instant : Int) :
    z.reading instant = ⟨instant⟩ := by
  ext
  rw [millis_reading, hu.offsetAt]
  exact Int.add_zero _

theorem IsUniversal.earliest (hu : z.IsUniversal) (w : WallClock) : z.earliest w = w.millis := by
  rw [Zone.earliest, hu.offsetOnWall]
  exact Int.sub_zero _

theorem IsUniversal.wallClock?_eq_some_iff (hu : z.IsUniversal) :
    z.wallClock? instant = some w ↔ z.Reaches instant ∧ w = ⟨instant⟩ := by
  rw [Zone.wallClock?_eq_some_iff, hu.reading]
  constructor
  · rintro ⟨hreach, -, rfl⟩
    exact ⟨hreach, rfl⟩
  · rintro ⟨hreach, rfl⟩
    exact ⟨hreach, hreach.1, rfl⟩

theorem IsUniversal.midnight?_eq_some_iff (hu : z.IsUniversal) {n : Int} :
    z.midnight? n = some instant ↔
      z.Reaches (n * Duration.day) ∧ instant = n * Duration.day := by
  have hmidnight : (WallClock.ofDay n 0).millis = n * Duration.day := Int.add_zero _
  rw [midnight?, Zone.instant?_eq_some_iff, hu.earliest, hmidnight, eq_comm (a := instant)]

end Zone

/-- The clocks show the instant itself. -/
theorem Shows.eq_of_isUniversal (hz : Zone.find tz = .ok z) (hu : z.IsUniversal)
    (hw : Shows tz instant w) : w = ⟨instant⟩ :=
  (hu.wallClock?_eq_some_iff.1 ((shows_iff hz).1 hw)).2

/-! ### Periods -/

namespace Period

variable {p : Period} {k : Int}

/-- **The period of a number**, from the midnight of its opening to that of the next. -/
def tile (p : Period) (k : Int) : Span :=
  ⟨p.opening k * Duration.day, p.opening (k + 1) * Duration.day - 1⟩

/-- A length is that from opening to opening. -/
theorem opening_succ_mul_day {length : Int} (hp : p.length? = some length) (k : Int) :
    p.opening (k + 1) * Duration.day = p.opening k * Duration.day + length := by
  rw [opening_succ]
  cases p with
  | day | week =>
    obtain rfl := Option.some.inj hp
    rw [Int.add_mul]
    rfl
  | month | year => exact absurd hp (by simp [length?])

/-- **A period fits into the calendar** of a zone, with all the times that are converted to
find it: the instant, the midnight of its opening and, if it has no length of its own, that
of the next. -/
structure Fits (p : Period) (z : Zone) (instant : Int) : Prop where
  /-- The calendar has the instant. -/
  reaches : z.Reaches instant
  /-- It has the midnight at which the period opens. -/
  opening : z.Reaches (p.opening (p.index (WallClock.date ⟨instant⟩)) * Duration.day)
  /-- It has the midnight at which the next period opens, if that is where this one ends. -/
  next : p.length? = none →
    z.Reaches (p.opening (p.index (WallClock.date ⟨instant⟩) + 1) * Duration.day)

/-- **The period around an instant** is that of its number, if it fits into the calendar. -/
theorem span?_eq_some_iff_fits (hu : z.IsUniversal) :
    p.span? z instant = some r ↔
      p.Fits z instant ∧ r = p.tile (p.index (WallClock.date ⟨instant⟩)) := by
  obtain ⟨start, stop⟩ := r
  simp only [span?_eq_some_iff, hu.wallClock?_eq_some_iff, hu.midnight?_eq_some_iff, tile,
    Span.mk.injEq]
  constructor
  · rintro ⟨w, ⟨hreach, rfl⟩, ⟨hopening, hstart⟩, hstop⟩
    cases hp : p.length? with
    | none =>
      rw [hp] at hstop
      obtain ⟨hnext, hstop⟩ := hstop
      exact ⟨⟨hreach, hopening, fun _ => hnext⟩, hstart, by omega⟩
    | some length =>
      rw [hp] at hstop
      have hlength := opening_succ_mul_day hp (p.index (WallClock.date ⟨instant⟩))
      simp only at hstop
      exact ⟨⟨hreach, hopening, fun hnone => absurd (hp.symm.trans hnone) (by simp)⟩, hstart,
        by omega⟩
  · rintro ⟨⟨hreach, hopening, hnext⟩, hstart, hstop⟩
    refine ⟨⟨instant⟩, ⟨hreach, rfl⟩, ⟨hopening, hstart⟩, ?_⟩
    cases hp : p.length? with
    | none => exact ⟨hnext hp, by omega⟩
    | some length =>
      have hlength := opening_succ_mul_day hp (p.index (WallClock.date ⟨instant⟩))
      simp only
      omega

theorem eq_tile (hz : Zone.find tz = .ok z) (hu : z.IsUniversal)
    (h : p.span tz instant = .ok r) : r = p.tile (p.index (WallClock.date ⟨instant⟩)) :=
  ((span?_eq_some_iff_fits hu).1 ((inZone_eq_ok_iff hz).1 h)).2

end Period

/-! ### Moves -/

/-- **A move** counts on the instant itself, and both ends of it must be in reach. -/
theorem Shift.move?_eq_some_iff_reaches {s : Shift} {j : Int} (hu : z.IsUniversal) :
    s.move? z instant = some j ↔ s.IsCountable ∧ z.Reaches instant ∧
      (⟨instant⟩ : WallClock).shift? s.totalMonths s.days = some ⟨j⟩ ∧ z.Reaches j := by
  simp only [move?_eq_some_iff, hu.wallClock?_eq_some_iff, Zone.instant?_eq_some_iff, hu.earliest]
  constructor
  · rintro ⟨hcountable, w, w', ⟨hreach, rfl⟩, hshift, hland, rfl⟩
    exact ⟨hcountable, hreach, hshift, hland⟩
  · rintro ⟨hcountable, hreach, hshift, hland⟩
    exact ⟨hcountable, ⟨instant⟩, ⟨j⟩, ⟨hreach, rfl⟩, hshift, hland, rfl⟩

/-! ### Keywords -/

namespace Keyword

variable {k : Keyword}

/-- How many periods later than that around the origin the period of a keyword is. -/
def stride : Keyword → Int
  | now => 0
  | today => 0
  | yesterday => -1
  | tomorrow => 1
  | thisWeek => 0
  | lastWeek => -1
  | thisMonth => 0
  | lastMonth => -1
  | thisYear => 0
  | lastYear => -1

/-- **The shift of a keyword changes the number** of its period by the stride, from whatever
day of the month or of the week. -/
theorem index_of_carries {s : Shift} {p : Period} (hs : k.shift? = some s)
    (hp : k.period? = some p) (h : s.Carries w w') :
    p.index w'.date = p.index w.date + k.stride := by
  have hdays : ∀ n, w' = w.addDays n → w'.date.toDay = w.date.toDay + n := by
    rintro n rfl
    rw [Shift.toDay_date, Shift.toDay_date, WallClock.day_addDays]
  cases k with
  | now | today | thisWeek | thisMonth | thisYear => exact absurd hs (by simp [shift?])
  | yesterday | tomorrow =>
    obtain rfl := Option.some.inj hs
    obtain rfl := Option.some.inj hp
    exact hdays _ h.eq_addDays
  | lastWeek =>
    obtain rfl := Option.some.inj hs
    obtain rfl := Option.some.inj hp
    have := hdays _ h.eq_addDays
    simp only [Period.index, stride]
    omega
  | lastMonth =>
    obtain rfl := Option.some.inj hs
    obtain rfl := Option.some.inj hp
    have := (carries_month_back h).1
    simp only [stride]
    omega
  | lastYear =>
    obtain rfl := Option.some.inj hs
    obtain rfl := Option.some.inj hp
    have := (carries_year_back h).1
    simp only [stride]
    omega

theorem stride_of_shift? : k.shift? = none → k.stride = 0 := by
  cases k <;> decide

/-- **Around the anchor of a keyword** lies the period whose number differs by the stride. -/
theorem index_anchor {p : Period} {j : Int} (hz : Zone.find tz = .ok z) (hu : z.IsUniversal)
    (hp : k.period? = some p) (h : k.anchor tz origin = .ok j) :
    p.index (WallClock.date ⟨j⟩) = p.index (WallClock.date ⟨origin⟩) + k.stride := by
  rcases anchor_eq_ok_iff.1 h with ⟨hs, rfl⟩ | ⟨s, hs, hmove⟩
  · rw [stride_of_shift? hs, Int.add_zero]
  · obtain ⟨z', w, w', hz', hw, hcarries, rfl⟩ := Shift.exists_carries_of_move hmove
    obtain rfl := Except.ok.inj (hz.symm.trans hz')
    obtain rfl := hw.eq_of_isUniversal hz hu
    rw [hu.earliest]
    exact index_of_carries hs hp hcarries

/-- **The span of a keyword** in universal time. -/
def universalSpan (k : Keyword) (origin : Int) : Span :=
  match k.period? with
  | none => ⟨origin, origin⟩
  | some p => p.tile (p.index (WallClock.date ⟨origin⟩) + k.stride)

/-- A keyword that has a span has this one. -/
theorem eq_universalSpan (hz : Zone.find tz = .ok z) (hu : z.IsUniversal)
    (h : k.span tz origin = .ok r) : r = k.universalSpan origin := by
  rw [universalSpan]
  rcases span_eq_ok_iff.1 h with ⟨hp, rfl⟩ | ⟨p, j, hp, hanchor, hspan⟩
  · rw [hp]
  · rw [hp, Period.eq_tile hz hu hspan, index_anchor hz hu hp hanchor]

end Keyword

/-! ### Terms -/

namespace Term

/-- **The span of a term** in universal time. -/
def universalSpan (t : Term) (origin : Int) : Span :=
  match t with
  | keyword k => k.universalSpan origin
  | quantity count unit => .between origin (origin + count * unit.millis)

/-- A term that has a span has this one. -/
theorem eq_universalSpan {t : Term} (hz : Zone.find tz = .ok z) (hu : z.IsUniversal)
    (h : t.span tz origin = .ok r) : r = t.universalSpan origin := by
  cases t with
  | keyword k => exact k.eq_universalSpan hz hu h
  | quantity count unit => exact (Except.ok.inj h).symm

end Term

end Timespan
