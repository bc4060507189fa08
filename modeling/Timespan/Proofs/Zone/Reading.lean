import Timespan.LocalTime
import Timespan.Proofs.Outcome
import Timespan.Proofs.Zone.Regular

/-!
# Readings and the instants that show them

The offsets of a zone are asked in seconds, and the calendar has an end. This file
carries the conversion of readings from the seconds to the instants and to the calendar.
The instant to which a reading is converted is `Zone.earliest`, for it is the earliest to
show the reading, if there is one (`Zone.wallClock?_earliest`), and otherwise the clocks
have just gone past it (`Zone.lt_of_wallClock?_earliest`).

`Shows` is what a caller gets to see of all this: the local time of an instant.
-/

namespace Timespan

open Calendar

namespace Zone

variable {z : Zone} {w w' : WallClock} {instant : Int}

/-! ### The two conversions -/

/-- The instant to which a reading is converted. -/
def earliest (z : Zone) (w : WallClock) : Int :=
  w.millis - 1000 * z.offsetOnWall (w.millis / 1000)

theorem instant?_eq_some_iff :
    z.instant? w = some instant ↔ z.Reaches w.millis ∧ z.earliest w = instant := by
  rw [instant?]
  split
  · next h => simp [h, earliest, Duration.second]
  · next h => simp [h]

theorem wallClock?_eq_some_iff :
    z.wallClock? instant = some w ↔
      z.Reaches instant ∧ InCalendar w.day ∧ z.reading instant = w := by
  rw [wallClock?]
  split
  · next h =>
    constructor
    · intro heq
      obtain rfl := Option.some.inj heq
      exact ⟨h.1, h.2, rfl⟩
    · rintro ⟨-, -, rfl⟩
      rfl
  · next h =>
    constructor
    · intro heq
      exact absurd heq (by simp)
    · rintro ⟨h₁, h₂, rfl⟩
      exact absurd ⟨h₁, h₂⟩ h

theorem millis_reading (z : Zone) (instant : Int) :
    (z.reading instant).millis = instant + 1000 * z.offsetAt (instant / 1000) := rfl

theorem add_millis_of_reading (hshow : z.reading instant = w) :
    instant + 1000 * z.offsetAt (instant / 1000) = w.millis := by
  rw [← hshow, millis_reading]

/-- A second of a reading is shown in the second to which it is converted. -/
theorem earliest_ediv (z : Zone) (w : WallClock) :
    z.earliest w / 1000 = w.millis / 1000 - z.offsetOnWall (w.millis / 1000) := by
  unfold earliest
  omega

/-- The seconds of a reading that is shown. -/
theorem add_offsetAt_of_reading (hshow : z.reading instant = w) :
    instant / 1000 + z.offsetAt (instant / 1000) = w.millis / 1000 := by
  rw [← add_millis_of_reading hshow]
  omega

/-! ### Faithful conversion -/

section Faithful

variable (h : Resolves z.offsetAt z.offsetOnWall (w.millis / 1000))
include h

theorem le_reading_earliest : w.millis ≤ (z.reading (z.earliest w)).millis := by
  have := h.le_shown
  rw [millis_reading, earliest_ediv, earliest]
  omega

/-- The clocks are less than two days ahead of the reading. -/
theorem reading_earliest_lt : (z.reading (z.earliest w)).millis < w.millis + 172800000 := by
  have := h.shown_lt
  rw [millis_reading, earliest_ediv, earliest]
  omega

theorem reading_earliest (hshow : z.reading instant = w) : z.reading (z.earliest w) = w := by
  have hsecond := h.shown _ (add_offsetAt_of_reading hshow)
  ext
  rw [millis_reading, earliest_ediv, earliest]
  omega

theorem earliest_le (hshow : z.reading instant = w) : z.earliest w ≤ instant := by
  have hsecond := h.first _ (add_offsetAt_of_reading hshow)
  have hmillis := add_millis_of_reading hshow
  have hsum := add_offsetAt_of_reading hshow
  unfold earliest
  omega

/-- A reading is shown a second time only after the beginning. -/
theorem eq_earliest_or (hshow : z.reading instant = w) :
    instant = z.earliest w ∨ 1000 * beginning ≤ instant := by
  have hsecond := h.only _ (add_offsetAt_of_reading hshow)
  have hmillis := add_millis_of_reading hshow
  have hsum := add_offsetAt_of_reading hshow
  unfold earliest
  omega

end Faithful

/-! ### In the calendar -/

/-- **The earliest instant that shows a reading** is in the calendar, if a later one is:
no reading is shown twice where the calendar begins. -/
theorem wallClock?_earliest {lag : Int} (hz : z.Regular lag)
    (h : Resolves z.offsetAt z.offsetOnWall (w.millis / 1000))
    (hshow : z.wallClock? instant = some w) :
    z.wallClock? (z.earliest w) = some w ∧ z.earliest w ≤ instant := by
  obtain ⟨hreach, hday, hread⟩ := wallClock?_eq_some_iff.1 hshow
  have hle := earliest_le h hread
  refine ⟨?_, hle⟩
  rcases eq_earliest_or h hread with heq | hlate
  · rw [← heq]
    exact hshow
  · -- so late the calendar is far from its beginning, and an earlier instant is in it too
    refine wallClock?_eq_some_iff.2 ⟨?_, hday, reading_earliest h hread⟩
    have hmillis := add_millis_of_reading hread
    obtain ⟨hat₁, hat₂⟩ := hz.withinDay_offsetAt (instant / 1000)
    obtain ⟨hon₁, hon₂⟩ := hz.withinDay_offsetOnWall (w.millis / 1000)
    obtain ⟨-, -, -, -, hback₁, hback₂⟩ := hz
    simp only [Reaches, InCalendar, firstDay, lastDay, Duration.day_eq] at hreach ⊢
    simp only [beginning] at hlate
    unfold earliest at hle ⊢
    omega

/-- **The clocks are ahead of a reading that they never show**, if they show anything at
the instant to which it is converted. -/
theorem lt_of_wallClock?_earliest
    (h : Resolves z.offsetAt z.offsetOnWall (w.millis / 1000))
    (hnever : ∀ i, z.wallClock? i ≠ some w) (hshow : z.wallClock? (z.earliest w) = some w') :
    w.millis < w'.millis := by
  obtain ⟨-, -, hread⟩ := wallClock?_eq_some_iff.1 hshow
  have hle := le_reading_earliest h
  rw [hread] at hle
  refine Int.lt_iff_le_and_ne.2 ⟨hle, fun heq => hnever (z.earliest w) ?_⟩
  rw [hshow, WallClock.ext heq]

end Zone

/-- The misread hour is over at midnight. -/
theorem not_misread_midnight (tz : Option Text) (n : Int) :
    ¬ Zone.Misread tz ((WallClock.ofDay n 0).millis / 1000) := by
  rintro ⟨-, h₁, h₂⟩
  simp only [WallClock.ofDay, Duration.day_eq]
    at h₁ h₂
  omega

/-! ### What a caller sees -/

/-- **The clocks of a zone show a reading** at an instant. -/
def Shows (tz : Option Text) (instant : Int) (w : WallClock) : Prop :=
  ∃ t, LocalTime.ofInstant tz instant = .ok t ∧ t.wall = w

section Shows

variable {tz : Option Text} {z : Zone} {w w' : WallClock} {instant : Int}

theorem shows_iff (hz : Zone.find tz = .ok z) :
    Shows tz instant w ↔ z.wallClock? instant = some w := by
  unfold Shows LocalTime.ofInstant
  constructor
  · rintro ⟨t, ht, rfl⟩
    rw [inZone_eq_ok_iff hz, LocalTime.ofInstant?] at ht
    obtain ⟨w, hw, ht⟩ := Option.bind_eq_some_iff.1 ht
    obtain rfl := Option.some.inj ht
    exact hw
  · intro hw
    refine ⟨⟨w, if tz.isSome then some (z.offsetOnWall (w.millis / Duration.second)) else none⟩,
      (inZone_eq_ok_iff hz).2 ?_, rfl⟩
    rw [LocalTime.ofInstant?, hw]
    rfl

theorem Shows.unique (h : Shows tz instant w) (h' : Shows tz instant w') : w = w' := by
  obtain ⟨t, ht, rfl⟩ := h
  obtain ⟨t', ht', rfl⟩ := h'
  obtain rfl := Except.ok.inj (ht.symm.trans ht')
  rfl

/-- **Where a reading belongs**: at the first instant that shows it, and otherwise at one
when the clocks have gone past it. -/
structure BelongsAt (tz : Option Text) (w : WallClock) (instant : Int) : Prop where
  /-- If the clocks ever show the reading, they show it then, and not before. -/
  first : (∃ i, Shows tz i w) → Shows tz instant w ∧ ∀ i, Shows tz i w → instant ≤ i
  /-- If they never do and show anything then, it is later. -/
  ahead : (¬ ∃ i, Shows tz i w) → ∀ w', Shows tz instant w' → w.millis < w'.millis

/-- **A reading is converted to where it belongs**, except in the misread hour. -/
theorem belongsAt_earliest (hz : Zone.find tz = .ok z)
    (hw : ¬ Zone.Misread tz (w.millis / 1000)) : BelongsAt tz w (z.earliest w) := by
  have hreg := Zone.regular_of_find hz
  have hres := hreg.resolves (Zone.settled_of_not_misread hz hw)
  constructor
  · rintro ⟨i, hi⟩
    rw [shows_iff hz] at hi ⊢
    refine ⟨(Zone.wallClock?_earliest hreg hres hi).1, fun k hk => ?_⟩
    rw [shows_iff hz] at hk
    exact (Zone.wallClock?_earliest hreg hres hk).2
  · intro hnever w' hw'
    rw [shows_iff hz] at hw'
    exact Zone.lt_of_wallClock?_earliest hres
      (fun i hi => hnever ⟨i, (shows_iff hz).2 hi⟩) hw'

/-- In the summer of 2023 the clocks of Nuuk are two hours behind. -/
theorem shows_nuuk_iff {i : Int} (h₁ : 1679792400000 ≤ i) (h₂ : i < 1698800400000) :
    Shows (some Zone.nuukKey) i w ↔ w.millis = i - 7200000 := by
  have hread : (Zone.nuuk.reading i).millis = i - 7200000 := by
    rw [Zone.millis_reading, Zone.offsetAt_nuuk (by omega) (by omega)]
    omega
  have hback : Zone.nuuk.lookback = 0 := rfl
  rw [shows_iff Zone.find_nuuk, Zone.wallClock?_eq_some_iff]
  refine ⟨?_, fun hw => ⟨?_, ?_, ?_⟩⟩
  · rintro ⟨-, -, rfl⟩
    exact hread
  · simp only [Zone.Reaches, InCalendar, hback, firstDay, lastDay, Duration.day_eq]
    omega
  · simp only [InCalendar, firstDay, lastDay, WallClock.day, Duration.day_eq]
    omega
  · ext
    rw [hread, hw]

/-- **In the misread hour** a reading is converted to an instant that is an hour early,
when the clocks are an hour behind. -/
theorem shows_earliest_of_misread (hz : Zone.find tz = .ok z)
    (hw : Zone.Misread tz (w.millis / 1000)) :
    Shows tz (z.earliest w) ⟨w.millis - 3600000⟩ ∧
      ∀ i, Shows tz i w ↔ i = z.earliest w + 3600000 := by
  obtain ⟨rfl, h₁, h₂⟩ := hw
  obtain rfl : Zone.nuuk = z := Except.ok.inj (Zone.find_nuuk.symm.trans hz)
  have hearliest : Zone.nuuk.earliest w = w.millis + 3600000 := by
    rw [Zone.earliest, Zone.offsetOnWall_nuuk h₁ h₂]
    omega
  rw [hearliest]
  refine ⟨?_, fun i => ⟨fun hi => ?_, ?_⟩⟩
  · rw [shows_nuuk_iff (by omega) (by omega)]
    change w.millis - 3600000 = w.millis + 3600000 - 7200000
    omega
  · -- whatever instant shows the reading is less than a day from it, hence in that summer
    have hsum := Zone.add_offsetAt_of_reading
      (Zone.wallClock?_eq_some_iff.1 ((shows_iff hz).1 hi)).2.2
    obtain ⟨hday₁, hday₂⟩ := (Zone.regular_of_find hz).withinDay_offsetAt (i / 1000)
    have hmillis := (shows_nuuk_iff (by omega) (by omega)).1 hi
    omega
  · rintro rfl
    rw [shows_nuuk_iff (by omega) (by omega)]
    omega

end Shows

end Timespan
