import Timespan.Proofs.Zone.Change

/-!
# Readings that the clocks skip

When the clocks are put forward they skip some readings, and a skipped reading has to be
converted all the same. The instant it is given is the one at which the clocks before the
change would have shown it; what they do show then is ahead of the reading by as much as
they have been put forward. This file says so of any clocks that change one at a time
(`Zone.Near`):

* a reading is shown at the instant to which it is converted, or some change skips it
  (`Near.landing_eq_or_skips`);
* if a change skips a reading, the clocks have gone past it by the stride of the change
  (`Near.landing_of_skips`) and never show it (`Near.not_shown_of_skips`).

Skips are also what makes the conversion not monotone. But of two readings that are a day
apart, the earlier one is converted to the earlier instant, unless the clocks have gone
past the later one by then (`Near.sub_lt_sub`).
-/

namespace Timespan.Zone

variable {offsetAt offsetOnWall : Int → Int} {w w' t : Int} {c c' : Change}

/-! ### Changes and what they skip -/

/-- How far a change puts the clocks forward. -/
def Change.stride (c : Change) : Int :=
  c.after - c.before

/-- **A change skips a reading** that the clocks would have shown without it and have
passed with it. -/
def Change.Skips (c : Change) (w : Int) : Prop :=
  c.time + c.before ≤ w ∧ w < c.time + c.after

instance (c : Change) (w : Int) : Decidable (c.Skips w) :=
  inferInstanceAs (Decidable (_ ∧ _))

/-- The change that the clocks make at a second, if they make one. -/
def changeAt (offsetAt : Int → Int) (t : Int) : Change where
  before := offsetAt (t - 1)
  after := offsetAt t
  time := t

theorem Change.Skips.before_lt_after (h : c.Skips w) : c.before < c.after := by
  obtain ⟨h₁, h₂⟩ := h
  omega

/-- What the clocks show at the second to which a reading is converted. -/
def landing (offsetAt offsetOnWall : Int → Int) (w : Int) : Int :=
  w - offsetOnWall w + offsetAt (w - offsetOnWall w)

/-! ### What becomes of a skipped reading -/

/-- **A reading is shown** where it is converted to, or skipped. -/
theorem Near.landing_eq_or_skips (h : Near offsetAt offsetOnWall w c) :
    landing offsetAt offsetOnWall w = w ∨ ∃ t, (changeAt offsetAt t).Skips w := by
  obtain ⟨⟨hb₁, hb₂⟩, ⟨ha₁, ha₂⟩, -, hat, hwall⟩ := h
  by_cases hskip : c.Skips w
  · obtain ⟨h₁, h₂⟩ := hskip
    have hbefore := hat (c.time - 1) (by omega) (by omega)
    have hafter := hat c.time (by omega) (by omega)
    rw [Change.offsetAt, if_pos (by omega)] at hbefore
    rw [Change.offsetAt, if_neg (by omega)] at hafter
    exact Or.inr ⟨c.time, by simp only [Change.Skips, changeAt]; omega⟩
  · have hland := hat (w - offsetOnWall w)
    simp only [Change.Skips, Change.offsetAt, Change.offsetOnWall] at hskip hland hwall
    unfold landing
    omega

/-- **The one change that is near** a reading that is skipped is the one that skips it. -/
theorem Near.eq_changeAt (h : Near offsetAt offsetOnWall w c) (hday : ∀ t, WithinDay (offsetAt t))
    (hs : (changeAt offsetAt t).Skips w) : c = changeAt offsetAt t := by
  obtain ⟨-, -, -, hat, -⟩ := h
  obtain ⟨h₁, h₂⟩ := hs
  obtain ⟨hd₁, hd₂⟩ := hday t
  obtain ⟨hd₃, hd₄⟩ := hday (t - 1)
  simp only [changeAt] at h₁ h₂ ⊢
  have hafter := hat t (by omega) (by omega)
  have hbefore := hat (t - 1) (by omega) (by omega)
  -- the two offsets differ, so the change `c` lies between the two seconds
  simp only [Change.offsetAt] at hafter hbefore
  obtain ⟨before, after, time⟩ := c
  simp only [Change.mk.injEq] at hafter hbefore ⊢
  omega

/-- **The clocks go past a skipped reading** by the stride of the change. -/
theorem Near.landing_of_skips (h : Near offsetAt offsetOnWall w c)
    (hday : ∀ t, WithinDay (offsetAt t)) (hs : (changeAt offsetAt t).Skips w) :
    landing offsetAt offsetOnWall w = w + (changeAt offsetAt t).stride := by
  have heq := h.eq_changeAt hday hs
  rw [← heq] at hs ⊢
  obtain ⟨⟨hb₁, hb₂⟩, -, -, hat, hwall⟩ := h
  obtain ⟨h₁, h₂⟩ := hs
  rw [Change.offsetOnWall, if_pos (by omega)] at hwall
  rw [landing, hwall, hat _ (by omega) (by omega), Change.offsetAt, if_neg (by omega),
    Change.stride]
  omega

/-- **The clocks never show a skipped reading.** -/
theorem Near.not_shown_of_skips (h : Near offsetAt offsetOnWall w c)
    (hday : ∀ t, WithinDay (offsetAt t)) (hs : (changeAt offsetAt t).Skips w) (s : Int) :
    s + offsetAt s ≠ w := by
  rw [← h.eq_changeAt hday hs] at hs
  obtain ⟨h₁, h₂⟩ := hs
  obtain ⟨hd₁, hd₂⟩ := hday s
  intro hshow
  have hat := h.offsetAt_eq s (by omega) (by omega)
  simp only [Change.offsetAt] at hat
  omega

/-! ### The order of instants -/

/-- **Readings a day apart keep their order** when they are converted, unless the clocks
go past the later one where the earlier one is converted to. -/
theorem Near.sub_lt_sub (h : Near offsetAt offsetOnWall w c)
    (h' : Near offsetAt offsetOnWall w' c') (hw : w + 86400 ≤ w')
    (hland : landing offsetAt offsetOnWall w < w') :
    w - offsetOnWall w < w' - offsetOnWall w' := by
  obtain ⟨⟨hb₁, hb₂⟩, ⟨ha₁, ha₂⟩, -, hat, hwall⟩ := h
  obtain ⟨⟨hb₁', hb₂'⟩, ⟨ha₁', ha₂'⟩, -, hat', hwall'⟩ := h'
  refine Int.not_le.1 fun hle => ?_
  have hon : -86400 < offsetOnWall w ∧ offsetOnWall w < 86400 := by
    rw [hwall, Change.offsetOnWall]
    omega
  have hon' : -86400 < offsetOnWall w' ∧ offsetOnWall w' < 86400 := by
    rw [hwall', Change.offsetOnWall]
    omega
  have hless : offsetAt (w - offsetOnWall w) < offsetOnWall w' := by
    unfold landing at hland
    omega
  -- so the clocks have been put back in between
  have hback : c'.after < c'.before ∧ c'.time ≤ w - offsetOnWall w ∧
      w' < c'.time + c'.before := by
    have hseen := hat' (w - offsetOnWall w) (by omega) (by omega)
    simp only [Change.offsetAt, Change.offsetOnWall] at hseen hwall'
    omega
  -- and `w` sees the same change as `w'`, hence the offset before it
  have hsame : c.time = c'.time ∧ c.before = c'.before := by
    rw [Change.offsetOnWall, if_pos (by omega)] at hwall'
    have h₁ := hat c'.time (by omega) (by omega)
    have h₂ := hat (c'.time - 1) (by omega) (by omega)
    rw [hat' c'.time (by omega) (by omega), Change.offsetAt, if_neg (by omega)] at h₁
    rw [hat' (c'.time - 1) (by omega) (by omega), Change.offsetAt, if_pos (by omega)] at h₂
    simp only [Change.offsetAt] at h₁ h₂
    omega
  rw [Change.offsetOnWall, if_pos (by omega)] at hwall
  rw [Change.offsetOnWall, if_pos (by omega)] at hwall'
  omega

end Timespan.Zone
