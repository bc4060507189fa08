import Timespan.Zone.Basic

/-!
# The clocks around one change

A zone answers two questions, with an offset at a second of Coordinated Universal
Time and with an offset of a second on the wall. A reading is converted with the
second answer, and what comes out is read off the clocks with the first. This file
says when the two go together.

The idea is to look at one reading at a time. Offsets are shorter than a day, so
nothing that happens more than a day away from a reading matters to it, and within
that distance the clocks change at most once (`Zone.Near`). For a single change
the conversion is what one would wish (`Near.resolves`): with the instant `t` to
which the reading `w` is converted,

* the clocks show `w` or, if they skip it, something later at `t`, but not by two
  days;
* if they ever show `w`, they do so at `t`, and at no instant before it.
-/

namespace Timespan.Zone

/-- A change of the clocks. -/
structure Change where
  /-- The offset before the change. -/
  before : Int
  /-- The offset from the change on. -/
  after : Int
  /-- The second of Coordinated Universal Time at which the clocks change. -/
  time : Int
deriving DecidableEq

namespace Change

/-- The offset in force at a second, if this is the only change. -/
def offsetAt (c : Change) (t : Int) : Int :=
  if t < c.time then c.before else c.after

/-- The offset of a second on the wall, if this is the only change. -/
def offsetOnWall (c : Change) (w : Int) : Int :=
  if w < c.time + max c.before c.after then c.before else c.after

/-- The clocks that do not change. -/
def none (offset : Int) : Change where
  before := offset
  after := offset
  time := 0

@[simp] theorem offsetAt_none (offset t : Int) : (none offset).offsetAt t = offset :=
  ite_self _

@[simp] theorem offsetOnWall_none (offset w : Int) : (none offset).offsetOnWall w = offset :=
  ite_self _

end Change

/-- An offset is shorter than a day. -/
def WithinDay (offset : Int) : Prop :=
  -86400 < offset ∧ offset < 86400

instance (offset : Int) : Decidable (WithinDay offset) :=
  inferInstanceAs (Decidable (_ ∧ _))

/-- The second, some three hundred years before 1970, before which no clocks change. -/
def beginning : Int := -10000000000

variable {offsetAt offsetOnWall : Int → Int} {w : Int} {c : Change}

/-- **One change at most**: seen from the reading `w`, the clocks look as if there were
no change but `c`. -/
structure Near (offsetAt offsetOnWall : Int → Int) (w : Int) (c : Change) : Prop where
  /-- The offset before is shorter than a day. -/
  before : WithinDay c.before
  /-- The offset after is shorter than a day. -/
  after : WithinDay c.after
  /-- No clocks change before the beginning. -/
  changeless : c.before = c.after ∨ beginning ≤ c.time
  /-- The offsets in force within a day of the reading. -/
  offsetAt_eq : ∀ t, w - 86400 < t → t < w + 86400 → offsetAt t = c.offsetAt t
  /-- The offset of the reading. -/
  offsetOnWall_eq : offsetOnWall w = c.offsetOnWall w

/-- **A faithful conversion** of the reading `w`, at the second `w - offsetOnWall w`. -/
structure Resolves (offsetAt offsetOnWall : Int → Int) (w : Int) : Prop where
  /-- The clocks have reached the reading by then. -/
  le_shown : w ≤ w - offsetOnWall w + offsetAt (w - offsetOnWall w)
  /-- They are not two days beyond it. -/
  shown_lt : w - offsetOnWall w + offsetAt (w - offsetOnWall w) < w + 172800
  /-- If they ever show it, they show it then. -/
  shown : ∀ t, t + offsetAt t = w → w - offsetOnWall w + offsetAt (w - offsetOnWall w) = w
  /-- They do not show it before. -/
  first : ∀ t, t + offsetAt t = w → w - offsetOnWall w ≤ t
  /-- They do not show it a second time before the beginning. -/
  only : ∀ t, t + offsetAt t = w → t = w - offsetOnWall w ∨ beginning ≤ t

/-- **A reading near one change is resolved.** The offset of the reading is the one
before the change, if the reading is skipped or repeated; so of two instants it
gives the earlier one, and the clocks after the change are ahead of a skipped
reading. -/
theorem Near.resolves (h : Near offsetAt offsetOnWall w c) (hday : ∀ t, WithinDay (offsetAt t)) :
    Resolves offsetAt offsetOnWall w := by
  obtain ⟨⟨hb₁, hb₂⟩, ⟨ha₁, ha₂⟩, hless, hat, hwall⟩ := h
  have hat₀ := hat (w - offsetOnWall w)
  -- an instant that shows `w` is within a day of it, where no other change is seen
  have hshown : ∀ t, t + offsetAt t = w → t + c.offsetAt t = w := by
    intro t ht
    obtain ⟨h₁, h₂⟩ := hday t
    rw [← hat t (by omega) (by omega)]
    exact ht
  -- what is left compares `w` with the two readings of the one change
  simp only [Change.offsetAt, Change.offsetOnWall] at hat₀ hshown hwall
  refine ⟨?_, ?_, ?_, ?_, ?_⟩
  · omega
  · omega
  · intro t ht
    have := hshown t ht
    omega
  · intro t ht
    have := hshown t ht
    omega
  · intro t ht
    have := hshown t ht
    omega

/-- Clocks that keep one offset have no change to be near. -/
theorem near_none {offset : Int} (h : WithinDay offset) (w : Int) :
    Near (fun _ => offset) (fun _ => offset) w (.none offset) where
  before := h
  after := h
  changeless := Or.inl rfl
  offsetAt_eq := fun t _ _ => (Change.offsetAt_none offset t).symm
  offsetOnWall_eq := (Change.offsetOnWall_none offset w).symm

/-- What is near a change, seen with other functions that agree within a day. -/
theorem Near.congr {offsetAt' offsetOnWall' : Int → Int} (h : Near offsetAt offsetOnWall w c)
    (hat : ∀ t, w - 86400 < t → t < w + 86400 → offsetAt' t = offsetAt t)
    (hwall : offsetOnWall' w = offsetOnWall w) : Near offsetAt' offsetOnWall' w c where
  before := h.before
  after := h.after
  changeless := h.changeless
  offsetAt_eq := fun t h₁ h₂ => (hat t h₁ h₂).trans (h.offsetAt_eq t h₁ h₂)
  offsetOnWall_eq := hwall.trans h.offsetOnWall_eq

end Timespan.Zone
