import Timespan.Proofs.Keyword.Anchor
import Timespan.Proofs.Landing

/-!
# Origins that cannot be written

An instant that the calendar does not reach is named in the rejection, and a number with
more than `Decimal.digitLimit` digits cannot be named. Such a number is far out of the
calendar, so this is only ever the fault of the origin of an evaluation: what a move has
found is near the calendar and can be written (`Shift.writable_of_move`).

Hence a calendar keyword has two ways to fail in a zone that exists. From an origin that
can be written it is rejected (`Keyword.exists_rejection`), and from any other it fails
without a rejection (`Keyword.span_of_not_writable`).
-/

namespace Timespan

open Calendar

/-! ### Numbers that can be written -/

/-- The first number that has too many digits. -/
def Decimal.firstUnwritable : Int :=
  (Nat.pow 10 digitLimit : Nat)

theorem Decimal.lt_length_digits_pow {k : Nat} (h : 0 < k) :
    k < (digits (Nat.pow 10 k)).length := by
  refine Nat.lt_of_not_le fun hle => ?_
  exact Nat.lt_irrefl _ ((Nat.length_toDigits_le_iff (by decide) h).1 hle)

theorem Decimal.not_writable_firstUnwritable : ¬ Writable firstUnwritable := by
  rw [Writable, firstUnwritable, Int.natAbs_natCast]
  exact Nat.not_le_of_lt (lt_length_digits_pow (by decide))

theorem Decimal.writable_of_le {n : Int} (h₁ : -1000000000000000 ≤ n)
    (h₂ : n ≤ 1000000000000000) : Writable n := by
  have hlength : (digits n.natAbs).length ≤ 16 :=
    (Nat.length_toDigits_le_iff (by decide) (by decide)).2 (by omega)
  exact Nat.le_trans hlength (by decide)

variable {tz : Option Text} {z : Zone} {instant j : Int}

/-- **The calendar is within a few digits.** -/
theorem Zone.Reaches.writable (h : z.Reaches instant) : Decimal.Writable instant := by
  simp only [Zone.Reaches, InCalendar, firstDay, lastDay, Duration.day_eq] at h
  exact Decimal.writable_of_le (by omega) (by omega)

/-! ### Questions to the calendar -/

theorem Zone.wallClock?_of_not_writable (h : ¬ Decimal.Writable instant) :
    z.wallClock? instant = none := by
  rw [Zone.wallClock?, if_neg fun hreach => h hreach.1.writable]

theorem Failure.outOfRange_of_not_writable (h : ¬ Decimal.Writable instant) :
    outOfRange instant = .unwritable instant :=
  if_neg h

theorem Failure.outOfRange_of_writable (h : Decimal.Writable instant) :
    outOfRange instant = .rejected (.outOfRange instant) :=
  if_pos h

/-- **What a move has found can be written.** -/
theorem Shift.writable_of_move {s : Shift} (h : s.move tz instant = .ok j) :
    Decimal.Writable j := by
  obtain ⟨z, hz, h⟩ := exists_find_of_inZone h
  obtain ⟨-, -, w, -, -, hw⟩ := Shift.move?_eq_some_iff.1 h
  obtain ⟨hreach, rfl⟩ := Zone.instant?_eq_some_iff.1 hw
  -- the reading is in the calendar, and the instant less than a day away from it
  obtain ⟨h₁, h₂⟩ := (Zone.regular_of_find hz).withinDay_offsetOnWall (w.millis / 1000)
  simp only [Zone.Reaches, InCalendar, firstDay, lastDay, Duration.day_eq] at hreach
  unfold Zone.earliest
  exact Decimal.writable_of_le (by omega) (by omega)

theorem Period.span_of_not_writable (p : Period) (hz : Zone.find tz = .ok z)
    (h : ¬ Decimal.Writable instant) : p.span tz instant = .error (.unwritable instant) := by
  rw [Period.span, inZone_eq_error_iff hz, Failure.outOfRange_of_not_writable h]
  refine ⟨?_, rfl⟩
  rw [Period.span?, Zone.wallClock?_of_not_writable h]
  rfl

theorem Shift.move_of_not_writable (s : Shift) (hz : Zone.find tz = .ok z)
    (h : ¬ Decimal.Writable instant) : s.move tz instant = .error (.unwritable instant) := by
  rw [Shift.move, inZone_eq_error_iff hz, Failure.outOfRange_of_not_writable h]
  refine ⟨?_, rfl⟩
  cases hmove : s.move? z instant with
  | none => rfl
  | some j =>
    obtain ⟨-, w, -, hw, -⟩ := Shift.move?_eq_some_iff.1 hmove
    rw [Zone.wallClock?_of_not_writable h] at hw
    exact absurd hw (by simp)

/-! ### Keywords -/

namespace Keyword

/-- **A calendar keyword fails** as all questions to the calendar do. -/
theorem span_of_forall_error {k : Keyword} {f : Failure} (hk : k.isCalendar = true)
    (hperiod : ∀ p : Period, p.span tz instant = .error f)
    (hshift : ∀ s : Shift, s.move tz instant = .error f) : k.span tz instant = .error f := by
  obtain ⟨p, hp⟩ := Option.isSome_iff_exists.1 hk
  refine span_eq_error_iff.2 ⟨p, hp, ?_⟩
  cases hs : k.shift? with
  | none => exact Or.inr ⟨instant, anchor_eq_ok_iff.2 (Or.inl ⟨hs, rfl⟩), hperiod p⟩
  | some s => exact Or.inl (anchor_eq_error_iff.2 ⟨s, hs, hshift s⟩)

/-- **From an origin that cannot be written** a calendar keyword fails without a
rejection. -/
theorem span_of_not_writable {k : Keyword} (hz : Zone.find tz = .ok z)
    (hk : k.isCalendar = true) (h : ¬ Decimal.Writable instant) :
    k.span tz instant = .error (.unwritable instant) :=
  span_of_forall_error hk (fun p => p.span_of_not_writable hz h)
    fun s => s.move_of_not_writable hz h

/-- **How a keyword fails**: there is no zone, or an instant is out of reach, which is the
origin or can be written. -/
theorem noZone_or_outOfRange {k : Keyword} {f : Failure} (h : k.span tz instant = .error f) :
    (∃ reason, Zone.find tz = .error reason ∧ f = .noZone reason) ∨
      ∃ i, (i = instant ∨ Decimal.Writable i) ∧ f = .outOfRange i := by
  -- whether the period is looked for around the origin or where the move has led
  have hspan : ∀ (p : Period) {i : Int}, i = instant ∨ Decimal.Writable i →
      p.span tz i = .error f → (∃ reason, Zone.find tz = .error reason ∧ f = .noZone reason) ∨
        ∃ i, (i = instant ∨ Decimal.Writable i) ∧ f = .outOfRange i :=
    fun p i hi hp => (noZone_or_unanswered hp).imp_right fun hf => ⟨i, hi, hf⟩
  obtain ⟨p, -, hanchor | ⟨j, hanchor, hj⟩⟩ := span_eq_error_iff.1 h
  · obtain ⟨s, -, hmove⟩ := anchor_eq_error_iff.1 hanchor
    exact (noZone_or_unanswered hmove).imp_right fun hf => ⟨instant, Or.inl rfl, hf⟩
  · rcases anchor_eq_ok_iff.1 hanchor with ⟨-, rfl⟩ | ⟨s, -, hmove⟩
    · exact hspan p (Or.inl rfl) hj
    · exact hspan p (Or.inr (Shift.writable_of_move hmove)) hj

/-- **From any other origin** a keyword that fails is rejected. -/
theorem exists_rejection {k : Keyword} {f : Failure} (hz : Zone.find tz = .ok z)
    (h : Decimal.Writable instant) (hf : k.span tz instant = .error f) :
    ∃ e, f = .rejected e := by
  rcases noZone_or_outOfRange hf with ⟨reason, hmissing, -⟩ | ⟨i, hi, rfl⟩
  · exact absurd (hmissing.symm.trans hz) (by simp)
  · have hwritable : Decimal.Writable i := by
      rcases hi with rfl | hi
      · exact h
      · exact hi
    exact ⟨_, Failure.outOfRange_of_writable hwritable⟩

end Keyword

end Timespan
