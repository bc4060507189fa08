import Timespan.Failure

/-!
# Stages that may fail

A computation is made of stages, and the first one that fails gives the answer. The
lemmas of this file take such a computation apart: if there is an answer, every stage
had one (`bind_eq_ok_iff`), and if the calendar was asked, the zone was found
(`exists_find_of_inZone`).
-/

namespace Timespan

section Bind

variable {ε α β : Type}

theorem bind_eq_ok_iff {x : Except ε α} {f : α → Except ε β} {b : β} :
    (x >>= f) = .ok b ↔ ∃ a, x = .ok a ∧ f a = .ok b := by
  cases x with
  | error e => simp [bind, Except.bind]
  | ok a => simp [bind, Except.bind]

theorem bind_ok (a : α) (f : α → Except ε β) : ((.ok a : Except ε α) >>= f) = f a := rfl

theorem bind_error (e : ε) (f : α → Except ε β) :
    ((.error e : Except ε α) >>= f) = .error e := rfl

theorem bind_eq_error_iff {x : Except ε α} {f : α → Except ε β} {e : ε} :
    (x >>= f) = .error e ↔ x = .error e ∨ ∃ a, x = .ok a ∧ f a = .error e := by
  cases x with
  | error e => simp [bind, Except.bind]
  | ok a => simp [bind, Except.bind]

theorem map_eq_ok_iff {x : Except ε α} {f : α → β} {b : β} :
    x.map f = .ok b ↔ ∃ a, x = .ok a ∧ f a = b := by
  cases x with
  | error e => simp [Except.map]
  | ok a => simp [Except.map]

theorem map_eq_error_iff {x : Except ε α} {f : α → β} {e : ε} :
    x.map f = .error e ↔ x = .error e := by
  cases x with
  | error e' => simp [Except.map]
  | ok a => simp [Except.map]

theorem exists_of_rejecting_eq_error {x : Except Rejection α} {f : Failure}
    (h : rejecting x = .error f) : ∃ e, x = .error e ∧ f = .rejected e := by
  cases x with
  | error e => exact ⟨e, rfl, (Except.error.inj h).symm⟩
  | ok a => exact absurd h (by simp)

theorem rejecting_eq_ok_iff {x : Except Rejection α} {a : α} :
    rejecting x = .ok a ↔ x = .ok a := by
  cases x with
  | error e => simp
  | ok b => simp

/-- An answer is what is left of a computation when its failures are forgotten. -/
theorem eq_ok_of_toOption {x : Except ε α} {a : α} (h : x.toOption = some a) : x = .ok a := by
  cases x with
  | error e => exact absurd h (by simp [Except.toOption])
  | ok b => exact congrArg Except.ok (Option.some.inj h)

end Bind

/-- What a zone has answered was answered by a zone that was found. -/
theorem exists_find_of_inZone {α : Type} {tz : Option Text} {unanswered : Failure}
    {answer : Zone → Option α} {a : α} (h : inZone tz unanswered answer = .ok a) :
    ∃ z, Zone.find tz = .ok z ∧ answer z = some a := by
  cases hz : Zone.find tz with
  | error reason =>
    rw [inZone, hz] at h
    exact absurd h (by simp)
  | ok z => exact ⟨z, rfl, (inZone_eq_ok_iff hz).1 h⟩

/-- What a zone has not answered was asked of no zone, or is out of its reach. -/
theorem noZone_or_unanswered {α : Type} {tz : Option Text} {unanswered f : Failure}
    {answer : Zone → Option α} (h : inZone tz unanswered answer = .error f) :
    (∃ reason, Zone.find tz = .error reason ∧ f = .noZone reason) ∨ f = unanswered := by
  cases hz : Zone.find tz with
  | error reason =>
    rw [inZone, hz] at h
    exact Or.inl ⟨reason, rfl, (Except.error.inj h).symm⟩
  | ok z => exact Or.inr ((inZone_eq_error_iff hz).1 h).2.symm

end Timespan
