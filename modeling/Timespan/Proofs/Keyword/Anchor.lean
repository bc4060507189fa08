import Timespan.Keyword
import Timespan.Proofs.Outcome

/-!
# What a keyword asks of the calendar

A keyword that names a period asks the calendar at most twice. The origin is moved to the
anchor, if the period is another one than that of the origin, and then the period around the
anchor is looked for. The lemmas of this file take an answer or a failure of a keyword apart
into those of the two questions.
-/

namespace Timespan.Keyword

variable {k : Keyword} {tz : Option Text} {origin j : Int} {r : Span} {f : Failure}

theorem period?_eq_none_iff : k.period? = none ↔ k = now := by
  cases k <;> decide

theorem anchor_eq_ok_iff : k.anchor tz origin = .ok j ↔
    (k.shift? = none ∧ j = origin) ∨ ∃ s, k.shift? = some s ∧ s.move tz origin = .ok j := by
  rw [anchor]
  cases k.shift? with
  | none => simp [eq_comm]
  | some s => simp

/-- Only a move fails to lead to an anchor. -/
theorem anchor_eq_error_iff : k.anchor tz origin = .error f ↔
    ∃ s, k.shift? = some s ∧ s.move tz origin = .error f := by
  rw [anchor]
  cases k.shift? with
  | none => simp
  | some s => simp

/-- **A span** is that of the period around the anchor, or `now`. -/
theorem span_eq_ok_iff : k.span tz origin = .ok r ↔
    (k.period? = none ∧ r = ⟨origin, origin⟩) ∨
      ∃ p j, k.period? = some p ∧ k.anchor tz origin = .ok j ∧ p.span tz j = .ok r := by
  rw [span]
  cases k.period? with
  | none => simp [eq_comm]
  | some p => simp [bind_eq_ok_iff]

/-- **A failure** is that of the anchor or of the period around it. -/
theorem span_eq_error_iff : k.span tz origin = .error f ↔
    ∃ p, k.period? = some p ∧ (k.anchor tz origin = .error f ∨
      ∃ j, k.anchor tz origin = .ok j ∧ p.span tz j = .error f) := by
  rw [span]
  cases k.period? with
  | none => simp
  | some p => simp [bind_eq_error_iff]

end Timespan.Keyword
