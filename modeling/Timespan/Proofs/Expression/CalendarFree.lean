import Timespan.Proofs.Expression.Precedence
import Timespan.Proofs.Operator

/-!
# Expressions without a calendar

An expression of which no piece is a calendar keyword is seen from its origin alone
(`Expression.CalendarFree`). Its terms are `now` and quantities, which lie at fixed lengths
from the origin, and no zone is looked up. So from another origin and in another zone, be it
one that does not exist, the span is the same span as far away as the origin is, and a
complaint is the same complaint (`Expression.calendarFree_moves_with_origin`).

Each stage of the evaluation commutes with the move of the origin: a term
(`Term.evaluate_later`), a piece (`Expression.operand?_later`), and the operator
(`Operator.joinWritten_later`).
-/

namespace Timespan

open Pieces

variable (tz tz' : Option Text) {origin k : Int} {text : Text}

/-! ### Terms without a calendar -/

namespace Term

/-- A term that does not ask the calendar moves with the origin. -/
theorem operand_later {t : Term} (ht : t.isCalendar = false) :
    t.operand tz' (origin + k) = (t.operand tz origin).map (·.later k) := by
  cases t with
  | keyword k =>
    obtain rfl := Keyword.isCalendar_eq_false_iff.1 ht
    rfl
  | quantity count unit =>
    rw [operand_quantity, operand_quantity, Operand.ofOffset_later]
    rfl

/-- **A text that is no calendar keyword** moves with the origin, or is no term from any. -/
theorem evaluate_later {a : Text} (ha : ¬ Expression.IsCalendar (some a)) :
    evaluate a tz' (origin + k) = (evaluate a tz origin).map (·.later k) := by
  rw [evaluate, evaluate]
  cases hread : ofText a with
  | error e => rfl
  | ok t =>
    have ht : t.isCalendar = false := by
      cases t with
      | quantity count unit => rfl
      | keyword k =>
        by_cases hk : k.isCalendar = true
        · exact absurd ⟨a, k, rfl, ofText_eq_ok_iff.1 hread, hk⟩ ha
        · simpa [isCalendar] using hk
    exact operand_later tz tz' ht

end Term

namespace Expression

theorem not_isCalendar_of_reads {a : Text} {t : Term} (ha : Term.Reads a t)
    (ht : t.isCalendar = false) : ¬ IsCalendar (some a) := by
  rintro ⟨a', k, heq, hk, hcal⟩
  obtain rfl := Option.some.inj heq
  obtain rfl := ha.unique hk
  exact absurd (hcal.symm.trans ht) (by simp)

/-! ### Expressions without a calendar -/

/-- **An expression is free of the calendar** if none of its pieces is a calendar keyword. A
text that is not cut into pieces is free of it too, whatever words it has. -/
def CalendarFree (text : Text) : Prop :=
  ∀ p, ofText text = .ok p → ¬ IsCalendar p.first ∧ ¬ IsCalendar p.second

theorem not_comesToCalendar {tz : Option Text} (h : CalendarFree text) :
    ¬ ComesToCalendar tz origin (some text) := by
  rintro ⟨s, p, heq, -, hp, hcal⟩
  obtain rfl := Option.some.inj heq
  obtain ⟨hfirst, hsecond⟩ := h p hp
  rcases hcal with hcal | ⟨-, hcal⟩
  · exact hfirst hcal
  · exact hsecond hcal

theorem operand?_later {piece : Option Text} (h : ¬ IsCalendar piece) :
    operand? piece tz' (origin + k) =
      (operand? piece tz origin).map (Option.map (·.later k)) := by
  cases piece with
  | none => rfl
  | some a =>
    rw [operand?_some, operand?_some, Term.evaluate_later tz tz' h]
    cases Term.evaluate a tz origin <;> rfl

/-- **The span of pieces** that are no calendar keywords moves with the origin. -/
theorem evaluatePieces_later {p : Pieces} (hfirst : ¬ IsCalendar p.first)
    (hsecond : ¬ IsCalendar p.second) :
    evaluatePieces p tz' (origin + k) = (evaluatePieces p tz origin).map (·.later k) := by
  rw [evaluatePieces, evaluatePieces, operand?_later tz tz' hfirst,
    operand?_later tz tz' hsecond]
  cases operand? p.first tz origin with
  | error f => rfl
  | ok o₁ =>
    cases operand? p.second tz origin with
    | error f => rfl
    | ok o₂ =>
      simp only [Except.map, bind_ok, Operator.joinWritten_later]
      cases Operator.joinWritten p.operator o₁ o₂ origin <;> rfl

theorem evaluate_later (h : CalendarFree text) :
    evaluate (some text) tz' (origin + k) =
      (evaluate (some text) tz origin).map (·.later k) := by
  cases hvacant : isVacant (some text) with
  | true =>
    rw [evaluate, evaluate, if_pos hvacant, if_pos hvacant]
    rfl
  | false =>
    cases hcut : ofText text with
    | error e =>
      rw [evaluate, evaluate, if_neg (by simp [hvacant]), if_neg (by simp [hvacant]),
        Option.getD_some, evaluateText, evaluateText, hcut]
      rfl
    | ok p =>
      obtain ⟨hfirst, hsecond⟩ := h p hcut
      rw [evaluate_of_filled hvacant hcut, evaluate_of_filled hvacant hcut,
        evaluatePieces_later tz tz' hfirst hsecond]

/-- **Expressions without a calendar are arithmetic.** From an origin later by `k`, and in any
zone, an expression that has a span has the span later by `k`, and one that has none is
rejected for the same reason. -/
theorem calendarFree_moves_with_origin (h : CalendarFree text) (tz tz' : Option Text)
    (origin k : Int) :
    (∀ s, evaluate (some text) tz origin = .ok s →
      evaluate (some text) tz' (origin + k) = .ok ⟨s.start + k, s.stop + k⟩) ∧
    ∀ f, evaluate (some text) tz origin = .error f →
      ∃ e, f = .rejected e ∧ e.kind ≠ .outOfRange ∧
        evaluate (some text) tz' (origin + k) = .error (.rejected e) := by
  have hmove : evaluate (some text) tz' (origin + k) = _ := evaluate_later tz tz' h
  refine ⟨fun s hs => ?_, fun f hf => ?_⟩
  · rw [hmove, hs]
    rfl
  · rcases rejected_or_comesToCalendar hf with ⟨e, rfl, hkind, -⟩ | ⟨hcomes, -⟩
    · refine ⟨e, rfl, hkind, ?_⟩
      rw [hmove, hf]
      rfl
    · exact absurd hcomes (not_comesToCalendar h)

/-- Seen from a zone that does not exist and from one that cannot be looked up. A day in a text
with a leftover is not asked for. -/
theorem calendarFree_moves_with_origin_unknown_zone :
    let tz := some "Mars/Olympus".toList
    let tz' := some "../UTC".toList
    CalendarFree "- 2 Days -> now".toList ∧
      evaluate (some "- 2 Days -> now".toList) tz 0 = .ok ⟨-172800000, 0⟩ ∧
      evaluate (some "- 2 Days -> now".toList) tz' (0 + 5) = .ok ⟨-172799995, 5⟩ ∧
      CalendarFree "today <> 1d <> 2d".toList ∧
      evaluate (some "today <> 1d <> 2d".toList) tz 0 =
        .error (.rejected (.unknownTerm "<> 2d".toList)) ∧
      evaluate (some "today <> 1d <> 2d".toList) tz' (0 + 5) =
        .error (.rejected (.unknownTerm "<> 2d".toList)) := by
  intro tz tz'
  have hcut : ofText "- 2 Days -> now".toList = .ok ⟨some "- 2 Days".toList, "->".toList,
      some "now".toList⟩ :=
    eq_ok_of_toOption (by decide +kernel)
  have hdays : Term.ofText "- 2 Days".toList = .ok (.quantity (-2) .day) :=
    eq_ok_of_toOption (by decide +kernel)
  have hnow : Term.ofText "now".toList = .ok (.keyword .now) :=
    eq_ok_of_toOption (by decide +kernel)
  have hfree : CalendarFree "- 2 Days -> now".toList := by
    intro p hp
    obtain rfl := Except.ok.inj (hcut.symm.trans hp)
    exact ⟨not_isCalendar_of_reads (Term.ofText_eq_ok_iff.1 hdays) rfl,
      not_isCalendar_of_reads (Term.ofText_eq_ok_iff.1 hnow) rfl⟩
  have hspan : evaluate (some "- 2 Days -> now".toList) tz 0 = .ok ⟨-172800000, 0⟩ :=
    eq_ok_of_toOption (by decide +kernel)
  have hleft : ofText "today <> 1d <> 2d".toList = .error (.unknownTerm "<> 2d".toList) := by
    decide +kernel
  have hfree' : CalendarFree "today <> 1d <> 2d".toList := by
    intro p hp
    exact absurd (hleft.symm.trans hp) (by simp)
  have hfail : evaluate (some "today <> 1d <> 2d".toList) tz 0 =
      .error (.rejected (.unknownTerm "<> 2d".toList)) := by
    decide +kernel
  obtain ⟨hspans, -⟩ := calendarFree_moves_with_origin hfree tz tz' 0 5
  obtain ⟨-, hfails⟩ := calendarFree_moves_with_origin hfree' tz tz' 0 5
  obtain ⟨e, he, -, hfail'⟩ := hfails _ hfail
  obtain rfl := Failure.rejected.inj he
  exact ⟨hfree, hspan, hspans _ hspan, hfree', hfail, hfail'⟩

end Expression

end Timespan
