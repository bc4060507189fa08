import Timespan.Expression.Basic
import Timespan.Proofs.Expression.Cut
import Timespan.Proofs.Operator.Joining
import Timespan.Proofs.Term.Meaning

/-!
# What the pieces of an expression mean

The stages of an evaluation are put together here once, so that what follows can
speak of terms and spans and need not open the stages again.
`Expression.evaluatePieces_eq_ok_iff` lists the three ways in which pieces have a
span: one term alone, two terms in sequence, or a term and a quantity on either side
of a window.

A piece is always trimmed, and whoever reads a term does not mind
(`Expression.exists_piece_iff`).
-/

namespace Timespan

/-! ### Joining spans -/

namespace Operator

theorem windowSpan_operandOf (t u : Term) (s r : Span) :
    windowSpan (t.operandOf s) (u.operandOf r) =
      match u.offset? with
      | some d => .ok (.between s.start (s.start + d))
      | none => .error .offsetPrecondition := by
  cases u <;> rfl

end Operator

namespace Expression

variable {tz : Option Text} {origin : Int}

/-! ### Pieces -/

theorem piece?_eq_some_iff {s a : Text} :
    Pieces.piece? s = some a ↔ Text.trim s ≠ [] ∧ Text.trim s = a := by
  rw [Pieces.piece?]
  split
  · next h => simp [h]
  · next h => simp [h]

/-- A text that says something is not blank. -/
theorem trim_ne_nil_of_reads {s : Text} {t : Term} (h : Term.Reads s t) : Text.trim s ≠ [] := by
  intro hnil
  obtain ⟨c, hc, -⟩ := (Term.reads_trim_iff.2 h).getLast_isLower
  rw [hnil] at hc
  exact absurd hc (by simp [Text.clean, Text.squeeze, Text.lower, Text.lowerAfter])

/-- A piece says what the text says from which it was cut. -/
theorem exists_piece_iff {s : Text} {t : Term} :
    (∃ a, Pieces.piece? s = some a ∧ Term.Reads a t) ↔ Term.Reads s t := by
  refine ⟨fun h => ?_, fun h => ?_⟩
  · obtain ⟨a, ha, ht⟩ := h
    obtain ⟨-, rfl⟩ := piece?_eq_some_iff.1 ha
    exact Term.reads_trim_iff.1 ht
  · exact ⟨_, piece?_eq_some_iff.2 ⟨trim_ne_nil_of_reads h, rfl⟩, Term.reads_trim_iff.2 h⟩

/-! ### The stages together -/

theorem operand?_some (a : Text) :
    operand? (some a) tz origin = (Term.evaluate a tz origin).map some := by
  rw [operand?]
  cases Term.evaluate a tz origin <;> rfl

theorem operand?_eq_some_iff {piece : Option Text} {o : Operand} :
    operand? piece tz origin = .ok (some o) ↔ ∃ a t r, piece = some a ∧ Term.Reads a t ∧
      t.span tz origin = .ok r ∧ t.operandOf r = o := by
  cases piece with
  | none => simp [operand?]
  | some a =>
    rw [operand?_some, map_eq_ok_iff]
    refine ⟨fun h => ?_, fun h => ?_⟩
    · obtain ⟨o', ho, hsome⟩ := h
      obtain rfl := Option.some.inj hsome
      obtain ⟨t, r, ht, hr, rfl⟩ := Term.evaluate_eq_ok_iff.1 ho
      exact ⟨a, t, r, rfl, ht, hr, rfl⟩
    · obtain ⟨a', t, r, ha, ht, hr, rfl⟩ := h
      obtain rfl := Option.some.inj ha
      exact ⟨_, Term.evaluate_eq_ok_iff.2 ⟨t, r, ht, hr, rfl⟩, rfl⟩

theorem operand?_eq_none_iff {piece : Option Text} :
    operand? piece tz origin = .ok none ↔ piece = none := by
  cases piece with
  | none => simp [operand?]
  | some a =>
    rw [operand?_some, map_eq_ok_iff]
    simp

theorem operand?_eq_error_iff {piece : Option Text} {f : Failure} :
    operand? piece tz origin = .error f ↔
      ∃ a, piece = some a ∧ Term.evaluate a tz origin = .error f := by
  cases piece with
  | none => simp [operand?]
  | some a => simp [operand?_some, map_eq_error_iff]

/-- **The meaning of the pieces**: one term alone, two in sequence, or a term and a
quantity that point to the two ends of a window. -/
theorem evaluatePieces_eq_ok_iff {p : Pieces} {s : Span} :
    evaluatePieces p tz origin = .ok s ↔
      (∃ a t, p = ⟨some a, Operator.single.symbol, none⟩ ∧ Term.Reads a t ∧
        t.span tz origin = .ok s) ∨
      (∃ a b t u s₁ s₂, p = ⟨some a, Operator.sequence.symbol, some b⟩ ∧ Term.Reads a t ∧
        Term.Reads b u ∧ t.span tz origin = .ok s₁ ∧ u.span tz origin = .ok s₂ ∧
        ⟨s₁.start, s₂.stop⟩ = s) ∨
      (∃ a b t u d s₁ s₂, p = ⟨some a, Operator.window.symbol, some b⟩ ∧ Term.Reads a t ∧
        Term.Reads b u ∧ t.span tz origin = .ok s₁ ∧ u.span tz origin = .ok s₂ ∧
        u.offset? = some d ∧ .between s₁.start (s₁.start + d) = s) := by
  obtain ⟨first, operator, second⟩ := p
  constructor
  · intro h
    -- the two pieces in turn, then the operator
    obtain ⟨o₁, h₁, h⟩ := bind_eq_ok_iff.1 h
    obtain ⟨o₂, h₂, h⟩ := bind_eq_ok_iff.1 h
    rcases Operator.joinWritten_eq_ok_iff.1 (rejecting_eq_ok_iff.1 h) with
      ⟨rfl, rfl, o, rfl, rfl⟩ | ⟨rfl, o, o', rfl, rfl, rfl⟩ | ⟨rfl, o, o', rfl, rfl, hw⟩
    · obtain ⟨a, t, r, rfl, ht, hr, rfl⟩ := operand?_eq_some_iff.1 h₁
      obtain rfl := operand?_eq_none_iff.1 h₂
      exact Or.inl ⟨a, t, rfl, ht, hr⟩
    · obtain ⟨a, t, r, rfl, ht, hr, rfl⟩ := operand?_eq_some_iff.1 h₁
      obtain ⟨b, u, r', rfl, hu, hr', rfl⟩ := operand?_eq_some_iff.1 h₂
      exact Or.inr (Or.inl ⟨a, b, t, u, r, r', rfl, ht, hu, hr, hr', rfl⟩)
    · obtain ⟨a, t, r, rfl, ht, hr, rfl⟩ := operand?_eq_some_iff.1 h₁
      obtain ⟨b, u, r', rfl, hu, hr', rfl⟩ := operand?_eq_some_iff.1 h₂
      rw [Operator.windowSpan_operandOf] at hw
      cases hd : u.offset? with
      | none => simp [hd] at hw
      | some d =>
        rw [hd] at hw
        exact Or.inr (Or.inr ⟨a, b, t, u, d, r, r', rfl, ht, hu, hr, hr', hd, Except.ok.inj hw⟩)
  · rintro (⟨a, t, hp, ht, hs⟩ | ⟨a, b, t, u, s₁, s₂, hp, ht, hu, hs₁, hs₂, rfl⟩ |
      ⟨a, b, t, u, d, s₁, s₂, hp, ht, hu, hs₁, hs₂, hd, rfl⟩)
    · obtain ⟨rfl, rfl, rfl⟩ := Pieces.mk.inj hp
      have h₁ := operand?_eq_some_iff.2 ⟨a, t, s, rfl, ht, hs, rfl⟩
      rw [evaluatePieces, h₁]
      rfl
    · obtain ⟨rfl, rfl, rfl⟩ := Pieces.mk.inj hp
      have h₁ := operand?_eq_some_iff.2 ⟨a, t, s₁, rfl, ht, hs₁, rfl⟩
      have h₂ := operand?_eq_some_iff.2 ⟨b, u, s₂, rfl, hu, hs₂, rfl⟩
      rw [evaluatePieces, h₁, bind_ok, h₂]
      rfl
    · obtain ⟨rfl, rfl, rfl⟩ := Pieces.mk.inj hp
      have h₁ := operand?_eq_some_iff.2 ⟨a, t, s₁, rfl, ht, hs₁, rfl⟩
      have h₂ := operand?_eq_some_iff.2 ⟨b, u, s₂, rfl, hu, hs₂, rfl⟩
      rw [evaluatePieces, h₁, bind_ok, h₂, bind_ok, Operator.joinWritten_symbol]
      change rejecting (Operator.windowSpan (t.operandOf s₁) (u.operandOf s₂)) = _
      rw [Operator.windowSpan_operandOf, hd]
      rfl

end Expression

end Timespan
