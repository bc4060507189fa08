import Timespan.Operator

/-!
# Operators along the line of time

An operator does not know where on the line of time it works. If the operands and the
origin are moved by one length, the span that it makes of them is moved by it, and what it
refuses it refuses for the same reason (`Operator.joinWritten_later`). A quantity is a length
and does not move; so the window on the side of a moved anchor is as long as before.
-/

namespace Timespan

variable {k origin : Int}

/-! ### Moved operands -/

/-- The window between two instants moves with them. -/
theorem Span.between_later (a b k : Int) :
    between (a + k) (b + k) = (between a b).later k := by
  simp only [between, later, mk.injEq]
  omega

namespace Operand

/-- The operand later by `k` milliseconds. The length of a quantity stays. -/
def later (t : Operand) (k : Int) : Operand :=
  { t with start := t.start.map (· + k), stop := t.stop.map (· + k) }

@[simp] theorem offset_later (t : Operand) (k : Int) : (t.later k).offset = t.offset := rfl

@[simp] theorem start_later (t : Operand) (k : Int) :
    (t.later k).start = t.start.map (· + k) := rfl

/-- A quantity moves with the origin from which it is counted. -/
theorem ofOffset_later (origin offset k : Int) :
    ofOffset (origin + k) offset = (ofOffset origin offset).later k := by
  rw [ofOffset, Int.add_right_comm, Span.between_later]
  rfl

theorem startFrom_later (t : Operand) :
    (t.later k).startFrom (origin + k) = t.startFrom origin + k := by
  obtain ⟨offset, start, stop⟩ := t
  cases start <;> rfl

theorem stopFrom_later (t : Operand) :
    (t.later k).stopFrom (origin + k) = t.stopFrom origin + k := by
  obtain ⟨offset, start, stop⟩ := t
  cases stop with
  | some j => rfl
  | none => cases start <;> rfl

end Operand

/-! ### Joining moved operands -/

namespace Operator

/-- A window moves with its anchor. -/
theorem windowSpan_later (t u : Operand) :
    windowSpan (t.later k) (u.later k) = (windowSpan t u).map (·.later k) := by
  rw [windowSpan, windowSpan, Operand.start_later, Operand.offset_later]
  cases t.start with
  | none => rfl
  | some start =>
    cases u.offset with
    | none => rfl
    | some offset =>
      simp only [Option.map_some, Except.map]
      rw [Int.add_right_comm, Span.between_later]

theorem join_later (op : Operator) (first second : Option Operand) :
    op.join (first.map (·.later k)) (second.map (·.later k)) (origin + k) =
      (op.join first second origin).map (·.later k) := by
  -- an operator looks first for the operands that it wants
  cases first with
  | none => cases op <;> rfl
  | some t =>
    cases second with
    | none =>
      cases op with
      | single =>
        simp only [join, Option.map_some, Option.map_none, Except.map, Span.later,
          Operand.startFrom_later, Operand.stopFrom_later]
      | sequence => rfl
      | window => rfl
    | some u =>
      cases op with
      | single => rfl
      | sequence =>
        simp only [join, Option.map_some, Except.map, Span.later, Operand.startFrom_later,
          Operand.stopFrom_later]
      | window => exact windowSpan_later t u

/-- **A joined span moves** with the operands and the origin. -/
theorem joinWritten_later (symbol : Text) (first second : Option Operand) :
    joinWritten symbol (first.map (·.later k)) (second.map (·.later k)) (origin + k) =
      (joinWritten symbol first second origin).map (·.later k) := by
  rw [joinWritten, joinWritten]
  cases ofSymbol? symbol with
  | none => rfl
  | some op => exact op.join_later first second

end Operator

end Timespan
