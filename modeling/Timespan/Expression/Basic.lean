import Timespan.Expression.Pieces
import Timespan.Operator
import Timespan.Term

/-!
# Evaluating an expression

An expression such as `yesterday <> 3d` is evaluated in four stages: it is cut into
pieces, the first piece is evaluated, then the second, and their meanings are
joined by the operator. All pieces are seen from the same origin. The first stage
that fails gives the answer, so of two faults the one to the left is reported, and
the operator comes last.

Nothing at all, the empty text and the placeholder that an interface shows when
nothing is selected (`Expression.placeholder`) are not evaluated.
-/

namespace Timespan.Expression

/-- The text that stands for no selection. -/
def placeholder : Text :=
  "No filter".toList

/-- Whether there is nothing to evaluate. The placeholder must be written exactly
as it is. -/
def isVacant : Option Text → Bool
  | none => true
  | some text => text == [] || text == placeholder

/-- The meaning of a piece, if there is one. -/
def operand? (piece : Option Text) (tz : Option Text) (origin : Int) :
    Except Failure (Option Operand) :=
  match piece with
  | none => .ok none
  | some text => do
    let t ← Term.evaluate text tz origin
    return some t

/-- The span of the pieces of an expression. -/
def evaluatePieces (pieces : Pieces) (tz : Option Text) (origin : Int) : Except Failure Span := do
  let first ← operand? pieces.first tz origin
  let second ← operand? pieces.second tz origin
  rejecting (Operator.joinWritten pieces.operator first second origin)

/-- The span of a text. -/
def evaluateText (text : Text) (tz : Option Text) (origin : Int) : Except Failure Span := do
  let pieces ← rejecting (Pieces.ofText text)
  evaluatePieces pieces tz origin

/-- **The span of an expression**, seen from an origin in a zone. -/
def evaluate (text : Option Text) (tz : Option Text) (origin : Int) : Except Failure Span :=
  if isVacant text then .error (.rejected .invalidOrEmpty)
  else evaluateText (text.getD []) tz origin

theorem evaluate_some {text : Text} (h₁ : text ≠ []) (h₂ : text ≠ placeholder)
    (tz : Option Text) (origin : Int) :
    evaluate (some text) tz origin = evaluateText text tz origin := by
  simp [evaluate, isVacant, h₁, h₂]

end Timespan.Expression
