import Timespan.Rejection
import Timespan.Operand

/-!
# The operators

An expression has one operand and no operator, or two operands and one of two
operators:

| symbol | name       | span                                                              |
|--------|------------|-------------------------------------------------------------------|
|        | `single`   | the operand itself                                                |
| `->`   | `sequence` | from the start of the first to the stop of the second             |
| `<>`   | `window`   | between the start of the first and the instant that lies the      |
|        |            | offset of the second away from it                                 |

What is missing from an operand is replaced by what it has or by the origin of the
evaluation (`Operand.startFrom`, `Operand.stopFrom`); only a window insists on what
it needs. The operands are used where they stand and never exchanged, so a sequence
may run backwards. A window never does.
-/

namespace Timespan

/-- The ways of joining operands. -/
inductive Operator
  /-- One operand alone. -/
  | single
  /-- From one operand to another. -/
  | sequence
  /-- On one side of an anchor. -/
  | window
deriving DecidableEq

namespace Operator

/-- All operators, in the order in which they are listed. -/
def all : List Operator :=
  [single, sequence, window]

/-- How an operator is written. -/
def symbol : Operator → Text
  | single => "".toList
  | sequence => "->".toList
  | window => "<>".toList

/-- The operator written this way. -/
def ofSymbol? (s : Text) : Option Operator :=
  all.find? fun op => op.symbol == s

theorem ofSymbol?_symbol (op : Operator) : ofSymbol? op.symbol = some op := by
  cases op <;> rfl

theorem symbol_of_ofSymbol? {s : Text} {op : Operator} (h : ofSymbol? s = some op) :
    op.symbol = s := by
  simpa using List.find?_some h

/-! ### Joining operands -/

/-- The window on the side of the anchor to which the quantity points. -/
def windowSpan (anchor quantity : Operand) : Except Rejection Span :=
  match anchor.start, quantity.offset with
  | some start, some offset => .ok (.between start (start + offset))
  | _, _ => .error .offsetPrecondition

/-- **The span of the operands present**, joined by an operator. -/
def join (op : Operator) (first second : Option Operand) (origin : Int) :
    Except Rejection Span :=
  match op, first, second with
  | single, some t, none => .ok ⟨t.startFrom origin, t.stopFrom origin⟩
  | sequence, some t, some u => .ok ⟨t.startFrom origin, u.stopFrom origin⟩
  | window, some t, some u => windowSpan t u
  | op, _, _ => .error (.unsupportedOperation op.symbol)

/-- The span of the operands present, joined by the operator that is written
`symbol`. -/
def joinWritten (symbol : Text) (first second : Option Operand) (origin : Int) :
    Except Rejection Span :=
  match ofSymbol? symbol with
  | some op => op.join first second origin
  | none => .error (.unsupportedOperation symbol)

@[simp] theorem joinWritten_symbol (op : Operator) (first second : Option Operand)
    (origin : Int) : joinWritten op.symbol first second origin = op.join first second origin := by
  rw [joinWritten, ofSymbol?_symbol]

end Operator

end Timespan
