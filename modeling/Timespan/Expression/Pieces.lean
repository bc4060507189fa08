import Timespan.Rejection

/-!
# The pieces of an expression

An expression is one piece of text, or two with an operator between them. This
file cuts it, without asking what the pieces mean.

The symbols are made of three characters, and one of them, the dash, is also the
sign of a negative quantity. The cut is made from the left, in four steps that
never look back:

| step            | takes                                                                   |
|-----------------|-------------------------------------------------------------------------|
| the first piece | all before the first angle bracket, without the dashes at its end       |
| the operator    | `->`, `<>` or `<`, if one follows at once                               |
| the second piece | all before the next angle bracket                                      |
| the leftover    | the rest, of which there must be none                                   |

So a dash before a `>` belongs to the operator, one after it to the second piece;
and the dashes at the end of a text without angle brackets, which no operator
claims, make up a second piece of their own. A lone `<` is cut out as an operator
here and refused later, where operators get their meaning.
-/

namespace Timespan

/-- The pieces of an expression, trimmed; a blank piece is no piece. -/
structure Pieces where
  /-- What stands before the operator. -/
  first : Option Text
  /-- The operator as it is written, empty where there is none. -/
  operator : Text
  /-- What stands after the operator. -/
  second : Option Text
deriving DecidableEq

namespace Pieces

/-! ### The steps of the cut -/

/-- Whether a character is an angle bracket, which only operators contain. -/
def isAngle (c : Char) : Bool :=
  c == '<' || c == '>'

/-- A trimmed piece, if there is anything in it. -/
def piece? (s : Text) : Option Text :=
  if Text.trim s = [] then none else some (Text.trim s)

/-- The characters before the first angle bracket. -/
def run (s : Text) : Text :=
  s.takeWhile fun c => !isAngle c

/-- The first piece: the dashes before an angle bracket are not part of it. -/
def head (s : Text) : Text :=
  Text.dropTrailing (· == '-') (run s)

/-- The operator at the beginning of a text, and what follows it. -/
def takeOperator : Text → Text × Text
  | '-' :: '>' :: rest => ("->".toList, rest)
  | '<' :: '>' :: rest => ("<>".toList, rest)
  | '<' :: rest => ("<".toList, rest)
  | rest => ([], rest)

/-- What follows the first piece, from the operator on. -/
def tail (s : Text) : Text :=
  s.drop (head s).length

/-! ### The cut -/

/-- The cut of a text that has been trimmed. -/
def ofTrimmed (s : Text) : Except Rejection Pieces :=
  let operator := (takeOperator (tail s)).1
  let rest := (takeOperator (tail s)).2
  -- The second piece has no angle bracket, so one that follows it is left over.
  match rest.drop (run rest).length with
  | [] => .ok { first := piece? (head s), operator, second := piece? (run rest) }
  | leftover => .error (.unknownTerm leftover)

/-- **The cut** of a text into its pieces. What is left over after the second
piece is rejected. -/
def ofText (text : Text) : Except Rejection Pieces :=
  ofTrimmed (Text.trim text)

/-- Nothing is lost at the operator. -/
theorem takeOperator_append (s : Text) : (takeOperator s).1 ++ (takeOperator s).2 = s := by
  unfold takeOperator
  split <;> rfl

/-- A run is cut off the front. -/
theorem run_append_drop (s : Text) : run s ++ s.drop (run s).length = s :=
  List.prefix_iff_eq_append.1 (List.takeWhile_prefix _)

/-- The first piece begins the text: of the run, only dashes are left out. -/
theorem head_isPrefix (s : Text) : head s <+: s := by
  refine ⟨((run s).reverse.takeWhile (· == '-')).reverse ++ s.drop (run s).length, ?_⟩
  rw [← List.append_assoc, head, Text.dropTrailing_append_takeWhile, run_append_drop]

/-- Nothing is lost at the first piece. -/
theorem head_append_tail (s : Text) : head s ++ tail s = s :=
  List.prefix_iff_eq_append.1 (head_isPrefix s)

end Pieces

end Timespan
