import Timespan.Keyword
import Timespan.TimeUnit

/-!
# Terms

A term is one side of an expression: a **keyword**, or a **quantity**, which is a
signed number and a unit. Blanks and capitals do not matter, so a term is read
from its clean form (`Timespan.Text.clean`), whose shape decides: letters alone are a
word and must be a keyword; digits and then letters, perhaps after a minus sign,
are a quantity; all else is no term.

Two complaints quote the term and differ in how. A text that is neither a word
nor a quantity is quoted as it stands, but trimmed; an unknown word or unit is
quoted in its clean form. A number with too many digits makes a text of the first
kind, whatever its unit.
-/

namespace Timespan

/-- One side of an expression. -/
inductive Term
  /-- A word. -/
  | keyword (k : Keyword)
  /-- So many of a unit. -/
  | quantity (count : Int) (unit : TimeUnit)
deriving DecidableEq

namespace Term

/-! ### The two shapes -/

/-- The parts of a quantity, as they are written. -/
structure QuantityText where
  /-- Whether there is a minus sign. -/
  minus : Bool
  /-- The digits. -/
  digits : Text
  /-- The unit. -/
  unit : Text
deriving DecidableEq

/-- Whether a text is a word: small letters, and at least one. -/
def isWord (s : Text) : Bool :=
  !s.isEmpty && s.all Char.isLower

/-- The digits at the beginning of a text and the word that is the rest of it. -/
def quantityAfterSign? (minus : Bool) (s : Text) : Option QuantityText :=
  let digits := s.takeWhile Char.isDigit
  let unit := s.dropWhile Char.isDigit
  if !digits.isEmpty && isWord unit then some { minus, digits, unit } else none

/-- The parts of a quantity, if the text has that shape. -/
def quantity? : Text → Option QuantityText
  | '-' :: s => quantityAfterSign? true s
  | s => quantityAfterSign? false s

/-! ### Reading -/

/-- The term with the given clean form; `text` is what a complaint quotes. -/
def ofClean (text clean : Text) : Except Rejection Term :=
  if isWord clean then
    (Keyword.ofWord clean).map .keyword
  else
    match quantity? clean with
    | none => .error (.unknownTerm (Text.trim text))
    | some q =>
      match Decimal.read? q.minus q.digits with
      | none => .error (.unknownTerm (Text.trim text))
      | some count => (TimeUnit.ofText q.unit).map (.quantity count)

/-- **Reading a term.** -/
def ofText (text : Text) : Except Rejection Term :=
  ofClean text (Text.clean text)

/-! ### Meaning -/

/-- **The meaning of a term**, seen from an origin in a zone. -/
def operand (t : Term) (tz : Option Text) (origin : Int) : Except Failure Operand :=
  match t with
  | keyword k => k.operand tz origin
  | quantity count unit => .ok (.ofOffset origin (count * unit.millis))

/-- The meaning of a term that is still to be read. -/
def evaluate (text : Text) (tz : Option Text) (origin : Int) : Except Failure Operand := do
  let t ← rejecting (ofText text)
  t.operand tz origin

/-- A quantity means the same in every zone. -/
theorem operand_quantity (count : Int) (unit : TimeUnit) (tz : Option Text) (origin : Int) :
    (quantity count unit).operand tz origin = .ok (.ofOffset origin (count * unit.millis)) := rfl

end Term

end Timespan
