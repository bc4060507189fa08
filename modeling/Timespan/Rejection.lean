import Timespan.Decimal

/-!
# Why an expression is rejected

An expression that cannot be evaluated is rejected for one of seven reasons. Each
is a constructor of `Timespan.Rejection` and carries what the reader has to be told:
the word, the text, the operator or the instant at fault. `Rejection.message` is
the one place where the reason is put into words, and `Rejection.kind` forgets
the particulars.
-/

namespace Timespan

/-! ### Kinds of rejection -/

/-- The kinds of rejection. -/
inductive Rejection.Kind
  /-- There was nothing to evaluate. -/
  | invalidOrEmpty
  /-- A word is not a keyword. -/
  | unknownKeyword
  /-- A quantity has a unit that does not exist. -/
  | unknownAlias
  /-- A text is neither a word nor a quantity. -/
  | unknownTerm
  /-- The window operator was given an operand it cannot use. -/
  | offsetPrecondition
  /-- The operator does not exist or does not go with the operands present. -/
  | unsupportedOperation
  /-- The calendar does not reach that far. -/
  | outOfRange
deriving DecidableEq

namespace Rejection.Kind

/-- All kinds, in the order in which they are listed. -/
def all : List Kind :=
  [invalidOrEmpty, unknownKeyword, unknownAlias, unknownTerm, offsetPrecondition,
   unsupportedOperation, outOfRange]

/-- The code by which a kind is known. -/
def code : Kind → Text
  | invalidOrEmpty => "invalid_or_empty".toList
  | unknownKeyword => "unknown_keyword".toList
  | unknownAlias => "unknown_alias".toList
  | unknownTerm => "unknown_term".toList
  | offsetPrecondition => "offset_precondition".toList
  | unsupportedOperation => "unsupported_operation".toList
  | outOfRange => "out_of_range".toList

end Rejection.Kind

/-! ### Rejections -/

/-- A rejection, with what is at fault. -/
inductive Rejection
  /-- There was nothing to evaluate. -/
  | invalidOrEmpty
  /-- The word, in its clean form, is not a keyword. -/
  | unknownKeyword (word : Text)
  /-- The unit of a quantity, in its clean form, does not exist. -/
  | unknownAlias (unit : Text)
  /-- The text, trimmed, is neither a word nor a quantity. -/
  | unknownTerm (text : Text)
  /-- A window wants an anchor with a start and a quantity. -/
  | offsetPrecondition
  /-- The operator does not exist or does not go with the operands present. -/
  | unsupportedOperation (operator : Text)
  /-- The calendar around this instant is out of reach. -/
  | outOfRange (instant : Int)
deriving DecidableEq

namespace Rejection

/-- The kind of a rejection. -/
def kind : Rejection → Kind
  | invalidOrEmpty => .invalidOrEmpty
  | unknownKeyword _ => .unknownKeyword
  | unknownAlias _ => .unknownAlias
  | unknownTerm _ => .unknownTerm
  | offsetPrecondition => .offsetPrecondition
  | unsupportedOperation _ => .unsupportedOperation
  | outOfRange _ => .outOfRange

/-- A rejection in words. -/
def message : Rejection → Text
  | invalidOrEmpty => "Invalid or empty time range".toList
  | unknownKeyword word => "Unknown keyword: ".toList ++ word
  | unknownAlias unit => "Unknown time alias: ".toList ++ unit
  | unknownTerm text => "Unknown term: ".toList ++ text
  | offsetPrecondition => "Offset range requires a start time and a relative time".toList
  | unsupportedOperation operator =>
    "Unsupported or unimplemented operation: ".toList ++ operator
  | outOfRange instant => "Time out of range: ".toList ++ Decimal.write instant

end Rejection

end Timespan
