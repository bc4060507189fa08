import Timespan.Text.Basic

/-!
# Whole numbers in decimal digits

Numbers are unbounded, their texts are not: more than `Timespan.Decimal.digitLimit`
digits are neither read nor written. The limit counts digits – leading zeros among
them, the minus sign not – so it bounds the text when a number is read and the
number when one is written (`Timespan.Decimal.Writable`). Arithmetic between the two
knows no limit.
-/

namespace Timespan.Decimal

/-- The most digits a number may have in a text. -/
def digitLimit : Nat := 4300

/-! ### Reading -/

/-- The value of a sequence of decimal digits, the most significant first. -/
def value (digits : Text) : Nat :=
  Nat.ofDigitChars 10 digits 0

/-- The number with these digits and, where `minus` holds, a minus sign. Too many
digits are not read at all. -/
def read? (minus : Bool) (digits : Text) : Option Int :=
  if digits.length ≤ digitLimit then
    some (if minus then -(value digits : Int) else value digits)
  else none

theorem read?_eq_none_iff {minus : Bool} {digits : Text} :
    read? minus digits = none ↔ digitLimit < digits.length := by
  simp [read?]

/-! ### Writing -/

/-- The digits of a natural number, with no leading zero. -/
def digits (n : Nat) : Text :=
  Nat.toDigits 10 n

/-- The text of a number: its digits, after a minus sign if it is negative. -/
def write (n : Int) : Text :=
  if n < 0 then '-' :: digits n.natAbs else digits n.natAbs

/-- Whether a number has few enough digits to be written. -/
def Writable (n : Int) : Prop :=
  (digits n.natAbs).length ≤ digitLimit

instance (n : Int) : Decidable (Writable n) :=
  inferInstanceAs (Decidable (_ ≤ _))

/-- The text of a number, unless it has too many digits. -/
def write? (n : Int) : Option Text :=
  if Writable n then some (write n) else none

theorem isDigit_of_mem_digits {n : Nat} {c : Char} (h : c ∈ digits n) : c.isDigit = true :=
  Nat.isDigit_of_mem_toDigits (by decide) (by decide) h

theorem digits_ne_nil (n : Nat) : digits n ≠ [] :=
  Nat.toDigits_ne_nil

/-! ### Reading back what was written -/

@[simp] theorem value_digits (n : Nat) : value (digits n) = n :=
  Nat.ofDigitChars_ten_toDigits

/-- **Reading inverts writing**, for every number that can be written. -/
theorem read?_digits {n : Int} (h : Writable n) :
    read? (decide (n < 0)) (digits n.natAbs) = some n := by
  unfold Writable at h
  rw [read?, if_pos h, value_digits]
  by_cases hn : n < 0
  · rw [if_pos (decide_eq_true hn)]
    exact congrArg some (by omega)
  · rw [if_neg (by rw [decide_eq_false hn]; exact Bool.false_ne_true)]
    exact congrArg some (by omega)

end Timespan.Decimal
