import Timespan.Text.CaseContext
import Timespan.Text.CaseMap

/-!
# Lowercasing a text

A text is put into lowercase character by character, with two exceptions that
make it a matter of more than a table:

* the dotted capital I becomes **two** characters, the small letter and a
  combining dot;
* the capital sigma looks at its **neighbours**: at the end of a word it has a
  form of its own (`Timespan.Text.endsWord`).

`Timespan.Text.clean` is the form in which the words of an expression are
compared: first the blanks go, then the capitals.
-/

namespace Timespan.Text

/-! ### The end of a word -/

/-- Whether the first character of the text that is not looked past is a letter
with a case. -/
def startsCased (s : Text) : Bool :=
  match s.dropWhile isCaseIgnorable with
  | c :: _ => isCased c
  | [] => false

/-- Whether a letter ends a word: a cased letter comes before it and none comes
after it. The text `before` is read from the letter backwards. -/
def endsWord (before after : Text) : Bool :=
  startsCased before && !startsCased after

/-! ### Lowercase -/

/-- The lowercase form of a character between its neighbours, of which `before`
is read backwards. -/
def lowerAt (before : Text) (c : Char) (after : Text) : Text :=
  if c = '\u0130' then ['i', '\u0307']
  else if c = '\u03A3' then [if endsWord before after then '\u03C2' else '\u03C3']
  else [lowerChar c]

/-- The lowercase form of a text that follows `before`, read backwards. -/
def lowerAfter (before : Text) : Text → Text
  | [] => []
  | c :: rest => lowerAt before c rest ++ lowerAfter (c :: before) rest

/-- The lowercase form of a text. -/
def lower (s : Text) : Text :=
  lowerAfter [] s

/-- The text without blanks and capitals. -/
def clean (s : Text) : Text :=
  lower (squeeze s)

/-- Away from the two exceptions the neighbours play no part. -/
theorem lowerAt_eq_of_ne {before after : Text} {c : Char} (hI : c ≠ '\u0130')
    (hS : c ≠ '\u03A3') : lowerAt before c after = [lowerChar c] := by
  simp [lowerAt, hI, hS]

end Timespan.Text
