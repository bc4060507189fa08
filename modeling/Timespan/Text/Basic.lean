/-!
# Text, code points and blanks

Everything the library reads is a list of characters, and everything it says
about characters it says about their code points. This file fixes three things:

* `Timespan.CodeRange` – a stretch of code points, the shape in which the
  character classes of this library are tabulated;
* `Timespan.isBlank` – the twenty-nine blanks. One class serves every purpose:
  the blanks trimmed from the ends of a text, those allowed around an operator
  and those ignored inside a term are the same;
* `Timespan.Text.trim` and `Timespan.Text.squeeze`, which drop the blanks at the
  ends of a text and all the blanks of a text.
-/

namespace Timespan

/-- A text, character by character. -/
abbrev Text := List Char

/-! ### Ranges of code points -/

/-- The code points from `first` to `last`, both included. -/
structure CodeRange where
  /-- The first code point of the range. -/
  first : Nat
  /-- The last code point of the range. -/
  last : Nat

namespace CodeRange

/-- Whether the code point `n` lies in the range. -/
def contains (r : CodeRange) (n : Nat) : Bool :=
  decide (r.first ≤ n) && decide (n ≤ r.last)

/-- Whether some range of the table contains the character. -/
def covers (table : List CodeRange) (c : Char) : Bool :=
  table.any fun r => r.contains c.toNat

theorem contains_iff {r : CodeRange} {n : Nat} :
    r.contains n = true ↔ r.first ≤ n ∧ n ≤ r.last := by
  simp [contains]

theorem covers_iff {table : List CodeRange} {c : Char} :
    covers table c = true ↔ ∃ r ∈ table, r.first ≤ c.toNat ∧ c.toNat ≤ r.last := by
  simp [covers, contains_iff]

end CodeRange

/-! ### Blanks -/

/-- The blanks: the controls that move the cursor or separate records, and the
spaces and separators of every script. The zero-width marks U+180E, U+200B,
U+2060 and U+FEFF are not among them. -/
def blankRanges : List CodeRange :=
  [⟨0x09, 0x0D⟩, ⟨0x1C, 0x20⟩, ⟨0x85, 0x85⟩, ⟨0xA0, 0xA0⟩, ⟨0x1680, 0x1680⟩,
   ⟨0x2000, 0x200A⟩, ⟨0x2028, 0x2029⟩, ⟨0x202F, 0x202F⟩, ⟨0x205F, 0x205F⟩,
   ⟨0x3000, 0x3000⟩]

/-- Whether a character is a blank. -/
def isBlank (c : Char) : Bool :=
  CodeRange.covers blankRanges c

namespace Text

/-! ### Trimming -/

/-- The text without the characters at its end that satisfy `p`. -/
def dropTrailing (p : Char → Bool) (s : Text) : Text :=
  (s.reverse.dropWhile p).reverse

/-- The text without the blanks at its two ends. -/
def trim (s : Text) : Text :=
  dropTrailing isBlank (s.dropWhile isBlank)

/-- The text without any of its blanks. -/
def squeeze (s : Text) : Text :=
  s.filter fun c => !isBlank c

theorem mem_squeeze {s : Text} {c : Char} :
    c ∈ squeeze s ↔ c ∈ s ∧ isBlank c = false := by
  simp [squeeze]

theorem squeeze_append (s t : Text) : squeeze (s ++ t) = squeeze s ++ squeeze t :=
  List.filter_append ..

/-- What is cut from the end of a text satisfies `p`, and what is kept comes
first. -/
theorem dropTrailing_append_takeWhile (p : Char → Bool) (s : Text) :
    dropTrailing p s ++ (s.reverse.takeWhile p).reverse = s := by
  rw [dropTrailing, ← List.reverse_append, List.takeWhile_append_dropWhile, List.reverse_reverse]

end Text

end Timespan
