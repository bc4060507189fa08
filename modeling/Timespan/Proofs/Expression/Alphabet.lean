import Timespan.Proofs.Expression.Layout
import Timespan.Proofs.Text.Alphabet

/-!
# The characters of expressions

A text that has a span is written with few characters: blanks, the letters and digits of ASCII,
the dash, the angle brackets, and one character that is none of these, the Kelvin sign, which
lowercasing takes to a letter of ASCII. All other characters that look like letters or digits
keep a text from having a span.

Operands are read from their clean form, so what they are made of is a matter of what cleaning
takes to the characters of terms (`Text.isTermChar_or_of_clean`). And a text whose Kelvin signs
are spelled as letters has akin operands, so its span is the same
(`Expression.evaluate_of_akin`).
-/

namespace Timespan

open Pieces

variable {s t : Text} {c : Char} {tz : Option Text} {origin : Int} {range : Span}

/-- **The alphabet of expressions.** -/
def InAlphabet (c : Char) : Prop :=
  isBlank c = true ∨ c.isAlpha = true ∨ c.isDigit = true ∨ c ∈ ['-', '<', '>', kelvin]

/-! ### What an operand is made of -/

theorem IsTermChar.inAlphabet (h : IsTermChar c) : InAlphabet c := by
  rcases h with hlower | hdigit | rfl
  · exact Or.inr (Or.inl (Bool.or_eq_true_iff.2 (Or.inr hlower)))
  · exact Or.inr (Or.inr (Or.inl hdigit))
  · exact Or.inr (Or.inr (Or.inr List.mem_cons_self))

/-- **A term is written in the alphabet**, without angle brackets. -/
theorem Term.Reads.inAlphabet {x : Term} (h : Term.Reads s x) : ∀ c ∈ s, InAlphabet c := by
  intro c hc
  rcases Text.isTermChar_or_of_clean (Written.isTermChar h) hc with hblank | hterm | hupper | rfl
  · exact Or.inl hblank
  · exact hterm.inAlphabet
  · exact Or.inr (Or.inl (Bool.or_eq_true_iff.2 (Or.inl hupper)))
  · exact Or.inr (Or.inr (Or.inr (by simp)))

/-! ### Spelling Kelvin signs as letters -/

theorem isAngle_spellKelvin (c : Char) : isAngle (spellKelvin c) = isAngle c := by
  rw [spellKelvin]
  split
  · next hc =>
    obtain rfl := hc
    decide
  · rfl

/-- A text with its Kelvin signs spelled as letters stands for it. -/
theorem akin_map_spellKelvin (s : Text) : Akin s (s.map spellKelvin) where
  clean_eq := Text.clean_map sameLetter_spellKelvin s
  noAngle := by
    intro h c hc
    obtain ⟨d, hd, rfl⟩ := List.mem_map.1 hc
    rw [isAngle_spellKelvin]
    exact h d hd

namespace Expression

theorem inAlphabet_of_mem_operator {op : Text} (hop : op ∈ ["->".toList, "<>".toList])
    (hc : c ∈ op) : InAlphabet c := by
  have hsub : op ⊆ ['-', '<', '>', kelvin] := by
    simp only [List.mem_cons, List.not_mem_nil, or_false] at hop
    rcases hop with rfl | rfl
    · simp
    · simp
  exact Or.inr (Or.inr (Or.inr (hsub hc)))

/-- **A text that has a span** is written in the alphabet. -/
theorem inAlphabet_of_evaluate (h : evaluate (some t) tz origin = .ok range) :
    ∀ c ∈ t, InAlphabet c := by
  intro c hc
  rcases operands_of_evaluate h with ⟨-, x, hx, -⟩ |
    ⟨op, hop, l, r, x, y, -, -, rfl, -, -, hx, hy, -⟩
  · exact hx.inAlphabet c hc
  · rcases List.mem_append.1 hc with hl | hrest
    · exact hx.inAlphabet c hl
    · rcases List.mem_append.1 hrest with hmid | hr
      · exact inAlphabet_of_mem_operator hop hmid
      · exact hy.inAlphabet c hr

/-- **Kelvin signs spelled as letters** do not change a span. -/
theorem evaluate_map_spellKelvin (h : evaluate (some t) tz origin = .ok range) :
    evaluate (some (t.map spellKelvin)) tz origin = .ok range := by
  refine evaluate_of_akin h (fun _ => akin_map_spellKelvin t) fun op hop l r hsplit => ?_
  have hsymbol : ∀ op ∈ ["->".toList, "<>".toList], op.map spellKelvin = op := by decide
  refine ⟨l.map spellKelvin, r.map spellKelvin, ?_, akin_map_spellKelvin l, akin_map_spellKelvin r⟩
  rw [hsplit, List.map_append, List.map_append, hsymbol op hop]

/-- **The characters of a text that has a span** are blanks, letters and digits of ASCII, dashes,
angle brackets and Kelvin signs. With the letter k for each Kelvin sign it has the same span. -/
theorem characters_of_evaluate (h : evaluate (some t) tz origin = .ok range) :
    (∀ c ∈ t, isBlank c = true ∨ c.isAlpha = true ∨ c.isDigit = true ∨
        c ∈ ['-', '<', '>', '\u212A']) ∧
      evaluate (some (t.map fun c => if c = '\u212A' then 'k' else c)) tz origin = .ok range :=
  ⟨inAlphabet_of_evaluate h, evaluate_map_spellKelvin h⟩

/-- A week with a Kelvin sign, and a blank that is not in ASCII. -/
theorem characters_of_evaluate_week :
    let tz := some "US/Pacific".toList
    let text := "Last wee\u212A\u2003<> -7D".toList
    evaluate (some text) tz 1743435000123 = .ok ⟨1742108400000, 1742713200000⟩ ∧
      (∀ c ∈ text, isBlank c = true ∨ c.isAlpha = true ∨ c.isDigit = true ∨
        c ∈ ['-', '<', '>', '\u212A']) ∧
      evaluate (some "Last week\u2003<> -7D".toList) tz 1743435000123 =
        .ok ⟨1742108400000, 1742713200000⟩ := by
  intro tz text
  have hspan : evaluate (some text) tz 1743435000123 = .ok ⟨1742108400000, 1742713200000⟩ :=
    eq_ok_of_toOption (by decide +kernel)
  obtain ⟨hcharacters, hspelled⟩ := characters_of_evaluate hspan
  exact ⟨hspan, hcharacters, hspelled⟩

end Expression

end Timespan
