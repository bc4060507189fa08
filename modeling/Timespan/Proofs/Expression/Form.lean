import Timespan.Proofs.Expression.Language

/-!
# What an expression says

A text is cut and its terms are read before any origin or zone is looked at. What there is
then is its form (`Expression.Form`): a term alone, two terms in sequence, or a term and the
length of a window beside it. If the text has a span, from whatever origin and in whatever
zone, it is made of the spans of those terms (`Expression.exists_form_of_evaluate`).

So whoever wants to compare two evaluations of a text has to compare the spans of terms, and
then to see that forms respect the comparison.
-/

namespace Timespan

theorem Term.toOption_ofText {a : Text} {t : Term} (ht : Reads a t) :
    (ofText a).toOption = some t := by
  rw [ofText_eq_ok_iff.2 ht]
  rfl

namespace Expression

/-- **What an expression says.** -/
inductive Form
  /-- A term alone. -/
  | single (t : Term)
  /-- From one term to another. -/
  | sequence (t u : Term)
  /-- At a term, so many milliseconds in one direction. -/
  | window (t : Term) (offset : Int)
deriving DecidableEq

namespace Form

/-- What the pieces of an expression say. -/
def ofPieces? (p : Pieces) : Option Form := do
  let op ← Operator.ofSymbol? p.operator
  match op, p.first, p.second with
  | .single, some a, none =>
    let t ← (Term.ofText a).toOption
    return single t
  | .sequence, some a, some b =>
    let t ← (Term.ofText a).toOption
    let u ← (Term.ofText b).toOption
    return sequence t u
  | .window, some a, some b =>
    let t ← (Term.ofText a).toOption
    let u ← (Term.ofText b).toOption
    let offset ← u.offset?
    return window t offset
  | _, _, _ => none

/-- What a text says. -/
def ofText? (text : Text) : Option Form := do
  let p ← (Pieces.ofText text).toOption
  ofPieces? p

/-- **The span of a form**, made of the spans of its terms. -/
def span (spanOf : Term → Span) : Form → Span
  | single t => spanOf t
  | sequence t u => ⟨(spanOf t).start, (spanOf u).stop⟩
  | window t offset => .between (spanOf t).start ((spanOf t).start + offset)

end Form

open Pieces

variable {text : Text} {tz : Option Text} {origin : Int} {s : Span} {p : Pieces}
  {spanOf : Term → Span}

/-- **The span of pieces** is that of what they say. -/
theorem exists_form_of_evaluatePieces (hspan : ∀ t r, t.span tz origin = .ok r → r = spanOf t)
    (h : evaluatePieces p tz origin = .ok s) :
    ∃ f, Form.ofPieces? p = some f ∧ s = f.span spanOf := by
  rcases evaluatePieces_eq_ok_iff.1 h with ⟨a, t, rfl, ht, hs⟩ |
    ⟨a, b, t, u, s₁, s₂, rfl, ht, hu, hs₁, hs₂, rfl⟩ |
    ⟨a, b, t, u, d, s₁, s₂, rfl, ht, hu, hs₁, hs₂, hd, rfl⟩
  · refine ⟨.single t, ?_, hspan t s hs⟩
    simp [Form.ofPieces?, Operator.ofSymbol?_symbol, Term.toOption_ofText ht]
  · refine ⟨.sequence t u, ?_, ?_⟩
    · simp [Form.ofPieces?, Operator.ofSymbol?_symbol, Term.toOption_ofText ht,
        Term.toOption_ofText hu]
    · rw [Form.span, ← hspan t s₁ hs₁, ← hspan u s₂ hs₂]
  · refine ⟨.window t d, ?_, ?_⟩
    · simp [Form.ofPieces?, Operator.ofSymbol?_symbol, Term.toOption_ofText ht,
        Term.toOption_ofText hu, hd]
    · rw [Form.span, ← hspan t s₁ hs₁]

/-- **The span of a text** is that of what it says, made of the spans that its terms have. -/
theorem exists_form_of_evaluate (hspan : ∀ t r, t.span tz origin = .ok r → r = spanOf t)
    (h : evaluate (some text) tz origin = .ok s) :
    ∃ f, Form.ofText? text = some f ∧ s = f.span spanOf := by
  obtain ⟨p, hp, h⟩ := exists_ofText_of_evaluate h
  obtain ⟨f, hf, hs⟩ := exists_form_of_evaluatePieces hspan h
  refine ⟨f, ?_, hs⟩
  rw [Form.ofText?, hp]
  exact hf

end Expression

end Timespan
