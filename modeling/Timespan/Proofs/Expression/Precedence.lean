import Timespan.Proofs.Expression.Language

/-!
# Which failure is reported

An evaluation has stages, and of several faults the first stage that meets one reports it.
`Expression.Fails` says what that is, one constructor for each stage, where the hypotheses
of a constructor say that the stages before it have found nothing:

| stage      | complaint                               | about                                    |
|------------|-----------------------------------------|------------------------------------------|
| `vacant`   | there is nothing to evaluate            | no text, the empty text, the placeholder |
| `leftover` | it is no term                           | what the cut leaves over                 |
| `first`    | that of the term                        | the first piece                          |
| `second`   | that of the term                        | the second piece                         |
| `operator` | it does not exist or go with the pieces | the operator                             |
| `window`   | a window wants a quantity               | the second piece                         |

What the cut leaves over is `Pieces.leftover`, which begins with an angle bracket
(`Pieces.exists_append_leftover`).

The conditions of `operator` (`Expression.Misfit`) do not list two pieces without an operator
between them, which it could not join either. A text is cut so only if it ends in dashes,
and dashes are no term (`Pieces.getLast_of_second`), so `second` has failed before.

A failure that is not a rejection comes from the calendar, and so from one of the pieces
(`Expression.ComesToCalendar`). There are two of them: the zone does not exist, or the origin
cannot be written.
-/

namespace Timespan

variable {tz : Option Text} {z : Zone} {origin : Int} {reason : Zone.Missing}

/-! ### Zones that do not exist -/

/-- A zone that does not exist answers nothing. -/
theorem inZone_of_missing {α : Type} (hz : Zone.find tz = .error reason) (unanswered : Failure)
    (answer : Zone → Option α) : inZone tz unanswered answer = .error (.noZone reason) := by
  rw [inZone, hz]

/-- In a zone that does not exist a calendar keyword fails for the want of it. -/
theorem Keyword.span_of_missing {k : Keyword} (hz : Zone.find tz = .error reason)
    (hk : k.isCalendar = true) : k.span tz origin = .error (.noZone reason) :=
  span_of_forall_error hk (fun _ => inZone_of_missing hz _ _) fun _ => inZone_of_missing hz _ _

/-! ### Texts with less than two operands -/

namespace Pieces

/-- A second piece without an operator is no term. -/
theorem getLast_of_second {text b : Text} {first : Option Text}
    (h : ofText text = .ok ⟨first, [], some b⟩) : b.getLast? = some '-' := by
  obtain ⟨hne, rfl⟩ := Expression.piece?_eq_some_iff.1 (pieces_of_ofText h).2.2
  rw [List.getLast?_eq_some_getLast hne]
  exact congrArg some (eq_dash_of_mem (Text.mem_of_mem_trim (List.getLast_mem hne)))

/-- A text without pieces and without an operator is blank. -/
theorem ofText_eq_nothing_iff {text : Text} :
    ofText text = .ok ⟨none, [], none⟩ ↔ Text.trim text = [] := by
  constructor
  · intro h
    obtain ⟨-, hfirst, hsecond⟩ := pieces_of_ofText h
    have hdashes := (Expression.piece?_dashes fun c hc => eq_dash_of_mem hc).1 hsecond
    have hsplit := Text.dropTrailing_append_takeWhile (· == '-') (Text.trim text)
    rw [hdashes, List.append_nil] at hsplit
    rw [hsplit, piece?, Text.trim_trim] at hfirst
    simpa using hfirst
  · intro h
    rw [ofText, h]
    rfl

end Pieces

namespace Expression

open Pieces

/-! ### The stages and their failures -/

/-- A piece is absent or has a meaning. -/
def Answers (tz : Option Text) (origin : Int) (piece : Option Text) : Prop :=
  ∀ a, piece = some a → ∃ o, Term.evaluate a tz origin = .ok o

/-- **An operator does not go with the pieces** of a text: it is the lone bracket, or there
is nothing at all, or a piece is missing beside it. -/
def Misfit (text : Text) (p : Pieces) : Prop :=
  p.operator = "<".toList ∨ Text.trim text = [] ∨
    (p.operator = "->".toList ∨ p.operator = "<>".toList) ∧ (p.first = none ∨ p.second = none)

/-- **How an evaluation fails**, stage by stage, when the stages before have not. -/
inductive Fails (tz : Option Text) (origin : Int) : Option Text → Failure → Prop
  /-- There is nothing to evaluate. -/
  | vacant {text : Option Text} (hvacant : isVacant text = true) :
      Fails tz origin text (.rejected .invalidOrEmpty)
  /-- Something is left over. -/
  | leftover {text : Text} (hfilled : isVacant (some text) = false) (h : leftover text ≠ []) :
      Fails tz origin (some text) (.rejected (.unknownTerm (leftover text)))
  /-- The first piece has no meaning. -/
  | first {text a : Text} {p : Pieces} {f : Failure} (hfilled : isVacant (some text) = false)
      (hp : ofText text = .ok p) (ha : p.first = some a)
      (h : Term.evaluate a tz origin = .error f) : Fails tz origin (some text) f
  /-- The first piece is no obstacle, and the second has no meaning. -/
  | second {text b : Text} {p : Pieces} {f : Failure} (hfilled : isVacant (some text) = false)
      (hp : ofText text = .ok p) (hfirst : Answers tz origin p.first) (hb : p.second = some b)
      (h : Term.evaluate b tz origin = .error f) : Fails tz origin (some text) f
  /-- Both pieces are no obstacle, but the operator is not for them. -/
  | operator {text : Text} {p : Pieces} (hfilled : isVacant (some text) = false)
      (hp : ofText text = .ok p) (hfirst : Answers tz origin p.first)
      (hsecond : Answers tz origin p.second) (h : Misfit text p) :
      Fails tz origin (some text) (.rejected (.unsupportedOperation p.operator))
  /-- Both pieces have a meaning, and the second is a keyword where a quantity is wanted. -/
  | window {text a b : Text} {p : Pieces} {k : Keyword} (hfilled : isVacant (some text) = false)
      (hp : ofText text = .ok p) (hoperator : p.operator = "<>".toList) (ha : p.first = some a)
      (hb : p.second = some b) (hfirst : Answers tz origin p.first)
      (hsecond : Answers tz origin p.second) (hk : Term.Reads b (.keyword k)) :
      Fails tz origin (some text) (.rejected .offsetPrecondition)

variable {text : Option Text} {f : Failure}

/-! ### Pieces that are no obstacle -/

/-- A piece is no obstacle if it is absent or has an operand. -/
theorem exists_operand?_iff {piece : Option Text} :
    (∃ o, operand? piece tz origin = .ok o) ↔ Answers tz origin piece := by
  cases piece with
  | none => exact ⟨fun _ _ h => absurd h (by simp), fun _ => ⟨none, rfl⟩⟩
  | some a =>
    rw [operand?_some]
    simp only [map_eq_ok_iff]
    constructor
    · rintro ⟨-, o, ho, -⟩ a' ha
      obtain rfl := Option.some.inj ha
      exact ⟨o, ho⟩
    · intro h
      obtain ⟨o, ho⟩ := h a rfl
      exact ⟨some o, o, ho, rfl⟩

/-- What has been cut is evaluated piece by piece. -/
theorem evaluate_of_filled {s : Text} {p : Pieces} (hfilled : isVacant (some s) = false)
    (hp : ofText s = .ok p) : evaluate (some s) tz origin = evaluatePieces p tz origin := by
  rw [evaluate, if_neg (by simp [hfilled]), Option.getD_some, evaluateText, hp, rejecting_ok,
    bind_ok]

theorem operand?_eq_ok_none {piece : Option Text} {o : Option Operand}
    (h : operand? piece tz origin = .ok o) : o = none ↔ piece = none := by
  constructor
  · rintro rfl
    exact operand?_eq_none_iff.1 h
  · rintro rfl
    exact (Except.ok.inj h).symm

/-! ### The operator comes last -/

/-- An operator for two operands is refused when one of them is missing. -/
theorem joinWritten_of_missing (op : Operator) (hop : op ≠ .single) {o₁ o₂ : Option Operand}
    (h : o₁ = none ∨ o₂ = none) :
    Operator.joinWritten op.symbol o₁ o₂ origin = .error (.unsupportedOperation op.symbol) := by
  rw [Operator.joinWritten_symbol]
  refine Operator.join_of_not_takes fun htakes => ?_
  cases htakes with
  | single t => exact hop rfl
  | sequence t u => simp at h
  | window t u => simp at h

/-- **An operator that does not go with the pieces** is refused. -/
theorem joinWritten_of_misfit {s : Text} {p : Pieces} {o₁ o₂ : Option Operand}
    (hp : ofText s = .ok p) (h₁ : operand? p.first tz origin = .ok o₁)
    (h₂ : operand? p.second tz origin = .ok o₂) (h : Misfit s p) :
    Operator.joinWritten p.operator o₁ o₂ origin =
      .error (.unsupportedOperation p.operator) := by
  rcases h with hlone | hblank | ⟨hop, hmissing⟩
  · rw [hlone]
    rfl
  · obtain rfl := Except.ok.inj (hp.symm.trans (ofText_eq_nothing_iff.2 hblank))
    obtain rfl := (operand?_eq_ok_none h₁).2 rfl
    obtain rfl := (operand?_eq_ok_none h₂).2 rfl
    rfl
  · rw [← operand?_eq_ok_none h₁, ← operand?_eq_ok_none h₂] at hmissing
    rcases hop with hop | hop
    · rw [hop]
      exact joinWritten_of_missing .sequence (by simp) hmissing
    · rw [hop]
      exact joinWritten_of_missing .window (by simp) hmissing

theorem joinWritten_window (t u : Term) (r₁ r₂ : Span) :
    Operator.joinWritten "<>".toList (some (t.operandOf r₁)) (some (u.operandOf r₂)) origin =
      match u.offset? with
      | some d => .ok (.between r₁.start (r₁.start + d))
      | none => .error .offsetPrecondition :=
  (Operator.joinWritten_symbol .window _ _ _).trans (Operator.windowSpan_operandOf t u r₁ r₂)

/-- A piece that is present and no obstacle has an operand. -/
theorem exists_operand_of_ne_none {piece : Option Text} {o : Option Operand}
    (h : operand? piece tz origin = .ok o) (hne : piece ≠ none) :
    ∃ a t r, piece = some a ∧ Term.Reads a t ∧ o = some (t.operandOf r) := by
  cases o with
  | none => exact absurd (operand?_eq_none_iff.1 h) hne
  | some o =>
    obtain ⟨a, t, r, ha, ht, -, rfl⟩ := operand?_eq_some_iff.1 h
    exact ⟨a, t, r, ha, ht, rfl⟩

/-- **An operator is refused** by the pieces only if it does not go with them, or a keyword
stands where a window wants a quantity. -/
theorem fails_of_joinWritten {s : Text} {p : Pieces} {o₁ o₂ : Option Operand} {e : Rejection}
    (hfilled : isVacant (some s) = false) (hp : ofText s = .ok p)
    (h₁ : operand? p.first tz origin = .ok o₁) (h₂ : operand? p.second tz origin = .ok o₂)
    (h : Operator.joinWritten p.operator o₁ o₂ origin = .error e) :
    Fails tz origin (some s) (.rejected e) := by
  have hfirst := exists_operand?_iff.1 ⟨_, h₁⟩
  have hsecond := exists_operand?_iff.1 ⟨_, h₂⟩
  by_cases hmis : Misfit s p
  · rw [joinWritten_of_misfit hp h₁ h₂ hmis] at h
    obtain rfl := Except.error.inj h
    exact Fails.operator hfilled hp hfirst hsecond hmis
  · -- what is left are the pieces that an operator is for
    simp only [Misfit, not_or, not_and] at hmis
    obtain ⟨hlone, hblank, hpresent⟩ := hmis
    have hop := operator_of_ofText hp
    simp only [symbols, List.mem_cons, List.not_mem_nil, or_false, hlone] at hop
    rcases hop with hop | hop | hop
    · obtain ⟨first, operator, second⟩ := p
      obtain rfl : operator = [] := hop
      cases second with
      | some b =>
        obtain ⟨o, ho⟩ := hsecond b rfl
        obtain ⟨t, r, ht, -, -⟩ := Term.evaluate_eq_ok_iff.1 ho
        exact absurd (getLast_of_second hp) ht.getLast_ne_dash
      | none =>
        obtain rfl := (operand?_eq_ok_none h₂).2 rfl
        obtain ⟨a, t, r, -, -, rfl⟩ := exists_operand_of_ne_none h₁ fun hnone => by
          obtain rfl : first = none := hnone
          exact hblank (ofText_eq_nothing_iff.1 hp)
        exact absurd ((Operator.joinWritten_single _ _).symm.trans h) (by simp)
    · obtain ⟨hne₁, hne₂⟩ := hpresent (Or.inl hop)
      obtain ⟨a, t, r₁, -, -, rfl⟩ := exists_operand_of_ne_none h₁ hne₁
      obtain ⟨b, u, r₂, -, -, rfl⟩ := exists_operand_of_ne_none h₂ hne₂
      rw [hop, Operator.joinWritten_sequence] at h
      exact absurd h (by simp)
    · obtain ⟨hne₁, hne₂⟩ := hpresent (Or.inr hop)
      obtain ⟨a, t, r₁, ha, -, rfl⟩ := exists_operand_of_ne_none h₁ hne₁
      obtain ⟨b, u, r₂, hb, hu, rfl⟩ := exists_operand_of_ne_none h₂ hne₂
      rw [hop, joinWritten_window] at h
      cases u with
      | quantity count unit => exact absurd h (by simp [Term.offset?])
      | keyword k =>
        obtain rfl := Except.error.inj h
        exact Fails.window hfilled hp hop ha hb hfirst hsecond hu

/-! ### The first failure -/

/-- **What fails, fails at a stage.** -/
theorem fails_of_evaluate (h : evaluate text tz origin = .error f) : Fails tz origin text f := by
  cases hfilled : isVacant text with
  | true =>
    rw [evaluate, if_pos hfilled] at h
    obtain rfl := Except.error.inj h
    exact Fails.vacant hfilled
  | false =>
    cases text with
    | none => exact absurd hfilled (by simp [isVacant])
    | some s =>
      cases hcut : ofText s with
      | error e =>
        rw [evaluate, if_neg (by simp [hfilled]), Option.getD_some, evaluateText, hcut] at h
        obtain rfl := Except.error.inj h
        obtain ⟨hne, rfl⟩ := ofText_eq_error_iff.1 hcut
        exact Fails.leftover hfilled hne
      | ok p =>
        rw [evaluate_of_filled hfilled hcut] at h
        rcases bind_eq_error_iff.1 h with h₁ | ⟨o₁, h₁, h⟩
        · obtain ⟨a, ha, h₁⟩ := operand?_eq_error_iff.1 h₁
          exact Fails.first hfilled hcut ha h₁
        · rcases bind_eq_error_iff.1 h with h₂ | ⟨o₂, h₂, h⟩
          · obtain ⟨b, hb, h₂⟩ := operand?_eq_error_iff.1 h₂
            exact Fails.second hfilled hcut (exists_operand?_iff.1 ⟨_, h₁⟩) hb h₂
          · obtain ⟨e, he, rfl⟩ := exists_of_rejecting_eq_error h
            exact fails_of_joinWritten hfilled hcut h₁ h₂ he

/-- **What fails at a stage, fails so.** -/
theorem Fails.evaluate_eq (h : Fails tz origin text f) :
    evaluate text tz origin = .error f := by
  cases h with
  | vacant hvacant => rw [evaluate, if_pos hvacant]
  | leftover hfilled hne =>
    rw [evaluate, if_neg (by simp [hfilled]), Option.getD_some, evaluateText,
      ofText_eq_error_iff.2 ⟨hne, rfl⟩]
    rfl
  | first hfilled hp ha h =>
    rw [evaluate_of_filled hfilled hp, evaluatePieces, operand?_eq_error_iff.2 ⟨_, ha, h⟩]
    rfl
  | second hfilled hp hfirst hb h =>
    obtain ⟨o₁, h₁⟩ := exists_operand?_iff.2 hfirst
    rw [evaluate_of_filled hfilled hp, evaluatePieces, h₁, bind_ok,
      operand?_eq_error_iff.2 ⟨_, hb, h⟩]
    rfl
  | operator hfilled hp hfirst hsecond h =>
    obtain ⟨o₁, h₁⟩ := exists_operand?_iff.2 hfirst
    obtain ⟨o₂, h₂⟩ := exists_operand?_iff.2 hsecond
    rw [evaluate_of_filled hfilled hp, evaluatePieces, h₁, bind_ok, h₂, bind_ok,
      joinWritten_of_misfit hp h₁ h₂ h]
    rfl
  | window hfilled hp hoperator ha hb hfirst hsecond hk =>
    obtain ⟨o₁, h₁⟩ := exists_operand?_iff.2 hfirst
    obtain ⟨o₂, h₂⟩ := exists_operand?_iff.2 hsecond
    obtain ⟨a', t, r₁, -, -, rfl⟩ := exists_operand_of_ne_none h₁ (by simp [ha])
    obtain ⟨b', u, r₂, hb', hu, rfl⟩ := exists_operand_of_ne_none h₂ (by simp [hb])
    obtain rfl := Option.some.inj (hb'.symm.trans hb)
    obtain rfl := hu.unique hk
    rw [evaluate_of_filled hfilled hp, evaluatePieces, h₁, bind_ok, h₂, bind_ok, hoperator,
      joinWritten_window]
    rfl

/-! ### Failures that are not rejections -/

/-- An evaluation fails, and not by a rejection. -/
def Escapes (tz : Option Text) (origin : Int) (text : Option Text) (f : Failure) : Prop :=
  evaluate text tz origin = .error f ∧ ∀ e, f ≠ .rejected e

/-- A piece is one of the calendar keywords. -/
def IsCalendar (piece : Option Text) : Prop :=
  ∃ a k, piece = some a ∧ Term.Reads a (.keyword k) ∧ k.isCalendar = true

/-- **The calendar is come to** in an evaluation: nothing has been found wrong with the text
and its cut, and the first piece is a calendar keyword, or it is no obstacle and the second
piece is one. -/
def ComesToCalendar (tz : Option Text) (origin : Int) (text : Option Text) : Prop :=
  ∃ s p, text = some s ∧ isVacant (some s) = false ∧ ofText s = .ok p ∧
    (IsCalendar p.first ∨ Answers tz origin p.first ∧ IsCalendar p.second)

/-- **A failure is a complaint about the text**, or it comes from the calendar. A complaint is
never that the calendar does not reach so far, and that there is nothing to evaluate is said
of nothing else. -/
theorem rejected_or_comesToCalendar (h : evaluate text tz origin = .error f) :
    (∃ e, f = .rejected e ∧ e.kind ≠ .outOfRange ∧
        (e.kind = .invalidOrEmpty ↔ isVacant text = true)) ∨
      ComesToCalendar tz origin text ∧
        ∃ k : Keyword, k.isCalendar = true ∧ k.span tz origin = .error f := by
  have hother : ∀ {s e}, isVacant (some s) = false → e ≠ Rejection.Kind.invalidOrEmpty →
      (e = .invalidOrEmpty ↔ isVacant (some s) = true) := fun hfilled he => by
    simp [hfilled, he]
  have hterm : ∀ e ∈ Term.complaints, e ≠ .outOfRange ∧ e ≠ .invalidOrEmpty := by
    decide
  cases fails_of_evaluate h with
  | vacant hvacant => exact Or.inl ⟨_, rfl, by decide, fun _ => hvacant, fun _ => rfl⟩
  | leftover hfilled hne =>
    exact Or.inl ⟨_, rfl, by simp [Rejection.kind], hother hfilled (by simp [Rejection.kind])⟩
  | first hfilled hp ha hfail =>
    rcases Term.rejected_or_unanswered hfail with ⟨e, rfl, he⟩ | ⟨k, hread, hcal, hk⟩
    · exact Or.inl ⟨e, rfl, (hterm _ he).1, hother hfilled (hterm _ he).2⟩
    · exact Or.inr ⟨⟨_, _, rfl, hfilled, hp, Or.inl ⟨_, k, ha, hread, hcal⟩⟩, k, hcal, hk⟩
  | second hfilled hp hfirst hb hfail =>
    rcases Term.rejected_or_unanswered hfail with ⟨e, rfl, he⟩ | ⟨k, hread, hcal, hk⟩
    · exact Or.inl ⟨e, rfl, (hterm _ he).1, hother hfilled (hterm _ he).2⟩
    · exact Or.inr ⟨⟨_, _, rfl, hfilled, hp, Or.inr ⟨hfirst, _, k, hb, hread, hcal⟩⟩, k, hcal, hk⟩
  | operator hfilled hp hfirst hsecond hmis =>
    exact Or.inl ⟨_, rfl, by simp [Rejection.kind], hother hfilled (by simp [Rejection.kind])⟩
  | window hfilled hp hoperator ha hb hfirst hsecond hk =>
    exact Or.inl ⟨_, rfl, by decide, hother hfilled (by decide)⟩

/-- **What is not a rejection** comes from the calendar. -/
theorem comesToCalendar_of_escapes (h : Escapes tz origin text f) :
    ComesToCalendar tz origin text ∧
      ∃ k : Keyword, k.isCalendar = true ∧ k.span tz origin = .error f := by
  obtain ⟨hfail, hescape⟩ := h
  rcases rejected_or_comesToCalendar hfail with ⟨e, he, -⟩ | hcomes
  · exact absurd he (hescape e)
  · exact hcomes

/-- **Where the calendar answers nothing**, an evaluation that comes to it fails as the
calendar does. -/
theorem escapes_iff (hnone : ∀ k : Keyword, k.isCalendar = true → k.span tz origin = .error f)
    (hescape : ∀ e, f ≠ .rejected e) {f' : Failure} :
    Escapes tz origin text f' ↔ f' = f ∧ ComesToCalendar tz origin text := by
  have hpiece : ∀ {piece}, IsCalendar piece →
      ∃ a, piece = some a ∧ Term.evaluate a tz origin = .error f := by
    rintro piece ⟨a, k, ha, hread, hcal⟩
    refine ⟨a, ha, ?_⟩
    rw [Term.evaluate_of_reads hread, Term.span, hnone k hcal]
    rfl
  constructor
  · intro h
    obtain ⟨hcomes, k, hcal, hk⟩ := comesToCalendar_of_escapes h
    exact ⟨Except.error.inj (hk.symm.trans (hnone k hcal)), hcomes⟩
  · rintro ⟨rfl, s, p, rfl, hfilled, hp, hfirst | ⟨hfirst, hsecond⟩⟩
    · obtain ⟨a, ha, hfail⟩ := hpiece hfirst
      exact ⟨(Fails.first hfilled hp ha hfail).evaluate_eq, hescape⟩
    · obtain ⟨b, hb, hfail⟩ := hpiece hsecond
      exact ⟨(Fails.second hfilled hp hfirst hb hfail).evaluate_eq, hescape⟩

/-- **The first failure decides.** What is not a rejection is the want of a zone or, in a zone
that exists, an origin that cannot be written, and the calendar has been come to. -/
theorem first_failure_decides (text tz : Option Text) (origin : Int) :
    (∀ f, evaluate text tz origin = .error f ↔ Fails tz origin text f) ∧
    (∀ reason, Zone.find tz = .error reason → ∀ f,
      Escapes tz origin text f ↔ f = .noZone reason ∧ ComesToCalendar tz origin text) ∧
    (∀ z, Zone.find tz = .ok z → ∀ f,
      Escapes tz origin text f ↔
        f = .unwritable origin ∧ ¬ Decimal.Writable origin ∧ ComesToCalendar tz origin text) := by
  refine ⟨fun f => ⟨fails_of_evaluate, Fails.evaluate_eq⟩, fun reason hz f => ?_,
    fun z hz f => ?_⟩
  · exact escapes_iff (fun k hk => Keyword.span_of_missing hz hk) (by simp)
  · by_cases hw : Decimal.Writable origin
    · refine ⟨fun h => ?_, fun h => absurd hw h.2.1⟩
      obtain ⟨-, k, -, hk⟩ := comesToCalendar_of_escapes h
      obtain ⟨e, he⟩ := Keyword.exists_rejection hz hw hk
      exact absurd he (h.2 e)
    · rw [escapes_iff (fun k hk => Keyword.span_of_not_writable hz hk hw) (by simp)]
      simp [hw]

/-- A zone that does not exist is missed only when the calendar is come to, and where the zone
exists a window is refused its keyword. -/
theorem first_failure_decides_unknown_zone :
    let unknown := some "Mars/Olympus".toList
    let known := some "UTC".toList
    Zone.find unknown = .error (.unknown "Mars/Olympus".toList) ∧
      Escapes unknown 0 (some "now -> today".toList) (.noZone (.unknown "Mars/Olympus".toList)) ∧
      Zone.find known = .ok Zone.utc ∧
      Fails known 0 (some "today <> today".toList) (.rejected .offsetPrecondition) ∧
      ∀ f, ¬ Escapes known 0 (some "today <> today".toList) f := by
  intro unknown known
  have hunknown : Zone.find unknown = .error (.unknown "Mars/Olympus".toList) := rfl
  have hpieces : ofText "now -> today".toList = .ok ⟨some "now".toList, "->".toList,
      some "today".toList⟩ :=
    eq_ok_of_toOption (by decide +kernel)
  have hread : Term.ofText "today".toList = .ok (.keyword .today) :=
    eq_ok_of_toOption (by decide +kernel)
  have hcomes : ComesToCalendar unknown 0 (some "now -> today".toList) := by
    refine ⟨_, _, rfl, rfl, hpieces, Or.inr ⟨fun a ha => ?_, _, _, rfl,
      Term.ofText_eq_ok_iff.1 hread, rfl⟩⟩
    obtain rfl := Option.some.inj ha
    exact ⟨.ofSpan ⟨0, 0⟩, eq_ok_of_toOption (by decide +kernel)⟩
  have hrefused : evaluate (some "today <> today".toList) known 0 =
      .error (.rejected .offsetPrecondition) := by
    decide +kernel
  obtain ⟨-, hmissing, -⟩ := first_failure_decides (some "now -> today".toList) unknown 0
  obtain ⟨hfails, -, hexists⟩ := first_failure_decides (some "today <> today".toList) known 0
  refine ⟨hunknown, (hmissing _ hunknown _).2 ⟨rfl, hcomes⟩, rfl, (hfails _).1 hrefused,
    fun f hf => ?_⟩
  exact ((hexists Zone.utc rfl f).1 hf).2.1 (by decide +kernel)

/-- So far out the zone exists and the failure is none of the zone. -/
theorem today_escapes_far_out :
    Zone.find (some "UTC".toList) = .ok Zone.utc ∧
      Escapes (some "UTC".toList) Decimal.firstUnwritable (some "today".toList)
        (.unwritable Decimal.firstUnwritable) := by
  have hpieces : ofText "today".toList = .ok ⟨some "today".toList, [], none⟩ :=
    eq_ok_of_toOption (by decide +kernel)
  have hread : Term.ofText "today".toList = .ok (.keyword .today) :=
    eq_ok_of_toOption (by decide +kernel)
  refine ⟨rfl, ?_, by simp⟩
  exact evaluate_of_asksCalendar rfl Decimal.not_writable_firstUnwritable
    ⟨_, hpieces, Or.inl ⟨_, _, rfl, Term.ofText_eq_ok_iff.1 hread, rfl⟩⟩

end Expression

end Timespan
