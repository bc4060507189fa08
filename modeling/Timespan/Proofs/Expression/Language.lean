import Timespan.Proofs.Expression.Meaning
import Timespan.Proofs.Reach

/-!
# The language of expressions

Which texts have a span? The grammar answers without cutting (`Expression.Spelled`): a
term, two terms with `->` between them, or a term and a quantity with `<>` between them,
and no other angle bracket anywhere. Nothing is said about dashes. A dash before an
operator would be part of the term to its left, and no term ends in a dash.

* `Expression.exists_span_iff`: a text has a span if it is spelled so, blanks at its ends
  aside, and its calendar terms have spans (`Expression.Accepted`).
* `Expression.exists_rejection_of_error`: any other text is rejected, unless the origin
  cannot be written and a calendar term is come to before something else is found wrong
  (`Expression.AsksCalendar`).
-/

namespace Timespan.Expression

open Pieces

variable {tz : Option Text} {z : Zone} {origin : Int} {text : Text}

/-! ### Spelling -/

/-- **How an expression is spelled**, and the terms in it. -/
inductive Spelled : Text → List Term → Prop
  /-- A term alone. -/
  | single {s : Text} {t : Term} (hs : NoAngle s) (ht : Term.Reads s t) : Spelled s [t]
  /-- From a term to another. -/
  | sequence {l r : Text} {t u : Term} (hl : NoAngle l) (hr : NoAngle r) (ht : Term.Reads l t)
      (hu : Term.Reads r u) : Spelled (l ++ ("->".toList ++ r)) [t, u]
  /-- On one side of a term. -/
  | window {l r : Text} {t : Term} {count : Int} {unit : TimeUnit} (hl : NoAngle l)
      (hr : NoAngle r) (ht : Term.Reads l t) (hu : Term.Reads r (.quantity count unit)) :
      Spelled (l ++ ("<>".toList ++ r)) [t, .quantity count unit]

/-- **A text is accepted** in a zone and from an origin if it is spelled as an expression,
blanks at its ends aside, whose calendar terms all have a span. -/
def Accepted (text : Text) (tz : Option Text) (origin : Int) : Prop :=
  ∃ terms, Spelled (Text.trim text) terms ∧
    ∀ t ∈ terms, t.isCalendar = true → ∃ r, t.span tz origin = .ok r

/-! ### Texts and their pieces -/

/-- A text of dashes is blank only if it is empty. -/
theorem piece?_dashes {s : Text} (h : ∀ c ∈ s, c = '-') : piece? s = none ↔ s = [] := by
  rw [piece?_eq_of_dashes h]
  by_cases hs : s = []
  · simp [hs]
  · simp [hs]

/-- **A text that is cut into one piece** is that piece. -/
theorem ofText_eq_single_iff {a : Text} :
    ofText text = .ok ⟨some a, [], none⟩ ↔
      NoAngle (Text.trim text) ∧ (Text.trim text).getLast? ≠ some '-' ∧
        piece? (Text.trim text) = some a := by
  have hsplit := Text.dropTrailing_append_takeWhile (· == '-') (Text.trim text)
  refine ⟨fun h => ?_, fun h => ?_⟩
  · obtain ⟨hs, hfirst, hsecond⟩ := pieces_of_ofText h
    -- dashes at the end would have been a second piece
    rw [(piece?_dashes fun _ => eq_dash_of_mem).1 hsecond, List.append_nil] at hsplit
    rw [hsplit] at hfirst
    refine ⟨hs, fun hdash => ?_, hfirst⟩
    have := Text.getLast_dropTrailing (· == '-') (Text.trim text) '-' (hsplit.symm ▸ hdash)
    exact absurd this (by decide)
  · obtain ⟨hs, hdash, ha⟩ := h
    rw [dropTrailing_dash hdash] at hsplit
    have hnil := List.append_right_eq_self.1 hsplit
    rw [ofText, ofTrimmed_of_noAngle hs, dropTrailing_dash hdash, hnil, ha]
    rfl

/-- **A text that is cut at an operator** is made of what stands on its two sides. -/
theorem exists_append_of_ofText {op : Text} {first second : Option Text} (hne : op ≠ [])
    (h : ofText text = .ok ⟨first, op, second⟩) :
    ∃ l r, Text.trim text = l ++ (op ++ r) ∧ NoAngle l ∧ NoAngle r ∧ piece? l = first ∧
      piece? r = second := by
  rcases cases_of_ofText h with ⟨-, hp⟩ | ⟨l, op', r, heq, hl, -, hr, hp⟩
  · obtain ⟨-, rfl, -⟩ := Pieces.mk.inj hp
    exact absurd rfl hne
  · obtain ⟨hfirst, rfl, hsecond⟩ := Pieces.mk.inj hp
    exact ⟨l, r, heq, hl, hr, hfirst.symm, hsecond.symm⟩

/-- The text that stands for no selection is no term. -/
theorem not_reads_placeholder (t : Term) : ¬ Term.Reads placeholder t := by
  intro ht
  have hread : Term.ofText placeholder = .ok t := Term.ofText_eq_ok_iff.2 ht
  have hnone : (Term.ofText placeholder).toOption = none := by decide +kernel
  rw [hread] at hnone
  exact absurd hnone (by simp [Except.toOption])

/-- The text that stands for no selection says nothing, and neither does the empty one. -/
theorem ne_of_reads_piece {p : Pieces} {a : Text} {t : Term} (h : ofText text = .ok p)
    (ha : p.first = some a ∨ p.second = some a) (ht : Term.Reads a t) :
    text ≠ [] ∧ text ≠ placeholder := by
  constructor
  · rintro rfl
    have hpieces : ofText [] = .ok ⟨none, [], none⟩ := rfl
    obtain rfl := Except.ok.inj (h.symm.trans hpieces)
    rcases ha with ha | ha
    · exact absurd ha (by simp)
    · exact absurd ha (by simp)
  · -- the placeholder is a piece, but no term
    rintro rfl
    have hpieces : ofText placeholder = .ok ⟨some placeholder, [], none⟩ :=
      eq_ok_of_toOption (by decide +kernel)
    obtain rfl := Except.ok.inj (h.symm.trans hpieces)
    rcases ha with ha | ha
    · obtain rfl := Option.some.inj ha
      exact absurd ht (not_reads_placeholder t)
    · exact absurd ha (by simp)

theorem evaluate_of_ofText {p : Pieces} {a : Text} {t : Term} (h : ofText text = .ok p)
    (ha : p.first = some a ∨ p.second = some a) (ht : Term.Reads a t) :
    evaluate (some text) tz origin = evaluatePieces p tz origin := by
  obtain ⟨h₁, h₂⟩ := ne_of_reads_piece h ha ht
  rw [evaluate_some h₁ h₂, evaluateText, h, rejecting_ok, bind_ok]

/-- What is evaluated to a span has been cut into pieces. -/
theorem exists_ofText_of_evaluate {s : Span} (h : evaluate (some text) tz origin = .ok s) :
    ∃ p, ofText text = .ok p ∧ evaluatePieces p tz origin = .ok s := by
  rw [evaluate] at h
  split at h
  · exact absurd h (by simp)
  · obtain ⟨p, hp, h⟩ := bind_eq_ok_iff.1 h
    exact ⟨p, rejecting_eq_ok_iff.1 hp, h⟩

/-! ### The texts that have a span -/

/-- A term has a span if it asks no calendar, or gets an answer. -/
theorem exists_span {t : Term} (h : t.isCalendar = true → ∃ r, t.span tz origin = .ok r) :
    ∃ r, t.span tz origin = .ok r := by
  by_cases hcal : t.isCalendar = true
  · exact h hcal
  · exact Term.exists_span_of_isCalendar (by simpa using hcal) tz origin

/-- **Soundness**: what has a span is accepted. -/
theorem accepted_of_span {s : Span} (h : evaluate (some text) tz origin = .ok s) :
    Accepted text tz origin := by
  obtain ⟨p, hp, h⟩ := exists_ofText_of_evaluate h
  rcases evaluatePieces_eq_ok_iff.1 h with ⟨a, t, rfl, ht, hs⟩ |
    ⟨a, b, t, u, s₁, s₂, rfl, ht, hu, hs₁, hs₂, -⟩ |
    ⟨a, b, t, u, d, s₁, s₂, rfl, ht, hu, hs₁, hs₂, hd, -⟩
  · obtain ⟨hs', -, ha⟩ := ofText_eq_single_iff.1 hp
    refine ⟨[t], Spelled.single hs' (exists_piece_iff.1 ⟨a, ha, ht⟩), ?_⟩
    simp [hs]
  · obtain ⟨l, r, heq, hl, hr, ha, hb⟩ :=
      exists_append_of_ofText (ne_nil_of_mem_symbols sequence_mem_symbols) hp
    refine ⟨[t, u], ?_, by simp [hs₁, hs₂]⟩
    rw [heq]
    exact Spelled.sequence hl hr (exists_piece_iff.1 ⟨a, ha, ht⟩)
      (exists_piece_iff.1 ⟨b, hb, hu⟩)
  · obtain ⟨l, r, heq, hl, hr, ha, hb⟩ :=
      exists_append_of_ofText (ne_nil_of_mem_symbols window_mem_symbols) hp
    -- only a quantity has an offset
    cases u with
    | keyword k => exact absurd hd (by simp [Term.offset?])
    | quantity count unit =>
      refine ⟨[t, .quantity count unit], ?_, by simp [hs₁, hs₂]⟩
      rw [heq]
      exact Spelled.window hl hr (exists_piece_iff.1 ⟨a, ha, ht⟩)
        (exists_piece_iff.1 ⟨b, hb, hu⟩)

/-- **Completeness**: what is accepted has a span. -/
theorem exists_span_of_accepted (h : Accepted text tz origin) :
    ∃ s, evaluate (some text) tz origin = .ok s := by
  obtain ⟨terms, hspelled, hspans⟩ := h
  generalize htrim : Text.trim text = s at hspelled
  cases hspelled with
  | @single s t hs ht =>
    obtain ⟨r, hr⟩ := exists_span (hspans t (by simp))
    obtain ⟨a, ha, hat⟩ := exists_piece_iff.2 ht
    have hp : ofText text = .ok ⟨some a, [], none⟩ := by
      rw [ofText_eq_single_iff, htrim]
      exact ⟨hs, ht.getLast_ne_dash, ha⟩
    exact ⟨r, (evaluate_of_ofText hp (Or.inl rfl) hat).trans
      (evaluatePieces_eq_ok_iff.2 (Or.inl ⟨a, t, rfl, hat, hr⟩))⟩
  | @sequence l r t u hl hr ht hu =>
    obtain ⟨s₁, hs₁⟩ := exists_span (hspans t (by simp))
    obtain ⟨s₂, hs₂⟩ := exists_span (hspans u (by simp))
    obtain ⟨a, ha, hat⟩ := exists_piece_iff.2 ht
    obtain ⟨b, hb, hbu⟩ := exists_piece_iff.2 hu
    have hp : ofText text = .ok ⟨some a, "->".toList, some b⟩ := by
      rw [ofText, htrim, ofTrimmed_append hl ht.getLast_ne_dash sequence_mem_symbols hr, ha, hb]
    exact ⟨_, (evaluate_of_ofText hp (Or.inl rfl) hat).trans (evaluatePieces_eq_ok_iff.2
      (Or.inr (Or.inl ⟨a, b, t, u, s₁, s₂, rfl, hat, hbu, hs₁, hs₂, rfl⟩)))⟩
  | @window l r t count unit hl hr ht hu =>
    obtain ⟨s₁, hs₁⟩ := exists_span (hspans t (by simp))
    obtain ⟨s₂, hs₂⟩ := exists_span (hspans (.quantity count unit) (by simp))
    obtain ⟨a, ha, hat⟩ := exists_piece_iff.2 ht
    obtain ⟨b, hb, hbu⟩ := exists_piece_iff.2 hu
    have hp : ofText text = .ok ⟨some a, "<>".toList, some b⟩ := by
      rw [ofText, htrim, ofTrimmed_append hl ht.getLast_ne_dash window_mem_symbols hr, ha, hb]
    exact ⟨_, (evaluate_of_ofText hp (Or.inl rfl) hat).trans (evaluatePieces_eq_ok_iff.2
      (Or.inr (Or.inr ⟨a, b, t, _, _, s₁, s₂, rfl, hat, hbu, hs₁, hs₂, rfl, rfl⟩)))⟩

/-- **The language of expressions.** -/
theorem exists_span_iff :
    (∃ s, evaluate (some text) tz origin = .ok s) ↔ Accepted text tz origin :=
  ⟨fun ⟨_, h⟩ => accepted_of_span h, exists_span_of_accepted⟩

/-! ### The texts that are rejected -/

/-- **The calendar is asked** in the course of an evaluation: for the first piece, or for
the second when there is no complaint about the first. -/
def AsksCalendar (text : Text) : Prop :=
  ∃ p, ofText text = .ok p ∧
    ((∃ a t, p.first = some a ∧ Term.Reads a t ∧ t.isCalendar = true) ∨
      ((∀ a, p.first = some a → ∃ t, Term.Reads a t) ∧
        ∃ b u, p.second = some b ∧ Term.Reads b u ∧ u.isCalendar = true))

/-- A piece that fails is rejected, or it asks the calendar from an origin that cannot be
written. -/
theorem exists_rejection_of_operand? {piece : Option Text} {f : Failure}
    (hz : Zone.find tz = .ok z) (h : operand? piece tz origin = .error f) :
    (∃ e, f = .rejected e) ∨ (¬ Decimal.Writable origin ∧
      ∃ a t, piece = some a ∧ Term.Reads a t ∧ t.isCalendar = true) := by
  obtain ⟨a, rfl, hfail⟩ := operand?_eq_error_iff.1 h
  rcases Term.rejected_or_unanswered hfail with ⟨e, he, -⟩ | ⟨k, ht, hcal, hk⟩
  · exact Or.inl ⟨e, he⟩
  · by_cases hw : Decimal.Writable origin
    · exact Or.inl (Keyword.exists_rejection hz hw hk)
    · exact Or.inr ⟨hw, a, .keyword k, rfl, ht, hcal⟩

/-- **A text that has no span is rejected**, unless it asks the calendar from an origin
that cannot be written. -/
theorem exists_rejection_of_error {f : Failure} (hz : Zone.find tz = .ok z)
    (h : evaluate (some text) tz origin = .error f) :
    (∃ e, f = .rejected e) ∨ (¬ Decimal.Writable origin ∧ AsksCalendar text) := by
  rw [evaluate] at h
  split at h
  · exact Or.inl ⟨_, (Except.error.inj h).symm⟩
  · rcases bind_eq_error_iff.1 h with hcut | ⟨p, hp, hpieces⟩
    · obtain ⟨e, -, rfl⟩ := exists_of_rejecting_eq_error hcut
      exact Or.inl ⟨e, rfl⟩
    · have hp := rejecting_eq_ok_iff.1 hp
      rcases bind_eq_error_iff.1 hpieces with h₁ | ⟨o₁, h₁, hpieces⟩
      · rcases exists_rejection_of_operand? hz h₁ with hrejected | ⟨hw, a, t, ha, ht, hcal⟩
        · exact Or.inl hrejected
        · exact Or.inr ⟨hw, p, hp, Or.inl ⟨a, t, ha, ht, hcal⟩⟩
      · rcases bind_eq_error_iff.1 hpieces with h₂ | ⟨o₂, h₂, hjoin⟩
        · rcases exists_rejection_of_operand? hz h₂ with hrejected | ⟨hw, b, u, hb, hu, hcal⟩
          · exact Or.inl hrejected
          · -- the first piece, if there is one, has been read without complaint
            refine Or.inr ⟨hw, p, hp, Or.inr ⟨fun a ha => ?_, b, u, hb, hu, hcal⟩⟩
            cases o₁ with
            | none => exact absurd (operand?_eq_none_iff.1 h₁) (by simp [ha])
            | some o =>
              obtain ⟨a', t, -, ha', ht, -⟩ := operand?_eq_some_iff.1 h₁
              obtain rfl := Option.some.inj (ha.symm.trans ha')
              exact ⟨t, ht⟩
        · obtain ⟨e, -, rfl⟩ := exists_of_rejecting_eq_error hjoin
          exact Or.inl ⟨e, rfl⟩

/-- A piece that asks the calendar from an origin that cannot be written fails. -/
theorem operand?_of_not_writable {a : Text} {t : Term} (hz : Zone.find tz = .ok z)
    (hw : ¬ Decimal.Writable origin) (ht : Term.Reads a t) (hcal : t.isCalendar = true) :
    operand? (some a) tz origin = .error (.unwritable origin) := by
  have hspan : t.span tz origin = .error (.unwritable origin) := by
    cases t with
    | quantity count unit => exact absurd hcal (by simp [Term.isCalendar])
    | keyword k => exact Keyword.span_of_not_writable hz hcal hw
  rw [operand?_some, Term.evaluate_of_reads ht, hspan]
  rfl

/-- **From an origin that cannot be written** a text that asks the calendar fails without
a rejection. -/
theorem evaluate_of_asksCalendar (hz : Zone.find tz = .ok z) (hw : ¬ Decimal.Writable origin)
    (h : AsksCalendar text) : evaluate (some text) tz origin = .error (.unwritable origin) := by
  obtain ⟨p, hp, ⟨a, t, ha, ht, hcal⟩ | ⟨hfirst, b, u, hb, hu, hcal⟩⟩ := h
  · rw [evaluate_of_ofText hp (Or.inl ha) ht, evaluatePieces, ha,
      operand?_of_not_writable hz hw ht hcal]
    rfl
  · rw [evaluate_of_ofText hp (Or.inr hb) hu, evaluatePieces, hb]
    have hsecond := operand?_of_not_writable hz hw hu hcal
    cases ha : p.first with
    | none =>
      rw [hsecond]
      rfl
    | some a =>
      obtain ⟨t, ht⟩ := hfirst a ha
      -- the first term may ask the calendar too, and then it fails first
      by_cases hcal' : t.isCalendar = true
      · rw [operand?_of_not_writable hz hw ht hcal']
        rfl
      · obtain ⟨r, hr⟩ := Term.exists_span_of_isCalendar (by simpa using hcal') tz origin
        rw [operand?_eq_some_iff.2 ⟨a, t, r, rfl, ht, hr, rfl⟩, bind_ok, hsecond]
        rfl

/-! ### The language -/

/-- **The language of expressions.** In a zone that exists, the texts that have a span are
those that are accepted. Of the others, those are rejected that are seen from an origin
that can be written, or do not ask the calendar; the rest fails without a rejection. -/
theorem language_of_expressions (hz : Zone.find tz = .ok z) (text : Text) (origin : Int) :
    ((∃ s, evaluate (some text) tz origin = .ok s) ↔ Accepted text tz origin) ∧
    (¬ Accepted text tz origin →
      ((∃ e, evaluate (some text) tz origin = .error (.rejected e)) ↔
        Decimal.Writable origin ∨ ¬ AsksCalendar text)) ∧
    (¬ Decimal.Writable origin → AsksCalendar text →
      evaluate (some text) tz origin = .error (.unwritable origin)) := by
  refine ⟨exists_span_iff, fun hnot => ⟨?_, ?_⟩, evaluate_of_asksCalendar hz⟩
  · rintro ⟨e, he⟩
    by_cases hw : Decimal.Writable origin
    · exact Or.inl hw
    · refine Or.inr fun hasks => ?_
      have := Except.error.inj (he.symm.trans (evaluate_of_asksCalendar hz hw hasks))
      exact absurd this (by simp)
  · intro hcond
    cases h : evaluate (some text) tz origin with
    | ok s => exact absurd (accepted_of_span h) hnot
    | error f =>
      rcases exists_rejection_of_error hz h with ⟨e, rfl⟩ | ⟨hw, hasks⟩
      · exact ⟨e, rfl⟩
      · rcases hcond with hw' | hasks'
        · exact absurd hw' hw
        · exact absurd hasks hasks'

/-- Blanks and a sign do not keep a text from being an expression, a lone bracket does. -/
theorem language_of_expressions_utc :
    Zone.find (some "UTC".toList) = .ok Zone.utc ∧
      Accepted " yester day->-2 D ".toList (some "UTC".toList) 1743435000123 ∧
      ¬ Accepted "now < today".toList (some "UTC".toList) 1743435000123 ∧
      ∃ e, evaluate (some "now < today".toList) (some "UTC".toList) 1743435000123 =
        .error (.rejected e) := by
  have hz : Zone.find (some "UTC".toList) = .ok Zone.utc := rfl
  have hspan : evaluate (some " yester day->-2 D ".toList) (some "UTC".toList) 1743435000123 =
      .ok ⟨1743292800000, 1743435000123⟩ :=
    eq_ok_of_toOption (by decide +kernel)
  have hnone : (evaluate (some "now < today".toList) (some "UTC".toList)
      1743435000123).toOption = none := by
    decide +kernel
  obtain ⟨haccept, -⟩ := language_of_expressions hz " yester day->-2 D ".toList 1743435000123
  obtain ⟨haccept', hreject, -⟩ := language_of_expressions hz "now < today".toList 1743435000123
  have hnot : ¬ Accepted "now < today".toList (some "UTC".toList) 1743435000123 := by
    intro h
    obtain ⟨s, hs⟩ := haccept'.2 h
    rw [hs] at hnone
    exact absurd hnone (by simp [Except.toOption])
  exact ⟨hz, haccept.1 ⟨_, hspan⟩, hnot, (hreject hnot).2 (Or.inl (by decide +kernel))⟩

/-- Today has no span so far out, and it is not rejected either. -/
theorem today_not_rejected_far_out :
    ¬ Accepted "today".toList (some "UTC".toList) Decimal.firstUnwritable ∧
      ¬ ∃ e, evaluate (some "today".toList) (some "UTC".toList) Decimal.firstUnwritable =
        .error (.rejected e) := by
  have hpieces : ofText "today".toList = .ok ⟨some "today".toList, [], none⟩ :=
    eq_ok_of_toOption (by decide +kernel)
  have hread : Term.ofText "today".toList = .ok (.keyword .today) :=
    eq_ok_of_toOption (by decide +kernel)
  have hfail : evaluate (some "today".toList) (some "UTC".toList) Decimal.firstUnwritable =
      .error (.unwritable Decimal.firstUnwritable) :=
    evaluate_of_asksCalendar rfl Decimal.not_writable_firstUnwritable
      ⟨_, hpieces, Or.inl ⟨_, _, rfl, Term.ofText_eq_ok_iff.1 hread, rfl⟩⟩
  refine ⟨fun h => ?_, fun h => ?_⟩
  · obtain ⟨s, hs⟩ := exists_span_of_accepted h
    exact absurd (hs.symm.trans hfail) (by simp)
  · obtain ⟨e, he⟩ := h
    exact absurd (he.symm.trans hfail) (by simp)

end Timespan.Expression
