import Timespan.Proofs.Term.Grammar

/-!
# What a term means

The meaning of a term is a span, and of a quantity also the signed length it was
built from. `Term.span` is the first, `Term.offset?` the second, and the operand
that an operator gets to see is made of the two and of nothing else
(`Term.operand_eq`).

A term of the **calendar** is one of the nine keywords other than `now`. All other
terms have a span in every zone and from every origin, whether or not the zone
exists (`Term.exists_span_of_isCalendar`).
-/

namespace Timespan

namespace Term

variable {tz : Option Text} {origin : Int}

/-- **The span of a term**, seen from an origin in a zone. -/
def span (t : Term) (tz : Option Text) (origin : Int) : Except Failure Span :=
  match t with
  | keyword k => k.span tz origin
  | quantity count unit => .ok (.between origin (origin + count * unit.millis))

/-- The signed length of a quantity. -/
def offset? : Term → Option Int
  | keyword _ => none
  | quantity count unit => some (count * unit.millis)

/-- The operand made of a span and of the length that the term has. -/
def operandOf (t : Term) (s : Span) : Operand :=
  { Operand.ofSpan s with offset := t.offset? }

/-- Whether a term asks the calendar. -/
def isCalendar : Term → Bool
  | keyword k => k.isCalendar
  | quantity _ _ => false

/-- **An operand is a span**, and a length where there is one. -/
theorem operand_eq (t : Term) :
    t.operand tz origin = (t.span tz origin).map t.operandOf := by
  cases t with
  | keyword k =>
    rw [operand, span, Keyword.operand]
    cases k.span tz origin <;> rfl
  | quantity count unit => rfl

theorem operand_eq_ok_iff {t : Term} {o : Operand} :
    t.operand tz origin = .ok o ↔ ∃ s, t.span tz origin = .ok s ∧ t.operandOf s = o := by
  rw [operand_eq, map_eq_ok_iff]

/-- A term that does not ask the calendar has a span. -/
theorem exists_span_of_isCalendar {t : Term} (h : t.isCalendar = false) (tz : Option Text)
    (origin : Int) : ∃ s, t.span tz origin = .ok s := by
  cases t with
  | keyword k =>
    obtain rfl := Keyword.isCalendar_eq_false_iff.1 h
    exact ⟨_, Keyword.span_now tz origin⟩
  | quantity count unit => exact ⟨_, rfl⟩

/-! ### The operand of a text -/

theorem evaluate_of_reads {s : Text} {t : Term} (h : Reads s t) :
    evaluate s tz origin = (t.span tz origin).map t.operandOf := by
  rw [evaluate_of_ofText (ofText_eq_ok_iff.2 h), operand_eq]

theorem evaluate_eq_ok_iff {s : Text} {o : Operand} :
    evaluate s tz origin = .ok o ↔
      ∃ t r, Reads s t ∧ t.span tz origin = .ok r ∧ t.operandOf r = o := by
  refine ⟨fun h => ?_, fun h => ?_⟩
  · obtain ⟨t, ht, ho⟩ := bind_eq_ok_iff.1 h
    obtain ⟨r, hr, rfl⟩ := operand_eq_ok_iff.1 ho
    exact ⟨t, r, ofText_eq_ok_iff.1 (rejecting_eq_ok_iff.1 ht), hr, rfl⟩
  · obtain ⟨t, r, ht, hr, rfl⟩ := h
    rw [evaluate_of_reads ht, hr]
    rfl

/-! ### Texts that have no operand -/

/-- The kinds of complaint about a text that is read as a term. -/
def complaints : List Rejection.Kind :=
  [.unknownKeyword, .unknownAlias, .unknownTerm]

/-- **A text that is no term** is an unknown word, or has an unknown unit, or neither shape. -/
theorem kind_of_ofText {s : Text} {e : Rejection} (h : ofText s = .error e) :
    e.kind ∈ complaints := by
  rw [ofText, ofClean] at h
  split at h
  · rw [map_eq_error_iff, Keyword.ofWord] at h
    split at h
    · exact absurd h (by simp)
    · obtain rfl := Except.error.inj h
      simp [Rejection.kind, complaints]
  · split at h
    · obtain rfl := Except.error.inj h
      simp [Rejection.kind, complaints]
    · split at h
      · obtain rfl := Except.error.inj h
        simp [Rejection.kind, complaints]
      · rw [map_eq_error_iff, TimeUnit.ofText] at h
        split at h
        · exact absurd h (by simp)
        · obtain rfl := Except.error.inj h
          simp [Rejection.kind, complaints]

/-- **A text that has no operand** is rejected as no term, or it is a calendar keyword that
gets no answer. -/
theorem rejected_or_unanswered {s : Text} {f : Failure} (h : evaluate s tz origin = .error f) :
    (∃ e, f = .rejected e ∧ e.kind ∈ complaints) ∨ ∃ k : Keyword, Reads s (.keyword k) ∧
      k.isCalendar = true ∧ k.span tz origin = .error f := by
  rcases bind_eq_error_iff.1 h with hread | ⟨t, hread, hoperand⟩
  · obtain ⟨e, he, rfl⟩ := exists_of_rejecting_eq_error hread
    exact Or.inl ⟨e, rfl, kind_of_ofText he⟩
  · have ht := ofText_eq_ok_iff.1 (rejecting_eq_ok_iff.1 hread)
    rw [operand_eq, map_eq_error_iff] at hoperand
    cases t with
    | quantity count unit => exact absurd hoperand (by simp [span])
    | keyword k =>
      refine Or.inr ⟨k, ht, ?_, hoperand⟩
      by_cases hk : k.isCalendar = true
      · exact hk
      · obtain rfl := Keyword.isCalendar_eq_false_iff.1 (by simpa using hk)
        exact absurd hoperand (by simp [span])

end Term

end Timespan
