import Timespan.Proofs.Operator

/-!
# Joining operands with parts missing

Each of the three parts of an operand may be missing, and so may an operand itself. This file
says what an operator makes of what there is, and it does so part by part, without the
replacements by which a span is computed:

* an operand **starts** where it says, or else at the origin, and it **stops** where it says, or
  else where it starts (`Operand.StartsAt`, `Operand.StopsAt`);
* a **sequence** looks at where the first operand starts and the second one stops, and at
  nothing else (`Operator.joinWritten_sequence_eq_ok_iff`);
* a **window** looks at the start of its anchor and at the length of its quantity, and not at the
  origin (`Operator.joinWritten_window_eq_ok_iff`);
* **refused** are operands that the operator does not take (`Operator.Takes`), symbols that no
  operator has, and windows without an anchor or a length (`Operator.joinWritten_eq_error_iff`).
-/

namespace Timespan

/-! ### The two ends of an operand -/

namespace Operand

variable {t : Operand} {origin i j : Int}

/-- **Where an operand starts**: where it says, or else at the origin. -/
def StartsAt (t : Operand) (origin i : Int) : Prop :=
  t.start = some i ∨ t.start = none ∧ i = origin

/-- **Where an operand stops**: where it says, or else where it starts. -/
def StopsAt (t : Operand) (origin j : Int) : Prop :=
  t.stop = some j ∨ t.stop = none ∧ t.StartsAt origin j

theorem startFrom_eq_iff : t.startFrom origin = i ↔ t.StartsAt origin i := by
  rw [startFrom, StartsAt]
  cases t.start with
  | none => simp [eq_comm]
  | some i => simp

theorem stopFrom_eq_iff : t.stopFrom origin = j ↔ t.StopsAt origin j := by
  rw [StopsAt, ← startFrom_eq_iff, stopFrom, startFrom]
  cases t.stop with
  | none => simp
  | some j => simp

theorem StartsAt.unique {i' : Int} (h : t.StartsAt origin i) (h' : t.StartsAt origin i') :
    i = i' :=
  (startFrom_eq_iff.2 h).symm.trans (startFrom_eq_iff.2 h')

theorem StopsAt.unique {j' : Int} (h : t.StopsAt origin j) (h' : t.StopsAt origin j') :
    j = j' :=
  (stopFrom_eq_iff.2 h).symm.trans (stopFrom_eq_iff.2 h')

end Operand

/-! ### Between an instant and another -/

namespace Span

theorem duration_between_add (a d : Int) : (between a (a + d)).duration = d.natAbs := by
  simp only [duration, between]
  omega

theorem between_add_start_or_stop (a d : Int) :
    (between a (a + d)).start = a ∨ (between a (a + d)).stop = a := by
  simp only [between]
  omega

end Span

namespace Operator

variable {op : Operator} {symbol : Text} {t u : Operand} {first second : Option Operand}
  {origin : Int} {s : Span} {e : Rejection}

/-! ### Symbols -/

theorem symbol_inj {op' : Operator} (h : op.symbol = op'.symbol) : op = op' :=
  Option.some.inj ((ofSymbol?_symbol op).symm.trans (h ▸ ofSymbol?_symbol op'))

/-- A symbol that no operator has is refused. -/
theorem joinWritten_of_forall_ne (h : ∀ op : Operator, op.symbol ≠ symbol) :
    joinWritten symbol first second origin = .error (.unsupportedOperation symbol) := by
  rw [joinWritten]
  split
  · next op hop => exact absurd (symbol_of_ofSymbol? hop) (h op)
  · rfl

/-! ### Windows -/

theorem windowSpan_eq_ok_iff :
    windowSpan t u = .ok s ↔
      ∃ i d, t.start = some i ∧ u.offset = some d ∧ .between i (i + d) = s := by
  rw [windowSpan]
  cases t.start with
  | none => simp
  | some i =>
    cases u.offset with
    | none => simp
    | some d => simp

/-- A window wants an anchor and a length. -/
theorem windowSpan_eq_error_iff :
    windowSpan t u = .error e ↔ (t.start = none ∨ u.offset = none) ∧ .offsetPrecondition = e := by
  rw [windowSpan]
  cases t.start with
  | none => simp
  | some i =>
    cases u.offset with
    | none => simp
    | some d => simp

/-! ### What an operator takes -/

/-- **The operands that an operator takes.** -/
inductive Takes : Operator → Option Operand → Option Operand → Prop
  /-- One operand alone. -/
  | single (t : Operand) : Takes single (some t) none
  /-- Two operands. -/
  | sequence (t u : Operand) : Takes sequence (some t) (some u)
  /-- An anchor and a quantity. -/
  | window (t u : Operand) : Takes window (some t) (some u)

/-- An operator refuses the operands that it does not take. -/
theorem join_of_not_takes (h : ¬ op.Takes first second) :
    op.join first second origin = .error (.unsupportedOperation op.symbol) := by
  cases first with
  | none => cases op <;> rfl
  | some t =>
    cases second with
    | none =>
      cases op with
      | single => exact absurd (.single t) h
      | sequence => rfl
      | window => rfl
    | some u =>
      cases op with
      | single => rfl
      | sequence => exact absurd (.sequence t u) h
      | window => exact absurd (.window t u) h

/-! ### Spans -/

/-- **What is joined**: the operands are taken, and a window has an anchor and a length. -/
theorem joinWritten_eq_ok_iff :
    joinWritten symbol first second origin = .ok s ↔
      (symbol = single.symbol ∧ second = none ∧ ∃ t, first = some t ∧
        ⟨t.startFrom origin, t.stopFrom origin⟩ = s) ∨
      (symbol = sequence.symbol ∧ ∃ t u, first = some t ∧ second = some u ∧
        ⟨t.startFrom origin, u.stopFrom origin⟩ = s) ∨
      (symbol = window.symbol ∧ ∃ t u, first = some t ∧ second = some u ∧
        windowSpan t u = .ok s) := by
  constructor
  · intro h
    rw [joinWritten] at h
    split at h
    · next op hop =>
      obtain rfl := symbol_of_ofSymbol? hop
      -- one case for each operator with its operands, and the rest is rejected
      rw [join.eq_def] at h
      split at h
      · exact Or.inl ⟨rfl, rfl, _, rfl, Except.ok.inj h⟩
      · exact Or.inr (Or.inl ⟨rfl, _, _, rfl, rfl, Except.ok.inj h⟩)
      · exact Or.inr (Or.inr ⟨rfl, _, _, rfl, rfl, h⟩)
      · exact absurd h (by simp)
    · exact absurd h (by simp)
  · rintro (⟨rfl, rfl, t, rfl, rfl⟩ | ⟨rfl, t, u, rfl, rfl, rfl⟩ | ⟨rfl, t, u, rfl, rfl, h⟩)
    · rw [joinWritten_symbol]
      rfl
    · rw [joinWritten_symbol]
      rfl
    · rw [joinWritten_symbol]
      exact h

theorem joinWritten_single (t : Operand) (origin : Int) :
    joinWritten [] (some t) none origin = .ok ⟨t.startFrom origin, t.stopFrom origin⟩ :=
  joinWritten_symbol .single _ _ _

theorem joinWritten_sequence (t u : Operand) (origin : Int) :
    joinWritten "->".toList (some t) (some u) origin =
      .ok ⟨t.startFrom origin, u.stopFrom origin⟩ :=
  joinWritten_symbol .sequence _ _ _

/-- **A sequence** runs from where the first operand starts to where the second one stops. -/
theorem joinWritten_sequence_eq_ok_iff :
    joinWritten "->".toList first second origin = .ok s ↔
      ∃ t u, first = some t ∧ second = some u ∧ t.StartsAt origin s.start ∧
        u.StopsAt origin s.stop := by
  simp only [← Operand.startFrom_eq_iff, ← Operand.stopFrom_eq_iff]
  constructor
  · intro h
    obtain ⟨hop, -⟩ | ⟨-, t, u, rfl, rfl, rfl⟩ | ⟨hop, -⟩ := joinWritten_eq_ok_iff.1 h
    · exact absurd hop (by decide)
    · exact ⟨t, u, rfl, rfl, rfl, rfl⟩
    · exact absurd hop (by decide)
  · rintro ⟨t, u, rfl, rfl, hstart, hstop⟩
    rw [joinWritten_sequence, hstart, hstop]

/-- **A window** lies between the start of its anchor and the instant so far from it. -/
theorem joinWritten_window_eq_ok_iff :
    joinWritten "<>".toList first second origin = .ok s ↔
      ∃ t u i d, first = some t ∧ second = some u ∧ t.start = some i ∧ u.offset = some d ∧
        .between i (i + d) = s := by
  constructor
  · intro h
    obtain ⟨hop, -⟩ | ⟨hop, -⟩ | ⟨-, t, u, rfl, rfl, hw⟩ := joinWritten_eq_ok_iff.1 h
    · exact absurd hop (by decide)
    · exact absurd hop (by decide)
    · obtain ⟨i, d, hi, hd, hs⟩ := windowSpan_eq_ok_iff.1 hw
      exact ⟨t, u, i, d, rfl, rfl, hi, hd, hs⟩
  · rintro ⟨t, u, i, d, rfl, rfl, hi, hd, hs⟩
    exact (joinWritten_symbol .window _ _ _).trans (windowSpan_eq_ok_iff.2 ⟨i, d, hi, hd, hs⟩)

/-- A sequence from an operand to itself is that operand. -/
theorem joinWritten_sequence_self (t : Operand) (origin : Int) :
    joinWritten "->".toList (some t) (some t) origin = joinWritten [] (some t) none origin :=
  (joinWritten_sequence t t origin).trans (joinWritten_single t origin).symm

/-- **The start of a sequence** is a matter of the first operand. -/
theorem start_eq_of_sequence {second' : Option Operand} {s' : Span}
    (h : joinWritten "->".toList first second origin = .ok s)
    (h' : joinWritten "->".toList first second' origin = .ok s') : s'.start = s.start := by
  obtain ⟨t, u, rfl, -, hstart, -⟩ := joinWritten_sequence_eq_ok_iff.1 h
  obtain ⟨t', u', ht, -, hstart', -⟩ := joinWritten_sequence_eq_ok_iff.1 h'
  obtain rfl := Option.some.inj ht
  exact hstart'.unique hstart

/-- **The stop of a sequence** is a matter of the second operand. -/
theorem stop_eq_of_sequence {first' : Option Operand} {s' : Span}
    (h : joinWritten "->".toList first second origin = .ok s)
    (h' : joinWritten "->".toList first' second origin = .ok s') : s'.stop = s.stop := by
  obtain ⟨t, u, -, rfl, -, hstop⟩ := joinWritten_sequence_eq_ok_iff.1 h
  obtain ⟨t', u', -, hu, -, hstop'⟩ := joinWritten_sequence_eq_ok_iff.1 h'
  obtain rfl := Option.some.inj hu
  exact hstop'.unique hstop

/-- A window is the same from every origin. -/
theorem joinWritten_window_congr (h : joinWritten "<>".toList first second origin = .ok s)
    (origin' : Int) : joinWritten "<>".toList first second origin' = .ok s :=
  joinWritten_window_eq_ok_iff.2 (joinWritten_window_eq_ok_iff.1 h)

/-! ### Refusals -/

/-- **Operands that no operator of a symbol takes** are refused with the symbol. -/
theorem joinWritten_of_forall_not_takes
    (h : ∀ op : Operator, op.symbol = symbol → ¬ op.Takes first second) :
    joinWritten symbol first second origin = .error (.unsupportedOperation symbol) := by
  by_cases hop : ∃ op : Operator, op.symbol = symbol
  · obtain ⟨op, rfl⟩ := hop
    rw [joinWritten_symbol, join_of_not_takes (h op rfl)]
  · exact joinWritten_of_forall_ne fun op hsymbol => hop ⟨op, hsymbol⟩

/-- **What is refused**: a window for the want of an anchor or a length, and what no operator of
the symbol takes. -/
theorem joinWritten_eq_error_iff :
    joinWritten symbol first second origin = .error e ↔
      (symbol = "<>".toList ∧ ∃ t u, first = some t ∧ second = some u ∧
        (t.start = none ∨ u.offset = none)) ∧ .offsetPrecondition = e ∨
      (∀ op : Operator, op.symbol = symbol → ¬ op.Takes first second) ∧
        .unsupportedOperation symbol = e := by
  by_cases htakes : ∃ op : Operator, op.symbol = symbol ∧ op.Takes first second
  · obtain ⟨op, rfl, h⟩ := htakes
    have hno : ¬ ∀ op' : Operator, op'.symbol = op.symbol → ¬ op'.Takes first second :=
      fun hno => hno op rfl h
    rw [or_iff_left fun hright => hno hright.1, joinWritten_symbol]
    -- of the operands that it takes only a window can refuse any
    cases h with
    | single t => simp [join, symbol]
    | sequence t u => simp [join, symbol]
    | window t u =>
      refine windowSpan_eq_error_iff.trans (and_congr_left' ?_)
      simp [symbol]
  · have hno : ∀ op : Operator, op.symbol = symbol → ¬ op.Takes first second :=
      fun op hsymbol h => htakes ⟨op, hsymbol, h⟩
    rw [joinWritten_of_forall_not_takes hno, Except.error.injEq, and_iff_right hno]
    refine ⟨Or.inr, fun h => h.resolve_left ?_⟩
    rintro ⟨⟨rfl, t, u, rfl, rfl, -⟩, -⟩
    exact hno window rfl (.window t u)

theorem joinWritten_eq_offsetPrecondition_iff :
    joinWritten symbol first second origin = .error .offsetPrecondition ↔
      symbol = "<>".toList ∧ ∃ t u, first = some t ∧ second = some u ∧
        (t.start = none ∨ u.offset = none) := by
  simp [joinWritten_eq_error_iff]

/-- **A symbol is refused** if no operator has it, or if the operator does not take the operands. -/
theorem joinWritten_eq_unsupportedOperation_iff {text : Text} :
    joinWritten symbol first second origin = .error (.unsupportedOperation text) ↔
      text = symbol ∧ ((∀ op : Operator, op.symbol ≠ symbol) ∨
        ∃ op : Operator, op.symbol = symbol ∧ ¬ op.Takes first second) := by
  rw [joinWritten_eq_error_iff]
  constructor
  · rintro (⟨-, he⟩ | ⟨hno, he⟩)
    · exact absurd he (by simp)
    · refine ⟨(Rejection.unsupportedOperation.inj he).symm, ?_⟩
      by_cases hop : ∃ op : Operator, op.symbol = symbol
      · obtain ⟨op, hsymbol⟩ := hop
        exact Or.inr ⟨op, hsymbol, hno op hsymbol⟩
      · exact Or.inl fun op hsymbol => hop ⟨op, hsymbol⟩
  · rintro ⟨rfl, hnone | ⟨op, hsymbol, hnot⟩⟩
    · exact Or.inr ⟨fun op hsymbol => absurd hsymbol (hnone op), rfl⟩
    · refine Or.inr ⟨fun op' hsymbol' => ?_, rfl⟩
      obtain rfl := symbol_inj (hsymbol'.trans hsymbol.symm)
      exact hnot

/-! ### The laws of joining -/

/-- **The laws of joining**, for all operands with any of their parts missing.

* An operator and its symbol join alike.
* What is joined moves with the operands and the origin, and what is refused is refused alike.
* A sequence from an operand to itself is that operand.
* A sequence of two operands has a span. Its start is where the first operand starts, seen from
  the origin, whatever the second one is; its stop is where the second operand stops, whatever
  the first one is.
* A window does not depend on the origin. It runs forward, is as long as its quantity, and has the
  start of its anchor at one of its ends.
* A window without an anchor or a length is refused as such, and what no operator of the symbol
  takes is refused with the symbol. Nothing else is refused. -/
theorem laws_of_joining (first second : Option Operand) (origin : Int) :
    (∀ op : Operator, op.join first second origin = joinWritten op.symbol first second origin) ∧
    (∀ symbol k, joinWritten symbol (first.map (·.later k)) (second.map (·.later k)) (origin + k) =
      (joinWritten symbol first second origin).map (·.later k)) ∧
    (∀ t : Operand, joinWritten "->".toList (some t) (some t) origin =
      joinWritten "".toList (some t) none origin) ∧
    (∀ s, joinWritten "->".toList first second origin = .ok s ↔
      ∃ t u, first = some t ∧ second = some u ∧ t.StartsAt origin s.start ∧
        u.StopsAt origin s.stop) ∧
    (∀ s, joinWritten "->".toList first second origin = .ok s →
      (∀ second' s', joinWritten "->".toList first second' origin = .ok s' →
        s'.start = s.start) ∧
      ∀ first' s', joinWritten "->".toList first' second origin = .ok s' → s'.stop = s.stop) ∧
    (∀ s, joinWritten "<>".toList first second origin = .ok s →
      (∀ origin', joinWritten "<>".toList first second origin' = .ok s) ∧ s.start ≤ s.stop ∧
      ∃ t u start offset, first = some t ∧ second = some u ∧ t.start = some start ∧
        u.offset = some offset ∧ s.duration = offset.natAbs ∧
        (s.start = start ∨ s.stop = start)) ∧
    (∀ symbol, joinWritten symbol first second origin = .error .offsetPrecondition ↔
      symbol = "<>".toList ∧ ∃ t u, first = some t ∧ second = some u ∧
        (t.start = none ∨ u.offset = none)) ∧
    (∀ symbol text, joinWritten symbol first second origin = .error (.unsupportedOperation text) ↔
      text = symbol ∧ ((∀ op : Operator, op.symbol ≠ symbol) ∨
        ∃ op : Operator, op.symbol = symbol ∧ ¬ op.Takes first second)) ∧
    ∀ symbol e, joinWritten symbol first second origin = .error e →
      e = .offsetPrecondition ∨ e = .unsupportedOperation symbol := by
  refine ⟨fun op => (joinWritten_symbol op _ _ _).symm,
    fun symbol k => joinWritten_later symbol first second,
    fun t => joinWritten_sequence_self t origin, fun s => joinWritten_sequence_eq_ok_iff,
    fun s hs => ?_, fun s hs => ?_, fun symbol => joinWritten_eq_offsetPrecondition_iff,
    fun symbol text => joinWritten_eq_unsupportedOperation_iff, fun symbol e he => ?_⟩
  · exact ⟨fun _ _ => start_eq_of_sequence hs, fun _ _ => stop_eq_of_sequence hs⟩
  · obtain ⟨t, u, start, offset, ht, hu, hstart, hoffset, rfl⟩ :=
      joinWritten_window_eq_ok_iff.1 hs
    exact ⟨joinWritten_window_congr hs, Span.start_le_stop_between _ _, t, u, start, offset, ht,
      hu, hstart, hoffset, Span.duration_between_add _ _, Span.between_add_start_or_stop _ _⟩
  · rcases joinWritten_eq_error_iff.1 he with ⟨-, rfl⟩ | ⟨-, rfl⟩
    · exact Or.inl rfl
    · exact Or.inr rfl

/-- An anchor that starts at instant zero, and a quantity that points back from it. -/
theorem laws_of_joining_at_zero :
    let anchor : Operand := { start := some 0 }
    let quantity : Operand := { offset := some (-5), stop := some 0 }
    joinWritten "<>".toList (some anchor) (some quantity) 7 = .ok ⟨-5, 0⟩ ∧
      joinWritten "<>".toList (some anchor) (some quantity) 1000 = .ok ⟨-5, 0⟩ ∧
      Span.duration ⟨-5, 0⟩ = (-5 : Int).natAbs ∧
      joinWritten "->".toList (some quantity) (some anchor) 7 = .ok ⟨7, 0⟩ ∧
      quantity.StartsAt 7 7 ∧ anchor.StopsAt 7 0 ∧
      joinWritten "=>".toList (some anchor) (some quantity) 7 =
        .error (.unsupportedOperation "=>".toList) := by
  intro anchor quantity
  obtain ⟨-, -, -, -, -, hwindow, -, hrefused, -⟩ :=
    laws_of_joining (some anchor) (some quantity) 7
  obtain ⟨-, -, -, hsequence, -⟩ := laws_of_joining (some quantity) (some anchor) 7
  obtain ⟨horigin, -, t, u, start, offset, -, hu, -, hoffset, hduration, -⟩ := hwindow ⟨-5, 0⟩ rfl
  obtain ⟨t', u', ht', hu', hstart, hstop⟩ := (hsequence ⟨7, 0⟩).1 rfl
  obtain rfl := Option.some.inj hu
  obtain rfl := Option.some.inj hoffset
  obtain rfl := Option.some.inj ht'
  obtain rfl := Option.some.inj hu'
  refine ⟨rfl, horigin 1000, hduration, rfl, hstart, hstop, (hrefused _ _).2 ⟨rfl, Or.inl ?_⟩⟩
  intro op
  cases op <;> decide

end Operator

end Timespan
