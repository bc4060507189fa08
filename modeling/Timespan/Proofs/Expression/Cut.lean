import Timespan.Expression.Pieces
import Timespan.Proofs.Text.Trim

/-!
# Where an expression is cut

The cut goes through a text from the left in four steps, and a dash is a sign to one
of them and half an operator to another. What comes out can be said without the
steps. A trimmed text is cut in exactly two cases:

| the text                                              | the pieces                     |
|-------------------------------------------------------|--------------------------------|
| has no angle bracket                                  | it, and the dashes at its end  |
| is `l`, a symbol and `r`, where neither `l` nor `r` has | `l`, the symbol, `r`          |
| an angle bracket and `l` does not end in a dash       |                                |

`Pieces.ofTrimmed_of_noAngle` and `Pieces.ofTrimmed_append` are the two cases, and
`Pieces.cases_of_ofTrimmed` says that there are no others. `Pieces.cases_of_ofText` says
the same of a text that need not be trimmed, with its trimmed pieces.

In all other cases there is something left over, `Pieces.leftover`: with the pieces before it,
it makes up the trimmed text, and it begins with an angle bracket
(`Pieces.exists_append_leftover`).
-/

namespace Timespan.Pieces

/-! ### Texts without angle brackets -/

/-- A text without angle brackets. -/
def NoAngle (s : Text) : Prop :=
  ∀ c ∈ s, isAngle c = false

theorem noAngle_of_all {s : Text} (h : (s.all fun c => !isAngle c) = true) : NoAngle s := by
  intro c hc
  simpa using List.all_eq_true.1 h c hc

theorem noAngle_append {s t : Text} : NoAngle (s ++ t) ↔ NoAngle s ∧ NoAngle t := by
  simp [NoAngle, or_imp, forall_and]

theorem NoAngle.of_subset {s t : Text} (h : NoAngle t) (hst : s ⊆ t) : NoAngle s :=
  fun c hc => h c (hst hc)

theorem noAngle_run (s : Text) : NoAngle (run s) := by
  intro c hc
  simpa using List.mem_takeWhile_imp hc

theorem run_of_noAngle {s : Text} (h : NoAngle s) : run s = s := by
  rw [run, List.takeWhile_eq_self_iff]
  intro c hc
  simp [h c hc]

/-- Blanks are no angle brackets. -/
theorem isAngle_of_isBlank {c : Char} (h : isBlank c = true) : isAngle c = false := by
  rw [isAngle, Bool.or_eq_false_iff, beq_eq_false_iff_ne, beq_eq_false_iff_ne]
  constructor
  · rintro rfl
    exact absurd h (by decide)
  · rintro rfl
    exact absurd h (by decide)

theorem isBlank_of_isAngle {c : Char} (h : isAngle c = true) : isBlank c = false :=
  Bool.eq_false_iff.2 fun hblank => absurd (isAngle_of_isBlank hblank) (by simp [h])

/-- After a run there stands an angle bracket. -/
theorem isAngle_of_head {s : Text} :
    ∀ c ∈ (s.dropWhile fun c => !isAngle c).head?, isAngle c = true := by
  intro c hc
  have hnot := List.head?_dropWhile_not (fun c => !isAngle c) s
  rw [Option.mem_def.1 hc] at hnot
  simpa using hnot

/-- A run ends where an angle bracket stands. -/
theorem run_append_cons {l : Text} (hl : NoAngle l) {c : Char} (hc : isAngle c = true)
    (r : Text) : run (l ++ c :: r) = l := by
  rw [run, List.takeWhile_append_of_pos fun c hc => by simp [hl c hc]]
  simp [hc]

/-! ### Symbols -/

/-- The symbols that are cut out, the last of which means nothing. -/
def symbols : List Text :=
  ["->".toList, "<>".toList, "<".toList]

theorem sequence_mem_symbols : "->".toList ∈ symbols :=
  List.mem_cons_self

theorem window_mem_symbols : "<>".toList ∈ symbols :=
  List.mem_cons_of_mem _ List.mem_cons_self

theorem ne_nil_of_mem_symbols {op : Text} (h : op ∈ symbols) : op ≠ [] := by
  rintro rfl
  exact absurd h (by decide)

theorem isBlank_of_mem_symbols {op : Text} (h : op ∈ symbols) : ∀ c ∈ op, isBlank c = false := by
  have hall : (symbols.all fun op => op.all fun c => !isBlank c) = true := by
    decide +kernel
  intro c hc
  simpa using List.all_eq_true.1 (List.all_eq_true.1 hall op h) c hc

/-- Every symbol has an angle bracket. -/
theorem not_noAngle_of_mem_symbols {op : Text} (h : op ∈ symbols) : ¬ NoAngle op := by
  simp only [symbols, List.mem_cons, List.not_mem_nil, or_false] at h
  rcases h with rfl | rfl | rfl
  · exact fun hop => absurd (hop '>' (by decide)) (by decide)
  · exact fun hop => absurd (hop '>' (by decide)) (by decide)
  · exact fun hop => absurd (hop '<' (by decide)) (by decide)

/-- A symbol followed by a text without angle brackets is taken as it stands. -/
theorem takeOperator_append_of_noAngle {op r : Text} (hop : op ∈ symbols) (hr : NoAngle r) :
    takeOperator (op ++ r) = (op, r) := by
  simp only [symbols, List.mem_cons, List.not_mem_nil, or_false] at hop
  rcases hop with rfl | rfl | rfl
  · rfl
  · rfl
  · cases r with
    | nil => rfl
    | cons c r =>
      have hc : c ≠ '>' := by
        rintro rfl
        exact absurd (hr '>' List.mem_cons_self) (by decide)
      change takeOperator ('<' :: c :: r) = _
      rw [takeOperator]
      intro rest h
      exact hc (List.cons.inj h).1

theorem takeOperator_of_noAngle {s : Text} (h : NoAngle s) : takeOperator s = ([], s) := by
  unfold takeOperator
  split
  · exact absurd (h '>' (by simp)) (by decide)
  · exact absurd (h '<' (by simp)) (by decide)
  · exact absurd (h '<' (by simp)) (by decide)
  · rfl

theorem takeOperator_fst (s : Text) : (takeOperator s).1 = [] ∨ (takeOperator s).1 ∈ symbols := by
  unfold takeOperator
  split
  · exact Or.inr List.mem_cons_self
  · exact Or.inr (List.mem_cons_of_mem _ List.mem_cons_self)
  · exact Or.inr (List.mem_cons_of_mem _ (List.mem_cons_of_mem _ List.mem_cons_self))
  · exact Or.inl rfl

/-! ### The first piece -/

theorem noAngle_head (s : Text) : NoAngle (head s) :=
  (noAngle_run s).of_subset fun _ hc => Text.mem_of_mem_dropTrailing hc

theorem getLast_head (s : Text) : (head s).getLast? ≠ some '-' := by
  intro h
  have := Text.getLast_dropTrailing (· == '-') (run s) '-' h
  exact absurd this (by decide)

theorem dropTrailing_dash {l : Text} (hdash : l.getLast? ≠ some '-') :
    Text.dropTrailing (· == '-') l = l := by
  refine Text.dropTrailing_of_getLast fun c hc => ?_
  rw [beq_eq_false_iff_ne]
  rintro rfl
  exact hdash hc

/-- The first piece goes as far as a symbol. -/
theorem head_append {l op : Text} (hl : NoAngle l) (hdash : l.getLast? ≠ some '-')
    (hop : op ∈ symbols) (r : Text) : head (l ++ (op ++ r)) = l := by
  simp only [symbols, List.mem_cons, List.not_mem_nil, or_false] at hop
  rcases hop with rfl | rfl | rfl
  · -- the dash of the symbol is in the run, and dropped from its end
    have hrun : run (l ++ ("->".toList ++ r)) = l ++ ['-'] := by
      have := run_append_cons (l := l ++ ['-']) (c := '>')
        (noAngle_append.2 ⟨hl, by intro c hc; simp at hc; subst hc; decide⟩) (by decide) r
      rw [← this]
      simp
    rw [head, hrun, Text.dropTrailing_append_of_forall _ (by simp), dropTrailing_dash hdash]
  · have hrun : run (l ++ ("<>".toList ++ r)) = l := run_append_cons hl (by decide) ('>' :: r)
    rw [head, hrun, dropTrailing_dash hdash]
  · have hrun : run (l ++ ("<".toList ++ r)) = l := run_append_cons hl (by decide) r
    rw [head, hrun, dropTrailing_dash hdash]

/-! ### The cut -/

/-- Where nothing is left over, the cut is made as the steps have found it. -/
theorem ofTrimmed_of_takeOperator {s op r : Text} (h : takeOperator (tail s) = (op, r))
    (hr : NoAngle r) :
    ofTrimmed s = .ok { first := piece? (head s), operator := op, second := piece? r } := by
  simp only [ofTrimmed, h, run_of_noAngle hr, List.drop_length]

/-- **A text without angle brackets** is one piece, and the dashes at its end, if there
are any, are another. -/
theorem ofTrimmed_of_noAngle {s : Text} (h : NoAngle s) :
    ofTrimmed s = .ok
      { first := piece? (Text.dropTrailing (· == '-') s)
        operator := []
        second := piece? (s.reverse.takeWhile (· == '-')).reverse } := by
  have hhead : head s = Text.dropTrailing (· == '-') s := by
    rw [head, run_of_noAngle h]
  have htail : tail s = (s.reverse.takeWhile (· == '-')).reverse := by
    have hsplit := head_append_tail s
    rw [hhead] at hsplit
    exact List.append_cancel_left
      (hsplit.trans (Text.dropTrailing_append_takeWhile (· == '-') s).symm)
  have hdashes : NoAngle (s.reverse.takeWhile (· == '-')).reverse :=
    h.of_subset fun c hc =>
      List.mem_reverse.1 ((List.takeWhile_sublist _).subset (List.mem_reverse.1 hc))
  rw [← hhead]
  refine ofTrimmed_of_takeOperator ?_ hdashes
  rw [htail, takeOperator_of_noAngle hdashes]

/-- **A symbol between two texts without angle brackets** is where a text is cut, if no
dash comes before it. -/
theorem ofTrimmed_append {l op r : Text} (hl : NoAngle l) (hdash : l.getLast? ≠ some '-')
    (hop : op ∈ symbols) (hr : NoAngle r) :
    ofTrimmed (l ++ (op ++ r)) =
      .ok { first := piece? l, operator := op, second := piece? r } := by
  have hhead := head_append hl hdash hop r
  have htail : tail (l ++ (op ++ r)) = op ++ r := by
    rw [tail, hhead, List.drop_left]
  have htake : takeOperator (tail (l ++ (op ++ r))) = (op, r) := by
    rw [htail, takeOperator_append_of_noAngle hop hr]
  rw [ofTrimmed_of_takeOperator htake hr, hhead]

/-- **There are no other cuts.** -/
theorem cases_of_ofTrimmed {s : Text} {p : Pieces} (h : ofTrimmed s = .ok p) :
    NoAngle s ∨ ∃ l op r, s = l ++ (op ++ r) ∧ NoAngle l ∧ l.getLast? ≠ some '-' ∧
      op ∈ symbols ∧ NoAngle r := by
  -- what is left over after the second piece is nothing, so there is no bracket in it
  have hleft : NoAngle (takeOperator (tail s)).2 := by
    have hrun := run_append_drop (takeOperator (tail s)).2
    cases hrest : (takeOperator (tail s)).2.drop (run (takeOperator (tail s)).2).length with
    | nil =>
      rw [hrest, List.append_nil] at hrun
      rw [← hrun]
      exact noAngle_run _
    | cons c rest => simp [ofTrimmed, hrest] at h
  have hsplit : s = head s ++ ((takeOperator (tail s)).1 ++ (takeOperator (tail s)).2) := by
    rw [takeOperator_append, head_append_tail]
  rcases takeOperator_fst (tail s) with hop | hop
  · left
    rw [hsplit, hop, List.nil_append]
    exact noAngle_append.2 ⟨noAngle_head s, hleft⟩
  · exact Or.inr ⟨_, _, _, hsplit, noAngle_head s, getLast_head s, hop, hleft⟩

/-- **The pieces of a text** are those of one of the two cuts. -/
theorem cases_of_ofText {text : Text} {p : Pieces} (h : ofText text = .ok p) :
    (NoAngle (Text.trim text) ∧ p =
      { first := piece? (Text.dropTrailing (· == '-') (Text.trim text))
        operator := []
        second := piece? ((Text.trim text).reverse.takeWhile (· == '-')).reverse }) ∨
    ∃ l op r, Text.trim text = l ++ (op ++ r) ∧ NoAngle l ∧ op ∈ symbols ∧ NoAngle r ∧
      p = { first := piece? l, operator := op, second := piece? r } := by
  rw [ofText] at h
  rcases cases_of_ofTrimmed h with hs | ⟨l, op, r, heq, hl, hdash, hop, hr⟩
  · rw [ofTrimmed_of_noAngle hs] at h
    exact Or.inl ⟨hs, (Except.ok.inj h).symm⟩
  · rw [heq, ofTrimmed_append hl hdash hop hr] at h
    exact Or.inr ⟨l, op, r, heq, hl, hop, hr, (Except.ok.inj h).symm⟩

/-- The operator that is cut out is a symbol, or none. -/
theorem operator_of_ofText {text : Text} {p : Pieces} (h : ofText text = .ok p) :
    p.operator = [] ∨ p.operator ∈ symbols := by
  rcases cases_of_ofText h with ⟨-, rfl⟩ | ⟨l, op, r, -, -, hop, -, rfl⟩
  · exact Or.inl rfl
  · exact Or.inr hop

/-- **Without an operator** the second piece is made of the dashes at the end of the text. -/
theorem pieces_of_ofText {text : Text} {first second : Option Text}
    (h : ofText text = .ok ⟨first, [], second⟩) :
    NoAngle (Text.trim text) ∧
      piece? (Text.dropTrailing (· == '-') (Text.trim text)) = first ∧
      piece? ((Text.trim text).reverse.takeWhile (· == '-')).reverse = second := by
  rcases cases_of_ofText h with ⟨hs, hp⟩ | ⟨l, op, r, -, -, hop, -, hp⟩
  · obtain ⟨rfl, -, rfl⟩ := Pieces.mk.inj hp
    exact ⟨hs, rfl, rfl⟩
  · obtain ⟨-, rfl, -⟩ := Pieces.mk.inj hp
    exact absurd rfl (ne_nil_of_mem_symbols hop)

theorem eq_dash_of_mem {s : Text} {c : Char} (h : c ∈ (s.reverse.takeWhile (· == '-')).reverse) :
    c = '-' := by
  simpa using List.mem_takeWhile_imp (List.mem_reverse.1 h)

/-- Dashes are trimmed to themselves. -/
theorem piece?_eq_of_dashes {dashes : Text} (h : ∀ c ∈ dashes, c = '-') :
    piece? dashes = if dashes = [] then none else some dashes := by
  have hblank : ∀ c ∈ dashes, isBlank c = false := by
    intro c hc
    rw [h c hc]
    decide
  have htrim : Text.trim dashes = dashes :=
    Text.trim_of_ends (fun c hc => hblank c (List.mem_of_mem_head? hc)) fun c hc =>
      hblank c (List.mem_of_getLast? hc)
  rw [piece?, htrim]

/-! ### What the cut leaves over -/

/-- **What is left over** of a text after its second piece. -/
def leftover (text : Text) : Text :=
  let rest := (takeOperator (tail (Text.trim text))).2
  rest.drop (run rest).length

/-- **What is left over is quoted.** -/
theorem ofText_eq_error_iff {text : Text} {e : Rejection} :
    ofText text = .error e ↔ leftover text ≠ [] ∧ e = .unknownTerm (leftover text) := by
  rw [ofText, ofTrimmed, leftover]
  split
  · next h => simp [h]
  · next l hne => exact ⟨fun h => ⟨hne, (Except.error.inj h).symm⟩, fun h => by rw [h.2]⟩

theorem drop_run (s : Text) : s.drop (run s).length = s.dropWhile fun c => !isAngle c :=
  List.append_cancel_left ((run_append_drop s).trans List.takeWhile_append_dropWhile.symm)

/-- **A text is its pieces**, an operator between them, and what is left over, which
begins with an angle bracket. -/
theorem exists_append_leftover (text : Text) :
    ∃ l op r, Text.trim text = l ++ (op ++ (r ++ leftover text)) ∧ NoAngle l ∧
      l.getLast? ≠ some '-' ∧ (op = [] ∨ op ∈ symbols) ∧ NoAngle r ∧
      ∀ c, (leftover text).head? = some c → isAngle c = true := by
  refine ⟨head (Text.trim text), (takeOperator (tail (Text.trim text))).1,
    run (takeOperator (tail (Text.trim text))).2, ?_, noAngle_head _, getLast_head _,
    takeOperator_fst _, noAngle_run _, fun c hc => ?_⟩
  · rw [leftover, run_append_drop, takeOperator_append, head_append_tail]
  · rw [leftover, drop_run] at hc
    exact isAngle_of_head c hc

end Timespan.Pieces
