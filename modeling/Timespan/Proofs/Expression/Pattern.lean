import Timespan.Proofs.Expression.Cut
import Timespan.Proofs.Text.Pattern

/-!
# The cut as a pattern

The cut can be written down as one pattern, whose three numbered parts are the first piece, the
operator and the second piece:

`\s*([^<>]*[^<>-])?\s*(->|<>|<)?\s*([^<>]+)?\s*`

Each of its parts may be missing, so the pattern always finds something, and which of the ways
to take a text is found first is a matter of how it goes back. It does so in one place. The
first part must not end in a dash and goes back over the dashes before an angle bracket
(`Pieces.first?_firstPart`), where it leaves one of them to the operator and others to the
third part. It never goes back over blanks: a trimmed text begins with none, and what the first
part leaves begins with a dash or an angle bracket (`Pieces.head_tail`). So the pattern finds
what the steps of the cut find (`Pieces.exists_first?_pattern`), and the cut is what it finds
(`Pieces.ofText_eq_ofPattern`).
-/

namespace Timespan.Pieces

open Pattern

variable {s : Text}

/-! ### The pattern -/

/-- Blanks, as many as there are. -/
def blanks : Pattern :=
  many isBlank

/-- The first piece: no angle brackets, and no dash at the end. -/
def firstPart : Pattern :=
  seq (many fun c => !isAngle c) (char fun c => !isAngle c && !(c == '-'))

/-- The operator. -/
def operatorPart : Pattern :=
  or (word "->".toList) (or (word "<>".toList) (word "<".toList))

/-- The second piece: no angle brackets. -/
def secondPart : Pattern :=
  several fun c => !isAngle c

/-- **The pattern of an expression.** -/
def pattern : Pattern :=
  seq blanks (seq (opt (group 1 firstPart)) (seq blanks (seq (opt (group 2 operatorPart))
    (seq blanks (seq (opt (group 3 secondPart)) blanks)))))

/-- The pieces of a text in which the pattern has found something. -/
def ofMatch (m : Match) : Except Rejection Pieces :=
  if m.rest = [] then
    .ok
      { first := (m.group? 1).bind piece?
        operator := (m.group? 2).getD []
        second := (m.group? 3).bind piece? }
  else .error (.unknownTerm (Text.trim m.rest))

/-- **The cut by the pattern.** -/
def ofPattern (text : Text) : Except Rejection Pieces :=
  match pattern.first? (Text.trim text) with
  | none => .error (.unknownTerm (Text.trim text))
  | some m => ofMatch m

/-! ### Its parts -/

theorem first?_firstPart (s : Text) :
    firstPart.first? s = if head s = [] then none else some ⟨head s, [], tail s⟩ :=
  first?_seq_many_char _ _ s

theorem first?_operatorPart (s : Text) :
    operatorPart.first? s = if (takeOperator s).1 = [] then none
      else some ⟨(takeOperator s).1, [], (takeOperator s).2⟩ := by
  rw [operatorPart, first?_or, first?_or]
  unfold takeOperator
  split
  · next rest =>
    have hfound := first?_word_append "->".toList rest
    rw [show '-' :: '>' :: rest = "->".toList ++ rest from rfl, hfound]
    rfl
  · next rest =>
    have hfound := first?_word_append "<>".toList rest
    rw [first?_word_of_not_isPrefix (w := "->".toList) (by simp),
      show '<' :: '>' :: rest = "<>".toList ++ rest from rfl, hfound]
    rfl
  · next rest hne =>
    have hwindow : ¬ "<>".toList <+: '<' :: rest := by
      rintro ⟨t, ht⟩
      exact hne t (List.cons.inj ht).2.symm
    rw [first?_word_of_not_isPrefix (w := "->".toList) (by simp),
      first?_word_of_not_isPrefix hwindow]
    exact first?_word_append "<".toList rest
  · next harrow hwindow hangle =>
    rw [first?_word_of_not_isPrefix, first?_word_of_not_isPrefix, first?_word_of_not_isPrefix]
    · rfl
    · rintro ⟨t, rfl⟩
      exact hangle t rfl
    · rintro ⟨t, rfl⟩
      exact hwindow t rfl
    · rintro ⟨t, rfl⟩
      exact harrow t rfl

theorem first?_secondPart (s : Text) :
    secondPart.first? s = if run s = [] then none
      else some ⟨run s, [], s.dropWhile fun c => !isAngle c⟩ :=
  first?_several _ s

/-! ### Blanks -/

/-- What the first piece leaves begins with a dash or an angle bracket. -/
theorem head_tail (s : Text) : ∀ c ∈ (tail s).head?, c = '-' ∨ isAngle c = true := by
  have htail : tail s = ((run s).reverse.takeWhile (· == '-')).reverse ++
      s.dropWhile fun c => !isAngle c := by
    have hsplit := (head_append_tail s).trans
      (List.takeWhile_append_dropWhile (p := fun c => !isAngle c) (l := s)).symm
    have hrun := Text.dropTrailing_append_takeWhile (· == '-') (run s)
    rw [← run, ← hrun, List.append_assoc] at hsplit
    exact List.append_cancel_left hsplit
  intro c hc
  rw [htail, List.head?_append, Option.mem_def, Option.or_eq_some_iff] at hc
  rcases hc with hdash | ⟨-, hangle⟩
  · exact Or.inl (eq_dash_of_mem (List.mem_of_mem_head? hdash))
  · exact Or.inr (isAngle_of_head c hangle)

/-- So it does not begin with a blank. -/
theorem dropWhile_tail (s : Text) : (tail s).dropWhile isBlank = tail s := by
  refine Text.dropWhile_of_head fun c hc => ?_
  rcases head_tail s c hc with rfl | hangle
  · decide
  · exact isBlank_of_isAngle hangle

/-- Blanks do not change where the next angle bracket is. -/
theorem dropWhile_dropWhile_blank (s : Text) :
    (s.dropWhile isBlank).dropWhile (fun c => !isAngle c) = s.dropWhile fun c => !isAngle c := by
  conv => rhs; rw [← List.takeWhile_append_dropWhile (p := isBlank) (l := s)]
  rw [List.dropWhile_append_of_pos]
  intro c hc
  simp [isAngle_of_isBlank (List.mem_takeWhile_imp hc)]

/-- Blanks at the beginning of a piece are trimmed away with the others. -/
theorem piece?_run_dropWhile_blank (s : Text) :
    piece? (run (s.dropWhile isBlank)) = piece? (run s) := by
  have hrun : run s = s.takeWhile isBlank ++ run (s.dropWhile isBlank) := by
    conv => lhs; rw [← List.takeWhile_append_dropWhile (p := isBlank) (l := s)]
    rw [run, List.takeWhile_append_of_pos, run]
    intro c hc
    simp [isAngle_of_isBlank (List.mem_takeWhile_imp hc)]
  rw [piece?, piece?, hrun, Text.trim_blanks_append fun c hc => List.mem_takeWhile_imp hc]

/-! ### What is found -/

/-- **The pattern finds** what the steps of the cut find, in a text that does not begin with a
blank. -/
theorem exists_first?_pattern (hs : ∀ c ∈ s.head?, isBlank c = false) :
    ∃ m, pattern.first? s = some m ∧
      m.groups = kept 1 (head s) ++ (kept 2 (takeOperator (tail s)).1 ++
        kept 3 (run ((takeOperator (tail s)).2.dropWhile isBlank))) ∧
      m.rest = (takeOperator (tail s)).2.dropWhile fun c => !isAngle c := by
  have hfirst : (opt (group 1 firstPart)).first? (s.dropWhile isBlank) =
      some ⟨head s, kept 1 (head s), tail s⟩ := by
    rw [Text.dropWhile_of_head hs]
    refine first?_opt_group (first?_firstPart s) fun hnil => ?_
    rw [tail, hnil]
    rfl
  have hoperator : (opt (group 2 operatorPart)).first? ((tail s).dropWhile isBlank) =
      some ⟨(takeOperator (tail s)).1, kept 2 (takeOperator (tail s)).1,
        (takeOperator (tail s)).2⟩ := by
    rw [dropWhile_tail]
    refine first?_opt_group (first?_operatorPart _) fun hnil => ?_
    have := takeOperator_append (tail s)
    rwa [hnil] at this
  have hsecond : (opt (group 3 secondPart)).first?
      ((takeOperator (tail s)).2.dropWhile isBlank) =
        some ⟨run ((takeOperator (tail s)).2.dropWhile isBlank),
          kept 3 (run ((takeOperator (tail s)).2.dropWhile isBlank)),
          (takeOperator (tail s)).2.dropWhile fun c => !isAngle c⟩ := by
    rw [← dropWhile_dropWhile_blank]
    refine first?_opt_group (first?_secondPart _) fun hnil => ?_
    have := List.takeWhile_append_dropWhile (p := fun c => !isAngle c)
      (l := (takeOperator (tail s)).2.dropWhile isBlank)
    rw [run] at hnil
    rwa [hnil] at this
  -- none of the parts has to go back for those after it
  refine ⟨_, first?_seq (first?_many _ _) (first?_seq hfirst (first?_seq (first?_many _ _)
    (first?_seq hoperator (first?_seq (first?_many _ _)
      (first?_seq hsecond (first?_many _ _)))))), ?_, ?_⟩
  · simp [Match.append]
  · exact Text.dropWhile_of_head fun c hc => isBlank_of_isAngle (isAngle_of_head c hc)

/-- What is left over does not begin or end with a blank. -/
theorem trim_leftover (text : Text) : Text.trim (leftover text) = leftover text := by
  obtain ⟨l, op, r, htext, -, -, -, -, hangle⟩ := exists_append_leftover text
  refine Text.trim_of_ends (fun c hc => isBlank_of_isAngle (hangle c hc)) fun c hc => ?_
  refine Text.getLast_trim text c ?_
  rw [htext]
  simp [List.getLast?_append, Option.mem_def.1 hc]

/-- A part that has taken nothing is no piece. -/
theorem bind_piece? (s : Text) : (if s ≠ [] then some s else none).bind piece? = piece? s := by
  by_cases hs : s = []
  · subst hs
    rfl
  · rw [if_pos hs]
    rfl

/-- **The cut is what the pattern finds.** -/
theorem ofText_eq_ofPattern (text : Text) : ofText text = ofPattern text := by
  obtain ⟨m, hm, hgroups, hrest⟩ := exists_first?_pattern (Text.head_trim text)
  have hleftover : m.rest = leftover text := by
    rw [hrest, leftover, drop_run]
  simp only [ofPattern, hm, ofMatch, hleftover]
  by_cases hnil : leftover text = []
  · have hfirst : (m.group? 1).bind piece? = piece? (head (Text.trim text)) := by
      rw [← bind_piece?, Match.group?, hgroups]
      simp [lookup_kept_append, lookup_kept]
    have hoperator : (m.group? 2).getD [] = (takeOperator (tail (Text.trim text))).1 := by
      rw [Match.group?, hgroups]
      simp [lookup_kept_append, lookup_kept, apply_ite (Option.getD · [])]
    have hsecond : (m.group? 3).bind piece? =
        piece? (run (takeOperator (tail (Text.trim text))).2) := by
      rw [← piece?_run_dropWhile_blank, ← bind_piece?, Match.group?, hgroups]
      simp [lookup_kept_append, lookup_kept]
    rw [if_pos hnil, hfirst, hoperator, hsecond, ofText, ofTrimmed]
    simp only [leftover] at hnil
    simp only [hnil]
  · rw [if_neg hnil, trim_leftover]
    exact ofText_eq_error_iff.2 ⟨hnil, rfl⟩

end Timespan.Pieces
