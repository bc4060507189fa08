import Timespan.Proofs.Expression.Pattern

/-!
# The cut in closed form

What the cut of a text comes to can be said by looking at the text alone
(`Pieces.cut_in_closed_form`):

* a trimmed text without angle brackets is what stands before the dashes at its end, and the
  dashes (`Pieces.TrailingDashes`);
* a text with a symbol in it, no angle bracket on either side of it and no dash before it, is
  cut there (`Pieces.CutAt`). There is no other such place (`Pieces.CutAt.unique`);
* every other text is refused, and what is quoted begins at its first angle bracket that does
  not belong to the operator (`Pieces.IsLeftover`).

The operator of the third case is the one that follows the longest beginning of the text that
could be a first piece, and there may be none. That the steps of the cut find this beginning
and this operator are `Pieces.isFirst_head` and `Pieces.isOperator_takeOperator`.
-/

namespace Timespan.Pieces

variable {s l op r l' op' r' : Text}

/-! ### The three cases -/

/-- **The dashes at the end** of a text, all of them. -/
structure TrailingDashes (s u dashes : Text) : Prop where
  /-- They are its end. -/
  eq_append : s = u ++ dashes
  /-- They are dashes. -/
  eq_dash : ∀ c ∈ dashes, c = '-'
  /-- No dash comes before them. -/
  getLast : u.getLast? ≠ some '-'

/-- **A place for a cut**: a symbol, with no angle bracket on either side and no dash before
it. -/
structure CutAt (s l op r : Text) : Prop where
  /-- The symbol stands between two parts of the text. -/
  eq_append : s = l ++ (op ++ r)
  /-- The part before it has no angle bracket. -/
  noAngle_left : NoAngle l
  /-- It does not end in a dash. -/
  getLast : l.getLast? ≠ some '-'
  /-- The symbol is one of the three. -/
  symbol : op ∈ symbols
  /-- The part after it has no angle bracket. -/
  noAngle_right : NoAngle r

/-- **What could be a first piece**: the longest beginning of a text that has no angle bracket
and does not end in a dash. -/
structure IsFirst (s l : Text) : Prop where
  /-- It is a beginning. -/
  isPrefix : l <+: s
  /-- It has no angle bracket. -/
  noAngle : NoAngle l
  /-- It does not end in a dash. -/
  getLast : l.getLast? ≠ some '-'
  /-- No such beginning is longer. -/
  longest : ∀ l', l' <+: s → NoAngle l' → l'.getLast? ≠ some '-' → l'.length ≤ l.length

/-- **The operator with which a text begins**: the longest symbol, or nothing. -/
structure IsOperator (s op : Text) : Prop where
  /-- The text begins with it. -/
  isPrefix : op <+: s
  /-- It is a symbol, if it is anything. -/
  symbol : op = [] ∨ op ∈ symbols
  /-- No symbol with which the text begins is longer. -/
  longest : ∀ op' ∈ symbols, op' <+: s → op'.length ≤ op.length

/-- **The rest of a text from an angle bracket on**, the first that does not belong to the
operator after the first piece. -/
def IsLeftover (s rest : Text) : Prop :=
  ∃ l op r, s = l ++ (op ++ (r ++ rest)) ∧ IsFirst s l ∧ IsOperator (op ++ (r ++ rest)) op ∧
    NoAngle r ∧ ∀ c ∈ rest.head?, isAngle c = true

/-! ### What the steps find -/

theorem CutAt.head_eq (h : CutAt s l op r) : head s = l := by
  rw [h.eq_append]
  exact head_append h.noAngle_left h.getLast h.symbol r

/-- **There is one place for a cut** at most. -/
theorem CutAt.unique (h : CutAt s l op r) (h' : CutAt s l' op' r') :
    l = l' ∧ op = op' ∧ r = r' := by
  obtain rfl : l = l' := h.head_eq.symm.trans h'.head_eq
  have hrest : op ++ r = op' ++ r' :=
    List.append_cancel_left (h.eq_append.symm.trans h'.eq_append)
  have htake := takeOperator_append_of_noAngle h.symbol h.noAngle_right
  rw [hrest, takeOperator_append_of_noAngle h'.symbol h'.noAngle_right] at htake
  exact ⟨rfl, (congrArg Prod.fst htake).symm, (congrArg Prod.snd htake).symm⟩

/-- **The first piece** is as long as it can be. -/
theorem isFirst_head (s : Text) : IsFirst s (head s) := by
  refine ⟨head_isPrefix s, noAngle_head s, getLast_head s, fun l hl hnoAngle hdash => ?_⟩
  have hrun : l <+: run s := by
    obtain ⟨t, rfl⟩ := hl
    rw [run, List.takeWhile_append_of_pos fun c hc => by simp [hnoAngle c hc]]
    exact List.prefix_append _ _
  rcases List.prefix_or_prefix_of_prefix hrun
    (Text.dropTrailing_isPrefix (· == '-') (run s)) with hle | ⟨d, rfl⟩
  · exact hle.length_le
  · -- more than the first piece would end in one of the dashes after it
    have hdashes : d <+: ((run s).reverse.takeWhile (· == '-')).reverse := by
      conv at hrun => rhs; rw [← Text.dropTrailing_append_takeWhile (· == '-') (run s)]
      exact (List.prefix_append_right_inj _).1 hrun
    cases hd : d.getLast? with
    | none =>
      rw [List.getLast?_eq_none_iff.1 hd, List.append_nil]
      exact Nat.le_refl _
    | some c =>
      rw [List.getLast?_append, hd, Option.some_or] at hdash
      have hc : c = '-' := eq_dash_of_mem (hdashes.subset (List.mem_of_getLast? hd))
      exact absurd (congrArg some hc) hdash

/-- **The operator** is the longest that follows. -/
theorem isOperator_takeOperator (s : Text) : IsOperator s (takeOperator s).1 := by
  refine ⟨⟨_, takeOperator_append s⟩, takeOperator_fst s, fun op hop hprefix => ?_⟩
  have hlength : ∀ op ∈ symbols, op.length ≤ 2 := by decide
  have hop' := hop
  simp only [symbols, List.mem_cons, List.not_mem_nil, or_false] at hop
  unfold takeOperator
  split
  · exact hlength op hop'
  · exact hlength op hop'
  · next rest hne =>
    rcases hop with rfl | rfl | rfl
    · simp at hprefix
    · obtain ⟨t, ht⟩ := hprefix
      exact absurd (List.cons.inj ht).2.symm (hne t)
    · exact Nat.le_refl _
  · next harrow hwindow hangle =>
    obtain ⟨t, rfl⟩ := hprefix
    rcases hop with rfl | rfl | rfl
    · exact absurd rfl (harrow t)
    · exact absurd rfl (hwindow t)
    · exact absurd rfl (hangle t)

/-- **What is left over** begins where it should. -/
theorem isLeftover_leftover (text : Text) : IsLeftover (Text.trim text) (leftover text) := by
  refine ⟨head (Text.trim text), (takeOperator (tail (Text.trim text))).1,
    run (takeOperator (tail (Text.trim text))).2, ?_, isFirst_head _, ?_, noAngle_run _, ?_⟩
  · rw [leftover, run_append_drop, takeOperator_append, head_append_tail]
  · rw [leftover, run_append_drop, takeOperator_append]
    exact isOperator_takeOperator _
  · rw [leftover, drop_run]
    exact isAngle_of_head

/-! ### The cut -/

theorem exists_trailingDashes {text : Text} (h : NoAngle (Text.trim text)) :
    ∃ u dashes, TrailingDashes (Text.trim text) u dashes ∧
      ofText text = .ok ⟨piece? u, [], if dashes = [] then none else some dashes⟩ := by
  have hdash : ∀ c ∈ ((Text.trim text).reverse.takeWhile (· == '-')).reverse, c = '-' :=
    fun c => eq_dash_of_mem
  refine ⟨Text.dropTrailing (· == '-') (Text.trim text),
    ((Text.trim text).reverse.takeWhile (· == '-')).reverse, ⟨?_, hdash, fun hlast => ?_⟩, ?_⟩
  · exact (Text.dropTrailing_append_takeWhile _ _).symm
  · exact absurd (Text.getLast_dropTrailing (· == '-') (Text.trim text) '-' hlast) (by decide)
  · rw [ofText, ofTrimmed_of_noAngle h, piece?_eq_of_dashes hdash]

theorem CutAt.ofText_eq {text : Text} (h : CutAt (Text.trim text) l op r) :
    ofText text = .ok ⟨piece? l, op, piece? r⟩ := by
  rw [ofText, h.eq_append, ofTrimmed_append h.noAngle_left h.getLast h.symbol h.noAngle_right]

theorem exists_ok_iff {text : Text} : (∃ p, ofText text = .ok p) ↔
    NoAngle (Text.trim text) ∨ ∃ l op r, CutAt (Text.trim text) l op r := by
  constructor
  · rintro ⟨p, hp⟩
    rcases cases_of_ofTrimmed hp with h | ⟨l, op, r, heq, hl, hdash, hop, hr⟩
    · exact Or.inl h
    · exact Or.inr ⟨l, op, r, heq, hl, hdash, hop, hr⟩
  · rintro (h | ⟨l, op, r, h⟩)
    · obtain ⟨u, dashes, -, hp⟩ := exists_trailingDashes h
      exact ⟨_, hp⟩
    · exact ⟨_, h.ofText_eq⟩

/-- **The cut in closed form**, case by case. It is what the pattern of an expression finds. -/
theorem cut_in_closed_form (text : Text) :
    let s := Text.trim text
    ((∃ p, ofText text = .ok p) ↔ NoAngle s ∨ ∃ l op r, CutAt s l op r) ∧
    (∀ l op r l' op' r', CutAt s l op r → CutAt s l' op' r' → l = l' ∧ op = op' ∧ r = r') ∧
    (NoAngle s → ∃ u dashes, TrailingDashes s u dashes ∧
      ofText text = .ok ⟨piece? u, [], if dashes = [] then none else some dashes⟩) ∧
    (∀ l op r, CutAt s l op r → ofText text = .ok ⟨piece? l, op, piece? r⟩) ∧
    (¬ NoAngle s → (∀ l op r, ¬ CutAt s l op r) → ∃ rest, rest ≠ [] ∧ IsLeftover s rest ∧
      ofText text = .error (.unknownTerm rest)) ∧
    ofText text = ofPattern text := by
  refine ⟨exists_ok_iff, fun _ _ _ _ _ _ => CutAt.unique, exists_trailingDashes,
    fun _ _ _ => CutAt.ofText_eq, fun hangle hcut => ?_, ofText_eq_ofPattern text⟩
  have hne : leftover text ≠ [] := by
    intro hnil
    cases hp : ofText text with
    | ok p =>
      rcases exists_ok_iff.1 ⟨p, hp⟩ with h | ⟨l, op, r, h⟩
      · exact hangle h
      · exact hcut l op r h
    | error e => exact (ofText_eq_error_iff.1 hp).1 hnil
  exact ⟨_, hne, isLeftover_leftover text, ofText_eq_error_iff.2 ⟨hne, rfl⟩⟩

/-- A dash may stand before a blank and an arrow, two before an arrow are too many, and at the
end of a text they are a piece of their own. -/
theorem cut_in_closed_form_dashes :
    (NoAngle (Text.trim " x -- ".toList) ∧
      ∃ u dashes, TrailingDashes (Text.trim " x -- ".toList) u dashes ∧
        ofText " x -- ".toList =
          .ok ⟨piece? u, [], if dashes = [] then none else some dashes⟩) ∧
    (CutAt (Text.trim "a - -> - 2d ".toList) "a - ".toList "->".toList " - 2d".toList ∧
      ofText "a - -> - 2d ".toList =
        .ok ⟨piece? "a - ".toList, "->".toList, piece? " - 2d".toList⟩) ∧
    ¬ NoAngle (Text.trim "a--->b".toList) ∧ (∀ l op r, ¬ CutAt (Text.trim "a--->b".toList) l op r) ∧
      ∃ rest, rest ≠ [] ∧ IsLeftover (Text.trim "a--->b".toList) rest ∧
        ofText "a--->b".toList = .error (.unknownTerm rest) := by
  obtain ⟨-, -, hdashes, -⟩ := cut_in_closed_form " x -- ".toList
  obtain ⟨-, -, -, hcut, -⟩ := cut_in_closed_form "a - -> - 2d ".toList
  obtain ⟨-, -, -, hcuts, hleft, -⟩ := cut_in_closed_form "a--->b".toList
  have hnoAngle : NoAngle (Text.trim " x -- ".toList) := noAngle_of_all (by decide +kernel)
  have hat : CutAt (Text.trim "a - -> - 2d ".toList) "a - ".toList "->".toList " - 2d".toList :=
    ⟨by decide +kernel, noAngle_of_all (by decide), by decide, sequence_mem_symbols,
      noAngle_of_all (by decide)⟩
  have hleftover : leftover "a--->b".toList ≠ [] := by decide +kernel
  have herror : ofText "a--->b".toList = .error (.unknownTerm (leftover "a--->b".toList)) :=
    ofText_eq_error_iff.2 ⟨hleftover, rfl⟩
  have hangle : ¬ NoAngle (Text.trim "a--->b".toList) := fun h =>
    absurd (h '>' (by decide +kernel)) (by decide)
  have hnone : ∀ l op r, ¬ CutAt (Text.trim "a--->b".toList) l op r := fun l op r h =>
    absurd (herror.symm.trans (hcuts l op r h)) (by simp)
  exact ⟨⟨hnoAngle, hdashes hnoAngle⟩, ⟨hat, hcut _ _ _ hat⟩, hangle, hnone, hleft hangle hnone⟩

end Timespan.Pieces
