import Mathlib.Logic.Relation
import Timespan.Proofs.Expression.Compound
import Timespan.Proofs.Text.Recase

/-!
# Layout and case

Blanks may stand anywhere in an expression but within an operator, and letters may be
written in either case. The statement is about edits (`Text.Edit`): one of them puts in a
blank, takes one out, or recases a letter, and what a text means is kept by one edit
(`Expression.evaluate_of_edit`) and so by any number of them
(`Expression.evaluate_of_edits`).

An edit takes place on one side of the operator (`exists_append_of_place`), as it neither
touches the characters of the operator nor comes between them. So it leaves the operator
where it is and turns an operand into one with the same clean form
(`Expression.exists_append_of_edit`), which is read as the same term, and to exchange operands
for such operands is to keep the span (`Expression.evaluate_of_akin`).
-/

namespace Timespan

open Pieces

variable {s s' t t' l r u v : Text} {tz : Option Text} {origin : Int} {range : Span}

/-! ### Edits -/

/-- **An edit of the layout or of the case** of a text, at one place. -/
inductive Text.Edit : Text → Text → Prop
  /-- A blank is put in, but not into an operator. -/
  | insert (l r : Text) {c : Char} (hc : isBlank c = true)
      (hin : ¬ ((l.getLast? = some '-' ∨ l.getLast? = some '<') ∧ r.head? = some '>')) :
      Edit (l ++ r) (l ++ c :: r)
  /-- A blank is taken out. -/
  | delete (l r : Text) {c : Char} (hc : isBlank c = true) : Edit (l ++ c :: r) (l ++ r)
  /-- A letter is put into the other case. -/
  | recase (l r : Text) {c c' : Char} (hc : c.isAlpha = true) (h : c'.toLower = c.toLower) :
      Edit (l ++ c :: r) (l ++ c' :: r)

/-- A text can stand for another one within an operand. -/
structure Akin (s s' : Text) : Prop where
  /-- They have one clean form. -/
  clean_eq : Text.clean s' = Text.clean s
  /-- It brings in no angle bracket. -/
  noAngle : NoAngle s → NoAngle s'

theorem Akin.refl (s : Text) : Akin s s :=
  ⟨rfl, id⟩

theorem Akin.reads {x : Term} (h : Akin s s') (hs : Term.Reads s x) : Term.Reads s' x := by
  rw [Term.Reads, h.clean_eq]
  exact hs

/-! ### What an edit does to an operand -/

theorem isAngle_toLower (c : Char) : isAngle c.toLower = isAngle c :=
  apply_toLower (by decide +kernel) c

theorem akin_insert (l r : Text) {c : Char} (hc : isBlank c = true) :
    Akin (l ++ r) (l ++ c :: r) where
  clean_eq := by
    simp [Text.clean, Text.squeeze, hc]
  noAngle := by
    intro h
    rw [noAngle_append] at h ⊢
    exact ⟨h.1, List.forall_mem_cons.2 ⟨isAngle_of_isBlank hc, h.2⟩⟩

theorem akin_delete (l r : Text) {c : Char} (hc : isBlank c = true) :
    Akin (l ++ c :: r) (l ++ r) where
  clean_eq := (akin_insert l r hc).clean_eq.symm
  noAngle := fun h => h.of_subset (by simp)

theorem akin_recase (l r : Text) {c c' : Char} (h : c'.toLower = c.toLower) :
    Akin (l ++ c :: r) (l ++ c' :: r) where
  clean_eq := Text.clean_congr (by simp [h])
  noAngle := by
    intro hangle
    rw [noAngle_append] at hangle ⊢
    obtain ⟨hl, hr⟩ := hangle
    obtain ⟨hc, hr⟩ := List.forall_mem_cons.1 hr
    refine ⟨hl, List.forall_mem_cons.2 ⟨?_, hr⟩⟩
    rw [← isAngle_toLower, h, isAngle_toLower, hc]

/-- A character of a class that has none of the characters of operators. -/
theorem not_mem_of_class {p : Char → Bool} {c : Char} (hc : p c = true)
    (hp : p '-' = false ∧ p '<' = false ∧ p '>' = false) : '-' ∉ [c] ∧ '<' ∉ [c] ∧ '>' ∉ [c] := by
  have hne : ∀ {d}, p d = false → d ∉ [c] := by
    intro d hd hmem
    obtain rfl := List.mem_singleton.1 hmem
    exact absurd hc (by simp [hd])
  exact ⟨hne hp.1, hne hp.2.1, hne hp.2.2⟩

/-- **An edit puts a text in the place of another** that has no character of an operator; or
of nothing, but then not within an operator. -/
theorem Text.Edit.exists_place (h : Edit t t') :
    ∃ l u v r, t = l ++ (u ++ r) ∧ t' = l ++ (v ++ r) ∧ ('-' ∉ u ∧ '<' ∉ u ∧ '>' ∉ u) ∧
      (u = [] → ¬ ((l.getLast? = some '-' ∨ l.getLast? = some '<') ∧ r.head? = some '>')) ∧
      ∀ a b, Akin (a ++ (u ++ b)) (a ++ (v ++ b)) := by
  cases h with
  | @insert l r c hc hin =>
    exact ⟨l, [], [c], r, rfl, rfl, by simp, fun _ => hin, fun a b => akin_insert a b hc⟩
  | @delete l r c hc =>
    exact ⟨l, [c], [], r, rfl, rfl, not_mem_of_class hc (by decide), by simp,
      fun a b => akin_delete a b hc⟩
  | @recase l r c c' hc h =>
    exact ⟨l, [c], [c'], r, rfl, rfl, not_mem_of_class hc (by decide), by simp,
      fun a b => akin_recase a b h⟩

/-! ### Places -/

/-- **A place away from two characters** that stand side by side lies before or after
them. -/
theorem exists_append_of_place {a b : Text} {x y : Char}
    (h : l ++ (u ++ r) = a ++ x :: y :: b) (hx : x ∉ u) (hy : y ∉ u)
    (hin : u = [] → ¬ (l.getLast? = some x ∧ r.head? = some y)) :
    (∃ m, a = l ++ (u ++ m) ∧ r = m ++ x :: y :: b) ∨
      ∃ m, l = a ++ x :: y :: m ∧ b = m ++ (u ++ r) := by
  rcases List.append_eq_append_iff.1 h with ⟨m, ha, hur⟩ | ⟨m, hl, hxy⟩
  · rcases List.append_eq_append_iff.1 hur with ⟨m', hm, hr⟩ | ⟨m', hu, hxy⟩
    · exact Or.inl ⟨m', by rw [ha, hm], hr⟩
    · cases m' with
      | nil => exact Or.inl ⟨[], by simp [ha, hu], by simpa using hxy.symm⟩
      | cons c m' =>
        obtain ⟨rfl, -⟩ := List.cons.inj hxy
        exact absurd (by simp [hu]) hx
  · -- how many characters of the two come before the place
    match m with
    | [] =>
      cases u with
      | nil => exact Or.inl ⟨[], by simp [hl], by simpa using hxy.symm⟩
      | cons c u =>
        obtain ⟨rfl, -⟩ := List.cons.inj hxy
        exact absurd List.mem_cons_self hx
    | [c] =>
      obtain ⟨rfl, hyb⟩ := List.cons.inj hxy
      cases u with
      | nil =>
        obtain rfl : y :: b = r := hyb
        exact absurd ⟨by simp [hl], rfl⟩ (hin rfl)
      | cons d u =>
        obtain ⟨rfl, -⟩ := List.cons.inj hyb
        exact absurd List.mem_cons_self hy
    | c :: d :: m =>
      obtain ⟨rfl, hyb⟩ := List.cons.inj hxy
      obtain ⟨rfl, hb⟩ := List.cons.inj hyb
      exact Or.inr ⟨m, hl, hb⟩

namespace Expression

/-! ### Texts by their operands -/

/-- A text that says something and has no angle bracket is plain. -/
theorem Plain.of_reads {x : Term} (hs : NoAngle s) (h : Term.Reads s x) : Plain s where
  trim_ne_nil := trim_ne_nil_of_reads h
  noAngle := hs
  getLast_ne_dash := (Term.reads_trim_iff.2 h).getLast_ne_dash
  ne_placeholder := by
    rintro rfl
    exact not_reads_placeholder x h

theorem noAngle_of_blank {b : Text} (hb : ∀ c ∈ b, isBlank c = true) : NoAngle b :=
  fun c hc => isAngle_of_isBlank (hb c hc)

/-- **Two pieces** are what stands before and after the operator, blanks included. -/
theorem exists_operands_of_ofText {op a b : Text} {x y : Term} (hne : op ≠ [])
    (hp : ofText t = .ok ⟨some a, op, some b⟩) (hx : Term.Reads a x) (hy : Term.Reads b y) :
    ∃ l r, t = l ++ (op ++ r) ∧ NoAngle l ∧ NoAngle r ∧ Term.Reads l x ∧ Term.Reads r y := by
  obtain ⟨l, r, htrim, hl, hr, ha, hb⟩ := exists_append_of_ofText hne hp
  obtain ⟨blank, blank', hsplit, hblank, hblank'⟩ := Text.exists_blanks t
  have hx := exists_piece_iff.1 ⟨a, ha, hx⟩
  have hy := exists_piece_iff.1 ⟨b, hb, hy⟩
  refine ⟨blank ++ l, r ++ blank', by rw [hsplit, htrim]; simp,
    noAngle_append.2 ⟨noAngle_of_blank hblank, hl⟩, noAngle_append.2 ⟨hr, noAngle_of_blank hblank'⟩,
    ?_, ?_⟩
  · rwa [← Term.reads_trim_iff, Text.trim_blanks_append hblank, Term.reads_trim_iff]
  · rwa [← Term.reads_trim_iff, Text.trim_append_blanks hblank', Term.reads_trim_iff]

/-- **A text that has a span** is one operand, or it has an operator between two. -/
theorem operands_of_evaluate (h : evaluate (some t) tz origin = .ok range) :
    (NoAngle t ∧ ∃ x, Term.Reads t x ∧ x.span tz origin = .ok range) ∨
      ∃ op ∈ ["->".toList, "<>".toList], ∃ l r x y r₁ r₂, t = l ++ (op ++ r) ∧ NoAngle l ∧
        NoAngle r ∧ Term.Reads l x ∧ Term.Reads r y ∧ x.span tz origin = .ok r₁ ∧
        y.span tz origin = .ok r₂ := by
  obtain ⟨p, hp, h⟩ := exists_ofText_of_evaluate h
  rcases evaluatePieces_eq_ok_iff.1 h with ⟨a, x, rfl, hx, hspan⟩ |
    ⟨a, b, x, y, r₁, r₂, rfl, hx, hy, h₁, h₂, -⟩ |
    ⟨a, b, x, y, d, r₁, r₂, rfl, hx, hy, h₁, h₂, -, -⟩
  · left
    obtain ⟨htrim, -, ha⟩ := ofText_eq_single_iff.1 hp
    obtain ⟨blank, blank', hsplit, hblank, hblank'⟩ := Text.exists_blanks t
    refine ⟨?_, x, Term.reads_trim_iff.1 (exists_piece_iff.1 ⟨a, ha, hx⟩), hspan⟩
    rw [hsplit]
    exact noAngle_append.2 ⟨noAngle_of_blank hblank,
      noAngle_append.2 ⟨htrim, noAngle_of_blank hblank'⟩⟩
  · right
    obtain ⟨l, r, hsplit, hl, hr, hx, hy⟩ := exists_operands_of_ofText (by decide) hp hx hy
    exact ⟨_, List.mem_cons_self, l, r, x, y, r₁, r₂, hsplit, hl, hr, hx, hy, h₁, h₂⟩
  · right
    obtain ⟨l, r, hsplit, hl, hr, hx, hy⟩ := exists_operands_of_ofText (by decide) hp hx hy
    exact ⟨_, List.mem_cons_of_mem _ List.mem_cons_self, l, r, x, y, r₁, r₂, hsplit, hl, hr, hx,
      hy, h₁, h₂⟩

/-- **Operands for operands.** A text keeps its span if its one operand is replaced by an akin
one, or the two operands beside its operator are. -/
theorem evaluate_of_akin (hspan : evaluate (some t) tz origin = .ok range)
    (hsingle : NoAngle t → Akin t t')
    (hcompound : ∀ op ∈ ["->".toList, "<>".toList], ∀ l r, t = l ++ (op ++ r) →
      ∃ l' r', t' = l' ++ (op ++ r') ∧ Akin l l' ∧ Akin r r') :
    evaluate (some t') tz origin = .ok range := by
  rcases operands_of_evaluate hspan with ⟨hangle, x, hx, hx'⟩ |
    ⟨op, hop, l, r, x, y, r₁, r₂, hsplit, hl, hr, hx, hy, h₁, h₂⟩
  · have hakin := hsingle hangle
    have hread := hakin.reads hx
    exact (Plain.of_reads (hakin.noAngle hangle) hread).evaluate_eq_ok_iff.2 ⟨x, hread, hx'⟩
  · obtain ⟨l', r', hsplit', hl', hr'⟩ := hcompound op hop l r hsplit
    have hsymbol : op ∈ symbols := by
      simp only [List.mem_cons, List.not_mem_nil, or_false] at hop
      rcases hop with rfl | rfl
      · exact sequence_mem_symbols
      · exact window_mem_symbols
    -- the operator is given the same two operands
    have hbefore := evaluate_append_of_spans (Plain.of_reads hl hx) (Plain.of_reads hr hy) hsymbol
      hx hy h₁ h₂
    have hafter := evaluate_append_of_spans (Plain.of_reads (hl'.noAngle hl) (hl'.reads hx))
      (Plain.of_reads (hr'.noAngle hr) (hr'.reads hy)) hsymbol (hl'.reads hx) (hr'.reads hy) h₁ h₂
    rw [hsplit', hafter, ← hbefore, ← hsplit, hspan]

/-! ### Edits of expressions -/

/-- **An edit leaves the operator where it is** and changes an operand beside it. -/
theorem exists_append_of_edit {op : Text} (h : Text.Edit t t')
    (hop : op ∈ ["->".toList, "<>".toList]) (hsplit : t = l ++ (op ++ r)) :
    ∃ l' r', t' = l' ++ (op ++ r') ∧ Akin l l' ∧ Akin r r' := by
  obtain ⟨a, u, v, b, rfl, rfl, ⟨hdash, hopen, hclose⟩, hin, hakin⟩ := h.exists_place
  -- the operator is a dash or a bracket, and a bracket
  obtain ⟨x, hx, rfl⟩ : ∃ x, (x = '-' ∨ x = '<') ∧ op = [x, '>'] := by
    simp only [List.mem_cons, List.not_mem_nil, or_false] at hop
    rcases hop with rfl | rfl
    · exact ⟨'-', Or.inl rfl, rfl⟩
    · exact ⟨'<', Or.inr rfl, rfl⟩
  have hxu : x ∉ u := by
    rcases hx with rfl | rfl
    · exact hdash
    · exact hopen
  have hplace := exists_append_of_place hsplit hxu hclose fun hnil hinside => by
    refine hin hnil ⟨?_, hinside.2⟩
    rw [hinside.1]
    simpa using hx
  rcases hplace with ⟨m, rfl, rfl⟩ | ⟨m, rfl, rfl⟩
  · exact ⟨a ++ (v ++ m), r, by simp, hakin a m, Akin.refl r⟩
  · exact ⟨l, m ++ (v ++ b), by simp, Akin.refl l, hakin m b⟩

/-- **An edit** of a text that has a span changes nothing. -/
theorem evaluate_of_edit (h : Text.Edit t t') (hspan : evaluate (some t) tz origin = .ok range) :
    evaluate (some t') tz origin = .ok range := by
  refine evaluate_of_akin hspan (fun _ => ?_) fun op hop l r hsplit =>
    exists_append_of_edit h hop hsplit
  obtain ⟨l, u, v, r, rfl, rfl, -, -, hakin⟩ := h.exists_place
  exact hakin l r

/-- **Layout and case do not matter.** However many edits are made to a text that has a span,
it keeps its span. -/
theorem evaluate_of_edits (h : Relation.ReflTransGen Text.Edit t t')
    (hspan : evaluate (some t) tz origin = .ok range) :
    evaluate (some t') tz origin = .ok range := by
  induction h with
  | refl => exact hspan
  | tail _ hedit ih => exact evaluate_of_edit hedit ih

/-- A blank goes from a word, a capital comes into it, and a sign gets away from its number. -/
theorem evaluate_of_edits_kathmandu :
    let tz := some "Asia/Kathmandu".toList
    Relation.ReflTransGen Text.Edit "to day->-2d".toList "Today->- 2d".toList ∧
      evaluate (some "to day->-2d".toList) tz 1743435000123 =
        .ok ⟨1743358500000, 1743435000123⟩ ∧
      evaluate (some "Today->- 2d".toList) tz 1743435000123 =
        .ok ⟨1743358500000, 1743435000123⟩ := by
  intro tz
  have hdelete : Text.Edit "to day->-2d".toList "today->-2d".toList :=
    .delete "to".toList "day->-2d".toList (c := ' ') (by decide)
  have hrecase : Text.Edit "today->-2d".toList "Today->-2d".toList :=
    .recase [] "oday->-2d".toList (by decide) (by decide)
  have hinsert : Text.Edit "Today->-2d".toList "Today->- 2d".toList :=
    .insert "Today->-".toList "2d".toList (c := ' ') (by decide) (by decide)
  have hedits : Relation.ReflTransGen Text.Edit "to day->-2d".toList "Today->- 2d".toList :=
    ((Relation.ReflTransGen.single hdelete).tail hrecase).tail hinsert
  have hspan : evaluate (some "to day->-2d".toList) tz 1743435000123 =
      .ok ⟨1743358500000, 1743435000123⟩ :=
    eq_ok_of_toOption (by decide +kernel)
  exact ⟨hedits, hspan, evaluate_of_edits hedits hspan⟩

end Expression

end Timespan
