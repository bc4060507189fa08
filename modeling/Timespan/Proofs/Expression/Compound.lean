import Timespan.Proofs.Expression.Language

/-!
# Compound expressions

A compound expression consists of two texts and an operator, and each of the texts is an
expression of its own. This file says that the meaning of the compound is made of the
meanings of the two, seen from the same origin.

It holds for all texts that do not interfere with the operator (`Expression.Plain`), also
for those that mean nothing: a complaint about one of them is the complaint about the
compound, where the left one comes first (`Expression.evaluate_append`). What is left is
how the operators put two spans together (`Expression.evaluate_compound`).
-/

namespace Timespan.Expression

open Pieces

variable {a b : Text} {tz : Option Text} {origin : Int}

/-- **A plain text** can stand on either side of an operator. -/
structure Plain (a : Text) : Prop where
  /-- It is not blank. -/
  trim_ne_nil : Text.trim a ≠ []
  /-- It has no angle bracket. -/
  noAngle : NoAngle a
  /-- It does not end in a dash, blanks aside. -/
  getLast_ne_dash : (Text.trim a).getLast? ≠ some '-'
  /-- It does not stand for no selection. -/
  ne_placeholder : a ≠ placeholder

/-! ### The pieces of a compound -/

theorem noAngle_trim (h : NoAngle a) : NoAngle (Text.trim a) :=
  h.of_subset fun _ hc => (List.dropWhile_sublist _).subset (Text.mem_of_mem_dropTrailing hc)

/-- A plain text is one piece. -/
theorem Plain.ofText_eq (ha : Plain a) :
    ofText a = .ok ⟨some (Text.trim a), [], none⟩ := by
  refine ofText_eq_single_iff.2 ⟨noAngle_trim ha.noAngle, ha.getLast_ne_dash, ?_⟩
  rw [piece?_eq_some_iff, Text.trim_trim]
  exact ⟨ha.trim_ne_nil, rfl⟩

/-- **A compound is cut at its operator**, and nowhere else. -/
theorem ofText_append (ha : Plain a) (hb : Plain b) {op : Text} (hop : op ∈ symbols) :
    ofText (a ++ (op ++ b)) = .ok ⟨some (Text.trim a), op, some (Text.trim b)⟩ := by
  have hleft : NoAngle (a.dropWhile isBlank) :=
    ha.noAngle.of_subset (List.dropWhile_sublist _).subset
  have hright : NoAngle (Text.dropTrailing isBlank b) :=
    hb.noAngle.of_subset fun _ hc => Text.mem_of_mem_dropTrailing hc
  have hdash : (a.dropWhile isBlank).getLast? ≠ some '-' := by
    intro hlast
    -- a dash is no blank, so it would be the last character of the trimmed text too
    have htrim : Text.trim a = a.dropWhile isBlank := by
      refine Text.dropTrailing_of_getLast fun c hc => ?_
      obtain rfl := Option.some.inj (hlast.symm.trans hc)
      decide +kernel
    exact ha.getLast_ne_dash (htrim ▸ hlast)
  have hblank := isBlank_of_mem_symbols hop
  rw [ofText, Text.trim_append_append a b (ne_nil_of_mem_symbols hop)
    (fun c hc => hblank c (List.mem_of_mem_head? hc))
    (fun c hc => hblank c (List.mem_of_getLast? hc)), ofTrimmed_append hleft hdash hop hright,
    piece?_eq_some_iff.2 ⟨by rw [Text.trim_dropWhile]; exact ha.trim_ne_nil, rfl⟩,
    piece?_eq_some_iff.2 ⟨by rw [Text.trim_dropTrailing]; exact hb.trim_ne_nil, rfl⟩,
    Text.trim_dropWhile, Text.trim_dropTrailing]

/-- A compound is neither empty nor the text that stands for no selection. -/
theorem append_ne {op : Text} (hop : op ∈ symbols) (a b : Text) :
    a ++ (op ++ b) ≠ [] ∧ a ++ (op ++ b) ≠ placeholder := by
  have hplaceholder : NoAngle placeholder := noAngle_of_all (by decide)
  have hangle := not_noAngle_of_mem_symbols hop
  refine ⟨fun h => hangle ?_, fun h => hangle ?_⟩
  · obtain ⟨-, h⟩ := List.append_eq_nil_iff.1 h
    obtain ⟨rfl, -⟩ := List.append_eq_nil_iff.1 h
    intro c hc
    exact absurd hc List.not_mem_nil
  · rw [← h, noAngle_append, noAngle_append] at hplaceholder
    exact hplaceholder.2.1

/-! ### The stages of a compound -/

/-- **A plain text alone** means what its term means. -/
theorem Plain.evaluate_eq (ha : Plain a) :
    evaluate (some a) tz origin =
      Term.evaluate (Text.trim a) tz origin >>= fun t =>
        rejecting (Operator.joinWritten [] (some t) none origin) := by
  have hnil : a ≠ [] := by
    rintro rfl
    exact ha.trim_ne_nil rfl
  rw [evaluate_some hnil ha.ne_placeholder, evaluateText, ha.ofText_eq, rejecting_ok, bind_ok,
    evaluatePieces, operand?_some]
  cases Term.evaluate (Text.trim a) tz origin with
  | error f => rfl
  | ok t => rfl

/-- **A compound** means what its operator makes of the two terms, which are evaluated
from left to right and seen from the same origin. -/
theorem evaluate_append (ha : Plain a) (hb : Plain b) {op : Text} (hop : op ∈ symbols) :
    evaluate (some (a ++ (op ++ b))) tz origin =
      Term.evaluate (Text.trim a) tz origin >>= fun t =>
        Term.evaluate (Text.trim b) tz origin >>= fun u =>
          rejecting (Operator.joinWritten op (some t) (some u) origin) := by
  obtain ⟨hnil, hplaceholder⟩ := append_ne hop a b
  rw [evaluate_some hnil hplaceholder, evaluateText, ofText_append ha hb hop, rejecting_ok,
    bind_ok, evaluatePieces, operand?_some, operand?_some]
  cases Term.evaluate (Text.trim a) tz origin with
  | error f => rfl
  | ok t =>
    cases Term.evaluate (Text.trim b) tz origin with
    | error f => rfl
    | ok u => rfl

/-! ### Spans of plain texts -/

/-- A plain text has a span if its term has. -/
theorem Plain.evaluate_eq_ok_iff (ha : Plain a) {r : Span} :
    evaluate (some a) tz origin = .ok r ↔ ∃ t, Term.Reads a t ∧ t.span tz origin = .ok r := by
  rw [ha.evaluate_eq, bind_eq_ok_iff]
  refine ⟨fun h => ?_, fun h => ?_⟩
  · obtain ⟨o, ho, hjoin⟩ := h
    obtain ⟨t, r', ht, hr', rfl⟩ := Term.evaluate_eq_ok_iff.1 ho
    have hr : r' = r := Except.ok.inj hjoin
    exact ⟨t, Term.reads_trim_iff.1 ht, hr ▸ hr'⟩
  · obtain ⟨t, ht, hr⟩ := h
    exact ⟨_, Term.evaluate_eq_ok_iff.2 ⟨t, r, Term.reads_trim_iff.2 ht, hr, rfl⟩, rfl⟩

/-- A plain text fails as its term does. -/
theorem Plain.evaluate_eq_error_iff (ha : Plain a) {f : Failure} :
    evaluate (some a) tz origin = .error f ↔
      Term.evaluate (Text.trim a) tz origin = .error f := by
  rw [ha.evaluate_eq, bind_eq_error_iff]
  constructor
  · rintro (h | ⟨o, ho, hjoin⟩)
    · exact h
    · obtain ⟨t, r', ht, hr', rfl⟩ := Term.evaluate_eq_ok_iff.1 ho
      have hok : rejecting (Operator.joinWritten [] (some (t.operandOf r')) none origin) =
          .ok r' := rfl
      exact absurd (hok.symm.trans hjoin) (by simp)
  · exact Or.inl

/-- What is at fault in the left text is at fault in the compound. -/
theorem evaluate_append_of_left (ha : Plain a) (hb : Plain b) {op : Text} (hop : op ∈ symbols)
    {f : Failure} (h : evaluate (some a) tz origin = .error f) :
    evaluate (some (a ++ (op ++ b))) tz origin = .error f := by
  rw [evaluate_append ha hb hop, ha.evaluate_eq_error_iff.1 h, bind_error]

/-- What is at fault in the right text is at fault in the compound, if the left text is in
order. -/
theorem evaluate_append_of_right (ha : Plain a) (hb : Plain b) {op : Text} (hop : op ∈ symbols)
    {r : Span} {f : Failure} (hr : evaluate (some a) tz origin = .ok r)
    (h : evaluate (some b) tz origin = .error f) :
    evaluate (some (a ++ (op ++ b))) tz origin = .error f := by
  obtain ⟨t, ht, hspan⟩ := ha.evaluate_eq_ok_iff.1 hr
  rw [evaluate_append ha hb hop, Term.evaluate_of_reads (Term.reads_trim_iff.2 ht), hspan,
    hb.evaluate_eq_error_iff.1 h]
  rfl

/-- **Two texts in order** leave it to the operator to put their spans together. -/
theorem evaluate_append_of_spans (ha : Plain a) (hb : Plain b) {op : Text} (hop : op ∈ symbols)
    {t u : Term} {r s : Span} (ht : Term.Reads a t) (hu : Term.Reads b u)
    (hr : t.span tz origin = .ok r) (hs : u.span tz origin = .ok s) :
    evaluate (some (a ++ (op ++ b))) tz origin =
      rejecting (Operator.joinWritten op (some (t.operandOf r)) (some (u.operandOf s))
        origin) := by
  rw [evaluate_append ha hb hop, Term.evaluate_of_reads (Term.reads_trim_iff.2 ht), hr,
    Term.evaluate_of_reads (Term.reads_trim_iff.2 hu), hs]
  rfl

/-! ### Blanks around the operator -/

/-- Blanks at the ends do not matter to a plain text. -/
theorem evaluate_congr {a' : Text} (ha : Plain a) (ha' : Plain a')
    (h : Text.trim a' = Text.trim a) :
    evaluate (some a') tz origin = evaluate (some a) tz origin := by
  rw [ha.evaluate_eq, ha'.evaluate_eq, h]

theorem trim_append_blank (a : Text) : Text.trim (a ++ [' ']) = Text.trim a := by
  refine Text.trim_append_blanks (fun c hc => ?_) a
  obtain rfl := List.mem_singleton.1 hc
  decide +kernel

theorem trim_blank_append (a : Text) : Text.trim ([' '] ++ a) = Text.trim a := by
  refine Text.trim_blanks_append (fun c hc => ?_) a
  obtain rfl := List.mem_singleton.1 hc
  decide +kernel

theorem noAngle_blank : NoAngle [' '] :=
  noAngle_of_all (by decide)

theorem Plain.append_blank (ha : Plain a) : Plain (a ++ [' ']) where
  trim_ne_nil := by
    rw [trim_append_blank]
    exact ha.trim_ne_nil
  noAngle := noAngle_append.2 ⟨ha.noAngle, noAngle_blank⟩
  getLast_ne_dash := by
    rw [trim_append_blank]
    exact ha.getLast_ne_dash
  ne_placeholder := by
    intro h
    have := congrArg List.getLast? h
    rw [List.getLast?_concat] at this
    exact absurd this (by decide)

theorem Plain.blank_append (ha : Plain a) : Plain ([' '] ++ a) where
  trim_ne_nil := by
    rw [trim_blank_append]
    exact ha.trim_ne_nil
  noAngle := noAngle_append.2 ⟨noAngle_blank, ha.noAngle⟩
  getLast_ne_dash := by
    rw [trim_blank_append]
    exact ha.getLast_ne_dash
  ne_placeholder := by
    intro h
    exact absurd (List.cons.inj h).1 (by decide)

/-! ### Compounds -/

/-- A sequence runs from the start of the first span to the stop of the second. -/
theorem evaluate_sequence (ha : Plain a) (hb : Plain b) {r s : Span}
    (hr : evaluate (some a) tz origin = .ok r) (hs : evaluate (some b) tz origin = .ok s) :
    evaluate (some (a ++ ("->".toList ++ b))) tz origin = .ok ⟨r.start, s.stop⟩ := by
  obtain ⟨t, ht, hr⟩ := ha.evaluate_eq_ok_iff.1 hr
  obtain ⟨u, hu, hs⟩ := hb.evaluate_eq_ok_iff.1 hs
  exact evaluate_append_of_spans ha hb sequence_mem_symbols ht hu hr hs

/-- A window wants a quantity, and lies on the side of the start to which it points. -/
theorem evaluate_window (ha : Plain a) (hb : Plain b) {u : Term} {r s : Span}
    (hr : evaluate (some a) tz origin = .ok r) (hu : Term.Reads b u)
    (hs : evaluate (some b) tz origin = .ok s) :
    evaluate (some (a ++ ("<>".toList ++ b))) tz origin =
      match u.offset? with
      | some d => .ok ⟨min r.start (r.start + d), max r.start (r.start + d)⟩
      | none => .error (.rejected .offsetPrecondition) := by
  obtain ⟨t, ht, hr⟩ := ha.evaluate_eq_ok_iff.1 hr
  obtain ⟨u', hu', hs⟩ := hb.evaluate_eq_ok_iff.1 hs
  obtain rfl := hu.unique hu'
  rw [evaluate_append_of_spans ha hb window_mem_symbols ht hu hr hs,
    show "<>".toList = Operator.window.symbol from rfl, Operator.joinWritten_symbol]
  change rejecting (Operator.windowSpan (t.operandOf r) (u.operandOf s)) = _
  rw [Operator.windowSpan_operandOf]
  cases u.offset? with
  | none => rfl
  | some d => rfl

/-- From a text to itself is that text. -/
theorem evaluate_sequence_self (ha : Plain a) :
    evaluate (some (a ++ (" -> ".toList ++ a))) tz origin = evaluate (some a) tz origin := by
  have hsplit : a ++ (" -> ".toList ++ a) = (a ++ [' ']) ++ ("->".toList ++ ([' '] ++ a)) := by
    simp
  have hleft : evaluate (some (a ++ [' '])) tz origin = evaluate (some a) tz origin :=
    evaluate_congr ha ha.append_blank (trim_append_blank a)
  have hright : evaluate (some ([' '] ++ a)) tz origin = evaluate (some a) tz origin :=
    evaluate_congr ha ha.blank_append (trim_blank_append a)
  rw [hsplit]
  cases h : evaluate (some a) tz origin with
  | error f =>
    exact evaluate_append_of_left ha.append_blank ha.blank_append sequence_mem_symbols
      (hleft.trans h)
  | ok r =>
    exact evaluate_sequence ha.append_blank ha.blank_append (hleft.trans h) (hright.trans h)

theorem plain_now : Plain "now ".toList where
  trim_ne_nil := by decide +kernel
  noAngle := noAngle_of_all (by decide)
  getLast_ne_dash := by decide +kernel
  ne_placeholder := by decide

/-- A quantity away from the origin is the quantity. -/
theorem evaluate_now_window (hb : Plain b) {count : Int} {unit : TimeUnit}
    (hu : Term.Reads b (.quantity count unit)) :
    evaluate (some ("now <> ".toList ++ b)) tz origin = evaluate (some b) tz origin := by
  have hsplit : "now <> ".toList ++ b = "now ".toList ++ ("<>".toList ++ ([' '] ++ b)) := by
    simp
  have hread : Term.ofText "now ".toList = .ok (.keyword .now) :=
    eq_ok_of_toOption (by decide +kernel)
  have hnow : evaluate (some "now ".toList) tz origin = .ok ⟨origin, origin⟩ :=
    plain_now.evaluate_eq_ok_iff.2 ⟨.keyword .now, Term.ofText_eq_ok_iff.1 hread, rfl⟩
  have hspan : evaluate (some b) tz origin =
      .ok (.between origin (origin + count * unit.millis)) :=
    hb.evaluate_eq_ok_iff.2 ⟨_, hu, rfl⟩
  have hblank : evaluate (some ([' '] ++ b)) tz origin = evaluate (some b) tz origin :=
    evaluate_congr hb hb.blank_append (trim_blank_append b)
  have hread' : Term.Reads ([' '] ++ b) (.quantity count unit) := by
    rw [← Term.reads_trim_iff, trim_blank_append, Term.reads_trim_iff]
    exact hu
  rw [hsplit, evaluate_window plain_now hb.blank_append hnow hread' (hblank.trans hspan), hspan]
  rfl

/-- **The meaning of a compound** is made of the meanings of its two texts. If the left one
fails, the compound fails with it, and otherwise if the right one does. If both have
spans, a sequence runs from the start of the left one to the stop of the right one; a
window is rejected if the right one is a keyword, and lies between the start of the left
one and the instant that lies the right one away from it if that is a quantity. So a
sequence from a text to itself is that text, and a window on the origin is its quantity. -/
theorem evaluate_compound (ha : Plain a) (hb : Plain b) (tz : Option Text) (origin : Int) :
    (∀ f, evaluate (some a) tz origin = .error f →
      evaluate (some (a ++ ("->".toList ++ b))) tz origin = .error f ∧
      evaluate (some (a ++ ("<>".toList ++ b))) tz origin = .error f) ∧
    (∀ r f, evaluate (some a) tz origin = .ok r → evaluate (some b) tz origin = .error f →
      evaluate (some (a ++ ("->".toList ++ b))) tz origin = .error f ∧
      evaluate (some (a ++ ("<>".toList ++ b))) tz origin = .error f) ∧
    (∀ r s, evaluate (some a) tz origin = .ok r → evaluate (some b) tz origin = .ok s →
      evaluate (some (a ++ ("->".toList ++ b))) tz origin = .ok ⟨r.start, s.stop⟩ ∧
      ((∃ k, Term.Reads b (.keyword k)) ∧
          evaluate (some (a ++ ("<>".toList ++ b))) tz origin =
            .error (.rejected .offsetPrecondition) ∨
        ∃ count unit, Term.Reads b (.quantity count unit) ∧
          evaluate (some (a ++ ("<>".toList ++ b))) tz origin =
            .ok ⟨min r.start (r.start + count * unit.millis),
              max r.start (r.start + count * unit.millis)⟩)) ∧
    evaluate (some (a ++ (" -> ".toList ++ a))) tz origin = evaluate (some a) tz origin ∧
    (∀ count unit, Term.Reads b (.quantity count unit) →
      evaluate (some ("now <> ".toList ++ b)) tz origin = evaluate (some b) tz origin) := by
  refine ⟨fun f h => ?_, fun r f hr h => ?_, fun r s hr hs => ⟨?_, ?_⟩, ?_, fun count unit hu => ?_⟩
  · exact ⟨evaluate_append_of_left ha hb sequence_mem_symbols h,
      evaluate_append_of_left ha hb window_mem_symbols h⟩
  · exact ⟨evaluate_append_of_right ha hb sequence_mem_symbols hr h,
      evaluate_append_of_right ha hb window_mem_symbols hr h⟩
  · exact evaluate_sequence ha hb hr hs
  · obtain ⟨u, hu, -⟩ := hb.evaluate_eq_ok_iff.1 hs
    have hwindow := evaluate_window ha hb hr hu hs
    cases u with
    | keyword k => exact Or.inl ⟨⟨k, hu⟩, hwindow⟩
    | quantity count unit => exact Or.inr ⟨count, unit, hu, hwindow⟩
  · exact evaluate_sequence_self ha
  · exact evaluate_now_window hb hu

/-- A minus sign after the arrow belongs to the quantity, in Los Angeles as elsewhere. -/
theorem evaluate_compound_usPacific :
    let tz := some "US/Pacific".toList
    Plain " last month".toList ∧ Plain "- 2 Days ".toList ∧
      evaluate (some " last month".toList) tz 1743435000123 =
        .ok ⟨1738396800000, 1740815999999⟩ ∧
      evaluate (some "- 2 Days ".toList) tz 1743435000123 =
        .ok ⟨1743262200123, 1743435000123⟩ ∧
      evaluate (some " last month->- 2 Days ".toList) tz 1743435000123 =
        .ok ⟨1738396800000, 1743435000123⟩ ∧
      evaluate (some "now <> - 2 Days ".toList) tz 1743435000123 =
        .ok ⟨1743262200123, 1743435000123⟩ := by
  have ha : Plain " last month".toList :=
    ⟨by decide +kernel, noAngle_of_all (by decide), by decide +kernel, by decide⟩
  have hb : Plain "- 2 Days ".toList :=
    ⟨by decide +kernel, noAngle_of_all (by decide), by decide +kernel, by decide⟩
  have hr : evaluate (some " last month".toList) (some "US/Pacific".toList) 1743435000123 =
      .ok ⟨1738396800000, 1740815999999⟩ :=
    eq_ok_of_toOption (by decide +kernel)
  have hs : evaluate (some "- 2 Days ".toList) (some "US/Pacific".toList) 1743435000123 =
      .ok ⟨1743262200123, 1743435000123⟩ :=
    eq_ok_of_toOption (by decide +kernel)
  have hread : Term.ofText "- 2 Days ".toList = .ok (.quantity (-2) .day) :=
    eq_ok_of_toOption (by decide +kernel)
  obtain ⟨-, -, hspans, -, hnow⟩ :=
    evaluate_compound ha hb (some "US/Pacific".toList) 1743435000123
  exact ⟨ha, hb, hr, hs, (hspans _ _ hr hs).1,
    (hnow _ _ (Term.ofText_eq_ok_iff.1 hread)).trans hs⟩

end Timespan.Expression
