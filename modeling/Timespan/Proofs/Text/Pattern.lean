import Timespan.Proofs.Text.Trim

/-!
# Patterns

A pattern takes a stretch from the beginning of a text, and there may be several ways to do so.
`Pattern.results` lists them all in the order in which they are preferred: a repetition
prefers to take more, an alternative prefers its first branch, and what comes first in a
sequence has its way before what comes after it. A matcher that tries one way after another and
goes back where it is stuck finds the first of the list, `Pattern.first?`.

The lemmas of this file say what is found first without listing the rest. Most patterns need
not go back: in a sequence whose parts both find something at once, the first findings are
found (`Pattern.first?_seq`). A repetition followed by a pattern that takes what the repetition
would have taken too must go back, one character at a time (`Pattern.first?_seq_many_cons`),
and it ends up with the last such character in the stretch
(`Pattern.first?_seq_many_char`).
-/

namespace Timespan

/-- A way in which a pattern can take something from the beginning of a text. -/
structure Match where
  /-- What it takes. -/
  taken : Text
  /-- What the numbered parts of the pattern take. -/
  groups : List (Nat × Text)
  /-- What it leaves. -/
  rest : Text

namespace Match

/-- What a numbered part of the pattern has taken, if it has taken part. -/
def group? (m : Match) (n : Nat) : Option Text :=
  m.groups.lookup n

/-- One character more. -/
def cons (c : Char) (m : Match) : Match :=
  { m with taken := c :: m.taken }

/-- Two ways after one another. -/
def append (m m' : Match) : Match :=
  ⟨m.taken ++ m'.taken, m.groups ++ m'.groups, m'.rest⟩

/-- The same way, where what is taken is kept under a number. -/
def keep (n : Nat) (m : Match) : Match :=
  { m with groups := m.groups ++ [(n, m.taken)] }

/-- The ways to take characters of a class, the longest first. -/
def stretches (p : Char → Bool) : Text → List Match
  | [] => [⟨[], [], []⟩]
  | c :: s => if p c then (stretches p s).map (cons c) ++ [⟨[], [], c :: s⟩] else [⟨[], [], c :: s⟩]

end Match

/-- A pattern for the beginning of a text. -/
inductive Pattern
  /-- Nothing. -/
  | empty
  /-- One character of a class. -/
  | char (p : Char → Bool)
  /-- Characters of a class, as many as possible. -/
  | many (p : Char → Bool)
  /-- One pattern after another. -/
  | seq (a b : Pattern)
  /-- The first pattern or, if it does not lead to the end, the second. -/
  | or (a b : Pattern)
  /-- A numbered part. -/
  | group (n : Nat) (a : Pattern)

namespace Pattern

/-- **The ways in which a pattern takes something**, in order of preference. -/
def results : Pattern → Text → List Match
  | empty, s => [⟨[], [], s⟩]
  | char _, [] => []
  | char p, c :: s => if p c then [⟨[c], [], s⟩] else []
  | many p, s => Match.stretches p s
  | seq a b, s => (a.results s).flatMap fun m => (b.results m.rest).map m.append
  | or a b, s => a.results s ++ b.results s
  | group n a, s => (a.results s).map (Match.keep n)

/-- The way that is found. -/
def first? (a : Pattern) (s : Text) : Option Match :=
  (a.results s).head?

/-- A pattern, if possible. -/
def opt (a : Pattern) : Pattern :=
  or a empty

/-- At least one character of a class, and as many as possible. -/
def several (p : Char → Bool) : Pattern :=
  seq (char p) (many p)

/-- A word, character by character. -/
def word : Text → Pattern
  | [] => empty
  | c :: w => seq (char (· == c)) (word w)

variable {p r : Char → Bool} {a b : Pattern} {s w : Text} {c : Char} {m m' : Match}

/-! ### Findings -/

theorem first?_many (p : Char → Bool) (s : Text) :
    (many p).first? s = some ⟨s.takeWhile p, [], s.dropWhile p⟩ := by
  rw [first?, results]
  induction s with
  | nil => rfl
  | cons c s ih =>
    rw [Match.stretches]
    by_cases hc : p c
    · rw [if_pos hc, List.head?_append, List.head?_map, ih]
      simp [Match.cons, hc]
    · simp [hc]

/-- **Both parts of a sequence** have their way if they can. -/
theorem first?_seq (ha : a.first? s = some m) (hb : b.first? m.rest = some m') :
    (seq a b).first? s = some (m.append m') := by
  obtain ⟨l, hl⟩ := List.head?_eq_some_iff.1 ha
  rw [first?, results, hl, List.flatMap_cons, List.head?_append, List.head?_map]
  rw [first?] at hb
  rw [hb]
  rfl

theorem first?_seq_of_none (ha : a.first? s = none) : (seq a b).first? s = none := by
  rw [first?, List.head?_eq_none_iff] at *
  rw [results, ha]
  rfl

theorem first?_or (a b : Pattern) (s : Text) :
    (or a b).first? s = (a.first? s).or (b.first? s) :=
  List.head?_append

theorem first?_group (n : Nat) (a : Pattern) (s : Text) :
    (group n a).first? s = (a.first? s).map (Match.keep n) :=
  List.head?_map

/-! ### Optional parts -/

theorem first?_opt (a : Pattern) (s : Text) :
    (opt a).first? s = (a.first? s).or (some ⟨[], [], s⟩) :=
  first?_or a empty s

/-- What a numbered part has taken, if it is something. -/
def kept (n : Nat) (t : Text) : List (Nat × Text) :=
  if t = [] then [] else [(n, t)]

/-- What a numbered part has taken is found under its number. -/
theorem lookup_kept_append (n k : Nat) (t : Text) (l : List (Nat × Text)) :
    (kept n t ++ l).lookup k = if k = n ∧ t ≠ [] then some t else l.lookup k := by
  unfold kept
  by_cases ht : t = []
  · simp [ht]
  · by_cases hk : k = n
    · simp [ht, hk]
    · have hne : (k == n) = false := by simpa using hk
      simp [ht, hk, hne, List.lookup_cons]

theorem lookup_kept (n k : Nat) (t : Text) :
    (kept n t).lookup k = if k = n ∧ t ≠ [] then some t else none := by
  have := lookup_kept_append n k t []
  rwa [List.append_nil] at this

/-- **An optional part** that takes `t` unless that is nothing. -/
theorem first?_opt_group {n : Nat} {t u : Text}
    (h : a.first? s = if t = [] then none else some ⟨t, [], u⟩) (hnil : t = [] → u = s) :
    (opt (group n a)).first? s = some ⟨t, kept n t, u⟩ := by
  rw [first?_opt, first?_group, h, kept]
  by_cases ht : t = []
  · simp [ht, hnil ht]
  · simp [ht, Match.keep]

/-! ### Going back -/

/-- **To take one character more** is preferred, if it leads to something. -/
theorem first?_seq_many_cons (hc : p c = true) :
    (seq (many p) b).first? (c :: s) =
      (((seq (many p) b).first? s).map (Match.cons c)).or (b.first? (c :: s)) := by
  have hstop : (⟨[], [], c :: s⟩ : Match).append = id := rfl
  rw [first?, results, results, Match.stretches, if_pos hc, List.flatMap_append,
    List.head?_append, List.flatMap_singleton, hstop, List.map_id, first?, results, results,
    ← List.head?_map, List.map_flatMap, List.flatMap_map]
  simp only [List.map_map]
  rfl

theorem first?_seq_many_of_head (h : ∀ c ∈ s.head?, p c = false) :
    (seq (many p) b).first? s = b.first? s := by
  have hstop : (⟨[], [], s⟩ : Match).append = id := rfl
  have hstretches : Match.stretches p s = [⟨[], [], s⟩] := by
    cases s with
    | nil => rfl
    | cons c s => simp [Match.stretches, h c rfl]
  rw [first?, results, results, hstretches, List.flatMap_singleton, hstop, List.map_id, first?]

/-- **A stretch that must not end** in certain characters ends before them. -/
theorem first?_seq_many_char (p r : Char → Bool) (s : Text) :
    (seq (many p) (char fun c => p c && !r c)).first? s =
      if Text.dropTrailing r (s.takeWhile p) = [] then none
      else some ⟨Text.dropTrailing r (s.takeWhile p), [],
        s.drop (Text.dropTrailing r (s.takeWhile p)).length⟩ := by
  induction s with
  | nil => rfl
  | cons c s ih =>
    by_cases hc : p c
    · rw [first?_seq_many_cons hc, ih, List.takeWhile_cons_of_pos hc, Text.dropTrailing_cons]
      by_cases ht : Text.dropTrailing r (s.takeWhile p) = []
      · -- nothing is found farther on, so `c` has to be the last
        by_cases hr : r c
        · simp [ht, hr, hc, first?, results]
        · simp [ht, hr, hc, first?, results]
      · simp [ht, Match.cons]
    · rw [first?_seq_many_of_head fun d hd => ?_, List.takeWhile_cons_of_neg hc]
      · simp [first?, results, hc, Text.dropTrailing]
      · obtain rfl := Option.some.inj hd
        simpa using hc

/-! ### Words -/

theorem first?_word_append (w s : Text) : (word w).first? (w ++ s) = some ⟨w, [], s⟩ := by
  induction w with
  | nil => rfl
  | cons c w ih =>
    have hc : (char (· == c)).first? (c :: w ++ s) = some ⟨[c], [], w ++ s⟩ := by
      simp [first?, results]
    exact first?_seq hc ih

theorem first?_word_of_not_isPrefix (h : ¬ w <+: s) : (word w).first? s = none := by
  rw [first?, List.head?_eq_none_iff]
  induction w generalizing s with
  | nil => exact absurd List.nil_prefix h
  | cons c w ih =>
    cases s with
    | nil => rfl
    | cons d s =>
      by_cases hd : d = c
      · subst hd
        rw [List.cons_prefix_cons] at h
        simp [word, results, ih fun hw => h ⟨rfl, hw⟩]
      · simp [word, results, hd]

/-- Characters of a class, if there are any. -/
theorem first?_several (p : Char → Bool) (s : Text) :
    (several p).first? s = if s.takeWhile p = [] then none
      else some ⟨s.takeWhile p, [], s.dropWhile p⟩ := by
  cases s with
  | nil => rfl
  | cons c s =>
    by_cases hc : p c
    · have hfirst : (char p).first? (c :: s) = some ⟨[c], [], s⟩ := by
        simp [first?, results, hc]
      rw [List.takeWhile_cons_of_pos hc, List.dropWhile_cons_of_pos hc, if_neg (by simp)]
      exact first?_seq hfirst (first?_many p s)
    · rw [List.takeWhile_cons_of_neg hc, if_pos rfl]
      exact first?_seq_of_none (by simp [first?, results, hc])

end Pattern

end Timespan
