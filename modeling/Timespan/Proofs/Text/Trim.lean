import Mathlib.Data.List.TakeWhile
import Timespan.Text.Basic

/-!
# Trimming a text

Trimming takes the blanks at the two ends of a text and nothing else, and this is
all the cut of an expression needs to know about it:

* blanks added at an end are taken away again (`Text.trim_blanks_append`,
  `Text.trim_append_blanks`), so trimming a part of a text that has been trimmed
  gives what trimming it in place would have given;
* a word that begins and ends with a character that is no blank shields what lies
  inside (`Text.trim_append_append`): on either side of an operator only one end is
  trimmed.
-/

namespace Timespan.Text

variable {p : Char → Bool} {s t : Text}

/-! ### Dropping at one end -/

theorem dropWhile_append_of_head (s : Text) (h : ∀ c ∈ t.head?, p c = false) :
    (s ++ t).dropWhile p = s.dropWhile p ++ t := by
  induction s with
  | nil =>
    cases t with
    | nil => rfl
    | cons c t => simp [h c rfl]
  | cons a s ih =>
    by_cases ha : p a
    · simpa [ha] using ih
    · simp [ha]

theorem dropTrailing_append_of_getLast (t : Text) (h : ∀ c ∈ s.getLast?, p c = false) :
    dropTrailing p (s ++ t) = s ++ dropTrailing p t := by
  have hrev : ∀ c ∈ s.reverse.head?, p c = false := by
    rw [List.head?_reverse]
    exact h
  rw [dropTrailing, List.reverse_append, dropWhile_append_of_head _ hrev, List.reverse_append,
    List.reverse_reverse, dropTrailing]

theorem dropTrailing_of_getLast (h : ∀ c ∈ s.getLast?, p c = false) : dropTrailing p s = s := by
  simpa [dropTrailing] using dropTrailing_append_of_getLast [] h

theorem dropTrailing_append_of_forall (s : Text) (h : ∀ c ∈ t, p c = true) :
    dropTrailing p (s ++ t) = dropTrailing p s := by
  have hrev : ∀ c ∈ t.reverse, p c = true := fun c hc => h c (List.mem_reverse.1 hc)
  rw [dropTrailing, List.reverse_append, List.dropWhile_append_of_pos hrev, dropTrailing]

theorem getLast_dropTrailing (p : Char → Bool) (s : Text) :
    ∀ c ∈ (dropTrailing p s).getLast?, p c = false := by
  intro c hc
  rw [dropTrailing, List.getLast?_reverse] at hc
  have := List.head?_dropWhile_not p s.reverse
  rw [Option.mem_def.1 hc] at this
  exact this

/-- A character before others is dropped only after all of them. -/
theorem dropTrailing_cons (p : Char → Bool) (c : Char) (s : Text) :
    dropTrailing p (c :: s) =
      if dropTrailing p s = [] then (if p c then [] else [c]) else c :: dropTrailing p s := by
  simp only [dropTrailing, List.reverse_cons, List.dropWhile_append, List.reverse_eq_nil_iff,
    List.isEmpty_iff]
  split
  · by_cases hc : p c
    · simp [hc]
    · simp [hc]
  · simp

theorem dropTrailing_isPrefix (p : Char → Bool) (s : Text) : dropTrailing p s <+: s :=
  ⟨_, dropTrailing_append_takeWhile p s⟩

theorem mem_of_mem_dropTrailing {c : Char} (h : c ∈ dropTrailing p s) : c ∈ s :=
  (dropTrailing_isPrefix p s).subset h

/-! ### Dropping at both ends -/

theorem trim_blanks_append {b : Text} (hb : ∀ c ∈ b, isBlank c = true) (s : Text) :
    trim (b ++ s) = trim s := by
  rw [trim, List.dropWhile_append_of_pos hb, trim]

theorem trim_append_blanks {b : Text} (hb : ∀ c ∈ b, isBlank c = true) (s : Text) :
    trim (s ++ b) = trim s := by
  rw [trim, trim, List.dropWhile_append]
  split
  · next h =>
    -- `s` is blank, and all of it goes from the left
    rw [List.dropWhile_eq_nil_iff.2 hb, List.isEmpty_iff.1 h]
  · exact dropTrailing_append_of_forall _ hb

/-- **What trimming takes away** is blank, and it stands at the two ends. -/
theorem exists_blanks (s : Text) : ∃ b b' : Text, s = b ++ (trim s ++ b') ∧
    (∀ c ∈ b, isBlank c = true) ∧ ∀ c ∈ b', isBlank c = true := by
  refine ⟨s.takeWhile isBlank, ((s.dropWhile isBlank).reverse.takeWhile isBlank).reverse,
    ?_, ?_, ?_⟩
  · rw [trim, dropTrailing_append_takeWhile, List.takeWhile_append_dropWhile]
  · exact fun c hc => List.mem_takeWhile_imp hc
  · exact fun c hc => List.mem_takeWhile_imp (List.mem_reverse.1 hc)

theorem mem_of_mem_trim {c : Char} (h : c ∈ trim s) : c ∈ s :=
  (List.dropWhile_sublist _).subset (mem_of_mem_dropTrailing h)

theorem dropWhile_of_head (h : ∀ c ∈ s.head?, p c = false) : s.dropWhile p = s := by
  simpa using dropWhile_append_of_head [] h

/-- A text that begins and ends without a blank is trimmed. -/
theorem trim_of_ends (hhead : ∀ c ∈ s.head?, isBlank c = false)
    (hlast : ∀ c ∈ s.getLast?, isBlank c = false) : trim s = s := by
  rw [trim, dropWhile_of_head hhead, dropTrailing_of_getLast hlast]

theorem head_trim (s : Text) : ∀ c ∈ (trim s).head?, isBlank c = false := by
  intro c hc
  obtain ⟨t, ht⟩ := dropTrailing_isPrefix isBlank (s.dropWhile isBlank)
  have hnot := List.head?_dropWhile_not isBlank s
  rw [← ht, List.head?_append] at hnot
  rw [trim] at hc
  rw [Option.mem_def.1 hc] at hnot
  exact hnot

theorem getLast_trim (s : Text) : ∀ c ∈ (trim s).getLast?, isBlank c = false :=
  getLast_dropTrailing isBlank _

@[simp] theorem trim_trim (s : Text) : trim (trim s) = trim s := by
  obtain ⟨b, b', hs, hb, hb'⟩ := exists_blanks s
  conv => rhs; rw [hs]
  rw [trim_blanks_append hb, trim_append_blanks hb']

theorem trim_dropWhile (s : Text) : trim (s.dropWhile isBlank) = trim s := by
  conv => rhs; rw [← List.takeWhile_append_dropWhile (p := isBlank) (l := s)]
  exact (trim_blanks_append (fun c hc => List.mem_takeWhile_imp hc) _).symm

theorem trim_dropTrailing (s : Text) : trim (dropTrailing isBlank s) = trim s := by
  conv => rhs; rw [← dropTrailing_append_takeWhile isBlank s]
  exact (trim_append_blanks (fun c hc => List.mem_takeWhile_imp (List.mem_reverse.1 hc)) _).symm

/-- **A word between two texts** shields their inner ends from being trimmed. -/
theorem trim_append_append (l r : Text) {w : Text} (hne : w ≠ [])
    (hhead : ∀ c ∈ w.head?, isBlank c = false) (hlast : ∀ c ∈ w.getLast?, isBlank c = false) :
    trim (l ++ (w ++ r)) = l.dropWhile isBlank ++ (w ++ dropTrailing isBlank r) := by
  have hhead' : ∀ c ∈ (w ++ r).head?, isBlank c = false := by
    intro c hc
    refine hhead c ?_
    cases w with
    | nil => exact absurd rfl hne
    | cons a w => simpa using hc
  have hlast' : ∀ c ∈ (l.dropWhile isBlank ++ w).getLast?, isBlank c = false := by
    intro c hc
    refine hlast c ?_
    rwa [List.getLast?_append, Option.or_of_isSome (List.getLast?_isSome.2 hne)] at hc
  rw [trim, dropWhile_append_of_head _ hhead', ← List.append_assoc,
    dropTrailing_append_of_getLast _ hlast', List.append_assoc]

@[simp] theorem squeeze_trim (s : Text) : squeeze (trim s) = squeeze s := by
  obtain ⟨b, b', hs, hb, hb'⟩ := exists_blanks s
  have hnil : ∀ {b : Text}, (∀ c ∈ b, isBlank c = true) → squeeze b = [] := by
    intro b hb
    simpa [squeeze] using hb
  conv => rhs; rw [hs]
  rw [squeeze_append, squeeze_append, hnil hb, hnil hb']
  simp

end Timespan.Text
