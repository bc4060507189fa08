import Timespan.Proofs.Text.Trim
import Timespan.Text.Lowercase

/-!
# What cleaning leaves alone

The clean form of a text is compared with words, digits and signs, and two facts
about it are wanted:

* a text of **settled** characters, which are neither blanks nor capitals, is its own
  clean form (`Text.clean_of_isSettled`); small letters, digits and the dash are settled;
* what stands at the end of a text has its lowercase form at the end of the clean
  form, whatever comes before it, so a text that ends in a dash has a clean form
  that does (`Text.getLast_clean_of_dash`).
-/

namespace Timespan

/-! ### Settled characters -/

/-- **A settled character** is kept by cleaning, and as it is, whatever its neighbours. -/
structure IsSettled (c : Char) : Prop where
  /-- It is no blank. -/
  isBlank : isBlank c = false
  /-- It is its own lowercase form. -/
  lowerAt : ∀ before after, Text.lowerAt before c after = [c]

/-- What ASCII has to show is settled, except for the capitals. -/
theorem isSettled_of_toNat {c : Char} (hshown : 33 ≤ c.toNat ∧ c.toNat < 128)
    (hcapital : c.toNat < 65 ∨ 90 < c.toNat) : IsSettled c := by
  have hblanks : ∀ r ∈ blankRanges, r.last < 33 ∨ 128 ≤ r.first := by decide +kernel
  have hcapitals : ∀ r ∈ caseRuns, 65 ≤ r.first ∧ r.last ≤ 90 ∨ 128 ≤ r.first := by
    decide +kernel
  constructor
  · rw [Bool.eq_false_iff, Timespan.isBlank, ne_eq, CodeRange.covers_iff]
    rintro ⟨r, hr, hfirst, hlast⟩
    have := hblanks r hr
    omega
  · intro before after
    -- the two capitals whose lowercase form is not in the table are not in ASCII
    rw [Text.lowerAt_eq_of_ne, lowerChar_eq_self]
    · intro r hr
      rw [Bool.eq_false_iff, ne_eq, CaseRun.contains_iff]
      rintro ⟨hfirst, hlast, -⟩
      have := hcapitals r hr
      omega
    · rintro rfl
      exact absurd hshown.2 (by decide)
    · rintro rfl
      exact absurd hshown.2 (by decide)

theorem toNat_of_isLower {c : Char} (h : c.isLower = true) : 97 ≤ c.toNat ∧ c.toNat ≤ 122 := by
  have hrange : (decide (c.val ≥ 'a'.val) && decide (c.val ≤ 'z'.val)) = true := h
  simp only [Bool.and_eq_true, decide_eq_true_eq, ge_iff_le, UInt32.le_iff_toNat_le] at hrange
  exact hrange

theorem toNat_of_isDigit {c : Char} (h : c.isDigit = true) : 48 ≤ c.toNat ∧ c.toNat ≤ 57 :=
  Char.isDigit_iff_toNat.1 h

theorem isSettled_of_isLower {c : Char} (h : c.isLower = true) : IsSettled c := by
  obtain ⟨h₁, h₂⟩ := toNat_of_isLower h
  exact isSettled_of_toNat (by omega) (by omega)

theorem isSettled_of_isDigit {c : Char} (h : c.isDigit = true) : IsSettled c := by
  obtain ⟨h₁, h₂⟩ := toNat_of_isDigit h
  exact isSettled_of_toNat (by omega) (by omega)

theorem isSettled_dash : IsSettled '-' :=
  isSettled_of_toNat (by decide) (by decide)

/-- **The characters of terms** in clean form: small letters, digits and the dash. -/
def IsTermChar (c : Char) : Prop :=
  c.isLower = true ∨ c.isDigit = true ∨ c = '-'

instance (c : Char) : Decidable (IsTermChar c) :=
  inferInstanceAs (Decidable (_ ∨ _))

theorem IsTermChar.isSettled {c : Char} (h : IsTermChar c) : IsSettled c := by
  rcases h with hlower | hdigit | rfl
  · exact isSettled_of_isLower hlower
  · exact isSettled_of_isDigit hdigit
  · exact isSettled_dash

namespace Text

theorem lowerAfter_of_isSettled {s : Text} (h : ∀ c ∈ s, IsSettled c) (before : Text) :
    lowerAfter before s = s := by
  induction s generalizing before with
  | nil => rfl
  | cons c s ih =>
    have htail : ∀ d ∈ s, IsSettled d := fun d hd => h d (List.mem_cons_of_mem c hd)
    rw [lowerAfter, (h c List.mem_cons_self).lowerAt, ih htail]
    rfl

/-- **Settled characters are clean.** -/
theorem clean_of_isSettled {s : Text} (h : ∀ c ∈ s, IsSettled c) : clean s = s := by
  have hsqueeze : squeeze s = s := by
    rw [squeeze, List.filter_eq_self]
    intro c hc
    rw [(h c hc).isBlank]
    rfl
  rw [clean, hsqueeze, lower, lowerAfter_of_isSettled h]

@[simp] theorem clean_trim (s : Text) : clean (trim s) = clean s := by
  rw [clean, squeeze_trim, clean]

/-! ### The end of a text -/

/-- The last character of a text is put into lowercase last. -/
theorem exists_lowerAfter_append (before s : Text) (c : Char) :
    ∃ x, lowerAfter before (s ++ [c]) = x ++ lowerAt (s.reverse ++ before) c [] := by
  -- each character of `s` joins the context of the next
  induction s generalizing before with
  | nil => exact ⟨[], by simp [lowerAfter]⟩
  | cons a s ih =>
    obtain ⟨x, hx⟩ := ih (a :: before)
    refine ⟨lowerAt before a (s ++ [c]) ++ x, ?_⟩
    rw [List.cons_append, lowerAfter, hx]
    simp

theorem getLast_clean_of_dash {s : Text} (h : s.getLast? = some '-') :
    (clean s).getLast? = some '-' := by
  obtain ⟨t, rfl⟩ := List.getLast?_eq_some_iff.1 h
  have hsqueeze : squeeze (t ++ ['-']) = squeeze t ++ ['-'] := by
    rw [squeeze_append]
    rfl
  obtain ⟨x, hx⟩ := exists_lowerAfter_append [] (squeeze t) '-'
  rw [clean, hsqueeze, lower, hx, isSettled_dash.lowerAt]
  exact List.getLast?_concat

end Text

end Timespan
