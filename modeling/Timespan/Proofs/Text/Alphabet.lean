import Timespan.Proofs.Text.Recase

/-!
# What cleaning can bring about

Many characters outside ASCII have a lowercase form, and nearly all of these forms lie outside
ASCII themselves. The exceptions are two:

* the **Kelvin sign** (`kelvin`), a capital of its own whose small letter is `k`;
* the dotted capital I, whose lowercase form begins with `i` and goes on with a combining dot.

The dot gives the second away. So where the clean form of a text consists of the characters of
terms, the text consists of these, their capitals, blanks and Kelvin signs
(`Text.isTermChar_or_of_clean`). And a Kelvin sign may be spelled as the letter that it stands
for (`sameLetter_spellKelvin`): neighbours take both for a letter with a case.
-/

namespace Timespan

/-! ### The Kelvin sign -/

/-- The sign of the unit kelvin. -/
def kelvin : Char :=
  '\u212A'

/-- The letter for which a Kelvin sign stands. -/
def spellKelvin (c : Char) : Char :=
  if c = kelvin then 'k' else c

/-- **The Kelvin sign** and its letter are the same letter. -/
theorem sameLetter_spellKelvin (c : Char) : SameLetter c (spellKelvin c) := by
  rw [spellKelvin]
  split
  · next hc =>
    obtain rfl := hc
    refine ⟨by decide +kernel, by decide +kernel, by decide +kernel, fun before after => ?_⟩
    have hlower : lowerChar 'k' = lowerChar kelvin := by decide +kernel
    rw [Text.lowerAt_eq_of_ne (by decide) (by decide),
      Text.lowerAt_eq_of_ne (by decide) (by decide), hlower]
  · exact .refl c

/-! ### Capitals of the characters of terms -/

variable {c : Char}

theorem toNat_ofNat_eq_or (n : Nat) : (Char.ofNat n).toNat = n ∨ (Char.ofNat n).toNat = 0 := by
  by_cases h : n.isValidChar
  · have hn : Char.ofNat n = Char.ofNatAux n h := dif_pos h
    exact Or.inl (congrArg Char.toNat hn)
  · have hzero : Char.ofNat n = '\x00' := dif_neg h
    exact Or.inr (congrArg Char.toNat hzero)

theorem IsTermChar.toNat (h : IsTermChar c) : 0 < c.toNat ∧ c.toNat < 128 := by
  rcases h with hlower | hdigit | rfl
  · have := toNat_of_isLower hlower
    omega
  · have := toNat_of_isDigit hdigit
    omega
  · decide

theorem isUpper_of_toNat (h : 65 ≤ c.toNat ∧ c.toNat ≤ 90) : c.isUpper = true :=
  decide_eq_true ⟨UInt32.le_iff_toNat_le.2 h.1, UInt32.le_iff_toNat_le.2 h.2⟩

/-- A character is its own lowercase form, or it is a capital of some run. -/
theorem lowerChar_eq_self_or (c : Char) :
    lowerChar c = c ∨
      ∃ r ∈ caseRuns, r.contains c.toNat = true ∧ lowerChar c = Char.ofNat (r.lower c.toNat) := by
  cases hfind : caseRuns.find? fun r => r.contains c.toNat with
  | none =>
    left
    rw [lowerChar, lowerCode, hfind, Char.ofNat_toNat]
  | some r =>
    right
    have hc : r.contains c.toNat = true := by simpa using List.find?_some hfind
    refine ⟨r, List.mem_of_find?_eq_some hfind, hc, ?_⟩
    rw [lowerChar, lowerCode, hfind]

/-- **The capitals of the characters of terms** are those of ASCII and the Kelvin sign. -/
theorem isTermChar_or_of_lowerChar (h : IsTermChar (lowerChar c)) :
    IsTermChar c ∨ c.isUpper = true ∨ c = kelvin := by
  have hruns : ∀ r ∈ caseRuns, r.first = 65 ∧ r.last = 90 ∨
      r.first = kelvin.toNat ∧ r.last = kelvin.toNat ∨ 128 ≤ r.image := by
    decide +kernel
  rcases lowerChar_eq_self_or c with hself | ⟨r, hr, hc, hlower⟩
  · exact Or.inl (hself ▸ h)
  · obtain ⟨hfirst, hlast, -⟩ := CaseRun.contains_iff.1 hc
    right
    rcases hruns r hr with ⟨h₁, h₂⟩ | ⟨h₁, h₂⟩ | himage
    · exact Or.inl (isUpper_of_toNat (by omega))
    · refine Or.inr ?_
      rw [← Char.ofNat_toNat c, show c.toNat = kelvin.toNat by omega, Char.ofNat_toNat]
    · -- the lowercase form lies beyond ASCII
      have hbound := (hlower ▸ h).toNat
      have hle : r.image ≤ r.lower c.toNat := Nat.le_add_right _ _
      rcases toNat_ofNat_eq_or (r.lower c.toNat) with heq | heq
      · omega
      · omega

/-- The two characters that lowercasing treats apart do not become characters of terms. -/
theorem isTermChar_or_of_lowerAt {before after : Text}
    (h : ∀ d ∈ Text.lowerAt before c after, IsTermChar d) :
    IsTermChar c ∨ c.isUpper = true ∨ c = kelvin := by
  have hdot : ¬ IsTermChar '\u0307' := by decide
  have hsigma : ¬ IsTermChar '\u03C2' ∧ ¬ IsTermChar '\u03C3' := by decide
  rw [Text.lowerAt] at h
  split at h
  · exact absurd (h _ (by simp)) hdot
  · split at h
    · have hform := h _ (List.mem_singleton_self _)
      split at hform
      · exact absurd hform hsigma.1
      · exact absurd hform hsigma.2
    · exact isTermChar_or_of_lowerChar (h _ (List.mem_singleton_self _))

/-! ### Texts -/

namespace Text

variable {s : Text}

/-- The lowercase form of a character of a text is part of that of the text. -/
theorem exists_lowerAt_subset (hc : c ∈ s) (before : Text) :
    ∃ before' after, lowerAt before' c after ⊆ lowerAfter before s := by
  induction s generalizing before with
  | nil => exact absurd hc List.not_mem_nil
  | cons a s ih =>
    rw [lowerAfter]
    rcases List.mem_cons.1 hc with rfl | hc
    · exact ⟨before, s, List.subset_append_left _ _⟩
    · obtain ⟨before', after, hsub⟩ := ih hc (a :: before)
      exact ⟨before', after, List.subset_append_of_subset_right _ hsub⟩

/-- **What a text is made of** whose clean form is made of the characters of terms. -/
theorem isTermChar_or_of_clean (h : ∀ d ∈ clean s, IsTermChar d) (hc : c ∈ s) :
    isBlank c = true ∨ IsTermChar c ∨ c.isUpper = true ∨ c = kelvin := by
  by_cases hblank : isBlank c = true
  · exact Or.inl hblank
  · obtain ⟨before, after, hsub⟩ :=
      exists_lowerAt_subset (mem_squeeze.2 ⟨hc, by simpa using hblank⟩) []
    exact Or.inr (isTermChar_or_of_lowerAt fun d hd => h d (hsub hd))

end Text

end Timespan
