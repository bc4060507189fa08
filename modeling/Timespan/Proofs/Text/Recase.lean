import Timespan.Proofs.Text.Clean

/-!
# Characters that cleaning cannot tell apart

Lowercasing looks at a character and at its neighbours, and these may have been exchanged
themselves for others. Two characters are the **same letter** (`SameLetter`) if it makes no
difference which of them is looked at, in either way; then a text has the same clean form
wherever one is written for the other (`Text.clean_map`).

The small letters of ASCII are the same letters as its capitals (`sameLetter_toLower`):
`Char.toLower` changes twenty-six capitals and nothing else, so what has to be known about a
character is checked for these (`apply_toLower`).
-/

namespace Timespan

/-! ### Capitals -/

/-- Only the twenty-six capitals of ASCII have a small letter. -/
theorem toLower_eq_self_or (c : Char) :
    c.toLower = c ∨ ∃ n < 26, c = Char.ofNat (65 + n) ∧ c.toLower = Char.ofNat (97 + n) := by
  have hletters : ∀ n < 26, (Char.ofNat (65 + n)).toLower = Char.ofNat (97 + n) := by
    decide +kernel
  by_cases hcapital : c.val ≥ 'A'.val ∧ c.val ≤ 'Z'.val
  · have h₁ : 65 ≤ c.toNat := UInt32.le_iff_toNat_le.1 hcapital.1
    have h₂ : c.toNat ≤ 90 := UInt32.le_iff_toNat_le.1 hcapital.2
    have hc : Char.ofNat (65 + (c.toNat - 65)) = c := by
      rw [Nat.add_sub_cancel' h₁, Char.ofNat_toNat]
    refine Or.inr ⟨c.toNat - 65, by omega, hc.symm, ?_⟩
    rw [← hletters _ (by omega), hc]
  · exact Or.inl (dif_neg hcapital)

/-- What the two cases of every capital have in common, the two cases of every character
have. -/
theorem apply_toLower {α : Type} {f : Char → α}
    (h : ∀ n < 26, f (Char.ofNat (97 + n)) = f (Char.ofNat (65 + n))) (c : Char) :
    f c.toLower = f c := by
  rcases toLower_eq_self_or c with hself | ⟨n, hn, hc, hlower⟩
  · rw [hself]
  · rw [hlower, hc]
    exact h n hn

/-! ### The same letter -/

/-- **Two characters are the same letter** if cleaning cannot tell them apart, where they stand
or where their neighbours do. -/
structure SameLetter (c c' : Char) : Prop where
  /-- Both are blanks or neither is. -/
  isBlank : isBlank c' = isBlank c
  /-- A search for a cased letter looks past both or neither. -/
  isCaseIgnorable : isCaseIgnorable c' = isCaseIgnorable c
  /-- Both have a case or neither has. -/
  isCased : isCased c' = isCased c
  /-- They have one lowercase form. -/
  lowerAt : ∀ before after, Text.lowerAt before c' after = Text.lowerAt before c after

theorem SameLetter.refl (c : Char) : SameLetter c c :=
  ⟨rfl, rfl, rfl, fun _ _ => rfl⟩

/-- **The case of a letter** of ASCII makes no difference. -/
theorem sameLetter_toLower (c : Char) : SameLetter c c.toLower where
  isBlank := apply_toLower (by decide +kernel) c
  isCaseIgnorable := apply_toLower (by decide +kernel) c
  isCased := apply_toLower (by decide +kernel) c
  lowerAt := by
    intro before after
    have hletters : ∀ n < 26, (Char.ofNat (97 + n) ≠ '\u0130' ∧ Char.ofNat (97 + n) ≠ '\u03A3') ∧
        Char.ofNat (65 + n) ≠ '\u0130' ∧ Char.ofNat (65 + n) ≠ '\u03A3' := by
      decide +kernel
    have hlower : lowerChar c.toLower = lowerChar c :=
      apply_toLower (by decide +kernel) c
    rcases toLower_eq_self_or c with hself | ⟨n, hn, hc, hsmall⟩
    · rw [hself]
    · obtain ⟨⟨h₁, h₂⟩, h₃, h₄⟩ := hletters n hn
      rw [← hsmall] at h₁ h₂
      rw [← hc] at h₃ h₄
      rw [Text.lowerAt_eq_of_ne h₁ h₂, Text.lowerAt_eq_of_ne h₃ h₄, hlower]

namespace Text

variable {f : Char → Char}

/-! ### Neighbours -/

theorem startsCased_map (hf : ∀ c, SameLetter c (f c)) (s : Text) :
    startsCased (s.map f) = startsCased s := by
  induction s with
  | nil => rfl
  | cons c s ih =>
    unfold startsCased at ih ⊢
    rw [List.map_cons, List.dropWhile_cons, List.dropWhile_cons, (hf c).isCaseIgnorable]
    by_cases hc : isCaseIgnorable c = true
    · rw [if_pos hc, if_pos hc]
      exact ih
    · rw [if_neg hc, if_neg hc]
      exact (hf c).isCased

/-- **A character is lowercased alike** among neighbours that are the same letters. -/
theorem lowerAt_map (hf : ∀ c, SameLetter c (f c)) (before : Text) (c : Char) (after : Text) :
    lowerAt (before.map f) (f c) (after.map f) = lowerAt before c after := by
  rw [(hf c).lowerAt, lowerAt, lowerAt, endsWord, endsWord, startsCased_map hf,
    startsCased_map hf]

/-! ### Texts -/

theorem lowerAfter_map (hf : ∀ c, SameLetter c (f c)) (before s : Text) :
    lowerAfter (before.map f) (s.map f) = lowerAfter before s := by
  induction s generalizing before with
  | nil => rfl
  | cons c s ih =>
    rw [List.map_cons, lowerAfter, lowerAt_map hf, ← List.map_cons, ih, lowerAfter]

theorem squeeze_map (hf : ∀ c, SameLetter c (f c)) (s : Text) :
    squeeze (s.map f) = (squeeze s).map f := by
  rw [squeeze, List.filter_map, squeeze]
  congr 2
  funext c
  exact congrArg not (hf c).isBlank

/-- **The clean form** is the same for the same letters. -/
theorem clean_map (hf : ∀ c, SameLetter c (f c)) (s : Text) : clean (s.map f) = clean s := by
  rw [clean, squeeze_map hf, lower, clean, lower]
  exact lowerAfter_map hf [] (squeeze s)

/-- Texts that differ in the case of letters have one clean form. -/
theorem clean_congr {s s' : Text} (h : s'.map Char.toLower = s.map Char.toLower) :
    clean s' = clean s := by
  rw [← clean_map sameLetter_toLower s', h, clean_map sameLetter_toLower]

end Text

end Timespan
