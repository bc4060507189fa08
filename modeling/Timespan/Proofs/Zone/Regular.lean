import Timespan.Proofs.Zone.History
import Timespan.Zone.Catalogue

/-!
# Regular zones

A zone is regular if its table and its rule are a history and its offsets are shorter
than a day (`Zone.Regular`), so that its clocks change one at a time and readings are
converted faithfully (`Zone.Regular.resolves`).

The zones that can be found are all regular (`Zone.regular_of_find`), with one
reservation. In Nuuk the last transition is one of the rule, which puts the clocks back
by an hour, but the table has stayed at the same offset by then. So the rule takes over
late on the wall, and for the first `3599` seconds it answers for clocks that were never
put forward. These seconds are the **misread hour** (`Zone.Misread`), in which
`Zone.offsetOnWall_nuuk` and `Zone.offsetAt_nuuk` disagree.
-/

namespace Timespan.Zone

/-! ### Regular zones -/

/-- **Regular clocks**: the offsets are shorter than a day, the table is a history and
the rule, which takes over after `lag` seconds on the wall, is regular. A zone does not
look back further than a day. -/
def Regular (z : Zone) (lag : Int) : Prop :=
  z.after.Regular ∧ WithinDay z.initial ∧ (∀ c ∈ z.transitions, WithinDay c.offset) ∧
    History z.after lag z.initial z.transitions ∧ 0 ≤ z.lookback ∧ z.lookback ≤ 86400000

instance (z : Zone) (lag : Int) : Decidable (z.Regular lag) :=
  inferInstanceAs (Decidable (_ ∧ _))

section Regular

variable {z : Zone} {lag w : Int}

theorem Regular.withinDay_offsetAt (h : z.Regular lag) (t : Int) :
    WithinDay (z.offsetAt t) := by
  obtain ⟨hr, hi, htable, -⟩ := h
  rw [offsetAt_eq_offsetBy]
  exact withinDay_offsetBy hi htable (Rule.withinDay_offsetAt hr) t

theorem Regular.withinDay_offsetOnWall (h : z.Regular lag) (w : Int) :
    WithinDay (z.offsetOnWall w) := by
  obtain ⟨hr, hi, htable, -⟩ := h
  rw [offsetOnWall_eq_offsetBy]
  refine withinDay_offsetBy hi (fun c hc => ?_) (Rule.withinDay_offsetOnWall hr) w
  -- the wall sees each transition at another second, but with the same offset
  obtain ⟨d, hd, heq⟩ := exists_of_mem_onWall hc
  rw [← heq]
  exact htable d hd

/-- **Regular clocks change one at a time**, seen from every reading at which the rule has
taken over, or does not matter. -/
theorem Regular.exists_near (h : z.Regular lag)
    (hw : Settled lag (onWall z.initial z.transitions) w) :
    ∃ c, Near z.offsetAt z.offsetOnWall w c := by
  obtain ⟨hr, hi, htable, hhistory, -⟩ := h
  rw [offsetAt_eq_offsetBy, offsetOnWall_eq_offsetBy]
  exact exists_near_offsetBy hr hi htable hhistory hw

/-- **Regular clocks resolve every such reading.** -/
theorem Regular.resolves (h : z.Regular lag)
    (hw : Settled lag (onWall z.initial z.transitions) w) :
    Resolves z.offsetAt z.offsetOnWall w := by
  obtain ⟨c, hc⟩ := h.exists_near hw
  exact hc.resolves h.withinDay_offsetAt

end Regular

/-! ### The zones there are -/

/-- The key of the zone whose rule takes over late. -/
def nuukKey : Text :=
  "America/Nuuk".toList

/-- How many seconds late the rule takes over in the zone of a key. -/
def lag (tz : Option Text) : Int :=
  if tz = some nuukKey then 3599 else 0

theorem regular_of_mem {key : Text} {z : Zone} (h : (key, z) ∈ catalogue) :
    z.Regular (lag (some key)) := by
  have hall : ∀ e ∈ catalogue, e.2.Regular (lag (some e.1)) := by
    decide +kernel
  exact hall _ h

theorem mem_of_find {key : Text} {z : Zone} (h : find (some key) = .ok z) :
    (key, z) ∈ catalogue := by
  rw [find] at h
  split at h
  · split at h
    · next zone hlookup =>
      obtain rfl := Except.ok.inj h
      rw [List.lookup_eq_some_iff] at hlookup
      obtain ⟨l₁, l₂, heq, -⟩ := hlookup
      rw [heq]
      exact List.mem_append_right _ List.mem_cons_self
    · exact absurd h (by simp)
  · exact absurd h (by simp)

/-- **Every zone that is found is regular.** -/
theorem regular_of_find {tz : Option Text} {z : Zone} (h : find tz = .ok z) :
    z.Regular (lag tz) := by
  cases tz with
  | none =>
    obtain rfl : host = z := Except.ok.inj h
    decide
  | some key => exact regular_of_mem (mem_of_find h)

/-! ### The misread hour -/

/-- **The misread hour**: the seconds on the wall of Nuuk for which the rule answers
although it has not taken over. They are the last hour of the twenty-eighth of October
2023. -/
def Misread (tz : Option Text) (w : Int) : Prop :=
  tz = some nuukKey ∧ 1698534000 < w ∧ w < 1698537600

theorem find_nuuk : find (some nuukKey) = .ok nuuk := rfl

theorem settled_of_not_misread {tz : Option Text} {z : Zone} {w : Int} (h : find tz = .ok z)
    (hw : ¬ Misread tz w) : Settled (lag tz) (onWall z.initial z.transitions) w := by
  intro c hc hlt
  by_cases htz : tz = some nuukKey
  · subst htz
    obtain rfl : nuuk = z := Except.ok.inj (find_nuuk.symm.trans h)
    have hlast : (onWall nuuk.initial nuuk.transitions).getLast? = some ⟨1698534000, -7200⟩ := by
      decide +kernel
    rw [hlast] at hc
    obtain rfl := Option.some.inj hc
    have hlag : lag (some nuukKey) = 3599 := rfl
    have hhour : ¬ (1698534000 < w ∧ w < 1698537600) := fun h => hw ⟨rfl, h⟩
    simp only at hlt ⊢
    omega
  · -- elsewhere the rule takes over at once
    rw [lag, if_neg htz]
    omega

/-- Two seconds are on the same side of every transition, or the table tells them apart. -/
theorem tableOffset_congr {initial t u : Int} {table : List Transition}
    (h : ∀ c ∈ table, t < c.time ↔ u < c.time) :
    tableOffset initial table t = tableOffset initial table u := by
  induction table generalizing initial with
  | nil => rfl
  | cons c rest ih =>
    simp only [tableOffset, h c List.mem_cons_self]
    rw [ih fun d hd => h d (List.mem_cons_of_mem c hd)]

/-- In the misread hour the rule still takes the clocks for being put forward. -/
theorem offsetOnWall_nuuk {w : Int} (h₁ : 1698534000 < w) (h₂ : w < 1698537600) :
    nuuk.offsetOnWall w = -3600 := by
  have htimes : ∀ c ∈ onWall nuuk.initial nuuk.transitions, c.time ≤ 1698534000 := by
    decide +kernel
  have hquiet : nuuk.after.Quiet nuuk.after.delayOnWall 1698534001 1698537599 := by
    decide +kernel
  rw [offsetOnWall_eq_offsetBy, offsetBy_of_forall_lt fun c hc => Int.lt_of_le_of_lt
    (htimes c hc) h₁, Rule.offsetOnWall_eq_offset, Rule.offset_of_quiet hquiet (by omega)
    (by omega)]
  decide +kernel

/-- In fact the clocks have kept their offset since March. -/
theorem offsetAt_nuuk {t : Int} (h₁ : 1679792400 ≤ t) (h₂ : t < 1698800400) :
    nuuk.offsetAt t = -7200 := by
  have htimes : ∀ c ∈ nuuk.transitions, c.time ≤ 1679792400 ∨ c.time = 1698541200 := by
    decide +kernel
  have hquiet : nuuk.after.Quiet 0 1698541201 1698800400 := by
    decide +kernel
  rw [offsetAt_eq_offsetBy]
  by_cases hlast : t ≤ 1698541200
  · -- the table is asked, and knows no transition between March and its last one
    have hmem : (⟨1698541200, -7200⟩ : Transition) ∈ nuuk.transitions := by
      decide +kernel
    rw [offsetBy_of_mem hmem hlast]
    rcases Int.lt_or_eq_of_le hlast with hlt | rfl
    · rw [tableOffset_congr (u := 1679792400) fun c hc => ?_]
      · decide +kernel
      · rcases htimes c hc with h | h
        · omega
        · omega
    · decide +kernel
  · rw [offsetBy_of_forall_lt, Rule.offsetAt_eq_offset,
      Rule.offset_of_quiet hquiet (by omega) (by omega)]
    · decide +kernel
    · intro c hc
      have := htimes c hc
      omega

end Timespan.Zone
