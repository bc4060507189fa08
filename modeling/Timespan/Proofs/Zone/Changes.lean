import Timespan.Proofs.Zone.Regular
import Timespan.Proofs.Zone.Skip

/-!
# Where the clocks change

The table of a zone lists its transitions and its rule names two days of the year, and
these are the only seconds at which the clocks change: a change of the offset in force
is one of the table (`Zone.changes`) or one of the rule (`Zone.Rule.IsChange`), the latter
after the last transition (`Zone.Regular.changeAt_mem`). So a statement about all changes
of the clocks comes down to a check of the table and to the terms of the rule.

The proof goes along the table as that of `Zone.exists_near_offsetBy` does. Between two
transitions nothing changes, and right after the last one the rule has nothing to change
either, for it takes over with the offset that it finds.
-/

namespace Timespan.Zone

/-! ### Seasons -/

/-- Two offsets that follow each other change when the one gives way to the other. -/
theorem eq_of_step_ne {a b t u : Int}
    (hne : (if t - 1 < u then a else b) ≠ if t < u then a else b) : t = u := by
  refine Decidable.byContradiction fun hcon => hne ?_
  have hiff : t - 1 < u ↔ t < u := by omega
  simp only [hiff]

/-- **Seasons change when one opens or closes.** -/
theorem changeAt_season {outer inner t : Int} {opens closes : Int → Int}
    (h : Seasonal opens closes)
    (hne : season outer inner opens closes (t - 1) ≠ season outer inner opens closes t) :
    ∃ y, changeAt (season outer inner opens closes) t = ⟨outer, inner, opens y⟩ ∨
      changeAt (season outer inner opens closes) t = ⟨inner, outer, closes y⟩ := by
  obtain ⟨y, hy⟩ : ∃ y, Rule.yearOfSecond t = y := ⟨_, rfl⟩
  obtain ⟨ht₁, ht₂⟩ := yearOfSecond_eq_iff.1 hy
  have hopen := h.opens_ge y
  have hclose := h.closes_ge y
  refine ⟨y, ?_⟩
  rw [changeAt]
  by_cases hhalf : t < closes y
  · left
    rw [season_of_lt_closes h (by omega) (by omega : t - 1 < closes y),
      season_of_lt_closes h (by omega) hhalf] at hne ⊢
    obtain rfl := eq_of_step_ne hne
    rw [if_pos (by omega), if_neg (by omega)]
  · right
    rw [season_of_opens_le h (by omega : opens y ≤ t - 1) (by omega),
      season_of_opens_le h (by omega : opens y ≤ t) (by omega)] at hne ⊢
    obtain rfl := eq_of_step_ne hne
    rw [if_pos (by omega), if_neg (by omega)]

/-- A season that opens changes the clocks. -/
theorem changeAt_season_opens {outer inner : Int} {opens closes : Int → Int}
    (h : Seasonal opens closes) (y : Int) :
    changeAt (season outer inner opens closes) (opens y) = ⟨outer, inner, opens y⟩ := by
  have hopen := h.opens_ge y
  have hclose := h.closes_ge y
  rw [changeAt, season_of_lt_closes h (by omega) (by omega : opens y - 1 < closes y),
    season_of_lt_closes h (by omega) (by omega : opens y < closes y), if_pos (by omega),
    if_neg (by omega)]

/-! ### The changes of a rule -/

/-- **The changes that a rule makes**: two in every year. -/
def Rule.IsChange (r : Rule) (c : Change) : Prop :=
  match r with
  | .fixed _ => False
  | .yearly standard daylight start stop =>
    ∃ y, c = ⟨standard, daylight, start.second y - standard⟩ ∨
      c = ⟨daylight, standard, stop.second y - daylight⟩

/-- **A rule makes no other changes.** -/
theorem Rule.isChange_changeAt {r : Rule} (hr : r.Regular) {t : Int}
    (hne : r.offsetAt (t - 1) ≠ r.offsetAt t) : r.IsChange (changeAt r.offsetAt t) := by
  cases r with
  | fixed offset => exact absurd rfl hne
  | yearly standard daylight start stop =>
    obtain ⟨hs, hd, hstart, hstop, hmonth⟩ := hr
    rw [offsetAt_yearly] at hne ⊢
    rcases hmonth with hmonth | hmonth
    · have hseason := seasonal_of_month_lt hstart hstop hmonth hs hd
      rw [yearlyOffset_north hseason] at hne ⊢
      simp only [Int.add_zero] at hne ⊢
      exact changeAt_season hseason hne
    · have hseason := seasonal_of_month_lt hstop hstart hmonth hd hs
      rw [yearlyOffset_south hseason] at hne ⊢
      simp only [Int.add_zero] at hne ⊢
      obtain ⟨y, hy⟩ := changeAt_season hseason hne
      exact ⟨y, hy.symm⟩

/-- A rule for the north makes the change to daylight saving time in every year. -/
theorem Rule.changeAt_start {standard daylight : Int} {start stop : Changeover}
    (hr : (yearly standard daylight start stop).Regular) (hmonth : start.month + 2 ≤ stop.month)
    (y : Int) :
    changeAt (yearly standard daylight start stop).offsetAt (start.second y - standard) =
      ⟨standard, daylight, start.second y - standard⟩ := by
  obtain ⟨hs, hd, hstart, hstop, -⟩ := hr
  have hseason := seasonal_of_month_lt hstart hstop hmonth hs hd
  rw [offsetAt_yearly, yearlyOffset_north hseason]
  simp only [Int.add_zero]
  exact changeAt_season_opens hseason y

/-! ### The changes of a table -/

/-- The changes that a table makes, each from the offset that the last one has left. -/
def changes (initial : Int) : List Transition → List Change
  | [] => []
  | c :: rest => ⟨initial, c.offset, c.time⟩ :: changes c.offset rest

/-- **A table and its rule make no other changes** than those of the table and, when all of
them have passed, those of the rule. -/
theorem changeAt_offsetBy {r : Rule} {lag initial t : Int} {table : List Transition}
    (hr : r.Regular) (h : History r lag initial table)
    (hne : offsetBy initial table r.offsetAt (t - 1) ≠ offsetBy initial table r.offsetAt t) :
    changeAt (offsetBy initial table r.offsetAt) t ∈ changes initial table ∨
      r.IsChange (changeAt (offsetBy initial table r.offsetAt) t) ∧ ∀ c ∈ table, c.time < t := by
  induction table generalizing initial with
  | nil =>
    cases r with
    | fixed offset => exact absurd rfl hne
    | yearly standard daylight start stop => exact absurd h id
  | cons c rest ih =>
    cases rest with
    | nil =>
      obtain ⟨-, -, hoffset, -, -⟩ := h
      have hby : ∀ u, offsetBy initial [c] r.offsetAt u =
          if u < c.time then initial else if u = c.time then c.offset else r.offsetAt u :=
        fun u => offsetBy_singleton
      rw [changeAt]
      simp only [hby] at hne ⊢
      rcases Int.lt_trichotomy t c.time with hlt | rfl | hgt
      · rw [if_pos (by omega), if_pos hlt] at hne
        exact absurd rfl hne
      · left
        rw [if_pos (by omega), if_neg (by omega), if_pos rfl]
        exact List.mem_cons_self
      · rcases (by omega : t = c.time + 1 ∨ c.time < t - 1) with rfl | hlate
        · -- the rule takes over with the offset of the last transition
          rw [if_neg (by omega), if_pos (by omega), if_neg (by omega), if_neg (by omega),
            Rule.offsetAt_eq_offset, hoffset] at hne
          exact absurd rfl hne
        · right
          rw [if_neg (by omega), if_neg (by omega), if_neg (by omega), if_neg (by omega)] at hne ⊢
          exact ⟨Rule.isChange_changeAt hr hne, by simpa using hgt⟩
    | cons d rest =>
      obtain ⟨-, hapart, hrest⟩ := h
      rcases Int.lt_trichotomy t c.time with hlt | rfl | hgt
      · rw [offsetBy_of_lt (by omega), offsetBy_of_lt hlt] at hne
        exact absurd rfl hne
      · left
        rw [changeAt, offsetBy_of_lt (by omega), offsetBy_of_le (by omega) (by omega),
          offsetBy_of_lt (by omega)]
        exact List.mem_cons_self
      · have heq : ∀ u, c.time ≤ u → offsetBy initial (c :: d :: rest) r.offsetAt u =
            offsetBy c.offset (d :: rest) r.offsetAt u := fun u hu =>
          offsetBy_of_le hu (by omega)
        rw [changeAt, heq _ (by omega), heq _ (by omega)]
        rw [heq _ (by omega), heq _ (by omega)] at hne
        rcases ih hrest hne with hmem | ⟨hrule, hpast⟩
        · exact Or.inl (List.mem_cons_of_mem _ hmem)
        · refine Or.inr ⟨hrule, fun e he => ?_⟩
          rcases List.mem_cons.1 he with rfl | he
          · exact hgt
          · exact hpast e he

/-- **The clocks of a regular zone change** where its table says, and then where its rule
says. -/
theorem Regular.changeAt_mem {z : Zone} {lag t : Int} (h : z.Regular lag)
    (hne : z.offsetAt (t - 1) ≠ z.offsetAt t) :
    changeAt z.offsetAt t ∈ changes z.initial z.transitions ∨
      z.after.IsChange (changeAt z.offsetAt t) ∧ ∀ c ∈ z.transitions, c.time < t := by
  obtain ⟨hr, -, -, hhistory, -⟩ := h
  rw [offsetAt_eq_offsetBy] at hne ⊢
  exact changeAt_offsetBy hr hhistory hne

end Timespan.Zone
