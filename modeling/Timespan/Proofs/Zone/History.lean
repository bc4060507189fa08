import Timespan.Proofs.Zone.Rule
import Timespan.Zone.Basic

/-!
# Histories

The clocks of a zone follow a table of transitions and, after the last of them, a rule.
A table with its rule is a **history** (`Zone.History`) if the transitions are days apart
and the rule takes over where the table ends: soon after the last transition it gives
the offset that the transition has left, and gives it for days (`Zone.TakesOver`).

Seen from any reading a history changes the clocks at most once
(`Zone.exists_near_offsetBy`). The proof goes along the table. A transition is near until
two days after it has happened; then it can be forgotten, and so can the offset before
it, until only the rule is left.

A rule may take over late on the wall, by a number `lag` of seconds, and then the
readings in between have to be left out (`Zone.Settled`).
-/

namespace Timespan.Zone

/-! ### Tables -/

/-- The offset at `t` according to a table and, after its last transition, to a rule. -/
def offsetBy (initial : Int) (table : List Transition) (rule : Int → Int) (t : Int) : Int :=
  if table.all fun c => c.time < t then rule t else tableOffset initial table t

theorem offsetAt_eq_offsetBy (z : Zone) :
    z.offsetAt = offsetBy z.initial z.transitions z.after.offsetAt := rfl

theorem offsetOnWall_eq_offsetBy (z : Zone) :
    z.offsetOnWall = offsetBy z.initial (onWall z.initial z.transitions) z.after.offsetOnWall :=
  rfl

section Table

variable {initial t : Int} {c d : Transition} {rest : List Transition} {rule : Int → Int}

/-- Once all transitions have passed, the rule is asked. -/
theorem offsetBy_of_forall_lt {table : List Transition} (h : ∀ c ∈ table, c.time < t) :
    offsetBy initial table rule t = rule t := by
  have hall : (table.all fun c => c.time < t) = true := by
    rw [List.all_eq_true]
    exact fun c hc => decide_eq_true (h c hc)
  rw [offsetBy, if_pos hall]

/-- Up to the last transition, and still on its second, the table is asked. -/
theorem offsetBy_of_mem {table : List Transition} (hc : c ∈ table) (h : t ≤ c.time) :
    offsetBy initial table rule t = tableOffset initial table t := by
  have hall : (table.all fun c => c.time < t) = false := by
    rw [List.all_eq_false]
    refine ⟨c, hc, fun hlt => ?_⟩
    have := of_decide_eq_true hlt
    omega
  rw [offsetBy, hall, if_neg Bool.false_ne_true]

/-- Before the first transition nothing has changed. -/
theorem offsetBy_of_lt (h : t < c.time) : offsetBy initial (c :: rest) rule t = initial := by
  rw [offsetBy_of_mem List.mem_cons_self (Int.le_of_lt h), tableOffset, if_pos h]

/-- Once the first of several transitions has passed, it is not asked any more. -/
theorem offsetBy_of_le (h : c.time ≤ t) (hcd : c.time < d.time) :
    offsetBy initial (c :: d :: rest) rule t = offsetBy c.offset (d :: rest) rule t := by
  -- the rule is asked after the last transition, and the first is not the last
  have hall : (c :: d :: rest).all (fun c => c.time < t) =
      (d :: rest).all (fun c => c.time < t) := by
    by_cases hd : d.time < t
    · have hc : c.time < t := by omega
      simp [hc]
    · simp [hd]
  rw [offsetBy, offsetBy, hall, tableOffset, if_neg (by omega : ¬ t < c.time)]

/-- The last transition holds for its own second, and the rule after it. -/
theorem offsetBy_singleton :
    offsetBy initial [c] rule t =
      if t < c.time then initial else if t = c.time then c.offset else rule t := by
  rcases Int.lt_trichotomy t c.time with hlt | rfl | hgt
  · rw [offsetBy_of_lt hlt, if_pos hlt]
  · rw [offsetBy_of_mem List.mem_cons_self (Int.le_refl _)]
    simp [tableOffset]
  · rw [offsetBy_of_forall_lt (by simpa using hgt), if_neg (by omega), if_neg (by omega)]

theorem withinDay_tableOffset {table : List Transition} (hi : WithinDay initial)
    (htable : ∀ c ∈ table, WithinDay c.offset) (t : Int) :
    WithinDay (tableOffset initial table t) := by
  induction table generalizing initial with
  | nil => exact hi
  | cons c rest ih =>
    rw [tableOffset]
    split
    · exact hi
    · exact ih (htable c List.mem_cons_self) fun d hd => htable d (List.mem_cons_of_mem c hd)

theorem withinDay_offsetBy {table : List Transition} (hi : WithinDay initial)
    (htable : ∀ c ∈ table, WithinDay c.offset) (hrule : ∀ t, WithinDay (rule t)) (t : Int) :
    WithinDay (offsetBy initial table rule t) := by
  rw [offsetBy]
  split
  · exact hrule t
  · exact withinDay_tableOffset hi htable t

theorem exists_of_mem_onWall {table : List Transition} (h : c ∈ onWall initial table) :
    ∃ d ∈ table, d.offset = c.offset := by
  induction table generalizing initial with
  | nil => exact absurd h (by simp [onWall])
  | cons d rest ih =>
    rcases List.mem_cons.1 h with rfl | h
    · exact ⟨d, List.mem_cons_self, rfl⟩
    · obtain ⟨e, he, heq⟩ := ih h
      exact ⟨e, List.mem_cons_of_mem d he, heq⟩

end Table

/-! ### From the table to the rule -/

/-- A rule that keeps one offset. -/
def Rule.Constant : Rule → Prop
  | .fixed _ => True
  | .yearly _ _ _ _ => False

instance : (r : Rule) → Decidable r.Constant
  | .fixed _ => inferInstanceAs (Decidable True)
  | .yearly _ _ _ _ => inferInstanceAs (Decidable False)

/-- **The rule takes over** from the last transition: for three days it gives the offset
that the transition has left, on the wall only after `lag` seconds. -/
def TakesOver (r : Rule) (lag initial : Int) (c : Transition) : Prop :=
  r.Quiet 0 (c.time + 1) (c.time + 259200) ∧ r.offset 0 (c.time + 1) = c.offset ∧
    r.Quiet r.delayOnWall (c.time + max initial c.offset + lag + 1) (c.time + 259200) ∧
    r.offset r.delayOnWall (c.time + max initial c.offset + lag + 1) = c.offset

instance (r : Rule) (lag initial : Int) (c : Transition) : Decidable (TakesOver r lag initial c) :=
  inferInstanceAs (Decidable (_ ∧ _))

/-- **A history**: transitions, none of them before the beginning, that are three days
apart, and a rule that takes over from the last one. Without a table there is no change
at all. -/
def History (r : Rule) (lag : Int) : Int → List Transition → Prop
  | _, [] => r.Constant
  | initial, [c] => beginning + 31622400 ≤ c.time ∧ TakesOver r lag initial c
  | _, c :: d :: rest =>
    beginning ≤ c.time ∧ c.time + 259200 ≤ d.time ∧ History r lag c.offset (d :: rest)

instance decidableHistory (r : Rule) (lag : Int) :
    (initial : Int) → (table : List Transition) → Decidable (History r lag initial table)
  | _, [] => inferInstanceAs (Decidable r.Constant)
  | _, [_] => inferInstanceAs (Decidable (_ ∧ _))
  | _, c :: d :: rest =>
    have := decidableHistory r lag c.offset (d :: rest)
    inferInstanceAs (Decidable (_ ∧ _ ∧ _))

/-- Whether a reading is not one of those for which the rule answers too soon. -/
def Settled (lag : Int) (table : List Transition) (w : Int) : Prop :=
  ∀ c ∈ table.getLast?, c.time < w → c.time + lag < w

/-- Around the last transition the clocks change once, and after it the rule is asked. -/
theorem exists_near_singleton {r : Rule} {lag initial w : Int} {c : Transition}
    (hr : r.Regular) (hi : WithinDay initial) (hc : WithinDay c.offset)
    (h : History r lag initial [c]) (hw : Settled lag (onWall initial [c]) w) :
    ∃ x, Near (offsetBy initial [c] r.offsetAt)
      (offsetBy initial (onWall initial [c]) r.offsetOnWall) w x := by
  obtain ⟨hbegin, hquiet, hoffset, hquiet', hoffset'⟩ := h
  have hsettled : c.time + max initial c.offset < w → c.time + max initial c.offset + lag < w :=
    hw _ rfl
  have hwall : offsetBy initial (onWall initial [c]) r.offsetOnWall w =
      if w < c.time + max initial c.offset then initial
      else if w = c.time + max initial c.offset then c.offset else r.offsetOnWall w :=
    offsetBy_singleton
  obtain ⟨hi₁, hi₂⟩ := hi
  obtain ⟨hc₁, hc₂⟩ := hc
  by_cases hlate : c.time + 172800 ≤ w
  · -- the transition is forgotten
    obtain ⟨x, hx⟩ := Rule.exists_near hr (w := w) (by omega)
    refine ⟨x, hx.congr (fun t h₁ h₂ => ?_) ?_⟩
    · rw [offsetBy_singleton, if_neg (by omega), if_neg (by omega)]
    · rw [hwall, if_neg (by omega), if_neg (by omega)]
  · -- what the rule says here is what the transition has left
    have hrule : ∀ t, c.time < t → t < w + 86400 → r.offsetAt t = c.offset := by
      intro t h₁ h₂
      rw [Rule.offsetAt_eq_offset, Rule.offset_of_quiet hquiet (by omega) (by omega), hoffset]
    have hrule' : c.time + max initial c.offset < w → r.offsetOnWall w = c.offset := by
      intro h
      have := hsettled h
      rw [Rule.offsetOnWall_eq_offset, Rule.offset_of_quiet hquiet' (by omega) (by omega),
        hoffset']
    refine ⟨⟨initial, c.offset, c.time⟩, ⟨hi₁, hi₂⟩, ⟨hc₁, hc₂⟩,
      Or.inr (by omega : beginning ≤ c.time), fun t h₁ h₂ => ?_, ?_⟩
    · simp only [offsetBy_singleton, Change.offsetAt]
      rcases Int.lt_trichotomy t c.time with hlt | heq | hgt
      · rw [if_pos hlt, if_pos hlt]
      · rw [if_neg (by omega), if_pos heq, if_neg (by omega)]
      · rw [if_neg (by omega), if_neg (by omega), if_neg (by omega), hrule t hgt h₂]
    · simp only [hwall, Change.offsetOnWall]
      rcases Int.lt_trichotomy w (c.time + max initial c.offset) with hlt | heq | hgt
      · rw [if_pos hlt, if_pos hlt]
      · rw [if_neg (by omega), if_pos heq, if_neg (by omega)]
      · rw [if_neg (by omega), if_neg (by omega), if_neg (by omega), hrule' hgt]

/-- The first of several transitions is near until two days after it, and then
forgotten. -/
theorem exists_near_cons {initial w : Int} {c d : Transition} {rest : List Transition}
    {rule ruleOnWall : Int → Int} (hi : WithinDay initial) (hc : WithinDay c.offset)
    (hd : WithinDay d.offset) (hbegin : beginning ≤ c.time)
    (hapart : c.time + 259200 ≤ d.time)
    (h : ∃ x, Near (offsetBy c.offset (d :: rest) rule)
      (offsetBy c.offset (onWall c.offset (d :: rest)) ruleOnWall) w x) :
    ∃ x, Near (offsetBy initial (c :: d :: rest) rule)
      (offsetBy initial (onWall initial (c :: d :: rest)) ruleOnWall) w x := by
  obtain ⟨hi₁, hi₂⟩ := hi
  obtain ⟨hc₁, hc₂⟩ := hc
  obtain ⟨hd₁, hd₂⟩ := hd
  by_cases hlate : c.time + 172800 ≤ w
  · obtain ⟨x, hx⟩ := h
    refine ⟨x, hx.congr (fun t h₁ h₂ => ?_) ?_⟩
    · exact offsetBy_of_le (by omega) (by omega)
    · exact offsetBy_of_le (c := ⟨c.time + max initial c.offset, c.offset⟩)
        (d := ⟨d.time + max c.offset d.offset, d.offset⟩) (by simp only; omega)
        (by simp only; omega)
  · -- the second transition is too far away to be seen
    refine ⟨⟨initial, c.offset, c.time⟩, ⟨hi₁, hi₂⟩, ⟨hc₁, hc₂⟩, Or.inr hbegin,
      fun t h₁ h₂ => ?_, ?_⟩
    · simp only [Change.offsetAt]
      by_cases hlt : t < c.time
      · rw [offsetBy_of_lt hlt, if_pos hlt]
      · rw [offsetBy_of_le (by omega) (by omega), offsetBy_of_lt (by omega), if_neg hlt]
    · simp only [Change.offsetOnWall, onWall]
      by_cases hlt : w < c.time + max initial c.offset
      · rw [offsetBy_of_lt hlt, if_pos hlt]
      · rw [offsetBy_of_le (by simp only; omega) (by simp only; omega),
          offsetBy_of_lt (by simp only; omega), if_neg hlt]

/-- **A history changes the clocks one at a time.** -/
theorem exists_near_offsetBy {r : Rule} {lag initial w : Int} {table : List Transition}
    (hr : r.Regular) (hi : WithinDay initial) (htable : ∀ c ∈ table, WithinDay c.offset)
    (h : History r lag initial table) (hw : Settled lag (onWall initial table) w) :
    ∃ x, Near (offsetBy initial table r.offsetAt)
      (offsetBy initial (onWall initial table) r.offsetOnWall) w x := by
  -- along the table, where each transition leaves its offset to the rest as the initial one
  induction table generalizing initial with
  | nil =>
    cases r with
    | fixed offset => exact ⟨.none offset, near_none hr w⟩
    | yearly standard daylight start stop => exact absurd h id
  | cons c rest ih =>
    have hc := htable c List.mem_cons_self
    cases rest with
    | nil => exact exists_near_singleton hr hi hc h hw
    | cons d rest =>
      obtain ⟨hbegin, hapart, hrest⟩ := h
      have htable' : ∀ e ∈ d :: rest, WithinDay e.offset :=
        fun e he => htable e (List.mem_cons_of_mem c he)
      have hlast : Settled lag (onWall c.offset (d :: rest)) w := by
        intro x hx
        exact hw x (by rw [onWall, onWall, List.getLast?_cons_cons]; exact hx)
      exact exists_near_cons hi hc (htable' d List.mem_cons_self) hbegin hapart
        (ih hc htable' hrest hlast)

end Timespan.Zone
