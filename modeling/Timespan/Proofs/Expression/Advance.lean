import Timespan.Proofs.Expression.Form
import Timespan.Proofs.Universal

/-!
# Later origins

In universal time no expression moves backwards when its origin advances: both ends of its
span stay or move forward (`Expression.universal_advances_with_origin`).

This is so although a month or a year back is no such move. From the thirtieth of March at
ten and from the thirty-first at nine it leads to the twenty-eighth of February at ten and at
nine. But a keyword asks only in which month the instant lies, and the number of that month
is one less than the number of the month of the origin (`Keyword.index_of_carries`), which
does not decrease (`Period.index_ofDay_mono`).
-/

namespace Timespan

open Calendar

variable {origin origin' : Int}

/-! ### Spans -/

/-- **A span is not ahead of another**, at either end. -/
structure Span.Behind (r r' : Span) : Prop where
  /-- It starts no later. -/
  start_le : r.start ≤ r'.start
  /-- It stops no later. -/
  stop_le : r.stop ≤ r'.stop

theorem Span.between_behind {a a' : Int} (h : a ≤ a') (d : Int) :
    (between a (a + d)).Behind (between a' (a' + d)) := by
  constructor
  · simp only [between]
    omega
  · simp only [between]
    omega

/-! ### Periods -/

namespace Period

/-- The number of the period around an instant does not decrease. -/
theorem index_date_mono (p : Period) (h : origin ≤ origin') :
    p.index (WallClock.date ⟨origin⟩) ≤ p.index (WallClock.date ⟨origin'⟩) := by
  refine p.index_ofDay_mono ?_
  simp only [WallClock.day, Duration.day_eq]
  omega

theorem tile_behind (p : Period) {k k' : Int} (h : k ≤ k') : (p.tile k).Behind (p.tile k') := by
  have h₁ := p.opening_mono h
  have h₂ := p.opening_mono (by omega : k + 1 ≤ k' + 1)
  constructor
  · simp only [tile, Duration.day_eq]
    omega
  · simp only [tile, Duration.day_eq]
    omega

end Period

/-! ### Keywords, terms and forms -/

theorem Keyword.universalSpan_behind (k : Keyword) (h : origin ≤ origin') :
    (k.universalSpan origin).Behind (k.universalSpan origin') := by
  rw [universalSpan, universalSpan]
  cases k.period? with
  | none => exact ⟨h, h⟩
  | some p => exact p.tile_behind (Int.add_le_add_right (p.index_date_mono h) _)

/-- **A term does not move backwards** when the origin advances. -/
theorem Term.universalSpan_behind (t : Term) (h : origin ≤ origin') :
    (t.universalSpan origin).Behind (t.universalSpan origin') := by
  cases t with
  | keyword k => exact k.universalSpan_behind h
  | quantity count unit => exact Span.between_behind h _

namespace Expression

variable {text : Text}

/-- What is made of spans that are not ahead is not ahead. -/
theorem Form.span_behind {spanOf spanOf' : Term → Span}
    (h : ∀ t, (spanOf t).Behind (spanOf' t)) (f : Form) :
    (f.span spanOf).Behind (f.span spanOf') := by
  cases f with
  | single t => exact h t
  | sequence t u => exact ⟨(h t).start_le, (h u).stop_le⟩
  | window t offset => exact Span.between_behind (h t).start_le offset

/-- **No expression moves backwards** when its origin advances, in universal time: if it has a
span from an origin and from a later one, both ends of the first are not after those of the
second. -/
theorem universal_advances_with_origin {r r' : Span} (h : origin ≤ origin')
    (hr : evaluate (some text) (some "UTC".toList) origin = .ok r)
    (hr' : evaluate (some text) (some "UTC".toList) origin' = .ok r') :
    r.start ≤ r'.start ∧ r.stop ≤ r'.stop := by
  have hz : Zone.find (some "UTC".toList) = .ok Zone.utc := rfl
  obtain ⟨f, hf, rfl⟩ := exists_form_of_evaluate
    (fun t _ => t.eq_universalSpan hz Zone.isUniversal_utc) hr
  obtain ⟨f', hf', rfl⟩ := exists_form_of_evaluate
    (fun t _ => t.eq_universalSpan hz Zone.isUniversal_utc) hr'
  obtain rfl := Option.some.inj (hf.symm.trans hf')
  obtain ⟨hstart, hstop⟩ := f.span_behind fun t => t.universalSpan_behind h
  exact ⟨hstart, hstop⟩

/-- A month before the thirty-first of March at nine is an hour earlier than a month before
the thirtieth at ten, but it is February for both. -/
theorem universal_advances_with_origin_february :
    let tz := some "UTC".toList
    Shift.move { months := -1 } tz 1743328800000 = .ok 1740736800000 ∧
      Shift.move { months := -1 } tz 1743411600000 = .ok 1740733200000 ∧
      evaluate (some "last month -> 2h".toList) tz 1743328800000 =
        .ok ⟨1738368000000, 1743336000000⟩ ∧
      evaluate (some "last month -> 2h".toList) tz 1743411600000 =
        .ok ⟨1738368000000, 1743418800000⟩ ∧
      (1738368000000 : Int) ≤ 1738368000000 ∧ (1743336000000 : Int) ≤ 1743418800000 := by
  intro tz
  have hr : evaluate (some "last month -> 2h".toList) tz 1743328800000 =
      .ok ⟨1738368000000, 1743336000000⟩ :=
    eq_ok_of_toOption (by decide +kernel)
  have hr' : evaluate (some "last month -> 2h".toList) tz 1743411600000 =
      .ok ⟨1738368000000, 1743418800000⟩ :=
    eq_ok_of_toOption (by decide +kernel)
  exact ⟨eq_ok_of_toOption (by decide +kernel), eq_ok_of_toOption (by decide +kernel), hr, hr',
    universal_advances_with_origin (by decide) hr hr'⟩

end Expression

end Timespan
