import Timespan.Proofs.Expression.Language
import Timespan.Proofs.Keyword.Anchor
import Timespan.Proofs.Period.Order

/-!
# Expressions that run forward

A sequence may run backwards, and nothing else does. A term alone is a period of the calendar,
which runs forward (`Period.start_le_stop`), or the origin, or it lies between the origin and
an instant at some length from it; and a window lies between its anchor and an instant at some
length from that. Which of the two ends is the anchor is a matter of the sign of the length,
but the window is as long as the length in any case (`Span.duration_between_add`).
-/

namespace Timespan

variable {tz : Option Text} {origin : Int} {r : Span}

/-! ### Terms -/

theorem Keyword.start_le_stop {k : Keyword} (h : k.span tz origin = .ok r) :
    r.start ≤ r.stop := by
  rcases span_eq_ok_iff.1 h with ⟨-, rfl⟩ | ⟨p, j, -, -, hspan⟩
  · exact Int.le_refl _
  · exact Period.start_le_stop hspan

/-- **A term runs forward.** -/
theorem Term.start_le_stop {t : Term} (h : t.span tz origin = .ok r) : r.start ≤ r.stop := by
  cases t with
  | keyword k => exact Keyword.start_le_stop h
  | quantity count unit =>
    obtain rfl := Except.ok.inj h
    exact Span.start_le_stop_between _ _

/-! ### Terms alone and windows -/

namespace Expression

open Pieces

variable {text : Text} {p : Pieces}

/-- **Terms alone and windows run forward.** A window is as long as the quantity on its right
says, and one of its ends is the start of the term on its left. -/
theorem single_and_window_run_forward (hcut : ofText text = .ok p)
    (hp : p.operator = Operator.single.symbol ∨ p.operator = Operator.window.symbol)
    (h : evaluate (some text) tz origin = .ok r) :
    r.start ≤ r.stop ∧
      (p.operator = Operator.window.symbol →
        ∃ a b anchor quantity start offset, p.first = some a ∧ p.second = some b ∧
          Term.evaluate a tz origin = .ok anchor ∧ anchor.start = some start ∧
          Term.evaluate b tz origin = .ok quantity ∧ quantity.offset = some offset ∧
          r.duration = offset.natAbs ∧ (r.start = start ∨ r.stop = start)) := by
  obtain ⟨p', hp', h⟩ := exists_ofText_of_evaluate h
  obtain rfl := Except.ok.inj (hcut.symm.trans hp')
  rcases evaluatePieces_eq_ok_iff.1 h with ⟨a, t, rfl, -, hr⟩ |
    ⟨a, b, t, u, s₁, s₂, rfl, -⟩ | ⟨a, b, t, u, d, s₁, s₂, rfl, ht, hu, hs₁, hs₂, hd, rfl⟩
  · refine ⟨Term.start_le_stop hr, fun hop => ?_⟩
    change Operator.single.symbol = Operator.window.symbol at hop
    exact absurd hop (by decide)
  · change Operator.sequence.symbol = Operator.single.symbol ∨
      Operator.sequence.symbol = Operator.window.symbol at hp
    exact absurd hp (by decide)
  · refine ⟨Span.start_le_stop_between _ _, fun _ => ⟨a, b, t.operandOf s₁, u.operandOf s₂,
      s₁.start, d, rfl, rfl, ?_, rfl, ?_, hd, Span.duration_between_add _ _,
      Span.between_add_start_or_stop _ _⟩⟩
    · rw [Term.evaluate_of_reads ht, hs₁]
      rfl
    · rw [Term.evaluate_of_reads hu, hs₂]
      rfl

/-- The two days before February 2025, and February itself, seen from a morning in March when
the clocks have been put forward. -/
theorem single_and_window_run_forward_usPacific :
    let tz := some "US/Pacific".toList
    evaluate (some " last month<>- 2 Days ".toList) tz 1743435000123 =
        .ok ⟨1738224000000, 1738396800000⟩ ∧
      Term.evaluate "last month".toList tz 1743435000123 =
        .ok (.ofSpan ⟨1738396800000, 1740815999999⟩) ∧
      (1738224000000 : Int) ≤ 1738396800000 ∧
      Span.duration ⟨1738224000000, 1738396800000⟩ = (-172800000 : Int).natAbs ∧
      evaluate (some "Last Month".toList) tz 1743435000123 =
        .ok ⟨1738396800000, 1740815999999⟩ ∧
      (1738396800000 : Int) ≤ 1740815999999 := by
  intro tz
  have hcut : ofText " last month<>- 2 Days ".toList =
      .ok ⟨some "last month".toList, "<>".toList, some "- 2 Days".toList⟩ :=
    eq_ok_of_toOption (by decide +kernel)
  have hwindow : evaluate (some " last month<>- 2 Days ".toList) tz 1743435000123 =
      .ok ⟨1738224000000, 1738396800000⟩ :=
    eq_ok_of_toOption (by decide +kernel)
  have hmonth : Term.evaluate "last month".toList tz 1743435000123 =
      .ok (.ofSpan ⟨1738396800000, 1740815999999⟩) :=
    eq_ok_of_toOption (by decide +kernel)
  have hdays : Term.evaluate "- 2 Days".toList tz 1743435000123 =
      .ok (.ofOffset 1743435000123 (-172800000)) :=
    eq_ok_of_toOption (by decide +kernel)
  have hcut' : ofText "Last Month".toList = .ok ⟨some "Last Month".toList, [], none⟩ :=
    eq_ok_of_toOption (by decide +kernel)
  have hsingle : evaluate (some "Last Month".toList) tz 1743435000123 =
      .ok ⟨1738396800000, 1740815999999⟩ :=
    eq_ok_of_toOption (by decide +kernel)
  obtain ⟨hle, hsides⟩ := single_and_window_run_forward hcut (.inr rfl) hwindow
  obtain ⟨hle', -⟩ := single_and_window_run_forward hcut' (.inl rfl) hsingle
  obtain ⟨a, b, -, quantity, -, offset, -, hb, -, -, hquantity, hoffset, hduration, -⟩ :=
    hsides rfl
  obtain rfl := Option.some.inj hb
  obtain rfl := Except.ok.inj (hdays.symm.trans hquantity)
  obtain rfl := Option.some.inj hoffset
  exact ⟨hwindow, hmonth, hle, hduration, hsingle, hle'⟩

end Expression

end Timespan
