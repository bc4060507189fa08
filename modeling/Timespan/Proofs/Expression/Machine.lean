import Timespan.Proofs.Expression.Meaning
import Timespan.Proofs.Universal

/-!
# The zone of the machine

Where no zone is named the machine's own is taken. It keeps universal time, as the zone named
`UTC` does, but it looks back a day at every time that it converts (`Zone.host`), and so its
calendar begins a day later (`Zone.reaches_host_iff`). Otherwise the two are alike, and the
question is what becomes of the one day.

* What the machine's zone answers, the named one answers in the same way, for it has only
  more calendar (`Expression.evaluate_mono`).
* Where no time that is converted lies before the calendars agree, their failures agree too,
  with the instants that they name (`Expression.evaluate_congr_of_spans`). All those times lie
  in the period of the origin, in the one before it or after it (`Keyword.span_congr`). From
  the third year on no period before that of the origin is the first of the calendar.
-/

namespace Timespan

open Calendar

variable {tz tz' : Option Text} {z z' : Zone} {instant origin first : Int} {r : Span}

/-! ### The two zones -/

namespace Zone

theorem isUniversal_host : host.IsUniversal :=
  ⟨fun _ => rfl, fun _ => rfl⟩

/-- **The machine's calendar** begins a day later. -/
theorem reaches_host_iff {m : Int} :
    host.Reaches m ↔ utc.Reaches m ∧ (firstDay + 1) * Duration.day ≤ m := by
  simp only [Reaches, InCalendar, host, utc, firstDay, lastDay, Duration.day_eq]
  omega

/-- **The calendars of two zones agree** from a time on. -/
def AgreeFrom (z z' : Zone) (first : Int) : Prop :=
  ∀ m, first ≤ m → (z.Reaches m ↔ z'.Reaches m)

theorem agreeFrom_host_utc : host.AgreeFrom utc ((firstDay + 1) * Duration.day) :=
  fun _ hm => ⟨fun h => (reaches_host_iff.1 h).1, fun h => reaches_host_iff.2 ⟨h, hm⟩⟩

end Zone

/-! ### A calendar that reaches farther -/

section Mono

variable (hz : Zone.find tz = .ok z) (hz' : Zone.find tz' = .ok z') (hu : z.IsUniversal)
  (hu' : z'.IsUniversal) (hreach : ∀ m, z.Reaches m → z'.Reaches m)
include hz hz' hu hu' hreach

theorem Period.span_mono {p : Period} (h : p.span tz instant = .ok r) :
    p.span tz' instant = .ok r := by
  rw [span, inZone_eq_ok_iff hz, span?_eq_some_iff_fits hu] at h
  rw [span, inZone_eq_ok_iff hz', span?_eq_some_iff_fits hu']
  obtain ⟨hfits, hr⟩ := h
  exact ⟨⟨hreach _ hfits.reaches, hreach _ hfits.opening, fun hp => hreach _ (hfits.next hp)⟩, hr⟩

theorem Shift.move_mono {s : Shift} {j : Int} (h : s.move tz instant = .ok j) :
    s.move tz' instant = .ok j := by
  rw [move, inZone_eq_ok_iff hz, move?_eq_some_iff_reaches hu] at h
  rw [move, inZone_eq_ok_iff hz', move?_eq_some_iff_reaches hu']
  obtain ⟨hcountable, hfrom, hshift, hto⟩ := h
  exact ⟨hcountable, hreach _ hfrom, hshift, hreach _ hto⟩

/-- **A keyword that has a span** keeps it where the calendar reaches farther. -/
theorem Keyword.span_mono {k : Keyword} (h : k.span tz origin = .ok r) :
    k.span tz' origin = .ok r := by
  rcases span_eq_ok_iff.1 h with hnow | ⟨p, j, hp, hanchor, hspan⟩
  · exact span_eq_ok_iff.2 (Or.inl hnow)
  · refine span_eq_ok_iff.2
      (Or.inr ⟨p, j, hp, ?_, Period.span_mono hz hz' hu hu' hreach hspan⟩)
    rcases anchor_eq_ok_iff.1 hanchor with hstay | ⟨s, hs, hmove⟩
    · exact anchor_eq_ok_iff.2 (Or.inl hstay)
    · exact anchor_eq_ok_iff.2
        (Or.inr ⟨s, hs, Shift.move_mono hz hz' hu hu' hreach hmove⟩)

theorem Term.span_mono {t : Term} (h : t.span tz origin = .ok r) : t.span tz' origin = .ok r := by
  cases t with
  | keyword k => exact Keyword.span_mono hz hz' hu hu' hreach h
  | quantity count unit => exact h

end Mono

/-! ### Calendars that agree -/

/-- Zones that answer alike are alike to whoever asks. -/
theorem inZone_congr {α : Type} (hz : Zone.find tz = .ok z) (hz' : Zone.find tz' = .ok z')
    {answer : Zone → Option α} (h : answer z = answer z') (unanswered : Failure) :
    inZone tz unanswered answer = inZone tz' unanswered answer := by
  rw [inZone, inZone, hz, hz']
  simp only [h]

theorem Keyword.neg_one_le_stride (k : Keyword) : -1 ≤ k.stride := by
  cases k <;> decide

/-- A period has opened by the instants in it. -/
theorem Period.opening_mul_day_le (p : Period) (i : Int) :
    p.opening (p.index (WallClock.date ⟨i⟩)) * Duration.day ≤ i := by
  have := (p.opening_le_iff (n := WallClock.day ⟨i⟩)).2 (Int.le_refl _)
  simp only [WallClock.date, WallClock.day, Duration.day_eq] at *
  omega

section Congr

variable (hz : Zone.find tz = .ok z) (hz' : Zone.find tz' = .ok z') (hu : z.IsUniversal)
  (hu' : z'.IsUniversal) (hagree : z.AgreeFrom z' first)
include hz hz' hu hu' hagree

/-- **Around an instant** whose period does not open too early, the two zones answer alike. -/
theorem Period.span_congr_of_agreeFrom (p : Period)
    (hfirst : first ≤ p.opening (p.index (WallClock.date ⟨instant⟩)) * Duration.day) :
    p.span tz instant = p.span tz' instant := by
  -- neither the instant nor the next opening is earlier than the opening
  have hreach := hagree instant (Int.le_trans hfirst (p.opening_mul_day_le instant))
  have hopening := hagree _ hfirst
  have hnext := hagree (p.opening (p.index (WallClock.date ⟨instant⟩) + 1) * Duration.day) (by
    have := p.opening_lt_succ (p.index (WallClock.date ⟨instant⟩))
    rw [Duration.day_eq] at hfirst ⊢
    omega)
  refine inZone_congr hz hz' (Option.ext fun r => ?_) _
  rw [span?_eq_some_iff_fits hu, span?_eq_some_iff_fits hu']
  refine and_congr_left fun _ => ⟨fun h => ?_, fun h => ?_⟩
  · exact ⟨hreach.1 h.reaches, hopening.1 h.opening, fun hp => hnext.1 (h.next hp)⟩
  · exact ⟨hreach.2 h.reaches, hopening.2 h.opening, fun hp => hnext.2 (h.next hp)⟩

/-- **A move** between late enough instants is the same in the two zones. -/
theorem Shift.move_congr_of_agreeFrom (s : Shift) (hfrom : first ≤ instant)
    (hto : ∀ j, (⟨instant⟩ : WallClock).shift? s.totalMonths s.days = some ⟨j⟩ → first ≤ j) :
    s.move tz instant = s.move tz' instant := by
  refine inZone_congr hz hz' (Option.ext fun j => ?_) _
  rw [move?_eq_some_iff_reaches hu, move?_eq_some_iff_reaches hu', hagree instant hfrom]
  refine and_congr_right fun _ => and_congr_right fun _ => and_congr_right fun hshift => ?_
  exact hagree j (hto j hshift)

/-- **A keyword** means the same in the two zones, if no period before that of the origin
opens too early. -/
theorem Keyword.span_congr (k : Keyword) (hfirst : ∀ p : Period,
      first ≤ p.opening (p.index (WallClock.date ⟨origin⟩) - 1) * Duration.day) :
    k.span tz origin = k.span tz' origin := by
  rw [span, span]
  cases hp : k.period? with
  | none => rfl
  | some p =>
    -- what a keyword asks for is at most one period back
    have hlate : ∀ i, p.index (WallClock.date ⟨origin⟩) - 1 ≤ p.index (WallClock.date ⟨i⟩) →
        first ≤ p.opening (p.index (WallClock.date ⟨i⟩)) * Duration.day := by
      intro i hi
      have hbefore := hfirst p
      have := p.opening_mono hi
      rw [Duration.day_eq] at hbefore ⊢
      omega
    simp only [anchor]
    cases hs : k.shift? with
    | none =>
      exact Period.span_congr_of_agreeFrom hz hz' hu hu' hagree p (hlate origin (by omega))
    | some s =>
      have hto : ∀ j, (⟨origin⟩ : WallClock).shift? s.totalMonths s.days = some ⟨j⟩ →
          first ≤ p.opening (p.index (WallClock.date ⟨j⟩)) * Duration.day := by
        intro j hshift
        have hindex := index_of_carries hs hp (Shift.carries_of_shift? hshift)
        have hstride := k.neg_one_le_stride
        exact hlate j (by omega)
      simp only
      rw [Shift.move_congr_of_agreeFrom hz hz' hu hu' hagree s
        (Int.le_trans (hlate origin (by omega)) (Period.opening_mul_day_le p origin))
        fun j hj => Int.le_trans (hto j hj) (Period.opening_mul_day_le p j)]
      cases hmove : s.move tz' origin with
      | error f => rfl
      | ok j =>
        rw [Shift.move, inZone_eq_ok_iff hz', Shift.move?_eq_some_iff_reaches hu'] at hmove
        exact Period.span_congr_of_agreeFrom hz hz' hu hu' hagree p (hto j hmove.2.2.1)

theorem Term.span_congr (hfirst : ∀ p : Period,
      first ≤ p.opening (p.index (WallClock.date ⟨origin⟩) - 1) * Duration.day) (t : Term) :
    t.span tz origin = t.span tz' origin := by
  cases t with
  | keyword k => exact Keyword.span_congr hz hz' hu hu' hagree k hfirst
  | quantity count unit => rfl

end Congr

/-! ### Expressions -/

theorem Term.evaluate_congr_of_spans (h : ∀ t : Term, t.span tz origin = t.span tz' origin)
    (a : Text) : evaluate a tz origin = evaluate a tz' origin := by
  simp only [evaluate, operand_eq, h]

namespace Expression

variable {text : Option Text} {s : Span}

/-- **Where terms have the same spans**, expressions have the same outcome. -/
theorem evaluate_congr_of_spans (h : ∀ t : Term, t.span tz origin = t.span tz' origin)
    (text : Option Text) : evaluate text tz origin = evaluate text tz' origin := by
  have hpiece : ∀ piece, operand? piece tz origin = operand? piece tz' origin := by
    intro piece
    cases piece with
    | none => rfl
    | some a => rw [operand?_some, operand?_some, Term.evaluate_congr_of_spans h]
  simp only [evaluate, evaluateText, evaluatePieces, hpiece]

/-- **Where terms keep their spans**, expressions keep theirs. -/
theorem evaluate_mono
    (h : ∀ (t : Term) (r : Span), t.span tz origin = .ok r → t.span tz' origin = .ok r)
    (hs : evaluate text tz origin = .ok s) : evaluate text tz' origin = .ok s := by
  rw [evaluate] at hs ⊢
  split at hs
  · exact absurd hs (by simp)
  · next hfilled =>
    rw [if_neg hfilled]
    obtain ⟨p, hp, hpieces⟩ := bind_eq_ok_iff.1 hs
    refine bind_eq_ok_iff.2 ⟨p, hp, evaluatePieces_eq_ok_iff.2 ?_⟩
    rcases evaluatePieces_eq_ok_iff.1 hpieces with ⟨a, t, hp, ht, hr⟩ |
      ⟨a, b, t, u, s₁, s₂, hp, ht, hu, hs₁, hs₂, heq⟩ |
      ⟨a, b, t, u, d, s₁, s₂, hp, ht, hu, hs₁, hs₂, hd, heq⟩
    · exact Or.inl ⟨a, t, hp, ht, h t _ hr⟩
    · exact Or.inr (Or.inl ⟨a, b, t, u, s₁, s₂, hp, ht, hu, h t _ hs₁, h u _ hs₂, heq⟩)
    · exact Or.inr (Or.inr ⟨a, b, t, u, d, s₁, s₂, hp, ht, hu, h t _ hs₁, h u _ hs₂, hd, heq⟩)

/-- From the third year on, the period before is not the first of the calendar. -/
theorem firstDay_lt_opening (p : Period) (h : newYear 3 * Duration.day ≤ origin) :
    (firstDay + 1) * Duration.day ≤
      p.opening (p.index (WallClock.date ⟨origin⟩) - 1) * Duration.day := by
  have hindex : p.index (Date.ofDay (newYear 3)) ≤ p.index (WallClock.date ⟨origin⟩) := by
    refine p.index_ofDay_mono ?_
    simp only [WallClock.day, Duration.day_eq] at h ⊢
    omega
  have hthird : firstDay + 1 ≤ p.opening (p.index (Date.ofDay (newYear 3)) - 1) := by
    cases p <;> decide
  have := p.opening_mono (by omega : p.index (Date.ofDay (newYear 3)) - 1 ≤
    p.index (WallClock.date ⟨origin⟩) - 1)
  rw [Duration.day_eq]
  omega

/-- **The machine's own zone agrees with the one named `UTC`.** A span that an expression has
in the machine's zone it has in the other; and from the third year on the two have the same
outcome, be it a span or a failure. -/
theorem host_agrees_with_universal (text : Option Text) (origin : Int) :
    (∀ s, evaluate text none origin = .ok s →
      evaluate text (some "UTC".toList) origin = .ok s) ∧
    (newYear 3 * Duration.day ≤ origin →
      evaluate text none origin = evaluate text (some "UTC".toList) origin) := by
  have hz : Zone.find none = .ok Zone.host := rfl
  have hz' : Zone.find (some "UTC".toList) = .ok Zone.utc := rfl
  refine ⟨fun s hs => ?_, fun h => ?_⟩
  · exact evaluate_mono (fun t r => Term.span_mono hz hz' Zone.isUniversal_host
      Zone.isUniversal_utc fun m hm => (Zone.reaches_host_iff.1 hm).1) hs
  · exact evaluate_congr_of_spans (Term.span_congr hz hz' Zone.isUniversal_host
      Zone.isUniversal_utc Zone.agreeFrom_host_utc fun p => firstDay_lt_opening p h) text

/-- From the first of January of the year `3` both zones have all of the year before, and both
miss the day after the last one. -/
theorem host_agrees_with_universal_third_year :
    let tz := some "UTC".toList
    let text := some "last year -> last week".toList
    evaluate text none (-62072524800000) = .ok ⟨-62104060800000, -62072784000001⟩ ∧
      evaluate text tz (-62072524800000) = .ok ⟨-62104060800000, -62072784000001⟩ ∧
      newYear 3 * Duration.day ≤ -62072524800000 ∧
      evaluate text none (-62072524800000) = evaluate text tz (-62072524800000) ∧
      newYear 3 * Duration.day ≤ 253402300799999 ∧
      evaluate (some "tomorrow".toList) none 253402300799999 =
        .error (.rejected (.outOfRange 253402300799999)) ∧
      evaluate (some "tomorrow".toList) tz 253402300799999 =
        .error (.rejected (.outOfRange 253402300799999)) := by
  intro tz text
  have hs : evaluate text none (-62072524800000) = .ok ⟨-62104060800000, -62072784000001⟩ :=
    eq_ok_of_toOption (by decide +kernel)
  have hf : evaluate (some "tomorrow".toList) tz 253402300799999 =
      .error (.rejected (.outOfRange 253402300799999)) := by
    decide +kernel
  have hthird : newYear 3 * Duration.day ≤ -62072524800000 := by decide
  have hlast : newYear 3 * Duration.day ≤ 253402300799999 := by decide
  obtain ⟨hspans, houtcomes⟩ := host_agrees_with_universal text (-62072524800000)
  obtain ⟨-, houtcomes'⟩ :=
    host_agrees_with_universal (some "tomorrow".toList) 253402300799999
  exact ⟨hs, hspans _ hs, hthird, houtcomes hthird, hlast, (houtcomes' hlast).trans hf, hf⟩

/-- In the second year the year before is the first one, and the machine's zone lacks its first
day. -/
example : (evaluate (some "last year".toList) none (-62104060800000)).toOption = none ∧
    (evaluate (some "last year".toList) (some "UTC".toList) (-62104060800000)).toOption =
      some ⟨-62135596800000, -62104060800001⟩ := by
  decide +kernel

end Expression

end Timespan
