import Timespan.Proofs.Expression.Precedence
import Timespan.Session

/-!
# One reading of the clock

An evaluation in a session is the evaluation from the origin that the clock shows next
(`Session.present`), and what it leaves behind is settled by its answer: one reading more if
there was anything to evaluate, and one entry more in the log if that has been rejected
(`Session.run_evaluate`). So what the clock shows later plays no part in it.

The entry is written for every rejection that the stages of an evaluation come to. That none
of them comes to the complaint that there is nothing to evaluate is a fact about those stages
(`Expression.kind_eq_invalidOrEmpty_iff`).
-/

namespace Timespan

variable {text tz : Option Text}

/-! ### Nothing to evaluate -/

theorem Failure.eq_outOfRange_of_rejected {i : Int} {e : Rejection}
    (h : outOfRange i = .rejected e) : e = .outOfRange i := by
  unfold outOfRange at h
  split at h
  · exact (Failure.rejected.inj h).symm
  · exact absurd h (by simp)

namespace Expression

theorem isVacant_iff : isVacant text = true ↔ text = none ∨ text = some [] ∨
    text = some placeholder := by
  cases text with
  | none => simp [isVacant]
  | some s => simp [isVacant]

/-- **That there is nothing to evaluate** is said where there is nothing, and nowhere else. -/
theorem kind_eq_invalidOrEmpty_iff {origin : Int} {e : Rejection}
    (h : evaluate text tz origin = .error (.rejected e)) :
    e.kind = .invalidOrEmpty ↔ isVacant text = true := by
  rcases rejected_or_comesToCalendar h with ⟨e', he, -, hiff⟩ | ⟨⟨s, p, rfl, hfilled, -⟩, k, -, hk⟩
  · obtain rfl := Failure.rejected.inj he
    exact hiff
  · -- the calendar complains about an instant
    rcases Keyword.noZone_or_outOfRange hk with ⟨reason, -, hreason⟩ | ⟨i, -, hi⟩
    · exact absurd hreason (by simp)
    · obtain rfl := Failure.eq_outOfRange_of_rejected hi.symm
      simp [Rejection.kind, hfilled]

end Expression

namespace Session

/-! ### The steps of an evaluation -/

/-- The origin that the clock shows when it is read next. -/
def present (s : Session) : Int :=
  Instant.ofNanos (s.clock s.reads)

/-- A session in which the clock has been read once more. -/
def read (s : Session) : Session :=
  { s with reads := s.reads + 1 }

/-- A session with a rejection more in its log. -/
def logged (s : Session) (text : Text) (e : Rejection) : Session :=
  { s with log := s.log ++ [⟨.debug, text, e.message⟩] }

/-- What is done with the present is done with one reading, in a session that has read it. -/
theorem run_now_bind {α : Type} (k : Int → StateM Session α) (s : Session) :
    (now >>= k).run s = (k s.present).run s.read := rfl

theorem run_record_bind {α : Type} (k : Unit → StateM Session α) (s : Session) (text : Text)
    (e : Rejection) : (record text e >>= k).run s = (k ()).run (s.logged text e) := rfl

theorem run_evaluate_of_isVacant (h : Expression.isVacant text = true) (s : Session) :
    (evaluate text tz).run s = (.error (.rejected .invalidOrEmpty), s) := by
  rw [evaluate, if_pos h]
  rfl

/-- **Where there is something to evaluate**, the clock is read and the text is evaluated; if
it is rejected, that is logged. -/
theorem run_evaluate_of_filled {t : Text} (h : Expression.isVacant (some t) = false)
    (s : Session) :
    (evaluate (some t) tz).run s =
      match Expression.evaluate (some t) tz s.present with
      | .error (.rejected e) => (.error (.rejected e), s.read.logged t e)
      | answer => (answer, s.read) := by
  rw [evaluate, if_neg (by simp [h]), Expression.evaluate, if_neg (by simp [h]),
    run_now_bind]
  simp only [Option.getD_some]
  cases Expression.evaluateText t tz s.present with
  | ok r => rfl
  | error f =>
    cases f with
    | rejected e => exact run_record_bind _ _ _ _
    | noZone _ | unrepresentable _ | unwritable _ => rfl

/-! ### The answer, the clock and the log -/

/-- **One origin, one entry.** An evaluation in a session answers with what the text is from
the milliseconds that the clock shows next, rounded down; later readings have no part in it.
It leaves the clock read once more, or as it was if there was nothing to evaluate. And it
leaves one entry more in the log, the text and the reason, if the answer is a rejection for
another reason than that there was nothing to evaluate; otherwise the log is as it was. -/
theorem run_evaluate (text tz : Option Text) (s : Session) :
    ∃ answer s', (evaluate text tz).run s = (answer, s') ∧
      answer = Expression.evaluate text tz (s.clock s.reads / 1000000) ∧
      s'.clock = s.clock ∧
      s'.reads = s.reads +
        (if text = none ∨ text = some [] ∨ text = some Expression.placeholder then 0 else 1) ∧
      ((∃ t e, text = some t ∧ answer = .error (.rejected e) ∧ e.kind ≠ .invalidOrEmpty ∧
          s'.log = s.log ++ [⟨.debug, t, e.message⟩]) ∨
        ((∀ e, answer = .error (.rejected e) → e.kind = .invalidOrEmpty) ∧
          s'.log = s.log)) := by
  cases hvacant : Expression.isVacant text with
  | true =>
    have hanswer : Expression.evaluate text tz s.present =
        .error (.rejected .invalidOrEmpty) := if_pos hvacant
    refine ⟨_, _, run_evaluate_of_isVacant hvacant s, hanswer.symm, rfl,
      by rw [if_pos (Expression.isVacant_iff.mp hvacant), Nat.add_zero], .inr ⟨?_, rfl⟩⟩
    rintro e ⟨⟩
    rfl
  | false =>
    have hfilled : ¬(text = none ∨ text = some [] ∨ text = some Expression.placeholder) := by
      rw [← Expression.isVacant_iff, hvacant]
      exact Bool.false_ne_true
    obtain ⟨t, rfl⟩ := Option.ne_none_iff_exists'.mp fun h => hfilled (.inl h)
    have hrun : (evaluate (some t) tz).run s = _ := run_evaluate_of_filled hvacant s
    rw [if_neg hfilled]
    cases hanswer : Expression.evaluate (some t) tz s.present with
    | ok r =>
      rw [hanswer] at hrun
      exact ⟨_, _, hrun, hanswer.symm, rfl, rfl, .inr ⟨by simp, rfl⟩⟩
    | error f =>
      rw [hanswer] at hrun
      cases f with
      | rejected e =>
        have hkind : e.kind ≠ .invalidOrEmpty := by
          rw [ne_eq, Expression.kind_eq_invalidOrEmpty_iff hanswer, hvacant]
          exact Bool.false_ne_true
        exact ⟨_, _, hrun, hanswer.symm, rfl, rfl, .inl ⟨t, e, rfl, rfl, hkind, rfl⟩⟩
      | noZone _ | unrepresentable _ | unwritable _ =>
        exact ⟨_, _, hrun, hanswer.symm, rfl, rfl, .inr ⟨by simp, rfl⟩⟩

/-- Two readings of a clock before 1970: the first is rounded down, and it alone counts. -/
example : ((evaluate (some "now<>2m".toList) none).run
    { clock := fun n => if n = 0 then -1 else 5000000 }).1 = .ok ⟨-1, 119999⟩ := by
  decide +kernel

end Session

end Timespan
