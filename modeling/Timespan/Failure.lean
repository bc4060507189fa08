import Timespan.Rejection
import Timespan.Zone.Catalogue

/-!
# How a computation can fail

Most failures are rejections of what was asked (`Timespan.Rejection`), and whoever
evaluates expressions takes them as an answer. Three others are not about the
expression and go past it: there may be no zone for the key, an instant may have
no reading on the clocks of a zone, and an instant may have too many digits to be
named in a rejection.

`Timespan.inZone` is the one way in which the calendar is asked anything. The zone is
looked up first, so its absence is reported before all else.
-/

namespace Timespan

/-- Why there is no answer. -/
inductive Failure
  /-- The question is rejected. -/
  | rejected (reason : Rejection)
  /-- There is no zone for the key. -/
  | noZone (reason : Zone.Missing)
  /-- The clocks of the zone have no reading for the instant. -/
  | unrepresentable (instant : Int)
  /-- The instant is out of range and cannot be written down. -/
  | unwritable (instant : Int)
deriving DecidableEq

namespace Failure

/-- The calendar does not reach an instant: the rejection names it, if it can be
written. -/
def outOfRange (instant : Int) : Failure :=
  if Decimal.Writable instant then .rejected (.outOfRange instant) else .unwritable instant

end Failure

/-- A rejection among the failures. -/
def rejecting {α : Type} (result : Except Rejection α) : Except Failure α :=
  result.mapError .rejected

/-- **What a zone answers**, or the failure to report when it has no answer. -/
def inZone {α : Type} (tz : Option Text) (unanswered : Failure) (answer : Zone → Option α) :
    Except Failure α :=
  match Zone.find tz with
  | .error reason => .error (.noZone reason)
  | .ok zone =>
    match answer zone with
    | some a => .ok a
    | none => .error unanswered

@[simp] theorem rejecting_ok {α : Type} (a : α) : rejecting (.ok a) = .ok a := rfl

@[simp] theorem rejecting_error {α : Type} (e : Rejection) :
    rejecting (.error e : Except Rejection α) = .error (.rejected e) := rfl

theorem inZone_eq_ok_iff {α : Type} {tz : Option Text} {zone : Zone}
    (h : Zone.find tz = .ok zone) {unanswered : Failure} {answer : Zone → Option α} {a : α} :
    inZone tz unanswered answer = .ok a ↔ answer zone = some a := by
  cases ha : answer zone <;> simp [inZone, h, ha]

theorem inZone_eq_error_iff {α : Type} {tz : Option Text} {zone : Zone}
    (h : Zone.find tz = .ok zone) {unanswered failure : Failure} {answer : Zone → Option α} :
    inZone tz unanswered answer = .error failure ↔ answer zone = none ∧ unanswered = failure := by
  cases ha : answer zone <;> simp [inZone, h, ha]

end Timespan
