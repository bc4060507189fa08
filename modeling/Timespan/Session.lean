import Timespan.Expression.Basic

/-!
# Evaluating against the clock

An expression that comes without an origin is seen from the present. A session
keeps what such an evaluation touches: the clock of the system, which shows
another nanosecond each time it is read, and a log.

* The clock is read **once**, so both sides of an expression are seen from the same
  instant; and it is not read at all when there is nothing to evaluate.
* A rejection is **logged** with the text and the reason, as a matter of debugging:
  whoever evaluates gets the same reason as an answer. That there was nothing to
  evaluate is not worth an entry, and failures other than rejections are left to
  whoever catches them.
-/

namespace Timespan

/-- How much an entry of a log matters. -/
inductive LogLevel
  /-- Of interest to those who look for a fault. -/
  | debug
deriving DecidableEq

/-- The name of a level. -/
def LogLevel.name : LogLevel → Text
  | debug => "DEBUG".toList

/-- An entry of the log: a rejection. -/
structure LogEntry where
  /-- How much it matters. -/
  level : LogLevel
  /-- The text that was rejected. -/
  text : Text
  /-- The reason in words. -/
  message : Text
deriving DecidableEq

/-- What evaluations without an origin read and write. -/
structure Session where
  /-- The nanoseconds since 1970 that the clock shows when it is read for the
  first time, for the second time, and so on. -/
  clock : Nat → Int
  /-- How often the clock has been read. -/
  reads : Nat := 0
  /-- What has been logged, the oldest entry first. -/
  log : List LogEntry := []

namespace Session

/-- The present, read from the clock. -/
def now : StateM Session Int := do
  let session ← get
  set { session with reads := session.reads + 1 }
  return Instant.ofNanos (session.clock session.reads)

/-- An entry for a rejection. -/
def record (text : Text) (reason : Rejection) : StateM Session Unit :=
  modify fun session =>
    { session with log := session.log ++ [⟨.debug, text, reason.message⟩] }

/-- **The span of an expression**, seen from the present. -/
def evaluate (text : Option Text) (tz : Option Text) :
    StateM Session (Except Failure Span) := do
  if Expression.isVacant text then
    return .error (.rejected .invalidOrEmpty)
  let origin ← now
  let result := Expression.evaluateText (text.getD []) tz origin
  if let .error (.rejected reason) := result then
    record (text.getD []) reason
  return result

end Session

end Timespan
