import Timespan.Expression.Basic

/-!
# Walking through time

A walk keeps a current instant and moves it step by step: to an end of the period
around it, to an end of an expression seen from it, by a number of milliseconds,
or by days, months and years. A step that fails leaves the walk where it is, and
the walk goes on.
-/

namespace Timespan.Walk

/-- One of the two ends of a span. -/
inductive Edge
  /-- Where it starts. -/
  | start
  /-- Where it stops. -/
  | stop
deriving DecidableEq

/-- The instant at an end of a span. -/
def Edge.of : Edge → Span → Int
  | start, s => s.start
  | stop, s => s.stop

/-- A step of a walk. -/
inductive Step
  /-- To an end of the period around the current instant. -/
  | period (p : Period) (edge : Edge)
  /-- To an end of an expression seen from the current instant. -/
  | expression (text : Option Text) (edge : Edge)
  /-- By so many milliseconds. -/
  | add (millis : Int)
  /-- By days, months and years. -/
  | shift (s : Shift)
deriving DecidableEq

/-- What a step leads to. -/
inductive Outcome
  /-- The walk has moved to this instant. -/
  | moved (instant : Int)
  /-- The expression was rejected. -/
  | refused (reason : Rejection)
  /-- The step failed. -/
  | failed (failure : Failure)
deriving DecidableEq

/-- The outcome of a step from an instant in a zone. A rejected expression is an
answer, a rejected move is a failure. -/
def Step.take (tz : Option Text) (current : Int) : Step → Outcome
  | period p edge =>
    match p.span tz current with
    | .ok s => .moved (edge.of s)
    | .error failure => .failed failure
  | expression text edge =>
    match Expression.evaluate text tz current with
    | .ok s => .moved (edge.of s)
    | .error (.rejected reason) => .refused reason
    | .error failure => .failed failure
  | add millis => .moved (current + millis)
  | shift s =>
    match s.move tz current with
    | .ok instant => .moved instant
    | .error failure => .failed failure

/-- Where the walk is after an outcome. -/
def Outcome.next (current : Int) : Outcome → Int
  | moved instant => instant
  | refused _ => current
  | failed _ => current

/-- **The walk**: the outcome of each step in turn. -/
def outcomes (tz : Option Text) (current : Int) : List Step → List Outcome
  | [] => []
  | step :: rest =>
    let outcome := step.take tz current
    outcome :: outcomes tz (outcome.next current) rest

end Timespan.Walk
