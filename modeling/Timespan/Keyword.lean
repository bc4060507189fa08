import Timespan.Operand
import Timespan.Period
import Timespan.Shift

/-!
# The keywords

Ten words name a time relative to the origin of an evaluation. `now` is the origin
itself and asks no calendar, hence no zone. The other nine are **calendar
keywords**: each is a period, either the one around the origin or the one around
an instant a little before or after it.

| keyword                                      | the period is the one                |
|----------------------------------------------|--------------------------------------|
| `today`, `thisweek`, `thismonth`, `thisyear` | around the origin                    |
| `yesterday`, `tomorrow`                      | a day before it, a day after it      |
| `lastweek`, `lastmonth`, `lastyear`          | seven days, a month, a year before it |
-/

namespace Timespan

/-- The words for a time. -/
inductive Keyword
  /-- The origin. -/
  | now
  /-- The day of the origin. -/
  | today
  /-- The day before. -/
  | yesterday
  /-- The day after. -/
  | tomorrow
  /-- The week of the origin. -/
  | thisWeek
  /-- The week before. -/
  | lastWeek
  /-- The month of the origin. -/
  | thisMonth
  /-- The month before. -/
  | lastMonth
  /-- The year of the origin. -/
  | thisYear
  /-- The year before. -/
  | lastYear
deriving DecidableEq

namespace Keyword

/-! ### Words -/

/-- All keywords, in the order in which they are listed. -/
def all : List Keyword :=
  [now, today, yesterday, tomorrow, thisWeek, lastWeek, thisMonth, lastMonth, thisYear, lastYear]

/-- A keyword as it is written, in small letters and without blanks. -/
def word : Keyword → Text
  | now => "now".toList
  | today => "today".toList
  | yesterday => "yesterday".toList
  | tomorrow => "tomorrow".toList
  | thisWeek => "thisweek".toList
  | lastWeek => "lastweek".toList
  | thisMonth => "thismonth".toList
  | lastMonth => "lastmonth".toList
  | thisYear => "thisyear".toList
  | lastYear => "lastyear".toList

/-- The keyword written this way. -/
def ofWord? (s : Text) : Option Keyword :=
  all.find? fun k => k.word == s

/-- The keyword written this way, or the complaint that there is none. -/
def ofWord (s : Text) : Except Rejection Keyword :=
  match ofWord? s with
  | some k => .ok k
  | none => .error (.unknownKeyword s)

@[simp] theorem ofWord?_word (k : Keyword) : ofWord? k.word = some k := by
  cases k <;> decide

theorem word_of_ofWord? {s : Text} {k : Keyword} (h : ofWord? s = some k) : k.word = s := by
  simpa using List.find?_some h

/-! ### Times -/

/-- The period a calendar keyword names; `now` names none. -/
def period? : Keyword → Option Period
  | now => none
  | today => some .day
  | yesterday => some .day
  | tomorrow => some .day
  | thisWeek => some .week
  | lastWeek => some .week
  | thisMonth => some .month
  | lastMonth => some .month
  | thisYear => some .year
  | lastYear => some .year

/-- How far from the origin the period lies, if it is another one than that of the
origin. -/
def shift? : Keyword → Option Shift
  | now => none
  | today => none
  | yesterday => some { days := -1 }
  | tomorrow => some { days := 1 }
  | thisWeek => none
  | lastWeek => some { days := -7 }
  | thisMonth => none
  | lastMonth => some { months := -1 }
  | thisYear => none
  | lastYear => some { years := -1 }

/-- Whether a keyword asks the calendar. -/
def isCalendar (k : Keyword) : Bool :=
  k.period?.isSome

theorem isCalendar_eq_false_iff {k : Keyword} : k.isCalendar = false ↔ k = now := by
  cases k <;> decide

/-- The instant around which the period of a keyword lies. -/
def anchor (k : Keyword) (tz : Option Text) (origin : Int) : Except Failure Int :=
  match k.shift? with
  | none => .ok origin
  | some s => s.move tz origin

/-- **The time a keyword names**, seen from an origin in a zone. -/
def span (k : Keyword) (tz : Option Text) (origin : Int) : Except Failure Span :=
  match k.period? with
  | none => .ok ⟨origin, origin⟩
  | some p => do
    let instant ← k.anchor tz origin
    p.span tz instant

/-- What a keyword means as an operand. -/
def operand (k : Keyword) (tz : Option Text) (origin : Int) : Except Failure Operand := do
  let s ← k.span tz origin
  return .ofSpan s

@[simp] theorem span_now (tz : Option Text) (origin : Int) :
    now.span tz origin = .ok ⟨origin, origin⟩ := rfl

end Keyword

end Timespan
