import Timespan.Rejection
import Timespan.Instant
import Timespan.Text.Lowercase

/-!
# Units of time and their names

A quantity such as “two days” counts one of six units. Each unit has a fixed
length (`Timespan.TimeUnit.millis`) and a group of **aliases**, from the single letter
to the plural. The aliases of different units differ: the letter `m` alone is a
minute, and a month needs two.
-/

namespace Timespan

/-- The units a quantity can count. -/
inductive TimeUnit
  /-- Three hundred and sixty-five days. -/
  | year
  /-- Thirty-one days. -/
  | month
  /-- Twenty-four hours. -/
  | day
  /-- Sixty minutes. -/
  | hour
  /-- Sixty seconds. -/
  | minute
  /-- A thousand milliseconds. -/
  | second
deriving DecidableEq

namespace TimeUnit

/-- All units, the longest first. -/
def all : List TimeUnit :=
  [year, month, day, hour, minute, second]

theorem mem_all (u : TimeUnit) : u ∈ all := by
  cases u <;> decide

/-- The plain name of a unit, which is also one of its aliases. -/
def name : TimeUnit → Text
  | year => "year".toList
  | month => "month".toList
  | day => "day".toList
  | hour => "hour".toList
  | minute => "minute".toList
  | second => "second".toList

/-- The length of a unit. -/
def millis : TimeUnit → Int
  | year => Duration.year
  | month => Duration.month
  | day => Duration.day
  | hour => Duration.hour
  | minute => Duration.minute
  | second => Duration.second

/-- The names of a unit, in small letters. -/
def aliases : TimeUnit → List Text
  | year => ["y".toList, "yr".toList, "yrs".toList, "year".toList, "years".toList]
  | month =>
    ["mo".toList, "mon".toList, "mos".toList, "mons".toList, "month".toList, "months".toList]
  | day => ["d".toList, "dy".toList, "dys".toList, "day".toList, "days".toList]
  | hour => ["h".toList, "hr".toList, "hrs".toList, "hour".toList, "hours".toList]
  | minute => ["m".toList, "min".toList, "mins".toList, "minute".toList, "minutes".toList]
  | second => ["s".toList, "sec".toList, "secs".toList, "second".toList, "seconds".toList]

/-- The unit that has the alias. -/
def ofAlias? (s : Text) : Option TimeUnit :=
  all.find? fun u => u.aliases.contains s

/-- The unit that a text names, whatever its blanks and capitals. -/
def ofText (s : Text) : Except Rejection TimeUnit :=
  match ofAlias? (Text.clean s) with
  | some u => .ok u
  | none => .error (.unknownAlias (Text.clean s))

/-- No alias names two units. -/
theorem ofAlias?_eq_some_iff {s : Text} {u : TimeUnit} : ofAlias? s = some u ↔ s ∈ u.aliases := by
  constructor
  · intro h
    simpa using List.find?_some h
  · have key : ∀ v ∈ all, ∀ t ∈ v.aliases, ofAlias? t = some v := by decide
    exact key u (mem_all u) s

end TimeUnit

end Timespan
