/-!
# Instants and lengths of time

Time is a line of whole milliseconds. A point of it, an **instant**, is the integer
that counts them from the beginning of 1970 in Coordinated Universal Time; it is
unbounded both ways, and a distance between two instants is an integer too.

The lengths of `Timespan.Duration` are **fixed**: a month is thirty-one days and a
year is three hundred and sixty-five, whichever month or year it is. The months
and years of the calendar are another matter, and belong to
`Timespan.Calendar.Gregorian`.
-/

namespace Timespan

/-- The instant in whose millisecond the given nanosecond since 1970 falls, also
before 1970. -/
def Instant.ofNanos (nanos : Int) : Int :=
  nanos / 1000000

namespace Duration

/-- The unit in which lengths are counted. -/
def millisecond : Int := 1

/-- A second has a thousand milliseconds. -/
def second : Int := 1000

/-- A minute has sixty seconds. -/
def minute : Int := 60 * second

/-- An hour has sixty minutes. -/
def hour : Int := 60 * minute

/-- A day has twenty-four hours. -/
def day : Int := 24 * hour

/-- A week has seven days. -/
def week : Int := 7 * day

/-- A month, as a length, has thirty-one days. -/
def month : Int := 31 * day

/-- A year, as a length, has three hundred and sixty-five days. -/
def year : Int := 365 * day

theorem day_eq : day = 86400000 := rfl

end Duration

end Timespan
