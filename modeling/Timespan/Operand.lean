import Timespan.Span

/-!
# What an operand means

Evaluating one side of an expression yields an `Timespan.Operand`: the instants where
it starts and stops and, for a quantity such as “six hours ago”, the signed
length it was built from. Any of the three may be missing, and the operators say
what they do without it.
-/

namespace Timespan

/-- The meaning of one side of an expression. -/
structure Operand where
  /-- The signed length of a quantity. -/
  offset : Option Int := none
  /-- Where the operand starts. -/
  start : Option Int := none
  /-- Where the operand stops. -/
  stop : Option Int := none
deriving DecidableEq

namespace Operand

/-- The operand that covers a span. -/
def ofSpan (s : Span) : Operand :=
  { start := some s.start, stop := some s.stop }

/-- The operand that lies `offset` from the origin: the window between the origin
and the instant that far from it. -/
def ofOffset (origin offset : Int) : Operand :=
  { ofSpan (.between origin (origin + offset)) with offset := some offset }

/-- Whether the operand is a quantity. -/
def isQuantity (t : Operand) : Bool :=
  t.offset.isSome

/-- Where the operand starts, or else the origin. -/
def startFrom (t : Operand) (origin : Int) : Int :=
  t.start.getD origin

/-- Where the operand stops, or else where it starts, or else the origin. -/
def stopFrom (t : Operand) (origin : Int) : Int :=
  (t.stop.or t.start).getD origin

end Operand

end Timespan
