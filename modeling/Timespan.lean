import Timespan.LocalTime
import Timespan.Session
import Timespan.Walk
import Timespan.Proofs.Keyword.Days
import Timespan.Proofs.Keyword.Preceding
import Timespan.Proofs.Expression.Layout
import Timespan.Proofs.Expression.Precedence
import Timespan.Proofs.Expression.CalendarFree
import Timespan.Proofs.Expression.Forward
import Timespan.Proofs.Expression.Advance
import Timespan.Proofs.Session
import Timespan.Proofs.Expression.Cycle
import Timespan.Proofs.Expression.Machine
import Timespan.Proofs.Keyword.Bounds
import Timespan.Proofs.Text.Pattern
import Timespan.Proofs.Expression.Pattern
import Timespan.Proofs.Expression.Decomposition
import Timespan.Proofs.Period.Instants
import Timespan.Proofs.Period.Modular
import Timespan.Proofs.Period.Lengths
import Timespan.Proofs.Shift.Stages
import Timespan.Proofs.Shift.Months
import Timespan.Proofs.Term.Answer
import Timespan.Proofs.Expression.Alphabet
