import Timespan.Zone.Key
import Timespan.Zone.Table.America
import Timespan.Zone.Table.Asia
import Timespan.Zone.Table.Meridian
import Timespan.Zone.Table.Pacific

/-!
# The zones there are

The catalogue lists the zones by their keys. Looking up a key
(`Timespan.Zone.find`) has three outcomes: the zone, the answer that there is none of
that name, or the refusal to look because the key is no path into the directory
of zones (`Timespan.Zone.Key.WellFormed`). Without a key it yields the zone of the
machine.
-/

namespace Timespan.Zone

/-- The zones there are, by their keys. -/
def catalogue : List (Text × Zone) :=
  [("UTC".toList, utc),
   ("US/Pacific".toList, usPacific),
   ("America/Sao_Paulo".toList, saoPaulo),
   ("America/Santiago".toList, santiago),
   ("America/Havana".toList, havana),
   ("America/Nuuk".toList, nuuk),
   ("Asia/Kathmandu".toList, kathmandu),
   ("Asia/Beirut".toList, beirut),
   ("Asia/Manila".toList, manila),
   ("Pacific/Apia".toList, apia),
   ("Pacific/Kiritimati".toList, kiritimati),
   ("Pacific/Kwajalein".toList, kwajalein),
   ("Australia/Lord_Howe".toList, lordHowe),
   ("Africa/Monrovia".toList, monrovia),
   ("Antarctica/Troll".toList, troll),
   ("Etc/GMT+12".toList, gmtPlus12),
   ("Etc/GMT-14".toList, gmtMinus14)]

/-- The zone of the machine itself: Coordinated Universal Time, of which it
converts a time only if the calendar also has the time a day earlier. -/
def host : Zone :=
  { utc with lookback := Duration.day }

/-- Why there is no zone for a key. -/
inductive Missing
  /-- The key is no path into the directory of zones. -/
  | malformed (key : Text)
  /-- No zone has that key. -/
  | unknown (key : Text)
deriving DecidableEq

/-- The words in which a missing zone is reported. A malformed key is reported
without any. -/
def Missing.message? : Missing → Option Text
  | malformed _ => none
  | unknown key => some ("No time zone found with key ".toList ++ key)

/-- **The zone of a key**, or of the machine where there is none. -/
def find : Option Text → Except Missing Zone
  | none => .ok host
  | some key =>
    if Key.WellFormed key then
      match catalogue.lookup key with
      | some zone => .ok zone
      | none => .error (.unknown key)
    else .error (.malformed key)

end Timespan.Zone
