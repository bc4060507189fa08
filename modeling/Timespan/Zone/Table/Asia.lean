import Timespan.Zone.Basic

/-!
# Zones of Asia

The transitions of three zones: one with a quarter of an hour in its offset, one
with changes at midnight, and one that has changed sides of the date line.
-/

namespace Timespan.Zone

/-- Kathmandu, since 1986 five hours and three quarters ahead. -/
def kathmandu : Zone where
  initial := 20476
  transitions :=
    [⟨-1577943676, 19800⟩, ⟨504901800, 20700⟩]
  after := .fixed 20700

/-- Beirut, two hours ahead and three in summer, with changes at midnight. -/
def beirut : Zone where
  initial := 8520
  transitions :=
    [⟨-2840149320, 7200⟩, ⟨-1570413600, 10800⟩, ⟨-1552186800, 7200⟩, ⟨-1538359200, 10800⟩,
     ⟨-1522551600, 7200⟩, ⟨-1507514400, 10800⟩, ⟨-1490583600, 7200⟩, ⟨-1473645600, 10800⟩,
     ⟨-1460948400, 7200⟩, ⟨-399866400, 10800⟩, ⟨-386650800, 7200⟩, ⟨-368330400, 10800⟩,
     ⟨-355114800, 7200⟩, ⟨-336794400, 10800⟩, ⟨-323578800, 7200⟩, ⟨-305172000, 10800⟩,
     ⟨-291956400, 7200⟩, ⟨-273636000, 10800⟩, ⟨-260420400, 7200⟩, ⟨78012000, 10800⟩,
     ⟨86734800, 7200⟩, ⟨105055200, 10800⟩, ⟨118270800, 7200⟩, ⟨136591200, 10800⟩,
     ⟨149806800, 7200⟩, ⟨168127200, 10800⟩, ⟨181342800, 7200⟩, ⟨199749600, 10800⟩,
     ⟨212965200, 7200⟩, ⟨231285600, 10800⟩, ⟨244501200, 7200⟩, ⟨262735200, 10800⟩,
     ⟨275950800, 7200⟩, ⟨452210400, 10800⟩, ⟨466722000, 7200⟩, ⟨483746400, 10800⟩,
     ⟨498258000, 7200⟩, ⟨515282400, 10800⟩, ⟨529794000, 7200⟩, ⟨546818400, 10800⟩,
     ⟨561330000, 7200⟩, ⟨581119200, 10800⟩, ⟨592952400, 7200⟩, ⟨610754400, 10800⟩,
     ⟨624488400, 7200⟩, ⟨641512800, 10800⟩, ⟨656024400, 7200⟩, ⟨673048800, 10800⟩,
     ⟨687560400, 7200⟩, ⟨704671200, 10800⟩, ⟨718146000, 7200⟩, ⟨733269600, 10800⟩,
     ⟨748990800, 7200⟩, ⟨764719200, 10800⟩, ⟨780440400, 7200⟩, ⟨796168800, 10800⟩,
     ⟨811890000, 7200⟩, ⟨828223200, 10800⟩, ⟨843944400, 7200⟩, ⟨859672800, 10800⟩,
     ⟨875394000, 7200⟩, ⟨891122400, 10800⟩, ⟨906843600, 7200⟩, ⟨922572000, 10800⟩]
  after := .yearly 7200 10800
    { month := 3, week := 5, weekday := 0, time := 0 }
    { month := 10, week := 5, weekday := 0, time := 0 }

/-- Manila, which counted its days with America until it left out the last day of
1844. -/
def manila : Zone where
  initial := -57368
  transitions :=
    [⟨-3944621032, 29032⟩, ⟨-2219083200, 28800⟩, ⟨-1046678400, 32400⟩, ⟨-1040115600, 28800⟩,
     ⟨-885024000, 32400⟩, ⟨-760093200, 28800⟩, ⟨-496224000, 32400⟩, ⟨-491562000, 28800⟩,
     ⟨228326400, 32400⟩, ⟨243702000, 28800⟩, ⟨643219200, 32400⟩, ⟨649177200, 28800⟩]
  after := .fixed 28800

end Timespan.Zone
