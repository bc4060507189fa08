import Timespan.Zone.Basic

/-!
# Zones of America

The transitions of five zones from the Pacific coast to Greenland, up to where
their rules take over. Three of them change, or have changed, their clocks at
midnight.
-/

namespace Timespan.Zone

/-- The Pacific coast of the United States, eight hours behind and seven in summer. -/
def usPacific : Zone where
  initial := -28378
  transitions :=
    [⟨-2717640000, -28800⟩, ⟨-1633269600, -25200⟩, ⟨-1615129200, -28800⟩, ⟨-1601820000, -25200⟩,
     ⟨-1583679600, -28800⟩, ⟨-880207200, -25200⟩, ⟨-765385200, -28800⟩, ⟨-687967140, -25200⟩,
     ⟨-662655600, -28800⟩, ⟨-620838000, -25200⟩, ⟨-608137200, -28800⟩, ⟨-589388400, -25200⟩,
     ⟨-576082800, -28800⟩, ⟨-557938800, -25200⟩, ⟨-544633200, -28800⟩, ⟨-526489200, -25200⟩,
     ⟨-513183600, -28800⟩, ⟨-495039600, -25200⟩, ⟨-481734000, -28800⟩, ⟨-463590000, -25200⟩,
     ⟨-450284400, -28800⟩, ⟨-431535600, -25200⟩, ⟨-418230000, -28800⟩, ⟨-400086000, -25200⟩,
     ⟨-386780400, -28800⟩, ⟨-368636400, -25200⟩, ⟨-355330800, -28800⟩, ⟨-337186800, -25200⟩,
     ⟨-323881200, -28800⟩, ⟨-305737200, -25200⟩, ⟨-292431600, -28800⟩, ⟨-273682800, -25200⟩,
     ⟨-260982000, -28800⟩, ⟨-242233200, -25200⟩, ⟨-226508400, -28800⟩, ⟨-210783600, -25200⟩,
     ⟨-195058800, -28800⟩, ⟨-179334000, -25200⟩, ⟨-163609200, -28800⟩, ⟨-147884400, -25200⟩,
     ⟨-131554800, -28800⟩, ⟨-116434800, -25200⟩, ⟨-100105200, -28800⟩, ⟨-84376800, -25200⟩,
     ⟨-68655600, -28800⟩, ⟨-52927200, -25200⟩, ⟨-37206000, -28800⟩, ⟨-21477600, -25200⟩,
     ⟨-5756400, -28800⟩, ⟨9972000, -25200⟩, ⟨25693200, -28800⟩, ⟨41421600, -25200⟩,
     ⟨57747600, -28800⟩, ⟨73476000, -25200⟩, ⟨89197200, -28800⟩, ⟨104925600, -25200⟩,
     ⟨120646800, -28800⟩, ⟨126698400, -25200⟩, ⟨152096400, -28800⟩, ⟨162381600, -25200⟩,
     ⟨183546000, -28800⟩, ⟨199274400, -25200⟩, ⟨215600400, -28800⟩, ⟨230724000, -25200⟩,
     ⟨247050000, -28800⟩, ⟨262778400, -25200⟩, ⟨278499600, -28800⟩, ⟨294228000, -25200⟩,
     ⟨309949200, -28800⟩, ⟨325677600, -25200⟩, ⟨341398800, -28800⟩, ⟨357127200, -25200⟩,
     ⟨372848400, -28800⟩, ⟨388576800, -25200⟩, ⟨404902800, -28800⟩, ⟨420026400, -25200⟩,
     ⟨436352400, -28800⟩, ⟨452080800, -25200⟩, ⟨467802000, -28800⟩, ⟨483530400, -25200⟩,
     ⟨499251600, -28800⟩, ⟨514980000, -25200⟩, ⟨530701200, -28800⟩, ⟨544615200, -25200⟩,
     ⟨562150800, -28800⟩, ⟨576064800, -25200⟩, ⟨594205200, -28800⟩, ⟨607514400, -25200⟩,
     ⟨625654800, -28800⟩, ⟨638964000, -25200⟩, ⟨657104400, -28800⟩, ⟨671018400, -25200⟩,
     ⟨688554000, -28800⟩, ⟨702468000, -25200⟩, ⟨720003600, -28800⟩, ⟨733917600, -25200⟩,
     ⟨752058000, -28800⟩, ⟨765367200, -25200⟩, ⟨783507600, -28800⟩, ⟨796816800, -25200⟩,
     ⟨814957200, -28800⟩, ⟨828871200, -25200⟩, ⟨846406800, -28800⟩, ⟨860320800, -25200⟩,
     ⟨877856400, -28800⟩, ⟨891770400, -25200⟩, ⟨909306000, -28800⟩, ⟨923220000, -25200⟩,
     ⟨941360400, -28800⟩, ⟨954669600, -25200⟩, ⟨972810000, -28800⟩, ⟨986119200, -25200⟩,
     ⟨1004259600, -28800⟩, ⟨1018173600, -25200⟩, ⟨1035709200, -28800⟩, ⟨1049623200, -25200⟩,
     ⟨1067158800, -28800⟩, ⟨1081072800, -25200⟩, ⟨1099213200, -28800⟩, ⟨1112522400, -25200⟩,
     ⟨1130662800, -28800⟩, ⟨1143972000, -25200⟩, ⟨1162112400, -28800⟩, ⟨1173607200, -25200⟩]
  after := .yearly (-28800) (-25200)
    { month := 3, week := 2, weekday := 0 }
    { month := 11, week := 1, weekday := 0 }

/-- São Paulo, three hours behind. Its summer time began at midnight, which the clocks
skipped, until it was given up in 2019. -/
def saoPaulo : Zone where
  initial := -11188
  transitions :=
    [⟨-1767214412, -10800⟩, ⟨-1206957600, -7200⟩, ⟨-1191362400, -10800⟩, ⟨-1175374800, -7200⟩,
     ⟨-1159826400, -10800⟩, ⟨-633819600, -7200⟩, ⟨-622069200, -10800⟩, ⟨-602283600, -7200⟩,
     ⟨-591832800, -10800⟩, ⟨-570747600, -7200⟩, ⟨-560210400, -10800⟩, ⟨-539125200, -7200⟩,
     ⟨-531352800, -10800⟩, ⟨-195426000, -7200⟩, ⟨-184197600, -10800⟩, ⟨-155163600, -7200⟩,
     ⟨-150069600, -10800⟩, ⟨-128898000, -7200⟩, ⟨-121125600, -10800⟩, ⟨-99954000, -7200⟩,
     ⟨-89589600, -10800⟩, ⟨-68418000, -7200⟩, ⟨-57967200, -10800⟩, ⟨499748400, -7200⟩,
     ⟨511236000, -10800⟩, ⟨530593200, -7200⟩, ⟨540266400, -10800⟩, ⟨562129200, -7200⟩,
     ⟨571197600, -10800⟩, ⟨592974000, -7200⟩, ⟨602042400, -10800⟩, ⟨624423600, -7200⟩,
     ⟨634701600, -10800⟩, ⟨656478000, -7200⟩, ⟨666756000, -10800⟩, ⟨687927600, -7200⟩,
     ⟨697600800, -10800⟩, ⟨719982000, -7200⟩, ⟨728445600, -10800⟩, ⟨750826800, -7200⟩,
     ⟨761709600, -10800⟩, ⟨782276400, -7200⟩, ⟨793159200, -10800⟩, ⟨813726000, -7200⟩,
     ⟨824004000, -10800⟩, ⟨844570800, -7200⟩, ⟨856058400, -10800⟩, ⟨876106800, -7200⟩,
     ⟨888717600, -10800⟩, ⟨908074800, -7200⟩, ⟨919562400, -10800⟩, ⟨938919600, -7200⟩,
     ⟨951616800, -10800⟩, ⟨970974000, -7200⟩, ⟨982461600, -10800⟩, ⟨1003028400, -7200⟩,
     ⟨1013911200, -10800⟩, ⟨1036292400, -7200⟩, ⟨1045360800, -10800⟩, ⟨1066532400, -7200⟩,
     ⟨1076810400, -10800⟩, ⟨1099364400, -7200⟩, ⟨1108864800, -10800⟩, ⟨1129431600, -7200⟩,
     ⟨1140314400, -10800⟩, ⟨1162695600, -7200⟩, ⟨1172368800, -10800⟩, ⟨1192330800, -7200⟩,
     ⟨1203213600, -10800⟩, ⟨1224385200, -7200⟩, ⟨1234663200, -10800⟩, ⟨1255834800, -7200⟩,
     ⟨1266717600, -10800⟩, ⟨1287284400, -7200⟩, ⟨1298167200, -10800⟩, ⟨1318734000, -7200⟩,
     ⟨1330221600, -10800⟩, ⟨1350788400, -7200⟩, ⟨1361066400, -10800⟩, ⟨1382238000, -7200⟩,
     ⟨1392516000, -10800⟩, ⟨1413687600, -7200⟩, ⟨1424570400, -10800⟩, ⟨1445137200, -7200⟩,
     ⟨1456020000, -10800⟩, ⟨1476586800, -7200⟩, ⟨1487469600, -10800⟩, ⟨1508036400, -7200⟩,
     ⟨1518919200, -10800⟩, ⟨1541300400, -7200⟩, ⟨1550368800, -10800⟩]
  after := .fixed (-10800)

/-- Santiago de Chile, where the clocks change at the midnight that ends a Saturday,
so that its last hour is repeated in autumn and the first of Sunday is skipped in
spring. -/
def santiago : Zone where
  initial := -16965
  transitions :=
    [⟨-1892661435, -18000⟩, ⟨-1688410800, -16965⟩, ⟨-1619205435, -14400⟩, ⟨-1593806400, -16965⟩,
     ⟨-1335986235, -14400⟩, ⟨-1317585600, -18000⟩, ⟨-1304362800, -14400⟩, ⟨-1286049600, -18000⟩,
     ⟨-1272826800, -14400⟩, ⟨-1254513600, -18000⟩, ⟨-1241290800, -14400⟩, ⟨-1222977600, -18000⟩,
     ⟨-1209754800, -14400⟩, ⟨-1191355200, -18000⟩, ⟨-1178132400, -14400⟩, ⟨-870552000, -18000⟩,
     ⟨-865278000, -14400⟩, ⟨-740520000, -10800⟩, ⟨-736635600, -14400⟩, ⟨-718056000, -18000⟩,
     ⟨-713649600, -14400⟩, ⟨-36619200, -10800⟩, ⟨-23922000, -14400⟩, ⟨-3355200, -10800⟩,
     ⟨7527600, -14400⟩, ⟨24465600, -10800⟩, ⟨37767600, -14400⟩, ⟨55915200, -10800⟩,
     ⟨69217200, -14400⟩, ⟨87969600, -10800⟩, ⟨100666800, -14400⟩, ⟨118209600, -10800⟩,
     ⟨132116400, -14400⟩, ⟨150868800, -10800⟩, ⟨163566000, -14400⟩, ⟨182318400, -10800⟩,
     ⟨195620400, -14400⟩, ⟨213768000, -10800⟩, ⟨227070000, -14400⟩, ⟨245217600, -10800⟩,
     ⟨258519600, -14400⟩, ⟨277272000, -10800⟩, ⟨289969200, -14400⟩, ⟨308721600, -10800⟩,
     ⟨321418800, -14400⟩, ⟨340171200, -10800⟩, ⟨353473200, -14400⟩, ⟨371620800, -10800⟩,
     ⟨384922800, -14400⟩, ⟨403070400, -10800⟩, ⟨416372400, -14400⟩, ⟨434520000, -10800⟩,
     ⟨447822000, -14400⟩, ⟨466574400, -10800⟩, ⟨479271600, -14400⟩, ⟨498024000, -10800⟩,
     ⟨510721200, -14400⟩, ⟨529473600, -10800⟩, ⟨545194800, -14400⟩, ⟨560923200, -10800⟩,
     ⟨574225200, -14400⟩, ⟨592372800, -10800⟩, ⟨605674800, -14400⟩, ⟨624427200, -10800⟩,
     ⟨637124400, -14400⟩, ⟨653457600, -10800⟩, ⟨668574000, -14400⟩, ⟨687326400, -10800⟩,
     ⟨700628400, -14400⟩, ⟨718776000, -10800⟩, ⟨732078000, -14400⟩, ⟨750225600, -10800⟩,
     ⟨763527600, -14400⟩, ⟨781675200, -10800⟩, ⟨794977200, -14400⟩, ⟨813729600, -10800⟩,
     ⟨826426800, -14400⟩, ⟨845179200, -10800⟩, ⟨859690800, -14400⟩, ⟨876628800, -10800⟩,
     ⟨889930800, -14400⟩, ⟨906868800, -10800⟩, ⟨923194800, -14400⟩, ⟨939528000, -10800⟩,
     ⟨952830000, -14400⟩, ⟨971582400, -10800⟩, ⟨984279600, -14400⟩, ⟨1003032000, -10800⟩,
     ⟨1015729200, -14400⟩, ⟨1034481600, -10800⟩, ⟨1047178800, -14400⟩, ⟨1065931200, -10800⟩,
     ⟨1079233200, -14400⟩, ⟨1097380800, -10800⟩, ⟨1110682800, -14400⟩, ⟨1128830400, -10800⟩,
     ⟨1142132400, -14400⟩, ⟨1160884800, -10800⟩, ⟨1173582000, -14400⟩, ⟨1192334400, -10800⟩,
     ⟨1206846000, -14400⟩, ⟨1223784000, -10800⟩, ⟨1237086000, -14400⟩, ⟨1255233600, -10800⟩,
     ⟨1270350000, -14400⟩, ⟨1286683200, -10800⟩, ⟨1304823600, -14400⟩, ⟨1313899200, -10800⟩,
     ⟨1335668400, -14400⟩, ⟨1346558400, -10800⟩, ⟨1367118000, -14400⟩, ⟨1378612800, -10800⟩,
     ⟨1398567600, -14400⟩, ⟨1410062400, -10800⟩, ⟨1463281200, -14400⟩, ⟨1471147200, -10800⟩,
     ⟨1494730800, -14400⟩, ⟨1502596800, -10800⟩, ⟨1526180400, -14400⟩, ⟨1534046400, -10800⟩,
     ⟨1554606000, -14400⟩, ⟨1567915200, -10800⟩, ⟨1586055600, -14400⟩, ⟨1599364800, -10800⟩,
     ⟨1617505200, -14400⟩, ⟨1630814400, -10800⟩, ⟨1648954800, -14400⟩, ⟨1662868800, -10800⟩,
     ⟨1680404400, -14400⟩]
  after := .yearly (-14400) (-10800)
    { month := 9, week := 1, weekday := 6, time := 86400 }
    { month := 4, week := 1, weekday := 6, time := 86400 }

/-- Havana, where the midnight that begins a Sunday is skipped in spring and repeated
in autumn. -/
def havana : Zone where
  initial := -19768
  transitions :=
    [⟨-2524501832, -19776⟩, ⟨-1402813824, -18000⟩, ⟨-1311534000, -14400⟩, ⟨-1300996800, -18000⟩,
     ⟨-933534000, -14400⟩, ⟨-925675200, -18000⟩, ⟨-902084400, -14400⟩, ⟨-893620800, -18000⟩,
     ⟨-870030000, -14400⟩, ⟨-862171200, -18000⟩, ⟨-775681200, -14400⟩, ⟨-767822400, -18000⟩,
     ⟨-744231600, -14400⟩, ⟨-736372800, -18000⟩, ⟨-144702000, -14400⟩, ⟨-134251200, -18000⟩,
     ⟨-113425200, -14400⟩, ⟨-102542400, -18000⟩, ⟨-86295600, -14400⟩, ⟨-72907200, -18000⟩,
     ⟨-54154800, -14400⟩, ⟨-41457600, -18000⟩, ⟨-21495600, -14400⟩, ⟨-5774400, -18000⟩,
     ⟨9954000, -14400⟩, ⟨25675200, -18000⟩, ⟨41403600, -14400⟩, ⟨57729600, -18000⟩,
     ⟨73458000, -14400⟩, ⟨87364800, -18000⟩, ⟨104907600, -14400⟩, ⟨118900800, -18000⟩,
     ⟨136357200, -14400⟩, ⟨150436800, -18000⟩, ⟨167806800, -14400⟩, ⟨183528000, -18000⟩,
     ⟨199256400, -14400⟩, ⟨215582400, -18000⟩, ⟨230706000, -14400⟩, ⟨247032000, -18000⟩,
     ⟨263365200, -14400⟩, ⟨276667200, -18000⟩, ⟨290581200, -14400⟩, ⟨308721600, -18000⟩,
     ⟨322030800, -14400⟩, ⟨340171200, -18000⟩, ⟨358318800, -14400⟩, ⟨371620800, -18000⟩,
     ⟨389768400, -14400⟩, ⟨403070400, -18000⟩, ⟨421218000, -14400⟩, ⟨434520000, -18000⟩,
     ⟨452667600, -14400⟩, ⟨466574400, -18000⟩, ⟨484117200, -14400⟩, ⟨498024000, -18000⟩,
     ⟨511333200, -14400⟩, ⟨529473600, -18000⟩, ⟨542782800, -14400⟩, ⟨560923200, -18000⟩,
     ⟨574837200, -14400⟩, ⟨592372800, -18000⟩, ⟨606286800, -14400⟩, ⟨623822400, -18000⟩,
     ⟨638946000, -14400⟩, ⟨655876800, -18000⟩, ⟨671000400, -14400⟩, ⟨687330000, -18000⟩,
     ⟨702450000, -14400⟩, ⟨718779600, -18000⟩, ⟨733899600, -14400⟩, ⟨750229200, -18000⟩,
     ⟨765349200, -14400⟩, ⟨781678800, -18000⟩, ⟨796798800, -14400⟩, ⟨813128400, -18000⟩,
     ⟨828853200, -14400⟩, ⟨844578000, -18000⟩, ⟨860302800, -14400⟩, ⟨876632400, -18000⟩,
     ⟨891147600, -14400⟩, ⟨909291600, -18000⟩, ⟨922597200, -14400⟩, ⟨941346000, -18000⟩,
     ⟨954651600, -14400⟩, ⟨972795600, -18000⟩, ⟨986101200, -14400⟩, ⟨1004245200, -18000⟩,
     ⟨1018155600, -14400⟩, ⟨1035694800, -18000⟩, ⟨1049605200, -14400⟩, ⟨1067144400, -18000⟩,
     ⟨1080450000, -14400⟩, ⟨1162098000, -18000⟩, ⟨1173589200, -14400⟩, ⟨1193547600, -18000⟩,
     ⟨1205643600, -14400⟩, ⟨1224997200, -18000⟩, ⟨1236488400, -14400⟩, ⟨1256446800, -18000⟩,
     ⟨1268542800, -14400⟩, ⟨1288501200, -18000⟩, ⟨1300597200, -14400⟩, ⟨1321160400, -18000⟩,
     ⟨1333256400, -14400⟩, ⟨1352005200, -18000⟩]
  after := .yearly (-18000) (-14400)
    { month := 3, week := 2, weekday := 0, time := 0 }
    { month := 11, week := 1, weekday := 0, time := 3600 }

/-- Nuuk, which moved an hour east in 2023 and changes its clocks an hour before
midnight in spring and at midnight in autumn. -/
def nuuk : Zone where
  initial := -12416
  transitions :=
    [⟨-1686083584, -10800⟩, ⟨323845200, -7200⟩, ⟨338950800, -10800⟩, ⟨354675600, -7200⟩,
     ⟨370400400, -10800⟩, ⟨386125200, -7200⟩, ⟨401850000, -10800⟩, ⟨417574800, -7200⟩,
     ⟨433299600, -10800⟩, ⟨449024400, -7200⟩, ⟨465354000, -10800⟩, ⟨481078800, -7200⟩,
     ⟨496803600, -10800⟩, ⟨512528400, -7200⟩, ⟨528253200, -10800⟩, ⟨543978000, -7200⟩,
     ⟨559702800, -10800⟩, ⟨575427600, -7200⟩, ⟨591152400, -10800⟩, ⟨606877200, -7200⟩,
     ⟨622602000, -10800⟩, ⟨638326800, -7200⟩, ⟨654656400, -10800⟩, ⟨670381200, -7200⟩,
     ⟨686106000, -10800⟩, ⟨701830800, -7200⟩, ⟨717555600, -10800⟩, ⟨733280400, -7200⟩,
     ⟨749005200, -10800⟩, ⟨764730000, -7200⟩, ⟨780454800, -10800⟩, ⟨796179600, -7200⟩,
     ⟨811904400, -10800⟩, ⟨828234000, -7200⟩, ⟨846378000, -10800⟩, ⟨859683600, -7200⟩,
     ⟨877827600, -10800⟩, ⟨891133200, -7200⟩, ⟨909277200, -10800⟩, ⟨922582800, -7200⟩,
     ⟨941331600, -10800⟩, ⟨954032400, -7200⟩, ⟨972781200, -10800⟩, ⟨985482000, -7200⟩,
     ⟨1004230800, -10800⟩, ⟨1017536400, -7200⟩, ⟨1035680400, -10800⟩, ⟨1048986000, -7200⟩,
     ⟨1067130000, -10800⟩, ⟨1080435600, -7200⟩, ⟨1099184400, -10800⟩, ⟨1111885200, -7200⟩,
     ⟨1130634000, -10800⟩, ⟨1143334800, -7200⟩, ⟨1162083600, -10800⟩, ⟨1174784400, -7200⟩,
     ⟨1193533200, -10800⟩, ⟨1206838800, -7200⟩, ⟨1224982800, -10800⟩, ⟨1238288400, -7200⟩,
     ⟨1256432400, -10800⟩, ⟨1269738000, -7200⟩, ⟨1288486800, -10800⟩, ⟨1301187600, -7200⟩,
     ⟨1319936400, -10800⟩, ⟨1332637200, -7200⟩, ⟨1351386000, -10800⟩, ⟨1364691600, -7200⟩,
     ⟨1382835600, -10800⟩, ⟨1396141200, -7200⟩, ⟨1414285200, -10800⟩, ⟨1427590800, -7200⟩,
     ⟨1445734800, -10800⟩, ⟨1459040400, -7200⟩, ⟨1477789200, -10800⟩, ⟨1490490000, -7200⟩,
     ⟨1509238800, -10800⟩, ⟨1521939600, -7200⟩, ⟨1540688400, -10800⟩, ⟨1553994000, -7200⟩,
     ⟨1572138000, -10800⟩, ⟨1585443600, -7200⟩, ⟨1603587600, -10800⟩, ⟨1616893200, -7200⟩,
     ⟨1635642000, -10800⟩, ⟨1648342800, -7200⟩, ⟨1667091600, -10800⟩, ⟨1679792400, -7200⟩,
     ⟨1698541200, -7200⟩]
  after := .yearly (-7200) (-3600)
    { month := 3, week := 5, weekday := 0, time := -3600 }
    { month := 10, week := 5, weekday := 0, time := 0 }

end Timespan.Zone
