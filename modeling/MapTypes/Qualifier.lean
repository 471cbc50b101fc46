import MapTypes.City
import MapTypes.Landmark
import MapTypes.Rule

/-!
Qualifiers: conclusions that are drawn only for elements of certain categories. Each category has a
table of rules and a round in which the table is consulted, at most once. Roads collect flags;
subway stations, and stations not known to be of a subway, look for the city of their network.
-/

namespace MapTypes

/-- The rounds that an element goes through. -/
structure Rounds where
  highway : Bool := false
  subway : Bool := false
  station : Bool := false
  deriving DecidableEq, Repr, Inhabited

namespace Rounds

/-- Whether there is no round. -/
def isEmpty (rounds : Rounds) : Bool :=
  !(rounds.highway || rounds.subway || rounds.station)

/-- The round that one type calls for, if it has not been called for before. The round of stations
is closed to elements with a subway type. -/
def call (landmarks : Landmarks) (hasSubway : Bool) (rounds : Rounds) (code : TypeCode) : Rounds :=
  if !rounds.highway && landmarks.isHighway code then { rounds with highway := true }
  else if !rounds.subway && landmarks.isSubway code then { rounds with subway := true }
  else if !hasSubway && !rounds.station && landmarks.isStation code then
    { rounds with station := true }
  else rounds

/-- The rounds that a list of types calls for, type by type. -/
def ofTypes (landmarks : Landmarks) (types : List TypeCode) : Rounds :=
  types.foldl (call landmarks (types.any landmarks.isSubway)) {}

end Rounds

/-- A property of a road that is a category of its own. -/
inductive RoadFlag where
  | oneway
  | privateAccess
  | lit
  | noFoot
  | yesFoot
  deriving DecidableEq, Repr, Inhabited

namespace RoadFlag

/-- All road flags, in the order in which their categories are added. -/
def all : List RoadFlag :=
  [oneway, privateAccess, lit, noFoot, yesFoot]

/-- The label of a flag in a taxonomy. -/
def label : RoadFlag → String
  | oneway => "oneway"
  | privateAccess => "private"
  | lit => "lit"
  | noFoot => "nofoot"
  | yesFoot => "yesfoot"

/-- The path of the category of a flag. -/
def path (flag : RoadFlag) : List String :=
  ["hwtag", flag.label]

end RoadFlag

/-- What a rule for roads concludes. -/
structure RoadMark where
  flag : RoadFlag
  /-- Whether the road is travelled against the order of its nodes. -/
  reversed : Bool := false
  deriving DecidableEq, Repr

namespace Qualifier

/-- The rules for roads; all of them count. -/
def roadTable : List (Rule RoadMark) :=
  [⟨"oneway", .exactly "yes", ⟨.oneway, false⟩⟩,
    ⟨"oneway", .exactly "1", ⟨.oneway, false⟩⟩,
    ⟨"oneway", .exactly "-1", ⟨.oneway, true⟩⟩,
    ⟨"access", .exactly "private", ⟨.privateAccess, false⟩⟩,
    ⟨"lit", .positive, ⟨.lit, false⟩⟩,
    ⟨"foot", .negative, ⟨.noFoot, false⟩⟩,
    ⟨"foot", .positive, ⟨.yesFoot, false⟩⟩,
    ⟨"sidewalk", .positive, ⟨.yesFoot, false⟩⟩]

/-- The metro systems by network or operator; the first tag that names one counts. -/
def subwayTable : List (Rule City) :=
  [⟨"network", .exactly "London Underground", .london⟩,
    ⟨"network", .exactly "New York City Subway", .newYork⟩,
    ⟨"network", .exactly "Московский метрополитен", .moscow⟩,
    ⟨"network", .exactly "Петербургский метрополитен", .saintPetersburg⟩,
    ⟨"network", .exactly "Verkehrsverbund Berlin-Brandenburg", .berlin⟩,
    ⟨"network", .exactly "Минский метрополитен", .minsk⟩,
    ⟨"network", .exactly "Київський метрополітен", .kiev⟩,
    ⟨"operator", .exactly "КП «Київський метрополітен»", .kiev⟩,
    ⟨"network", .exactly "RATP", .paris⟩,
    ⟨"network", .exactly "Metro de Barcelona", .barcelona⟩,
    ⟨"network", .exactly "Metro de Madrid", .madrid⟩,
    ⟨"operator", .exactly "Metro de Madrid", .madrid⟩,
    ⟨"network", .exactly "Metropolitana di Roma", .roma⟩,
    ⟨"network", .exactly "ATAC", .roma⟩]

/-- The metro systems whose stations are often mapped without saying so. -/
def stationTable : List (Rule City) :=
  [⟨"network", .exactly "London Underground", .london⟩]

end Qualifier

/-- The conclusions of all rounds. -/
structure Qualifiers where
  /-- The flags of a road, each once, in the order of `RoadFlag.all`. -/
  flags : List RoadFlag
  reversed : Bool
  city : Option City
  deriving DecidableEq, Repr, Inhabited

namespace Qualifiers

/-- What the rules for roads conclude, when that round is called for. -/
def roadMarks (rounds : Rounds) (tags : List Tag) : List RoadMark :=
  if rounds.highway then Rule.hits Qualifier.roadTable tags else []

/-- The city that the tables conclude, in the round that is called for. -/
def cityOf? (rounds : Rounds) (tags : List Tag) : Option City :=
  if rounds.subway then Rule.firstHit? Qualifier.subwayTable tags
  else if rounds.station then Rule.firstHit? Qualifier.stationTable tags
  else none

/-- The path of the subway stations of a city. -/
def cityPath (city : City) : List String :=
  Landmarks.subwayPath ++ [city.label]

/-- The categories that the conclusions add, as far as the taxonomy has them. -/
def paths (qualifiers : Qualifiers) : List (List String) :=
  qualifiers.flags.map RoadFlag.path ++ qualifiers.city.toList.map cityPath

/-- The conclusions that the rounds draw from the tags. -/
def ofTags (rounds : Rounds) (tags : List Tag) : Qualifiers :=
  let marks := roadMarks rounds tags
  { flags := RoadFlag.all.filter fun flag => marks.any (·.flag == flag)
    reversed := marks.any RoadMark.reversed
    city := cityOf? rounds tags }

end Qualifiers

end MapTypes
