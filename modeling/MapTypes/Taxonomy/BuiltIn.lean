import MapTypes.City
import MapTypes.Taxonomy.Basic

/-!
The built-in taxonomy: the categories that the tag rules speak of and a representative choice of
common map features.
-/

namespace MapTypes

namespace Taxonomy.BuiltIn

/-- The paths of one key and each of its values. -/
def family (key : String) (values : List String) : List (List String) :=
  values.map ([key, ·])

/-- Keys with their values. -/
def families : List (List String) :=
  family "highway"
    ["motorway", "trunk", "primary", "secondary", "tertiary", "unclassified", "residential",
      "living_street", "service", "track", "pedestrian", "footway", "cycleway", "path", "steps",
      "bus_stop"]
  ++ family "hwtag" ["oneway", "private", "lit", "nofoot", "yesfoot"]
  ++ family "railway"
    ["station", "halt", "rail", "subway", "tram", "tram_stop", "subway_entrance"]
  ++ family "amenity"
    ["atm", "bank", "cafe", "fuel", "hospital", "parking", "pharmacy", "place_of_worship",
      "restaurant", "school", "toilets"]
  ++ family "tourism" ["attraction", "hotel", "information", "museum", "viewpoint"]
  ++ family "place" ["city", "town", "village", "hamlet", "suburb", "locality"]
  ++ family "shop" ["bakery", "clothes", "convenience", "supermarket"]
  ++ family "leisure" ["park", "playground", "pitch"]
  ++ family "natural" ["water", "wood", "peak"]
  ++ family "waterway" ["river", "stream", "canal"]
  ++ family "landuse" ["forest", "residential", "industrial"]
  ++ family "building" ["address"]

/-- Roads that are drawn apart on bridges and in tunnels. -/
def carriedRoads : List String :=
  ["motorway", "trunk", "primary", "secondary", "tertiary", "residential"]

/-- Administrative levels that are drawn apart. -/
def administrativeLevels : List String :=
  ["2", "3", "4", "5", "6", "7", "8", "9", "10"]

/-- The paths that are drawn. A category such as `capital` stands beside its levels because an
element may name it and no level. -/
def drawnPaths : List (List String) :=
  families
  ++ [["building"], ["entrance"], ["railway", "station", "subway"]]
  ++ City.all.map (fun city => ["railway", "station", "subway", city.label])
  ++ carriedRoads.flatMap (fun road => [["highway", road, "bridge"], ["highway", road, "tunnel"]])
  ++ [["highway", "pedestrian", "area"]]
  ++ [["place", "city", "capital"], ["place", "city", "capital", "2"],
      ["place", "city", "capital", "4"]]
  ++ [["boundary", "administrative"]]
  ++ administrativeLevels.map (["boundary", "administrative", ·])

/-- Categories that are known and never drawn. -/
def hiddenPaths : List (List String) :=
  [["highway", "construction"], ["highway", "proposed"], ["railway", "abandoned"],
    ["railway", "construction"]]

/-- The paths of the built-in taxonomy. -/
def entries : List Entry :=
  drawnPaths.map (⟨·, true⟩) ++ hiddenPaths.map (⟨·, false⟩)

/-- The draft of the built-in taxonomy. None of its paths is refused. -/
def draft : Draft :=
  Draft.empty.addAccepted entries

end Taxonomy.BuiltIn

/-- The built-in taxonomy. -/
def Taxonomy.builtIn : Taxonomy :=
  Taxonomy.BuiltIn.draft.freeze

end MapTypes
