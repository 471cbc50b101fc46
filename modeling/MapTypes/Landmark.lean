import MapTypes.Taxonomy.Basic

/-!
Landmarks: the places of a taxonomy that classification itself knows of. They are looked up before
an element is classified. A landmark that the taxonomy lacks matches nothing.
-/

namespace MapTypes

/-- The codes of the landmarks. -/
structure Landmarks where
  entrance : Option TypeCode
  address : Option TypeCode
  highway : Option TypeCode
  station : Option TypeCode
  subway : Option TypeCode
  deriving DecidableEq, Repr, Inhabited

namespace Landmarks

/-- The path of entrances. -/
def entrancePath : List String := ["entrance"]

/-- The path of addresses. -/
def addressPath : List String := ["building", "address"]

/-- The path above all roads. -/
def highwayPath : List String := ["highway"]

/-- The path of railway stations. -/
def stationPath : List String := ["railway", "station"]

/-- The path of subway stations. -/
def subwayPath : List String := ["railway", "station", "subway"]

/-- Looks the landmarks up. -/
def find (taxonomy : Taxonomy) : Except TypeCode.Fault Landmarks := do
  let entrance ← taxonomy.codeOf? entrancePath
  let address ← taxonomy.codeOf? addressPath
  let highway ← taxonomy.codeOf? highwayPath
  let station ← taxonomy.codeOf? stationPath
  let subway ← taxonomy.codeOf? subwayPath
  return ⟨entrance, address, highway, station, subway⟩

/-- A code at or below the place of roads. -/
def isHighway (landmarks : Landmarks) (code : TypeCode) : Bool :=
  landmarks.highway == some (code.truncate 1)

/-- A code at or below the place of subway stations. -/
def isSubway (landmarks : Landmarks) (code : TypeCode) : Bool :=
  landmarks.subway == some (code.truncate 3)

/-- The code of railway stations itself. -/
def isStation (landmarks : Landmarks) (code : TypeCode) : Bool :=
  landmarks.station == some code

end Landmarks

end MapTypes
