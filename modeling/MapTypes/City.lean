/-!
The cities whose metro a subway station can be assigned to.
-/

namespace MapTypes

/-- A city with a metro system known by name. -/
inductive City where
  | barcelona
  | berlin
  | kiev
  | london
  | madrid
  | minsk
  | moscow
  | newYork
  | paris
  | roma
  | saintPetersburg
  deriving DecidableEq, Repr, Inhabited

namespace City

/-- All cities, in the order of their labels. -/
def all : List City :=
  [barcelona, berlin, kiev, london, madrid, minsk, moscow, newYork, paris, roma, saintPetersburg]

/-- The label of a city in a taxonomy. -/
def label : City → String
  | barcelona => "barcelona"
  | berlin => "berlin"
  | kiev => "kiev"
  | london => "london"
  | madrid => "madrid"
  | minsk => "minsk"
  | moscow => "moscow"
  | newYork => "newyork"
  | paris => "paris"
  | roma => "roma"
  | saintPetersburg => "spb"

end City

end MapTypes
