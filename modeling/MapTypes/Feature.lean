import MapTypes.Attribute.HouseNumber
import MapTypes.TypeCode

/-!
Features, the records that classification produces. A record holds a set of type codes, at most one
name per language, the parts of an address and a few plain attributes.

The operations come in two forms. Each is a function of its own, and `Edit` lists them as data with
one answer type, so that whole histories of a record can be spoken of.
-/

namespace MapTypes

/-- What is known about a map element. -/
structure Feature where
  /-- The type codes, each once, in the order of their addition until they are sorted. -/
  types : List TypeCode := []
  /-- Languages and names, ordered by language. -/
  names : List (String × String) := []
  houseName : Option String := none
  houseNumber : Option String := none
  street : Option String := none
  flats : Option String := none
  /-- The number of a road or route. -/
  reference : Option String := none
  /-- The population rank. -/
  rank : Nat := 0
  layer : Int := 0
  /-- Whether the geometry runs against the direction of travel. -/
  reversed : Bool := false
  /-- The label of the city whose metro the station belongs to. -/
  city : Option String := none
  deriving DecidableEq, Repr, Inhabited

namespace Feature

/-- The record of an element of which nothing is known. -/
def empty : Feature := {}

/-- Whether a type is present. -/
def hasType (feature : Feature) (code : TypeCode) : Bool :=
  feature.types.contains code

/-- Adds a type at the end and tells whether it is new. -/
def addType (feature : Feature) (code : TypeCode) : Feature × Bool :=
  if feature.hasType code then (feature, false)
  else ({ feature with types := feature.types ++ [code] }, true)

/-- Removes a type, but none below it, and tells whether it was present. -/
def removeType (feature : Feature) (code : TypeCode) : Feature × Bool :=
  ({ feature with types := feature.types.filter (· ≠ code) }, feature.hasType code)

/-- Inserts a code into an increasing list of codes unless it is there. -/
def insertCode (code : TypeCode) : List TypeCode → List TypeCode
  | [] => [code]
  | head :: rest =>
    if code = head then head :: rest
    else if code < head then code :: head :: rest
    else head :: insertCode code rest

/-- The codes in increasing order, each once. -/
def sortCodes (codes : List TypeCode) : List TypeCode :=
  codes.foldr insertCode []

/-- Puts the types in increasing order. -/
def sortTypes (feature : Feature) : Feature :=
  { feature with types := sortCodes feature.types }

/-- The name in a language. -/
def name? (feature : Feature) (language : String) : Option String :=
  feature.names.lookup language

/-- Inserts an entry into a list ordered by language; an entry of the same language stays. -/
def insertName (language name : String) : List (String × String) → List (String × String)
  | [] => [(language, name)]
  | (other, kept) :: rest =>
    if language = other then (other, kept) :: rest
    else if language < other then (language, name) :: (other, kept) :: rest
    else (other, kept) :: insertName language name rest

/-- Adds a name, unless the language has one, and tells whether it did. -/
def addName (feature : Feature) (language name : String) : Feature × Bool :=
  if (feature.name? language).isSome then (feature, false)
  else ({ feature with names := insertName language name feature.names }, true)

/-- Removes all names. -/
def clearNames (feature : Feature) : Feature :=
  { feature with names := [] }

/-- Sets the house name when it is not empty and the first. -/
def addHouseName (feature : Feature) (name : String) : Feature :=
  if feature.houseName.isNone && name != "" then { feature with houseName := some name }
  else feature

/-- Sets the house number to the text less the white space around it, if that is shaped like one,
and tells whether it is. -/
def addHouseNumber (feature : Feature) (number : String) : Feature × Bool :=
  if HouseNumber.isValid number then
    ({ feature with houseNumber := some (Text.trim number) }, true)
  else (feature, false)

/-- Whether a house name or a house number is known. -/
def hasHouse (feature : Feature) : Bool :=
  feature.houseName.isSome || feature.houseNumber.isSome

end Feature

/-- An operation on a record. -/
inductive Edit where
  | addType (code : TypeCode)
  | removeType (code : TypeCode)
  | hasType (code : TypeCode)
  | sortTypes
  | addName (language name : String)
  | name (language : String)
  | clearNames
  | addHouseName (name : String)
  | addHouseNumber (number : String)
  deriving DecidableEq, Repr

/-- What an operation answers. -/
inductive Reply where
  | done
  | truth (value : Bool)
  | text (value : Option String)
  deriving DecidableEq, Repr

namespace Feature

/-- Performs an operation. -/
def edit (feature : Feature) : Edit → Feature × Reply
  | .addType code => (feature.addType code).map id .truth
  | .removeType code => (feature.removeType code).map id .truth
  | .hasType code => (feature, .truth (feature.hasType code))
  | .sortTypes => (feature.sortTypes, .done)
  | .addName language name => (feature.addName language name).map id .truth
  | .name language => (feature, .text (feature.name? language))
  | .clearNames => (feature.clearNames, .done)
  | .addHouseName name => (feature.addHouseName name, .done)
  | .addHouseNumber number => (feature.addHouseNumber number).map id .truth

/-- The record after a list of operations. -/
def run (feature : Feature) (edits : List Edit) : Feature :=
  edits.foldl (fun feature edit => (feature.edit edit).1) feature

end Feature

end MapTypes
