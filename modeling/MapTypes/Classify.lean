import MapTypes.Attribute.Table
import MapTypes.Element
import MapTypes.Names
import MapTypes.Qualifier
import MapTypes.Walk

/-!
Classification of one element, stage by stage. First the tags are completed and read: a layer for
crossings, names, attributes. Then the walk finds categories, and those that are admitted become
types. An addressed entrance is turned into an address. At last the qualifiers add their types, and
the types are sorted.

Codes are computed with a check that they fit, so classification is written to be able to fail; over
a taxonomy frozen from a draft it never does.
-/

namespace MapTypes

/-- What a caller can choose. -/
structure Options where
  /-- Whether an addressed entrance becomes an address. -/
  addressFixup : Bool := true
  /-- Whether only categories that are drawn become types. -/
  visibilityFilter : Bool := true
  deriving DecidableEq, Repr, Inhabited

/-- What classification gives. -/
structure Outcome where
  feature : Feature
  /-- The tags of the element, as classification leaves them. -/
  tags : List Tag
  /-- The categories of the walk, whether or not they became types. -/
  discoveries : List Walk.Discovery
  rounds : Rounds
  /-- Whether an entrance became an address. -/
  addressFixup : Bool
  deriving DecidableEq, Repr

namespace Classify

/-- Reads names and attributes from completed tags. -/
def prepare (tags : List Tag) : Feature × List Tag :=
  let named := Names.extractAll Feature.empty (Layer.complete tags)
  Attribute.extractAll named.1 named.2

/-- Whether a code may become a type. -/
def admits (taxonomy : Taxonomy) (options : Options) (code : TypeCode) : Bool :=
  !options.visibilityFilter || taxonomy.isVisible code

/-- Adds those of some codes that may become types. -/
def addAdmitted (taxonomy : Taxonomy) (options : Options) (feature : Feature)
    (codes : List TypeCode) : Feature :=
  (codes.filter (admits taxonomy options)).foldl (fun feature code => (feature.addType code).1)
    feature

/-- Whether a record is that of an addressed entrance. -/
def isAddressedEntrance (landmarks : Landmarks) (feature : Feature) : Bool :=
  feature.hasHouse && landmarks.entrance.any feature.hasType

/-- Turns an entrance into an address. The name of the entrance goes with it. -/
def toAddress (taxonomy : Taxonomy) (options : Options) (landmarks : Landmarks)
    (feature : Feature) : Feature :=
  let types := feature.types.filter fun code => some code ≠ landmarks.entrance
  addAdmitted taxonomy options { feature with types := types, names := [] }
    landmarks.address.toList

/-- The record after the walk. -/
def assign (taxonomy : Taxonomy) (options : Options) (feature : Feature)
    (discoveries : List Walk.Discovery) : Feature :=
  addAdmitted taxonomy options feature (discoveries.map Walk.Discovery.code)

/-- Adds what the qualifiers conclude. -/
def qualify (taxonomy : Taxonomy) (options : Options) (qualifiers : Qualifiers)
    (codes : List TypeCode) (feature : Feature) : Feature :=
  { addAdmitted taxonomy options feature codes with
    reversed := qualifiers.reversed
    city := qualifiers.city.map City.label }

/-- The stages after the walk: assignment of types, the correction of addressed entrances, the
rounds of qualifiers. -/
def conclude (taxonomy : Taxonomy) (options : Options) (landmarks : Landmarks)
    (prepared : Feature × List Tag) (discoveries : List Walk.Discovery) :
    Except TypeCode.Fault Outcome := do
  let assigned := assign taxonomy options prepared.1 discoveries
  let fixup := options.addressFixup && isAddressedEntrance landmarks assigned
  let settled := if fixup then toAddress taxonomy options landmarks assigned else assigned
  let rounds := Rounds.ofTypes landmarks settled.types
  let qualifiers := Qualifiers.ofTags rounds prepared.2
  let codes ← taxonomy.codesOf qualifiers.paths
  let qualified := qualify taxonomy options qualifiers codes settled
  return ⟨qualified.sortTypes, prepared.2, discoveries, rounds, fixup⟩

end Classify

/-- Classifies a list of tags. -/
def classify (taxonomy : Taxonomy) (options : Options) (tags : List Tag) :
    Except TypeCode.Fault Outcome := do
  let landmarks ← Landmarks.find taxonomy
  let prepared := Classify.prepare tags
  let discoveries ← Walk.discover taxonomy prepared.2
  Classify.conclude taxonomy options landmarks prepared discoveries

/-- Classifies an element, which keeps the tags that classification leaves. -/
def Element.classify (element : Element) (taxonomy : Taxonomy) (options : Options) :
    Except TypeCode.Fault (Outcome × Element) := do
  let outcome ← MapTypes.classify taxonomy options element.tags
  return (outcome, { element with tags := outcome.tags })

end MapTypes
