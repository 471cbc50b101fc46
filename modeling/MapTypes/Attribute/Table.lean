import MapTypes.Attribute.Layer
import MapTypes.Attribute.Population
import MapTypes.Feature
import MapTypes.Tag

/-!
Attributes, which are read from tags before the element is classified. Tags that hold nothing but an
attribute are used up by it; a layer stays, because a taxonomy may classify by layer. Three
shorthand tags are spelled out in their place.
-/

namespace MapTypes

/-- What is done with a tag that holds an attribute. -/
inductive Attribute where
  /-- The key of the tag is a value of the given key: `atm=yes` stands for `amenity=atm`. -/
  | shorthandOf (key : String)
  | houseName
  | street
  | flats
  | houseNumber
  | population
  | reference
  | layer
  deriving DecidableEq, Repr

namespace Attribute

/-- Takes the attribute from a tag into the record. Of several house names and of several layers
other than zero the first stays, of all else the last. What is not a house number is a house
name. -/
def take (feature : Feature) (tag : Tag) : Attribute → Feature × Tag
  | shorthandOf key => (feature, { tag with key := key, value := tag.key })
  | houseName => (feature.addHouseName tag.value, tag.consume)
  | street => ({ feature with street := some tag.value }, tag.consume)
  | flats => ({ feature with flats := some tag.value }, tag.consume)
  | houseNumber =>
    let numbered := feature.addHouseNumber tag.value
    (if numbered.2 then numbered.1 else feature.addHouseName tag.value, tag.consume)
  | population =>
    ({ feature with rank := (Population.rankOfText? tag.value).getD feature.rank }, tag.consume)
  | reference => ({ feature with reference := some tag.value }, tag.consume)
  | layer =>
    (if feature.layer = 0 then { feature with layer := Layer.ofText tag.value } else feature, tag)

/-- The tags that hold attributes. -/
def table : List (Rule Attribute) :=
  [⟨"atm", .exactly "yes", .shorthandOf "amenity"⟩,
    ⟨"restaurant", .exactly "yes", .shorthandOf "amenity"⟩,
    ⟨"hotel", .exactly "yes", .shorthandOf "tourism"⟩,
    ⟨"addr:housename", .any, .houseName⟩,
    ⟨"addr:street", .any, .street⟩,
    ⟨"addr:flats", .any, .flats⟩,
    ⟨"addr:housenumber", .any, .houseNumber⟩,
    ⟨"population", .any, .population⟩,
    ⟨"ref", .any, .reference⟩,
    ⟨"layer", .any, .layer⟩]

/-- Tries the rules of a table on a tag, one after the other. A rule sees the tag as the rules
before it left it. -/
def extractBy (rules : List (Rule Attribute)) (feature : Feature) (tag : Tag) : Feature × Tag :=
  rules.foldl
    (fun state rule =>
      if rule.applies state.2 then rule.conclusion.take state.1 state.2 else state)
    (feature, tag)

/-- Takes all attributes into the record. -/
def extractAll (feature : Feature) (tags : List Tag) : Feature × List Tag :=
  sweep (extractBy table) feature tags

end Attribute

end MapTypes
