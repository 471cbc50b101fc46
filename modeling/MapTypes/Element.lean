import MapTypes.Tag

/-!
Map elements: a number and a list of tags. The order of the tags is part of the element; no
operation changes it.
-/

namespace MapTypes

/-- A map element. -/
structure Element where
  /-- The identity of the element; it has no part in its classification. -/
  id : Nat
  tags : List Tag
  deriving DecidableEq, Repr, Inhabited

namespace Element

/-- An element with the given keys and values, in their order. -/
def ofPairs (id : Nat) (pairs : List (String × String)) : Element :=
  ⟨id, pairs.map fun (key, value) => ⟨key, value, false⟩⟩

/-- Appends a tag. -/
def addTag (element : Element) (key value : String) : Element :=
  { element with tags := element.tags ++ [⟨key, value, false⟩] }

/-- The value of the first live tag with a key. -/
def tagValue? (element : Element) (key : String) : Option String :=
  (element.tags.find? fun tag => tag.isLive && tag.key == key).map Tag.value

/-- Changes the tag at a position, when there is one. -/
def modifyAt? (element : Element) (position : Nat) (change : Tag → Tag) : Option Element :=
  if position < element.tags.length then
    some { element with tags := element.tags.modify position change }
  else none

/-- Consumes the tag at a position. -/
def consumeAt? (element : Element) (position : Nat) : Option Element :=
  element.modifyAt? position Tag.consume

/-- Writes other texts into the tag at a position. A consumed tag stays consumed. -/
def overwriteAt? (element : Element) (position : Nat) (key value : String) : Option Element :=
  element.modifyAt? position fun tag => { tag with key, value }

end Element

end MapTypes
