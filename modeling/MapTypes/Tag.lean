import MapTypes.Text.Basic
import MapTypes.Text.Numeral

/-!
Tags, the key and value pairs that describe a map element. A stage of classification that has used
a tag up consumes it: the tag keeps its place but is dead from then on. The predicates here say
which tags the later stages look at. A pass over the tags (`sweep`) carries a record along and may
change every tag it meets, but it neither moves nor drops one.
-/

namespace MapTypes

/-- One key and value of an element. -/
structure Tag where
  key : String
  value : String
  /-- Whether a classification used the tag up. -/
  consumed : Bool := false
  deriving DecidableEq, Repr, Inhabited

namespace Tag

/-- Uses a tag up: its texts are cleared and it is never live again. -/
def consume (_ : Tag) : Tag := ⟨"", "", true⟩

/-- A live tag can still be seen: it is not consumed and has a key. -/
def isLive (tag : Tag) : Bool :=
  !tag.consumed && tag.key != ""

/-- Keys whose tags only talk about a feature that is not there, or not there yet. -/
def descriptiveKeys : List String :=
  ["description", "cycleway", "proposed", "construction"]

/-- Keys for which a negative value is information and not a denial. -/
def polarityKeys : List String :=
  ["layer", "oneway"]

/-- Values that deny the key. -/
def denials : List String :=
  ["no", "false", "-1"]

/-- A tag that names, walk and hand-over pass by: it is dead, or only descriptive, or says that the
element lacks what the key names. -/
def isIgnored (tag : Tag) : Bool :=
  !tag.isLive || descriptiveKeys.contains tag.key
    || (!polarityKeys.contains tag.key && denials.contains tag.value)

/-- Keys for which a number is itself the category. -/
def levelKeys : List String :=
  ["admin_level", "capital"]

/-- Whether the value may stand for a category. A bare number does so for the level keys only. -/
def valueClassifies (tag : Tag) : Bool :=
  (Text.signed64? tag.value).isNone || levelKeys.contains tag.key

/-- A key with `name` anywhere in it belongs to a name and never to a category. -/
def hasNameKey (tag : Tag) : Bool :=
  Text.occursIn "name".toList tag.key.toList

/-- The tags that may lead from a category to another. -/
def isCandidate (tag : Tag) : Bool :=
  !tag.isIgnored && !tag.hasNameKey

end Tag

/-- Takes the tags one by one, in their order. -/
def sweep {α : Type} (step : α → Tag → α × Tag) (record : α) : List Tag → α × List Tag
  | [] => (record, [])
  | tag :: rest =>
    let here := step record tag
    let after := sweep step here.1 rest
    (after.1, here.2 :: after.2)

end MapTypes
