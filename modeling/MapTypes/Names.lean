import MapTypes.Feature
import MapTypes.Tag
import MapTypes.Unicode.Normalization

/-!
Names. A tag holds a name when its key says so: `name` alone gives the default name, `name` and a
language code the name in that language, `int_name` the international name. Names are stored in one
normal form; the first of a language is kept, and every name tag is used up.
-/

namespace MapTypes.Names

/-- The characters between the parts of a key. -/
def separators : List Char :=
  ['\t', ' ', ':']

/-- The parts of a key; empty ones do not count. -/
def keyParts (key : String) : List String :=
  ((key.toList.splitOnP separators.contains).filter (· ≠ [])).map String.ofList

/-- The language that a key files its name under, if it is the key of a name. -/
def languageOf? (key : String) : Option String :=
  match keyParts key with
  | "int_name" :: _ => some "int_name"
  | ["name"] => some "default"
  | "name" :: "ar1" :: _ => some "ar"
  | "name" :: language :: _ => some language
  | _ => none

/-- The language that a tag names the element in. Ignored tags and empty values name nothing. -/
def languageOfTag? (tag : Tag) : Option String :=
  if tag.isIgnored || tag.value == "" then none else languageOf? tag.key

/-- Moves the name of a tag into the record. -/
def extract (feature : Feature) (tag : Tag) : Feature × Tag :=
  match languageOfTag? tag with
  | some language =>
    ((feature.addName language (Unicode.normalizeKC tag.value)).1, tag.consume)
  | none => (feature, tag)

/-- Moves all names into the record. -/
def extractAll (feature : Feature) (tags : List Tag) : Feature × List Tag :=
  sweep extract feature tags

end MapTypes.Names
