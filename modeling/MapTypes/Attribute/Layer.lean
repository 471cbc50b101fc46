import MapTypes.Rule
import MapTypes.Unicode.CharacterClass

/-!
Layers: the vertical order of features that cross. A layer is read from the start of a text. Bridges
and tunnels without one are given the layer above or below the ground.
-/

namespace MapTypes.Layer

/-- The largest magnitude of a layer. -/
def bound : Nat := 10

/-- The magnitude that a run of digits stands for. A run that is too long for a machine word, or is
not written in ASCII digits, counts as beyond every bound. -/
def magnitude (digits : List Char) : Nat :=
  match Text.digits? digits with
  | some value => min value bound
  | none => bound

/-- The layer of a run of digits with a sign. A text without a digit is on the ground. -/
def ofDigits (negative : Bool) (text : List Char) : Int :=
  let digits := text.takeWhile Unicode.isDecimalDigit
  if digits = [] then 0
  else if negative then -(magnitude digits : Int)
  else magnitude digits

/-- The layer at the start of a text: white space, a sign or none, and digits. What follows them is
not looked at. -/
def ofText (text : String) : Int :=
  match text.toList.dropWhile Unicode.isWhiteSpace with
  | '+' :: rest => ofDigits false rest
  | '-' :: rest => ofDigits true rest
  | rest => ofDigits false rest

/-- What a tag tells about the layer of an element. -/
inductive Hint where
  /-- The element crosses over the ground. -/
  | bridge
  /-- The element crosses under the ground. -/
  | tunnel
  /-- The layer is given. -/
  | explicit
  deriving DecidableEq, Repr

/-- The tags that tell about layers. -/
def hints : List (Rule Hint) :=
  [⟨"bridge", .exactly "yes", .bridge⟩,
    ⟨"tunnel", .exactly "yes", .tunnel⟩,
    ⟨"layer", .any, .explicit⟩]

/-- The layer that a crossing implies. -/
def Hint.implied? : Hint → Option String
  | bridge => some "1"
  | tunnel => some "-1"
  | explicit => none

/-- The layer to be added to a list of tags: none where one is given, else that of the last
crossing. -/
def implied? (tags : List Tag) : Option String :=
  let found := Rule.hits hints tags
  if found.contains .explicit then none else (found.filterMap Hint.implied?).getLast?

/-- The tags with the layer that a crossing implies at the end. -/
def complete (tags : List Tag) : List Tag :=
  match implied? tags with
  | some layer => tags ++ [⟨"layer", layer, false⟩]
  | none => tags

end MapTypes.Layer
