import MapTypes.Classify

/-!
The report on one classification, for the terminal: what the walk found, the types, the attributes,
and how long the stages took. Colors are escape sequences around the parts of a line; without them
the report is the same text.
-/

namespace MapTypes.Command

/-- A way to set off a part of the report. -/
inductive Style where
  | bold
  | dim
  | green
  | yellow
  | blue
  | cyan
  | gray
  deriving DecidableEq, Repr

/-- The escape sequence that starts a style. -/
def Style.sequence : Style → String
  | bold => "\x1b[1m"
  | dim => "\x1b[2m"
  | green => "\x1b[32m"
  | yellow => "\x1b[33m"
  | blue => "\x1b[34m"
  | cyan => "\x1b[36m"
  | gray => "\x1b[90m"

/-- The escape sequence that ends all styles. -/
def resetSequence : String := "\x1b[0m"

/-- A text in a style, if colors are wanted. -/
def paint (color : Bool) (style : Style) (text : String) : String :=
  if color then style.sequence ++ text ++ resetSequence else text

/-- The durations of the stages, as they are to be shown. -/
structure Timings where
  total : String
  names : String
  walk : String
  conclusion : String
  preparation : String
  deriving DecidableEq, Repr

namespace Report

/-- An empty line and the title of a section. -/
def title (color : Bool) (name : String) : List String :=
  ["", paint color .gray ("━━━ " ++ name ++ " ━━━")]

/-- The element as it was given. -/
def header (color : Bool) (element : Element) : List String :=
  let tags := " ".intercalate (element.tags.map fun tag => tag.key ++ "=" ++ tag.value)
  ["", paint color .bold (paint color .cyan
    ("⚙  Classifying #" ++ Nat.repr element.id ++ ": " ++ tags))]

/-- One category of the walk, with its place in the order of discovery. -/
def discoveryLine (color : Bool) (place : Nat) (discovery : Walk.Discovery) : String :=
  "  " ++ " ".intercalate
    [paint color .gray ("[" ++ Nat.repr place ++ "]"),
      paint color .blue (" › ".intercalate discovery.labels),
      paint color .dim discovery.code.describe,
      if discovery.visible then paint color .green "✓ visible" else paint color .dim "✗ hidden"]

/-- The categories of the walk. -/
def walkLines (color : Bool) (discoveries : List Walk.Discovery) : List String :=
  if discoveries = [] then [paint color .dim "  No path matched the taxonomy"]
  else (discoveries.zipIdx).map fun (discovery, place) => discoveryLine color place discovery

/-- The names of the rounds that the element went through. -/
def roundNames (rounds : Rounds) : List String :=
  (if rounds.highway then ["highway"] else [])
  ++ (if rounds.subway then ["subway"] else [])
  ++ (if rounds.station then ["railway station"] else [])

/-- What is said when there is no type. -/
def noTypeLines (color : Bool) : List String :=
  [paint color .dim "  No types assigned",
    "",
    paint color .yellow "Possible reasons:",
    "  • No tag key is a top-level taxonomy category",
    "  • Every matched path is hidden (try --all-paths)",
    "  • The classifying tags were excluded (proposed, construction, =no)"]

/-- The types of the element, and which rounds and corrections led to them. -/
def typeLines (color : Bool) (taxonomy : Taxonomy) (outcome : Outcome) : List String :=
  if outcome.feature.types = [] then noTypeLines color
  else
    (outcome.feature.types.map fun code =>
      "  " ++ paint color .bold (paint color .green (taxonomy.readable code)) ++ " "
        ++ paint color .dim code.hex)
    ++ (if outcome.rounds.isEmpty then []
      else
        ["  " ++ paint color .dim "qualifier rounds:" ++ " "
          ++ paint color .cyan (", ".intercalate (roundNames outcome.rounds))])
    ++ (if outcome.addressFixup then
        ["  " ++ paint color .yellow "entrance replaced by address"]
      else [])

/-- The width of the labels of attributes. -/
def labelWidth : Nat := 14

/-- An attribute with its label. -/
def field (color : Bool) (label value : String) : String :=
  let padding := List.replicate (labelWidth - label.length) ' '
  "  " ++ paint color .blue (label ++ String.ofList padding) ++ " " ++ value

/-- The attributes of the element; those that every element has come last. -/
def attributeLines (color : Bool) (feature : Feature) : List String :=
  (feature.names.map fun (language, name) =>
    field color ("name:" ++ language) (paint color .bold name))
  ++ feature.houseNumber.toList.map (field color "house number")
  ++ feature.houseName.toList.map (field color "house name")
  ++ feature.street.toList.map (field color "street")
  ++ feature.flats.toList.map (field color "flats")
  ++ feature.reference.toList.map (field color "ref")
  ++ feature.city.toList.map (field color "subway city")
  ++ [field color "rank" (Nat.repr feature.rank),
      field color "layer" (toString feature.layer),
      field color "reversed"
        (if feature.reversed then paint color .yellow "yes" else paint color .dim "no")]

/-- The durations of the stages. -/
def timingLine (color : Bool) (timings : Timings) : String :=
  "  " ++ "  │  ".intercalate
    ["Total: " ++ paint color .green timings.total,
      "Names: " ++ paint color .dim timings.names,
      "Walk: " ++ paint color .cyan timings.walk,
      "Post-match: " ++ paint color .dim timings.conclusion,
      "Preprocess: " ++ paint color .dim timings.preparation]

/-- The lines of the report. -/
def lines (color : Bool) (taxonomy : Taxonomy) (element : Element) (outcome : Outcome)
    (timings : Timings) : List String :=
  header color element
  ++ title color "Walk" ++ walkLines color outcome.discoveries
  ++ title color "Types" ++ typeLines color taxonomy outcome
  ++ title color "Attributes" ++ attributeLines color outcome.feature
  ++ title color "Timing" ++ [timingLine color timings, ""]

end Report

end MapTypes.Command
