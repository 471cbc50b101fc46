import MapTypes.Unicode.CharacterClass

/-!
Parts of a text: what occurs in it, the white space around it, and its lines. A line ends with a
line feed, or with a carriage return and a line feed; the last line may lack its end.
-/

namespace MapTypes.Text

/-- Whether the characters of a pattern stand together somewhere in a text. -/
def occursIn (pattern : List Char) : List Char → Bool
  | [] => pattern.isEmpty
  | c :: rest => pattern.isPrefixOf (c :: rest) || occursIn pattern rest

/-- A text without white space at its start and its end. -/
def trim (text : String) : String :=
  let opened := text.toList.dropWhile Unicode.isWhiteSpace
  String.ofList (opened.reverse.dropWhile Unicode.isWhiteSpace).reverse

/-- A text of white space only. -/
def isBlank (text : String) : Bool :=
  text.toList.all Unicode.isWhiteSpace

/-- A line without the carriage return at its end. -/
def dropReturn (line : List Char) : List Char :=
  if line.getLast? = some '\r' then line.dropLast else line

/-- The lines of a text without their ends. A carriage return is part of an end only before a line
feed. -/
def lines (text : String) : List String :=
  let parts := text.toList.splitOnP (· == '\n')
  let ended := parts.dropLast.map dropReturn
  let unended := parts.getLast?.toList.filter (· ≠ [])
  (ended ++ unended).map String.ofList

end MapTypes.Text
