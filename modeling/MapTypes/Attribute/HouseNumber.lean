import MapTypes.Text.Basic
import MapTypes.Unicode.CharacterClass

/-!
The shape of house numbers. A house number starts with a digit of any script and goes on with
letters, numbers and the separators usual in addresses; it is not long. What does not look like one
is taken for the name of a house.
-/

namespace MapTypes.HouseNumber

/-- The characters between the parts of a house number. -/
def separators : List Char :=
  [' ', '/', '.', ',', ';', '-']

/-- A character that may follow the first digit. -/
def isPart (c : Char) : Bool :=
  Unicode.isLetter c || Unicode.isNumber c || separators.contains c

/-- The most characters that may follow the first digit. -/
def maxParts : Nat := 23

/-- Whether a text, less the white space around it, is shaped like a house number. -/
def isValid (text : String) : Bool :=
  match (Text.trim text).toList with
  | [] => false
  | first :: parts => Unicode.isDecimalDigit first && parts.length ≤ maxParts && parts.all isPart

end MapTypes.HouseNumber
