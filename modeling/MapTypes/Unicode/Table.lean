import MapTypes.PartitionPoint

/-!
Character tables. They are written as lines of words, code points in hexadecimal, `first-last` for a
run of consecutive code points. A set of characters is kept as increasing runs, so that membership
is a binary search, and the large properties of the character database cost a handful of
comparisons.

The tables follow three versions of Unicode, because their readers do. Shapes of values are told by
the classes of Unicode 16 (`CharacterClass`), quoted text escapes by the properties of Unicode 17
(`GraphemeExtend`, `Unprintable`), and names are normalized as in Unicode 18 (`CombiningClass`,
`Composition`, `Decomposition`). So a character that came with a later version is no letter, number
or digit in a shape, though in a name it is normalized by its properties. One version for all would
change which values are accepted and how texts are shown.
-/

namespace MapTypes.Unicode

/-- The value of one hexadecimal digit written with a capital letter. -/
def hexDigitValue (digit : Char) : Nat :=
  if digit ≤ '9' then digit.toNat - '0'.toNat else digit.toNat - 'A'.toNat + 10

/-- The number a run of hexadecimal digits denotes. -/
def hexNumber (digits : List Char) : Nat :=
  digits.foldl (fun value digit => 16 * value + hexDigitValue digit) 0

/-- The words of a table, in the order of its lines. -/
def tableWords (lines : List String) : List (List Char) :=
  lines.flatMap fun line => line.toList.splitOnP (· == ' ')

/-- Consecutive code points from `first` to `last`, both included. -/
structure Interval where
  first : Nat
  last : Nat
  deriving Repr, DecidableEq, Inhabited

namespace Interval

/-- Whether the interval holds a code point. -/
def contains (run : Interval) (code : Nat) : Bool :=
  run.first ≤ code && code ≤ run.last

/-- Reads `first-last`, or a single code point. -/
def ofWord (word : List Char) : Interval :=
  match word.splitOnP (· == '-') with
  | [single] => ⟨hexNumber single, hexNumber single⟩
  | first :: last :: _ => ⟨hexNumber first, hexNumber last⟩
  | [] => ⟨0, 0⟩

end Interval

/-- A set of code points: disjoint intervals in increasing order. -/
structure CodePointSet where
  runs : Array Interval
  deriving Repr, Inhabited

namespace CodePointSet

/-- The set that the lines of a table list. -/
def ofLines (lines : List String) : CodePointSet :=
  ⟨((tableWords lines).map Interval.ofWord).toArray⟩

/-- Membership: only the last run that starts at or before the character can hold it. -/
def contains (set : CodePointSet) (c : Char) : Bool :=
  let after := partitionPoint
    (fun i => match set.runs[i]? with
      | some run => run.first ≤ c.toNat
      | none => false)
    0 set.runs.size
  match set.runs[after - 1]? with
  | some run => run.contains c.toNat
  | none => false

end CodePointSet

end MapTypes.Unicode
