import MapTypes.Text.Basic
import MapTypes.Text.Numeral

/-!
Population ranks. Places are ranked on a logarithmic scale of base 1.1: the rank of a population is
the largest exponent whose power does not exceed it. The comparison is exact, in whole numbers.
-/

namespace MapTypes.Population

/-- The largest rank. -/
def maxRank : Nat := 255

/-- Whether a population reaches a rank, `1.1 ^ rank ≤ population`. -/
def reaches (population rank : Nat) : Bool :=
  Nat.pow 11 rank ≤ population * Nat.pow 10 rank

/-- The rank of a population: how many of the ranks from one on it reaches. -/
def rank (population : Nat) : Nat :=
  ((List.range' 1 maxRank).takeWhile (reaches population)).length

/-- The rank of a population written as a number; none when it is not one. -/
def rankOfText? (text : String) : Option Nat :=
  (Text.unsigned64? (Text.trim text)).map rank

end MapTypes.Population
