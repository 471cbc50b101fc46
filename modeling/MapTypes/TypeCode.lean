import MapTypes.Text.Numeral

/-!
Type codes. A place in a taxonomy, given by the ordinals of its nodes among their siblings from the
top down, is packed into one 32-bit word: four digits in base 256, the topmost most significant. A
digit holds the ordinal plus one, and zero marks an absent level. Codes of the places below a node
share the digits of that node, and the order of codes is the order of depth-first listing.

Words with an absent level above a present one have no place; their levels end at the gap.
-/

namespace MapTypes

/-- A type code. -/
structure TypeCode where
  raw : UInt32
  deriving DecidableEq, Repr, Inhabited

namespace TypeCode

/-- The number of levels that fit into a code. -/
def maxLevels : Nat := 4

/-- The largest ordinal that fits into a level. -/
def maxIndex : Nat := 254

/-- The code of no place at all. -/
def empty : TypeCode := ⟨0⟩

/-- Whether nothing is set. -/
def isEmpty (code : TypeCode) : Bool := code.raw == 0

/-- The value of a digit that has a number of digits below it. -/
def placeValue (below : Nat) : Nat := Nat.pow 256 below

/-- The digit of a level, counted from the top. -/
def digit (code : TypeCode) (level : Nat) : Nat :=
  code.raw.toNat / placeValue (maxLevels - 1 - level) % 256

/-- The ordinals of the levels above the first absent one. -/
def indices (code : TypeCode) : List Nat :=
  (((List.range maxLevels).map code.digit).takeWhile (· ≠ 0)).map (· - 1)

/-- The number of levels above the first absent one. -/
def depth (code : TypeCode) : Nat := code.indices.length

/-- The ordinal at a level. -/
def level? (code : TypeCode) (level : Nat) : Option Nat := code.indices[level]?

/-- Clears every level from the given one on. -/
def truncate (code : TypeCode) (levels : Nat) : TypeCode :=
  let unit := placeValue (maxLevels - levels)
  ⟨UInt32.ofNat (code.raw.toNat / unit * unit)⟩

/-- Codes are ordered as numbers. -/
instance : LT TypeCode := ⟨fun a b => a.raw < b.raw⟩

instance (a b : TypeCode) : Decidable (a < b) :=
  inferInstanceAs (Decidable (a.raw < b.raw))

/-- How two codes compare. -/
instance : Ord TypeCode := ⟨fun a b => compareOfLessAndEq a b⟩

/-- The word in hexadecimal. -/
def hex (code : TypeCode) : String :=
  "0x" ++ Text.paddedHex 8 code.raw.toNat

/-- The word and its levels, for a reader who looks for a fault. -/
def describe (code : TypeCode) : String :=
  "TypeCode(" ++ code.hex ++ " [" ++ ".".intercalate (code.indices.map Nat.repr) ++ "])"

/-- Why a level cannot be appended to a code. -/
inductive Fault where
  /-- All levels are taken. -/
  | full (code : TypeCode)
  /-- The ordinal is too large for a level. -/
  | unfit (index : Nat)
  deriving DecidableEq, Repr

/-- The text of a fault. -/
def Fault.message : Fault → String
  | full code =>
    "type code " ++ code.describe ++ " already holds " ++ Nat.repr maxLevels ++ " levels"
  | unfit index =>
    "sibling index " ++ Nat.repr index ++ " does not fit a type code level"

/-- Appends a level below the deepest one. -/
def push (code : TypeCode) (index : Nat) : Except Fault TypeCode :=
  if maxLevels ≤ code.depth then .error (.full code)
  else if maxIndex < index then .error (.unfit index)
  else
    .ok ⟨UInt32.ofNat
      (code.raw.toNat + (index + 1) * placeValue (maxLevels - 1 - code.depth))⟩

/-- Appends a level to the code at hand. Where that faults the code stays as it is. -/
def append (index : Nat) : ExceptT Fault (StateM TypeCode) Unit := do
  let longer ← MonadExcept.ofExcept ((← get).push index)
  set longer

/-- The code of a place, from the ordinals on the way to it. -/
def ofIndices (indices : List Nat) : Except Fault TypeCode :=
  indices.foldlM push empty

end TypeCode

end MapTypes
