/-!
Hangul syllables. A syllable is a leading consonant, a vowel and perhaps a trailing consonant; the
character database numbers the syllables so that arithmetic takes them apart and puts them together.
-/

namespace MapTypes.Unicode.Hangul

/-- The first syllable. -/
def syllableBase : Nat := 0xAC00

/-- The first leading consonant, of `leadCount`. -/
def leadBase : Nat := 0x1100

/-- The first vowel, of `vowelCount`. -/
def vowelBase : Nat := 0x1161

/-- One before the first trailing consonant, so that offset zero stands for its absence. -/
def tailBase : Nat := 0x11A7

/-- The number of leading consonants. -/
def leadCount : Nat := 19

/-- The number of vowels. -/
def vowelCount : Nat := 21

/-- The number of trailing consonants and their absence. -/
def tailCount : Nat := 28

/-- The number of syllables. -/
def syllableCount : Nat := leadCount * vowelCount * tailCount

/-- A syllable taken apart into its letters; `none` for any other character. -/
def decompose? (c : Char) : Option (List Char) :=
  if syllableBase ≤ c.toNat ∧ c.toNat < syllableBase + syllableCount then
    let place := c.toNat - syllableBase
    let lead := Char.ofNat (leadBase + place / (vowelCount * tailCount))
    let vowel := Char.ofNat (vowelBase + place / tailCount % vowelCount)
    if place % tailCount = 0 then some [lead, vowel]
    else some [lead, vowel, Char.ofNat (tailBase + place % tailCount)]
  else none

/-- The syllable of a leading consonant and a vowel, or of an open syllable and a trailing
consonant. -/
def compose? (first second : Char) : Option Char :=
  let a := first.toNat
  let b := second.toNat
  if leadBase ≤ a ∧ a < leadBase + leadCount ∧ vowelBase ≤ b ∧ b < vowelBase + vowelCount then
    some (Char.ofNat
      (syllableBase + ((a - leadBase) * vowelCount + (b - vowelBase)) * tailCount))
  else if syllableBase ≤ a ∧ a < syllableBase + syllableCount ∧ (a - syllableBase) % tailCount = 0
      ∧ tailBase < b ∧ b < tailBase + tailCount then
    some (Char.ofNat (a + (b - tailBase)))
  else none

end MapTypes.Unicode.Hangul
