import Mathlib.Data.List.Basic
import Mathlib.Data.List.TakeWhile
import MapTypes.Attribute.Layer
import MapTypes.Proofs.Numerals

/-!
Layers and the integers that texts start with. What `Layer.ofText` looks at is told by the form of
the text alone: white space, a sign and a run of decimal digits (`startsWith_iff`). Its digits may
be of any script, but only those of ASCII are counted out; a run with any other is taken for one
beyond the bound. So the layer is the integer at the start, cut off at the bound, just where the run
is all ASCII or denotes a number that reaches the bound (`layer_of_leading_integer`).
-/

namespace MapTypes

/-! ## Digits -/

namespace Unicode

/-- No white space is a digit. -/
theorem isDecimalDigit_of_isWhiteSpace {c : Char} (blank : isWhiteSpace c = true) :
    isDecimalDigit c = false := by
  have none : ∀ run ∈ whiteSpaceRuns, ∀ code ∈ List.range' run.first (run.last + 1 - run.first),
      isDecimalDigit (Char.ofNat code) = false := by decide +kernel
  rw [isWhiteSpace, List.any_eq_true] at blank
  obtain ⟨run, member, inside⟩ := blank
  rw [Interval.contains, Bool.and_eq_true, decide_eq_true_eq, decide_eq_true_eq] at inside
  have listed : c.toNat ∈ List.range' run.first (run.last + 1 - run.first) := by
    rw [List.mem_range'_1]
    omega
  have apart := none run member c.toNat listed
  rwa [Char.ofNat_toNat] at apart

/-- ASCII digits count as they do in numbers. -/
theorem decimalNumber_of_isDigit {digits : List Char} (ascii : ∀ c ∈ digits, c.isDigit = true) :
    decimalNumber digits = Text.decimalValue digits := by
  rw [decimalNumber, Text.decimalValue]
  refine List.foldl_ext _ _ 0 fun value digit member => ?_
  have low : digit.toNat < 0x80 :=
    Nat.lt_of_le_of_lt (Char.isDigit_iff_toNat.mp (ascii digit member)).2 (by decide)
  rw [decimalDigitValue, if_pos low]

end Unicode

/-! ## Texts that start with an integer -/

namespace Layer

open Unicode (isDecimalDigit isWhiteSpace decimalNumber)
open Text (Sign)

/-- A text starts with an integer: white space or none, a sign or none, and one or more decimal
digits which the next character, if there is one, does not go on with. -/
def StartsWith (text : String) (sign : Sign) (digits : List Char) : Prop :=
  ∃ blanks rest, text.toList = blanks ++ (sign.chars ++ (digits ++ rest)) ∧
    (∀ c ∈ blanks, isWhiteSpace c = true) ∧ digits ≠ [] ∧
    (∀ c ∈ digits, isDecimalDigit c = true) ∧ ∀ c ∈ rest.head?, isDecimalDigit c = false

/-- The sign behind the white space at the start of a text, and what follows it. -/
def opening (text : String) : Sign × List Char :=
  Sign.split (text.toList.dropWhile isWhiteSpace)

theorem ofText_eq (text : String) :
    ofText text = ofDigits ((opening text).1 == .minus) (opening text).2 := by
  rw [ofText, opening]
  split
  · rename_i rest starts
    rw [starts]
    rfl
  · rename_i rest starts
    rw [starts]
    rfl
  · rename_i noPlus noMinus
    rw [Sign.split_of_unsigned noMinus noPlus]
    rfl

theorem ne_sign_of_isDecimalDigit {c : Char} (digit : isDecimalDigit c = true) :
    c ≠ '-' ∧ c ≠ '+' := by
  constructor
  · rintro rfl
    exact absurd digit (by decide)
  · rintro rfl
    exact absurd digit (by decide)

/-- Neither signs nor digits are white space. -/
theorem not_isWhiteSpace_head (sign : Sign) {digits rest : List Char} (some : digits ≠ [])
    (all : ∀ c ∈ digits, isDecimalDigit c = true) :
    (sign.chars ++ (digits ++ rest)).dropWhile isWhiteSpace = sign.chars ++ (digits ++ rest) := by
  obtain ⟨first, others, rfl⟩ := List.exists_cons_of_ne_nil some
  have visible : ¬ isWhiteSpace first = true := by
    intro blank
    have noDigit := Unicode.isDecimalDigit_of_isWhiteSpace blank
    rw [all first List.mem_cons_self] at noDigit
    cases noDigit
  cases sign with
  | absent => exact List.dropWhile_cons_of_neg visible
  | plus => exact List.dropWhile_cons_of_neg (by decide)
  | minus => exact List.dropWhile_cons_of_neg (by decide)

/-- What a layer is read from is the integer that the text starts with. -/
theorem startsWith_iff {text : String} {sign : Sign} {digits : List Char} :
    StartsWith text sign digits ↔
      (opening text).1 = sign ∧ (opening text).2.takeWhile isDecimalDigit = digits ∧
        digits ≠ [] := by
  constructor
  · rintro ⟨blanks, rest, parts, blank, some, all, maximal⟩
    have opened : opening text = (sign, digits ++ rest) := by
      rw [opening, parts, List.dropWhile_append_of_pos blank, not_isWhiteSpace_head sign some all]
      refine sign.split_chars_append fun c first => ne_sign_of_isDecimalDigit (all c ?_)
      rw [List.head?_append_of_ne_nil _ some] at first
      exact List.mem_of_mem_head? first
    have ended : rest.takeWhile isDecimalDigit = [] := by
      cases rest with
      | nil => rfl
      | cons c rest => exact List.takeWhile_cons_of_neg (by simp [maximal c rfl])
    rw [opened]
    refine ⟨rfl, ?_, some⟩
    rw [List.takeWhile_append_of_pos all, ended, List.append_nil]
  · rintro ⟨rfl, rfl, some⟩
    refine ⟨text.toList.takeWhile isWhiteSpace, (opening text).2.dropWhile isDecimalDigit, ?_,
      fun c member => List.mem_takeWhile_imp member, some,
      fun c member => List.mem_takeWhile_imp member, ?_⟩
    · rw [List.takeWhile_append_dropWhile, opening, Sign.chars_append_split,
        List.takeWhile_append_dropWhile]
    · intro c first
      have stops := List.head?_dropWhile_not isDecimalDigit (opening text).2
      rw [Option.mem_def.mp first] at stops
      simpa using stops

/-! ## Layers -/

/-- The layer next to a number. -/
def clamp (number : Int) : Int :=
  max (-(bound : Int)) (min number bound)

theorem clamp_apply (sign : Sign) (magnitude : Nat) :
    clamp (sign.apply magnitude) = sign.apply (min magnitude bound) := by
  cases sign <;> simp only [clamp, Sign.apply, bound] <;> omega

theorem magnitude_of_ascii {digits : List Char} (some : digits ≠ [])
    (ascii : ∀ c ∈ digits, c.isDigit = true) :
    magnitude digits = min (decimalNumber digits) bound := by
  rw [magnitude, Text.digits?_eq_some_iff.mpr ⟨some, ascii, rfl⟩,
    Unicode.decimalNumber_of_isDigit ascii]

theorem magnitude_of_foreign {digits : List Char} (foreign : ∃ c ∈ digits, c.isDigit = false) :
    magnitude digits = bound := by
  rw [magnitude, Text.digits?_eq_none_iff.mpr (.inr foreign)]

theorem ofText_of_startsWith {text : String} {sign : Sign} {digits : List Char}
    (starts : StartsWith text sign digits) : ofText text = sign.apply (magnitude digits) := by
  obtain ⟨rfl, rfl, some⟩ := startsWith_iff.mp starts
  rw [ofText_eq, ofDigits, if_neg some]
  cases (opening text).1 <;> rfl

theorem ofText_of_not_startsWith {text : String}
    (none : ∀ sign digits, ¬ StartsWith text sign digits) : ofText text = 0 := by
  have empty : (opening text).2.takeWhile isDecimalDigit = [] := by
    by_contra some
    exact none _ _ (startsWith_iff.mpr ⟨rfl, rfl, some⟩)
  rw [ofText_eq, ofDigits, if_pos empty]

/-- The layer of a text that starts with an integer is this integer, cut off at the bound, just
where its digits are all of ASCII or it reaches the bound; digits of any other script among them put
the layer at the bound, whatever they denote. A text that starts with no integer is on the
ground. -/
theorem layer_of_leading_integer (text : String) :
    (∀ sign digits, StartsWith text sign digits →
      (ofText text = clamp (sign.apply (decimalNumber digits)) ↔
        (∀ c ∈ digits, c.isDigit = true) ∨ bound ≤ decimalNumber digits) ∧
      ((∃ c ∈ digits, c.isDigit = false) → ofText text = sign.apply bound)) ∧
    ((∀ sign digits, ¬ StartsWith text sign digits) → ofText text = 0) := by
  refine ⟨fun sign digits starts => ?_, ofText_of_not_startsWith⟩
  have some : digits ≠ [] := (startsWith_iff.mp starts).2.2
  rw [ofText_of_startsWith starts, clamp_apply]
  refine ⟨?_, fun foreign => by rw [magnitude_of_foreign foreign]⟩
  by_cases ascii : ∀ c ∈ digits, c.isDigit = true
  · rw [magnitude_of_ascii some ascii]
    exact iff_of_true rfl (.inl ascii)
  · have foreign : ∃ c ∈ digits, c.isDigit = false := by simpa using ascii
    rw [magnitude_of_foreign foreign, sign.apply_inj, or_iff_right ascii]
    omega

/-- One, written in the digits of another script, is put at the bound. -/
theorem layer_of_arabic_one :
    StartsWith "١" .absent ['١'] ∧ clamp (Sign.absent.apply (decimalNumber ['١'])) = 1 ∧
      ofText "١" = 10 := by
  have digit : isDecimalDigit '١' = true ∧ Unicode.decimalDigitValue '١' = 1 := by decide +kernel
  have starts : StartsWith "١" .absent ['١'] :=
    ⟨[], [], rfl, by simp, by simp, by simpa using digit.1, by simp⟩
  refine ⟨starts, ?_, ?_⟩
  · rw [decimalNumber, List.foldl_cons, digit.2]
    rfl
  · rw [ofText_of_startsWith starts, magnitude_of_foreign ⟨'١', List.mem_cons_self, by decide⟩]
    rfl

end Layer

end MapTypes
