import Mathlib.Tactic.Common
import MapTypes.Text.Numeral

/-!
Numbers in text, told by their form. A number is a sign or none and digits behind it, and the two
are told apart by the first character (`Sign.split_chars_append`). Bare integers have ASCII digits
of any length, whole numbers are those without a minus; what reads numbers into machine words
accepts exactly those of them that fit (`signed64?_eq_some_iff`, `unsigned64?_eq_some_iff`).
-/

namespace MapTypes.Text

/-! ## Signs -/

/-- What may stand before the digits of a number. -/
inductive Sign where
  | absent
  | plus
  | minus
  deriving DecidableEq, Repr

namespace Sign

/-- The characters of a sign. -/
def chars : Sign → List Char
  | absent => []
  | plus => ['+']
  | minus => ['-']

/-- The number with a sign and a magnitude. -/
def apply : Sign → Nat → Int
  | minus, magnitude => -(magnitude : Int)
  | _, magnitude => magnitude

/-- The sign that a text starts with, and what follows it. -/
def split : List Char → Sign × List Char
  | '-' :: rest => (minus, rest)
  | '+' :: rest => (plus, rest)
  | rest => (absent, rest)

theorem split_of_unsigned {text : List Char} (noMinus : ∀ rest, text ≠ '-' :: rest)
    (noPlus : ∀ rest, text ≠ '+' :: rest) : split text = (absent, text) := by
  rw [split]
  · exact noMinus
  · exact noPlus

/-- A text is made up of the sign it starts with and what follows. -/
theorem chars_append_split (text : List Char) :
    (split text).1.chars ++ (split text).2 = text := by
  rw [split.eq_def]
  split <;> rfl

/-- What starts with another character than a sign is told apart from the sign before it. -/
theorem split_chars_append (sign : Sign) {rest : List Char}
    (unsigned : ∀ c ∈ rest.head?, c ≠ '-' ∧ c ≠ '+') :
    split (sign.chars ++ rest) = (sign, rest) := by
  cases sign with
  | absent =>
    cases rest with
    | nil => rfl
    | cons c rest =>
      obtain ⟨noMinus, noPlus⟩ := unsigned c rfl
      exact split_of_unsigned (fun _ same => noMinus (List.head_eq_of_cons_eq same))
        fun _ same => noPlus (List.head_eq_of_cons_eq same)
  | plus => rfl
  | minus => rfl

theorem apply_inj (sign : Sign) {first second : Nat} :
    sign.apply first = sign.apply second ↔ first = second := by
  cases sign <;> simp only [apply] <;> omega

end Sign

/-! ## Digits -/

theorem digits?_eq_some_iff {text : List Char} {value : Nat} :
    digits? text = some value ↔
      text ≠ [] ∧ (∀ c ∈ text, c.isDigit = true) ∧ decimalValue text = value := by
  rw [digits?, Option.ite_none_right_eq_some, List.all_eq_true, Option.some.injEq, and_assoc]

theorem digits?_eq_none_iff {text : List Char} :
    digits? text = none ↔ text = [] ∨ ∃ c ∈ text, c.isDigit = false := by
  rw [digits?, ite_eq_right_iff]
  simp only [reduceCtorEq, imp_false, not_and_or, ne_eq, not_not, List.all_eq_true, not_forall,
    Bool.not_eq_true, exists_prop]

theorem ne_sign_of_isDigit {c : Char} (digit : c.isDigit = true) : c ≠ '-' ∧ c ≠ '+' := by
  constructor
  · rintro rfl
    exact absurd digit (by decide)
  · rintro rfl
    exact absurd digit (by decide)

/-! ## Bare integers -/

/-- A text is a bare integer: a sign or none, one or more ASCII digits and nothing else. -/
def BareInteger (text : String) (number : Int) : Prop :=
  ∃ (sign : Sign) (digits : List Char), text.toList = sign.chars ++ digits ∧ digits ≠ [] ∧
    (∀ c ∈ digits, c.isDigit = true) ∧ sign.apply (decimalValue digits) = number

/-- A number that a signed word of 64 bits can hold. -/
def FitsWord (number : Int) : Prop :=
  -signedLimit ≤ number ∧ number < signedLimit

instance (number : Int) : Decidable (FitsWord number) :=
  inferInstanceAs (Decidable (_ ∧ _))

/-- Bare integers are what has digits only behind its sign. -/
theorem bareInteger_iff {text : String} {number : Int} :
    BareInteger text number ↔
      (digits? (Sign.split text.toList).2).map (Sign.split text.toList).1.apply = some number := by
  simp only [Option.map_eq_some_iff, digits?_eq_some_iff]
  constructor
  · rintro ⟨sign, digits, parts, some, all, same⟩
    have apart : Sign.split text.toList = (sign, digits) := by
      rw [parts]
      exact sign.split_chars_append fun c first =>
        ne_sign_of_isDigit (all c (List.mem_of_mem_head? first))
    rw [apart]
    exact ⟨_, ⟨some, all, rfl⟩, same⟩
  · rintro ⟨_, ⟨some, all, rfl⟩, same⟩
    exact ⟨_, _, (Sign.chars_append_split text.toList).symm, some, all, same⟩

theorem signed64?_eq (text : String) :
    signed64? text =
      ((digits? (Sign.split text.toList).2).map (Sign.split text.toList).1.apply).filter
        (FitsWord ·) := by
  rw [signed64?]
  congr 1
  split
  · rename_i digits starts
    rw [starts, Sign.split]
    cases digits? digits <;> rfl
  · rename_i digits starts
    rw [starts, Sign.split]
    cases digits? digits <;> rfl
  · rename_i noMinus noPlus
    rw [Sign.split_of_unsigned noMinus noPlus]
    cases digits? text.toList <;> rfl

/-- Read into a signed word are the bare integers that fit. -/
theorem signed64?_eq_some_iff {text : String} {number : Int} :
    signed64? text = some number ↔ BareInteger text number ∧ FitsWord number := by
  rw [signed64?_eq, Option.filter_eq_some_iff, ← bareInteger_iff, decide_eq_true_eq]

/-- A text is one bare integer at most. -/
theorem BareInteger.unique {text : String} {first second : Int} (isFirst : BareInteger text first)
    (isSecond : BareInteger text second) : first = second := by
  rw [bareInteger_iff] at isFirst isSecond
  exact Option.some.inj (isFirst.symm.trans isSecond)

/-! ## Whole numbers -/

/-- A text is a whole number: a plus or none, one or more ASCII digits and nothing else. -/
def WholeNumber (text : List Char) (number : Nat) : Prop :=
  ∃ (sign : Sign) (digits : List Char), sign ≠ .minus ∧ text = sign.chars ++ digits ∧ digits ≠ [] ∧
    (∀ c ∈ digits, c.isDigit = true) ∧ decimalValue digits = number

/-- Whole numbers have digits only behind a plus or none. -/
theorem wholeNumber_iff {text : List Char} {number : Nat} :
    WholeNumber text number ↔
      (Sign.split text).1 ≠ .minus ∧ digits? (Sign.split text).2 = some number := by
  rw [digits?_eq_some_iff]
  constructor
  · rintro ⟨sign, digits, unsigned, rfl, some, all, same⟩
    rw [sign.split_chars_append fun c first =>
      ne_sign_of_isDigit (all c (List.mem_of_mem_head? first))]
    exact ⟨unsigned, some, all, same⟩
  · rintro ⟨unsigned, some, all, same⟩
    exact ⟨_, _, unsigned, (Sign.chars_append_split text).symm, some, all, same⟩

/-- Read into a word are the whole numbers that fit. -/
theorem unsigned64?_eq_some_iff {text : String} {number : Nat} :
    unsigned64? text = some number ↔ WholeNumber text.toList number ∧ number < wordSize := by
  rw [unsigned64?, Option.filter_eq_some_iff, decide_eq_true_eq, wholeNumber_iff]
  refine and_congr_left fun _ => ?_
  split
  · rename_i digits starts
    rw [starts, Sign.split]
    simp
  · rename_i noPlus
    by_cases minus : ∃ rest, text.toList = '-' :: rest
    · -- A minus is not a digit, so nothing is read where the text starts with one.
      obtain ⟨rest, starts⟩ := minus
      have none : digits? text.toList = Option.none :=
        digits?_eq_none_iff.mpr (.inr ⟨'-', by simp [starts], by decide⟩)
      rw [none, starts, Sign.split]
      simp
    · rw [Sign.split_of_unsigned (fun rest starts => minus ⟨rest, starts⟩) noPlus]
      simp

theorem unsigned64?_eq_none_iff {text : String} :
    unsigned64? text = none ↔ ∀ number, WholeNumber text.toList number → wordSize ≤ number := by
  rw [Option.eq_none_iff_forall_ne_some]
  refine forall_congr' fun number => ?_
  rw [ne_eq, unsigned64?_eq_some_iff, not_and, Nat.not_lt]

end MapTypes.Text
