import Mathlib.Analysis.SpecialFunctions.Log.Base
import Mathlib.Data.List.DropRight
import MapTypes.Attribute.Population
import MapTypes.Proofs.Numerals

/-!
Population ranks as logarithms. A power of 1.1 does not exceed a population just when its exponent
does not exceed the logarithm (`reaches_iff_le_logarithm`), so counting the ranks that a population
reaches gives the whole part of the logarithm, up to the largest rank (`rank_eq_min`). Which texts
have a rank is told by their form: a whole number that fits a word, between white space
(`denotes_iff`).
-/

namespace MapTypes

/-! ## Trimming -/

namespace Text

open Unicode (isWhiteSpace)

/-- A text is another one between two stretches of white space. -/
def Surrounds (text core : List Char) : Prop :=
  ∃ before after, text = before ++ (core ++ after) ∧ (∀ c ∈ before, isWhiteSpace c = true) ∧
    ∀ c ∈ after, isWhiteSpace c = true

theorem toList_trim (text : String) :
    (trim text).toList = (text.toList.dropWhile isWhiteSpace).rdropWhile isWhiteSpace := by
  rw [trim, String.toList_ofList]
  rfl

/-- What trimming takes away is white space. -/
theorem surrounds_trim (text : String) : Surrounds text.toList (trim text).toList := by
  rw [toList_trim]
  refine ⟨text.toList.takeWhile isWhiteSpace,
    (text.toList.dropWhile isWhiteSpace).rtakeWhile isWhiteSpace, ?_,
    fun c member => List.mem_takeWhile_imp member, fun c member => List.mem_rtakeWhile_imp member⟩
  rw [List.rdropWhile_append_rtakeWhile, List.takeWhile_append_dropWhile]

/-- Trimming takes away all that surrounds a text without white space. -/
theorem Surrounds.trim_eq {text : String} {core : List Char}
    (surrounds : Surrounds text.toList core) (visible : ∀ c ∈ core, isWhiteSpace c = false) :
    (trim text).toList = core := by
  obtain ⟨before, after, parts, blankBefore, blankAfter⟩ := surrounds
  rw [toList_trim, parts, List.dropWhile_append_of_pos blankBefore]
  cases core with
  | nil => simp [List.dropWhile_eq_nil_iff.mpr blankAfter]
  | cons c rest =>
    have closed : (c :: rest).rdropWhile isWhiteSpace = c :: rest := by
      rw [List.rdropWhile_eq_self_iff]
      intro nonempty
      simp [visible]
    rw [List.cons_append, List.dropWhile_cons_of_neg (by simp [visible]), ← List.cons_append,
      List.rdropWhile, List.reverse_append,
      List.dropWhile_append_of_pos (by simpa using blankAfter)]
    exact closed

/-- No digit of ASCII is white space. -/
theorem isWhiteSpace_of_isDigit {c : Char} (digit : c.isDigit = true) : isWhiteSpace c = false := by
  obtain ⟨low, high⟩ : 48 ≤ c.toNat ∧ c.toNat ≤ 57 := Char.isDigit_iff_toNat.mp digit
  simp [isWhiteSpace, Unicode.whiteSpaceRuns, Unicode.Interval.contains]
  omega

theorem WholeNumber.visible {text : List Char} {number : Nat} (whole : WholeNumber text number) :
    ∀ c ∈ text, isWhiteSpace c = false := by
  obtain ⟨sign, digits, unsigned, rfl, -, all, -⟩ := whole
  intro c member
  rcases List.mem_append.mp member with inSign | inDigits
  · cases sign with
    | absent => cases inSign
    | plus =>
      rw [List.mem_singleton.mp inSign]
      decide
    | minus => exact absurd rfl unsigned
  · exact isWhiteSpace_of_isDigit (all c inDigits)

end Text

namespace Population

open Text (Surrounds WholeNumber trim)

/-! ## Texts that denote a population -/

/-- A text denotes a population: between white space it is a whole number, and this takes no more
than the 64 bits of a word. -/
def Denotes (text : String) (population : Nat) : Prop :=
  ∃ core, Surrounds text.toList core ∧ WholeNumber core population ∧ population < 2 ^ 64

theorem denotes_iff {text : String} {population : Nat} :
    Denotes text population ↔ Text.unsigned64? (trim text) = some population := by
  rw [Text.unsigned64?_eq_some_iff]
  constructor
  · rintro ⟨core, surrounds, whole, fits⟩
    rw [surrounds.trim_eq whole.visible]
    exact ⟨whole, fits⟩
  · rintro ⟨whole, fits⟩
    exact ⟨_, Text.surrounds_trim text, whole, fits⟩

theorem rankOfText?_of_denotes {text : String} {population : Nat}
    (denotes : Denotes text population) : rankOfText? text = some (rank population) := by
  rw [rankOfText?, denotes_iff.mp denotes]
  rfl

theorem rankOfText?_eq_none_iff {text : String} :
    rankOfText? text = none ↔ ¬ ∃ population, Denotes text population := by
  rw [rankOfText?, Option.map_eq_none_iff, Option.eq_none_iff_forall_ne_some]
  simp only [denotes_iff, not_exists, ne_eq]

/-! ## Ranks -/

/-- The logarithm of a population to the base 1.1. -/
noncomputable def logarithm (population : Nat) : ℝ :=
  Real.log population / Real.log 1.1

theorem reaches_iff {population rank : Nat} :
    reaches population rank = true ↔ 11 ^ rank ≤ population * 10 ^ rank := by
  rw [reaches, decide_eq_true_eq]
  rfl

/-- A population reaches just those ranks that its logarithm reaches. -/
theorem reaches_iff_le_logarithm {population rank : Nat} (positive : 0 < population) :
    reaches population rank = true ↔ (rank : ℝ) ≤ logarithm population := by
  have power : (11 : ℝ) ^ rank = 1.1 ^ rank * 10 ^ rank := by
    rw [← mul_pow]
    norm_num
  rw [logarithm, Real.log_div_log,
    Real.le_logb_iff_rpow_le (by norm_num) (by exact_mod_cast positive), Real.rpow_natCast,
    reaches_iff, ← Nat.cast_le (α := ℝ)]
  push_cast
  rw [power, mul_le_mul_iff_left₀ (by positivity)]

theorem logarithm_nonneg (population : Nat) : 0 ≤ logarithm population :=
  div_nonneg (Real.log_natCast_nonneg population) (Real.log_nonneg (by norm_num))

theorem logarithm_mono {first second : Nat} (positive : 0 < first) (le : first ≤ second) :
    logarithm first ≤ logarithm second := by
  refine div_le_div_of_nonneg_right (Real.log_le_log ?_ ?_) (Real.log_nonneg (by norm_num))
  · exact_mod_cast positive
  · exact_mod_cast le

/-- The whole part of the logarithm is the greatest exponent whose power does not exceed the
population. -/
theorem isGreatest_floor_logarithm {population : Nat} (positive : 0 < population) :
    IsGreatest {exponent | 11 ^ exponent ≤ population * 10 ^ exponent} ⌊logarithm population⌋₊ := by
  constructor
  · exact reaches_iff.mp
      ((reaches_iff_le_logarithm positive).mpr (Nat.floor_le (logarithm_nonneg population)))
  · intro exponent reached
    exact Nat.le_floor ((reaches_iff_le_logarithm positive).mp (reaches_iff.mpr reached))

/-- What holds up to a bound holds of that many numbers from one on. -/
theorem length_takeWhile_range' {holds : Nat → Bool} {bound : Nat}
    (upTo : ∀ number, holds number = true ↔ number ≤ bound) (count : Nat) :
    ((List.range' 1 count).takeWhile holds).length = min count bound := by
  have within {first : Nat} (most : first ≤ bound) :
      ∀ number ∈ List.range' 1 first, holds number = true := by
    intro number member
    have range := List.mem_range'_1.mp member
    exact (upTo number).mpr (by omega)
  rcases Nat.le_total count bound with all | some
  · rw [List.takeWhile_eq_self_iff.mpr (within all), List.length_range', Nat.min_eq_left all]
  · obtain ⟨more, rfl⟩ := Nat.exists_eq_add_of_le some
    have beyond : (List.range' (1 + 1 * bound) more).takeWhile holds = [] := by
      cases more with
      | zero => rfl
      | succ more =>
        refine List.takeWhile_cons_of_neg fun held => ?_
        have := (upTo _).mp held
        omega
    rw [← List.range'_append, List.takeWhile_append_of_pos (within le_rfl), beyond,
      List.append_nil, List.length_range', Nat.min_eq_right some]

theorem rank_eq_min {population : Nat} (positive : 0 < population) :
    rank population = min maxRank ⌊logarithm population⌋₊ := by
  refine length_takeWhile_range' (fun number => ?_) maxRank
  rw [reaches_iff_le_logarithm positive, Nat.le_floor_iff (logarithm_nonneg population)]

theorem rank_zero : rank 0 = 0 := by
  decide

theorem rank_mono : Monotone rank := by
  intro first second le
  rcases Nat.eq_zero_or_pos first with rfl | positive
  · rw [rank_zero]
    exact Nat.zero_le _
  · rw [rank_eq_min positive, rank_eq_min (positive.trans_le le)]
    exact min_le_min_left maxRank (Nat.floor_mono (logarithm_mono positive le))

/-- Any number with the whole part of the logarithm gives the rank, when it is cut off at the
ranks there are and rounded down. -/
theorem floor_clamp_eq_rank {population : Nat} (positive : 0 < population) {quotient : ℝ}
    (close : ⌊quotient⌋ = ⌊logarithm population⌋) :
    ⌊max 0 (min quotient 255)⌋₊ = rank population := by
  have whole : ⌊quotient⌋₊ = ⌊logarithm population⌋₊ := by
    rw [← Int.floor_toNat, close, Int.floor_toNat]
  rw [Nat.floor_mono.map_max, Nat.floor_mono.map_min, Nat.floor_zero, Nat.floor_ofNat, whole,
    rank_eq_min positive, Nat.zero_max, min_comm]
  rfl

/-- Just those texts have a rank that denote a population. It is zero for nobody; else it is the
greatest exponent for which a power of 1.1 does not exceed the population, which is the whole part
of the logarithm, cut off at the largest rank. A quotient of logarithms that is less exact gives the
same rank as long as it has this whole part. So larger populations have no smaller ranks. -/
theorem ranked_by_logarithm :
    (∀ text, rankOfText? text = none ↔ ¬ ∃ population, Denotes text population) ∧
    (∀ text population, Denotes text population → rankOfText? text = some (rank population)) ∧
    rank 0 = 0 ∧
    (∀ population : Nat, 0 < population → ∃ exponent,
      IsGreatest {exponent | 11 ^ exponent ≤ population * 10 ^ exponent} exponent ∧
      exponent = ⌊Real.log population / Real.log 1.1⌋₊ ∧
      rank population = min 255 exponent ∧
      ∀ quotient : ℝ, ⌊quotient⌋ = ⌊Real.log population / Real.log 1.1⌋ →
        ⌊max 0 (min quotient 255)⌋₊ = rank population) ∧
    Monotone rank := by
  refine ⟨fun _ => rankOfText?_eq_none_iff, fun _ _ => rankOfText?_of_denotes, rank_zero, ?_,
    rank_mono⟩
  intro population positive
  refine ⟨⌊logarithm population⌋₊, isGreatest_floor_logarithm positive, rfl, rank_eq_min positive,
    fun quotient close => ?_⟩
  exact floor_clamp_eq_rank positive close

/-- White space around the number does not count, and 1.1 ^ 7 is the last power up to 2. -/
example : rankOfText? " +2\n" = some 7 := by
  decide

end Population

end MapTypes
