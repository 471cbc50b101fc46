import Mathlib.Data.List.TakeWhile
import MapTypes.Proofs.CodeDigits

/-!
Prefixes and order of type codes. A code is its digits: truncation clears those from a level on and
leaves the ones above. For codes that were packed from ordinals this means that truncation keeps a
prefix of the ordinals, and that codes compare as their lists of ordinals do. Any other code has a
gap, an absent level above a present one; packing the levels above the gap gives the code without
what lies below the gap.
-/

namespace MapTypes

namespace TypeCode

variable {code other : TypeCode} {indices others : List Nat} {level : Nat}

/-! ## Digits -/

theorem digit_lt (code : TypeCode) (level : Nat) : code.digit level < 256 :=
  Nat.mod_lt _ (by decide)

theorem eq_of_raw_eq (same : code.raw.toNat = other.raw.toNat) : code = other := by
  obtain ⟨raw⟩ := code
  obtain ⟨rawOther⟩ := other
  exact congrArg TypeCode.mk (UInt32.toNat_inj.mp same)

/-- A code is its digits. -/
theorem eq_of_digit_eq (same : ∀ level < maxLevels, code.digit level = other.digit level) :
    code = other := by
  have top := same 0 (by decide)
  have upper := same 1 (by decide)
  have lower := same 2 (by decide)
  have bottom := same 3 (by decide)
  have bound := code.raw.toNat_lt
  have boundOther := other.raw.toNat_lt
  simp only [digit, placeValue, maxLevels, Nat.pow_eq] at top upper lower bottom
  apply eq_of_raw_eq
  omega

/-- Truncation keeps the digits above the levels that it clears. -/
theorem digit_truncate (code : TypeCode) (levels : Nat) (inside : level < maxLevels) :
    (code.truncate levels).digit level = if level < levels then code.digit level else 0 := by
  have kept : code.raw.toNat / placeValue (maxLevels - levels) * placeValue (maxLevels - levels) <
      UInt32.size := Nat.lt_of_le_of_lt (Nat.div_mul_le_self ..) code.raw.toNat_lt
  simp only [digit, truncate, UInt32.toNat_ofNat_of_lt' kept]
  by_cases above : level < levels
  · -- The unit of truncation divides the place value of the digit.
    have split : maxLevels - 1 - level =
        (maxLevels - levels) + (maxLevels - 1 - level - (maxLevels - levels)) := by omega
    rw [if_pos above, split, placeValue_add, ← Nat.div_div_eq_div_mul,
      Nat.mul_div_cancel _ (placeValue_pos _), Nat.div_div_eq_div_mul]
  · -- The place value of the next digit divides the unit of truncation.
    have split : maxLevels - levels =
        (maxLevels - levels - (maxLevels - level)) + (1 + (maxLevels - 1 - level)) := by omega
    rw [if_neg above]
    generalize code.raw.toNat / placeValue (maxLevels - levels) = quotient
    rw [split, placeValue_add, placeValue_add 1, ← Nat.mul_assoc, ← Nat.mul_assoc,
      Nat.mul_div_cancel _ (placeValue_pos _)]
    exact Nat.mul_mod_left _ 256

/-! ## Depth -/

/-- The levels of a code end at its first digit that is zero. -/
theorem depth_eq_findIdx (code : TypeCode) :
    code.depth =
      ((List.range maxLevels).map code.digit).findIdx (fun digit => !decide (digit ≠ 0)) := by
  rw [depth, indices, List.length_map, List.takeWhile_eq_take_findIdx_not, List.length_take]
  exact Nat.min_eq_left List.findIdx_le_length

theorem depth_le (code : TypeCode) : code.depth ≤ maxLevels := by
  rw [depth_eq_findIdx]
  exact List.findIdx_le_length.trans_eq (by rw [List.length_map, List.length_range])

theorem digit_ne_zero (above : level < code.depth) : code.digit level ≠ 0 := by
  rw [depth_eq_findIdx] at above
  simpa using List.not_of_lt_findIdx above

theorem digit_depth (shallow : code.depth < maxLevels) : code.digit code.depth = 0 := by
  have inside : ((List.range maxLevels).map code.digit).findIdx (fun digit => !decide (digit ≠ 0)) <
      ((List.range maxLevels).map code.digit).length := by
    rw [← depth_eq_findIdx, List.length_map, List.length_range]
    exact shallow
  have found := List.findIdx_getElem (w := inside)
  simp only [← depth_eq_findIdx, List.getElem_map, List.getElem_range] at found
  simpa using found

theorem getElem?_indices (above : level < code.depth) :
    code.indices[level]? = some (code.digit level - 1) := by
  have inside : level < maxLevels := Nat.lt_of_lt_of_le above code.depth_le
  rw [depth_eq_findIdx] at above
  rw [indices, List.getElem?_map, List.takeWhile_eq_take_findIdx_not,
    List.getElem?_take_of_lt above, List.getElem?_map, List.getElem?_range inside]
  rfl

/-- The levels of any code fit into a code. -/
theorem fit_indices (code : TypeCode) : Fit code.indices where
  length_le := code.depth_le
  le_maxIndex index member := by
    obtain ⟨level, found⟩ := List.mem_iff_getElem?.mp member
    have above : level < code.depth := (List.getElem?_eq_some_iff.mp found).1
    rw [getElem?_indices above, Option.some.injEq] at found
    have bound := code.digit_lt level
    rw [maxIndex]
    omega

/-! ## Packed codes -/

theorem indices_of_packed (packed : ofIndices indices = .ok code) : code.indices = indices := by
  obtain ⟨fit, held⟩ := ofIndices_eq_ok_iff.mp packed
  exact indices_of_word fit held

/-- No two lists of ordinals have one code. -/
theorem packed_inj (packed : ofIndices indices = .ok code)
    (packedOther : ofIndices others = .ok code) : indices = others := by
  rw [← indices_of_packed packed, indices_of_packed packedOther]

/-- A digit of a packed code is an ordinal plus one, and zero past the last ordinal. -/
theorem digit_of_packed (packed : ofIndices indices = .ok code) (inside : level < maxLevels) :
    code.digit level = (indices[level]?.map (· + 1)).getD 0 := by
  obtain ⟨fit, held⟩ := ofIndices_eq_ok_iff.mp packed
  have digits := congrArg (·[level]?) (digits_of_word fit held)
  simp only [List.getElem?_map, List.getElem?_range inside, Option.map_some] at digits
  rw [← Option.some.injEq, digits]
  by_cases present : level < indices.length
  · rw [List.getElem?_append_left (by rwa [List.length_map]), List.getElem?_map,
      List.getElem?_eq_getElem present]
    rfl
  · have beyond : indices.length ≤ level := Nat.not_lt.mp present
    rw [List.getElem?_append_right (by rwa [List.length_map]), List.getElem?_eq_none beyond,
      List.getElem?_replicate, List.length_map, if_pos (by omega)]
    rfl

theorem Fit.take (fit : Fit indices) (levels : Nat) : Fit (indices.take levels) := by
  rw [← List.take_append_drop levels indices] at fit
  exact fit.of_append

/-- Truncation of a packed code keeps a prefix of its ordinals. -/
theorem packed_take (packed : ofIndices indices = .ok code) (levels : Nat) :
    ofIndices (indices.take levels) = .ok (code.truncate levels) := by
  have fit := (ofIndices_eq_ok_iff.mp packed).1
  obtain ⟨shorter, packedShorter, _⟩ := ofIndices_of_fit (fit.take levels)
  have same : shorter = code.truncate levels := by
    apply eq_of_digit_eq
    intro level inside
    rw [digit_truncate code levels inside, digit_of_packed packedShorter inside,
      digit_of_packed packed inside, List.getElem?_take]
    split
    · rfl
    · rfl
  rw [packedShorter, same]

/-! ## Order -/

/-- Of two words the leading digits decide, and only where they are equal the rest. -/
theorem digit_mul_add_lt_iff {unit first second rest further : Nat} (below : rest < unit)
    (belowOther : further < unit) :
    (first + 1) * unit + rest < (second + 1) * unit + further ↔
      first < second ∨ first = second ∧ rest < further := by
  rcases Nat.lt_trichotomy first second with less | equal | greater
  · have step : (first + 1 + 1) * unit ≤ (second + 1) * unit :=
      Nat.mul_le_mul_right unit (Nat.succ_le_succ less)
    rw [Nat.succ_mul] at step
    omega
  · subst equal
    omega
  · have step : (second + 1 + 1) * unit ≤ (first + 1) * unit :=
      Nat.mul_le_mul_right unit (Nat.succ_le_succ greater)
    rw [Nat.succ_mul] at step
    omega

/-- Words that start at one level compare as the lists of their ordinals do. -/
theorem word_lt_word_iff (small : ∀ index ∈ indices, index ≤ maxIndex)
    (smallOther : ∀ index ∈ others, index ≤ maxIndex)
    (short : level + indices.length ≤ maxLevels) (shortOther : level + others.length ≤ maxLevels) :
    word level indices < word level others ↔ indices < others := by
  induction indices generalizing level others with
  | nil =>
    cases others with
    | nil => simp [word]
    | cons index rest =>
      have positive : 0 < (index + 1) * placeValue (maxLevels - 1 - level) :=
        Nat.mul_pos (Nat.succ_pos index) (placeValue_pos _)
      simp only [word, List.nil_lt_cons, iff_true]
      exact Nat.lt_of_lt_of_le positive (Nat.le_add_right ..)
  | cons first rest ih =>
    cases others with
    | nil => simp [word]
    | cons second further =>
      rw [List.length_cons] at short shortOther
      have smallRest : ∀ index ∈ rest, index ≤ maxIndex := fun index member =>
        small index (List.mem_cons_of_mem first member)
      have smallFurther : ∀ index ∈ further, index ≤ maxIndex := fun index member =>
        smallOther index (List.mem_cons_of_mem second member)
      have unit : maxLevels - 1 - level = maxLevels - (level + 1) := by omega
      rw [word, word, List.cons_lt_cons_iff, unit,
        digit_mul_add_lt_iff (word_lt_placeValue smallRest (by omega))
          (word_lt_placeValue smallFurther (by omega)),
        ih smallRest smallFurther (by omega) (by omega)]

/-- Packed codes compare as the lists of their ordinals do, a proper prefix first. -/
theorem packed_lt_iff (packed : ofIndices indices = .ok code)
    (packedOther : ofIndices others = .ok other) : code < other ↔ indices < others := by
  obtain ⟨fit, held⟩ := ofIndices_eq_ok_iff.mp packed
  obtain ⟨fitOther, heldOther⟩ := ofIndices_eq_ok_iff.mp packedOther
  have short : 0 + indices.length ≤ maxLevels := by
    rw [Nat.zero_add]
    exact fit.length_le
  have shortOther : 0 + others.length ≤ maxLevels := by
    rw [Nat.zero_add]
    exact fitOther.length_le
  rw [← word_lt_word_iff fit.le_maxIndex fitOther.le_maxIndex short shortOther, ← held, ← heldOther]
  exact UInt32.lt_iff_toNat_lt

/-! ## Gaps -/

/-- No level is absent above a present one. -/
def Gapless (code : TypeCode) : Prop :=
  ∀ upper lower, upper ≤ lower → lower < maxLevels → code.digit upper = 0 → code.digit lower = 0

/-- Packing the levels of a code gives what is above its first gap. -/
theorem ofIndices_indices (code : TypeCode) :
    ofIndices code.indices = .ok (code.truncate code.depth) := by
  obtain ⟨packed, ran, _⟩ := ofIndices_of_fit code.fit_indices
  have same : packed = code.truncate code.depth := by
    apply eq_of_digit_eq
    intro level inside
    rw [digit_truncate code code.depth inside, digit_of_packed ran inside]
    by_cases above : level < code.depth
    · have present := digit_ne_zero above
      rw [if_pos above, getElem?_indices above, Option.map_some, Option.getD_some]
      omega
    · rw [if_neg above, List.getElem?_eq_none (Nat.not_lt.mp above)]
      rfl
  rw [ran, same]

theorem truncate_depth_eq_iff : code.truncate code.depth = code ↔ code.Gapless := by
  constructor
  · intro same upper lower order inside absent
    have below : ¬ lower < code.depth := by
      intro above
      exact digit_ne_zero (Nat.lt_of_le_of_lt order above) absent
    rw [← same, digit_truncate code code.depth inside, if_neg below]
  · intro gapless
    apply eq_of_digit_eq
    intro level inside
    rw [digit_truncate code code.depth inside]
    by_cases above : level < code.depth
    · rw [if_pos above]
    · have reached : code.depth ≤ level := Nat.not_lt.mp above
      have absent := digit_depth (Nat.lt_of_le_of_lt reached inside)
      rw [if_neg above, gapless code.depth level reached inside absent]

end TypeCode

end MapTypes
