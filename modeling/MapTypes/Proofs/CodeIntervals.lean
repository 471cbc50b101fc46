import MapTypes.Proofs.CodeOrder

/-!
Prefixes and intervals of type codes. Truncation is told by depth alone: it cuts the levels of any
code, with or without a gap, down to a number (`depth_truncate`), and of two truncations the shorter
counts (`truncate_truncate`). What truncates to a code that ends at a level is the interval of words
from that code on, one place value of the level long (`truncate_eq_iff_interval`); for packed codes
that makes the codes at or below a node one interval that the code of the node starts.
-/

namespace MapTypes

namespace TypeCode

variable {code node : TypeCode} {indices others : List Nat}

/-! ## Truncation of any code -/

theorem toNat_truncate (code : TypeCode) (levels : Nat) :
    (code.truncate levels).raw.toNat =
      code.raw.toNat / placeValue (maxLevels - levels) * placeValue (maxLevels - levels) :=
  UInt32.toNat_ofNat_of_lt' (Nat.lt_of_le_of_lt (Nat.div_mul_le_self ..) code.raw.toNat_lt)

/-- The depth is told by the digits: none is zero above it, and the one at it is. -/
theorem depth_eq {levels : Nat} (inside : levels ≤ maxLevels)
    (present : ∀ level < levels, code.digit level ≠ 0)
    (absent : levels < maxLevels → code.digit levels = 0) : code.depth = levels := by
  apply Nat.le_antisymm
  · by_contra deeper
    have deeper := Nat.not_le.mp deeper
    exact digit_ne_zero deeper (absent (Nat.lt_of_lt_of_le deeper code.depth_le))
  · by_contra shallower
    have shallower := Nat.not_le.mp shallower
    exact present code.depth shallower (digit_depth (Nat.lt_of_lt_of_le shallower inside))

/-- Truncation cuts the depth down. -/
theorem depth_truncate (code : TypeCode) (levels : Nat) :
    (code.truncate levels).depth = min levels code.depth := by
  have inside : min levels code.depth ≤ maxLevels := (Nat.min_le_right ..).trans code.depth_le
  apply depth_eq inside
  · intro level above
    obtain ⟨kept, present⟩ := Nat.lt_min.mp above
    rw [digit_truncate code levels (Nat.lt_of_lt_of_le present code.depth_le), if_pos kept]
    exact digit_ne_zero present
  · intro shallow
    rw [digit_truncate code levels shallow]
    split
    · rename_i kept
      have reached : min levels code.depth = code.depth := by omega
      rw [reached] at shallow ⊢
      exact digit_depth shallow
    · rfl

/-- Of two truncations the shorter counts. -/
theorem truncate_truncate (code : TypeCode) (levels further : Nat) :
    (code.truncate levels).truncate further = code.truncate (min levels further) := by
  apply eq_of_digit_eq
  intro level inside
  rw [digit_truncate _ further inside, digit_truncate code levels inside,
    digit_truncate code _ inside, ← ite_and]
  exact if_congr (by rw [Nat.lt_min, and_comm]) rfl rfl

/-- The codes that truncate to a code which ends at a level are an interval of words that it
starts. -/
theorem truncate_eq_iff_interval {levels : Nat} (ends : node.truncate levels = node) :
    code.truncate levels = node ↔ node.raw.toNat ≤ code.raw.toNat ∧
      code.raw.toNat < node.raw.toNat + placeValue (maxLevels - levels) := by
  have unit := placeValue_pos (maxLevels - levels)
  have start : node.raw.toNat = _ := (congrArg (·.raw.toNat) ends).symm.trans
    (toNat_truncate node levels)
  calc code.truncate levels = node
      ↔ code.raw.toNat / placeValue (maxLevels - levels) * placeValue (maxLevels - levels) =
          node.raw.toNat := by
        rw [← toNat_truncate]
        exact ⟨fun same => by rw [same], eq_of_raw_eq⟩
    _ ↔ code.raw.toNat / placeValue (maxLevels - levels) =
          node.raw.toNat / placeValue (maxLevels - levels) := by
        rw [start, Nat.mul_left_inj unit.ne', Nat.mul_div_cancel _ unit]
    _ ↔ _ := by
        rw [Nat.div_eq_iff unit, ← start]
        omega

/-! ## Truncation of packed codes -/

theorem truncate_length_of_packed (packed : ofIndices others = .ok node) :
    node.truncate others.length = node := by
  have whole := packed_take packed others.length
  rw [List.take_length, packed, Except.ok.injEq] at whole
  exact whole.symm

/-- A packed code truncates to another that ends at the level just when the ordinals of that are
the first of its own. -/
theorem truncate_eq_iff_prefix (packed : ofIndices indices = .ok code)
    (packedOther : ofIndices others = .ok node) :
    code.truncate others.length = node ↔ others <+: indices := by
  have cut := packed_take packed others.length
  rw [List.prefix_iff_eq_take]
  constructor
  · rintro rfl
    exact packed_inj packedOther cut
  · intro first
    rw [← first, packedOther, Except.ok.injEq] at cut
    exact cut.symm

/-- Ordinals that fit have codes. Truncation of a code keeps the first of its ordinals, so one code
is cut off to another just when it has the ordinals of that for its first; and codes compare as
their ordinals do, a proper prefix first. All words that are cut off to the code of a node stand
together, from that code on, so the codes at or below the node are an interval of codes that starts
with its own. For any code, with or without a gap, truncation cuts the depth down, and of two
truncations the shorter counts. -/
theorem truncation_keeps_prefix_and_order (fit : Fit indices) (fitOther : Fit others) :
    (∃ code node, ofIndices indices = .ok code ∧ ofIndices others = .ok node ∧
      (∀ levels, ofIndices (indices.take levels) = .ok (code.truncate levels)) ∧
      (∀ levels, others.length = levels → (code.truncate levels = node ↔ others <+: indices)) ∧
      (code < node ↔ indices < others) ∧
      (others <+: indices ↔ node.raw.toNat ≤ code.raw.toNat ∧
        code.raw.toNat < node.raw.toNat + placeValue (maxLevels - others.length)) ∧
      ∀ word : TypeCode, word.truncate others.length = node ↔
        node.raw.toNat ≤ word.raw.toNat ∧
          word.raw.toNat < node.raw.toNat + placeValue (maxLevels - others.length)) ∧
    ∀ (code : TypeCode) (levels further : Nat),
      (code.truncate levels).depth = min levels code.depth ∧
      (code.truncate levels).truncate further = code.truncate (min levels further) := by
  refine ⟨?_, fun code levels further =>
    ⟨depth_truncate code levels, truncate_truncate code levels further⟩⟩
  obtain ⟨code, packed, _⟩ := ofIndices_of_fit fit
  obtain ⟨node, packedOther, _⟩ := ofIndices_of_fit fitOther
  have ends := truncate_length_of_packed packedOther
  refine ⟨code, node, packed, packedOther, packed_take packed, ?_,
    packed_lt_iff packed packedOther, ?_, fun word => truncate_eq_iff_interval ends⟩
  · rintro _ rfl
    exact truncate_eq_iff_prefix packed packedOther
  · rw [← truncate_eq_iff_prefix packed packedOther, truncate_eq_iff_interval ends]

/-- A station and a subway station below it, with the largest ordinal that fits. -/
theorem truncation_of_subway_station :
    let station := [254, 0]
    let subway := [254, 0, 254]
    Fit subway ∧ Fit station ∧
      ∃ code node, ofIndices subway = .ok code ∧ ofIndices station = .ok node ∧
        code.truncate 2 = node ∧ ¬ code < node := by
  intro station subway
  have fit : Fit subway := ⟨by decide, by decide⟩
  have fitOther : Fit station := ⟨by decide, by decide⟩
  obtain ⟨⟨code, node, packed, packedOther, _, cut, less, _⟩, _⟩ :=
    truncation_keeps_prefix_and_order fit fitOther
  exact ⟨fit, fitOther, code, node, packed, packedOther, (cut 2 rfl).mpr (by decide),
    mt less.mp (by decide)⟩

end TypeCode

end MapTypes
