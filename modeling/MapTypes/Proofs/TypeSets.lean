import Mathlib.Data.List.Sort
import MapTypes.Proofs.TypeProvenance

/-!
Types as a set. What is added to the types of a record depends on which types there are and not on
their order, and once sorted the types are told by their members alone.
-/

namespace MapTypes

namespace TypeCode

instance : Std.Irrefl fun first second : TypeCode => first < second :=
  ⟨fun code => UInt32.lt_irrefl code.raw⟩

instance : Std.Antisymm fun first second : TypeCode => first < second :=
  ⟨fun _ _ less greater => absurd greater (UInt32.lt_asymm less)⟩

theorem lt_of_ne_of_not_lt {first second : TypeCode} (different : first ≠ second)
    (notLess : ¬ first < second) : second < first := by
  apply UInt32.lt_of_le_of_ne (UInt32.not_lt.mp notLess)
  intro same
  exact different (congrArg TypeCode.mk same.symm)

end TypeCode

namespace Feature

variable {feature : Feature} {code : TypeCode} {codes others : List TypeCode}

theorem hasType_iff : feature.hasType code = true ↔ code ∈ feature.types :=
  List.contains_iff_mem

theorem addType_of_mem (present : code ∈ feature.types) : (feature.addType code).1 = feature := by
  rw [addType, if_pos (hasType_iff.mpr present)]

theorem addType_of_not_mem (absent : code ∉ feature.types) :
    (feature.addType code).1 = { feature with types := feature.types ++ [code] } := by
  rw [addType, if_neg (mt hasType_iff.mp absent)]

theorem pairwise_insertCode (sorted : codes.Pairwise (· < ·)) :
    (insertCode code codes).Pairwise (· < ·) := by
  induction codes with
  | nil => exact List.pairwise_singleton _ _
  | cons head rest ih =>
    obtain ⟨first, sortedRest⟩ := List.pairwise_cons.mp sorted
    rw [insertCode]
    split
    · exact sorted
    · rename_i different
      split
      · rename_i less
        refine List.pairwise_cons.mpr ⟨?_, sorted⟩
        intro other member
        rcases List.mem_cons.mp member with rfl | later
        · exact less
        · exact UInt32.lt_trans less (first other later)
      · rename_i notLess
        refine List.pairwise_cons.mpr ⟨?_, ih sortedRest⟩
        intro other member
        rcases mem_insertCode.mp member with rfl | later
        · exact TypeCode.lt_of_ne_of_not_lt different notLess
        · exact first other later

/-- Sorted codes increase. -/
theorem pairwise_sortCodes (codes : List TypeCode) : (sortCodes codes).Pairwise (· < ·) := by
  induction codes with
  | nil => exact .nil
  | cons code rest ih => exact pairwise_insertCode ih

theorem sortCodes_congr (same : ∀ code, code ∈ codes ↔ code ∈ others) :
    sortCodes codes = sortCodes others := by
  apply (pairwise_sortCodes codes).eq_of_mem_iff (pairwise_sortCodes others)
  intro code
  rw [mem_sortCodes, mem_sortCodes, same]

theorem sortTypes_congr (feature : Feature) (same : ∀ code, code ∈ codes ↔ code ∈ others) :
    ({ feature with types := codes } : Feature).sortTypes =
      ({ feature with types := others } : Feature).sortTypes := by
  rw [sortTypes, sortTypes, sortCodes_congr same]

end Feature

namespace Classify

/-- Which codes are added to a record, and in which order, does not depend on the order of the types
that it has. -/
theorem exists_added (taxonomy : Taxonomy) (options : Options) (feature : Feature)
    (codes : List TypeCode) :
    ∃ added, ∀ types, (∀ code, code ∈ types ↔ code ∈ feature.types) →
      addAdmitted taxonomy options { feature with types := types } codes =
        { feature with types := types ++ added } := by
  simp only [addAdmitted]
  generalize codes.filter (admits taxonomy options) = admitted
  induction admitted generalizing feature with
  | nil => exact ⟨[], fun types _ => by rw [List.append_nil, List.foldl_nil]⟩
  | cons code rest ih =>
    -- Whether the first code is new is the same for every order, and so is what comes after it.
    by_cases present : code ∈ feature.types
    · obtain ⟨added, grows⟩ := ih feature
      refine ⟨added, fun types same => ?_⟩
      rw [List.foldl_cons, Feature.addType_of_mem ((same code).mpr present)]
      exact grows types same
    · obtain ⟨added, grows⟩ := ih { feature with types := feature.types ++ [code] }
      refine ⟨code :: added, fun types same => ?_⟩
      rw [List.foldl_cons, Feature.addType_of_not_mem (mt (same code).mp present)]
      have onward := grows (types ++ [code]) (by simp [same])
      rwa [List.append_assoc, List.singleton_append] at onward

end Classify

end MapTypes
