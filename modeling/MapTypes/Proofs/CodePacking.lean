import Mathlib.Tactic.IntervalCases
import MapTypes.Proofs.CodeOrder

/-!
Packing and unpacking of type codes. Ordinals of one byte each are packed without a fault just when
there are no more of them than a code has levels and none of them is the largest byte; they are then
what is read back (`exists_ofIndices_iff`). To append an ordinal to any code, whether or not it was
packed, writes one digit, the first that is zero, and leaves the others as they are (`digit_push`);
where that is not possible the code stays as a whole.
-/

namespace MapTypes

namespace TypeCode

variable {code longer : TypeCode} {indices : List Nat} {index level : Nat}

/-! ## Lists of ordinals -/

theorem exists_ofIndices_iff : (∃ code, ofIndices indices = .ok code) ↔ Fit indices := by
  constructor
  · rintro ⟨code, packed⟩
    exact (ofIndices_eq_ok_iff.mp packed).1
  · intro fit
    obtain ⟨code, packed, _⟩ := ofIndices_of_fit fit
    exact ⟨code, packed⟩

theorem exists_refused_iff : (∃ fault, ofIndices indices = .error fault) ↔ ¬ Fit indices := by
  rw [← exists_ofIndices_iff]
  cases ofIndices indices with
  | ok code => simp
  | error fault => simp

/-- Of the values of a byte only the last is too large for a digit. -/
theorem toNat_le_maxIndex_iff {ordinal : UInt8} : ordinal.toNat ≤ maxIndex ↔ ordinal ≠ 255 := by
  have byte := ordinal.toNat_lt
  have last : ordinal.toNat = (255 : UInt8).toNat ↔ ordinal = 255 := UInt8.toNat_inj
  have value : (255 : UInt8).toNat = 255 := rfl
  rw [Ne, ← last, value, maxIndex]
  omega

theorem fit_bytes_iff {ordinals : List UInt8} :
    Fit (ordinals.map UInt8.toNat) ↔ ¬ (maxLevels < ordinals.length ∨ 255 ∈ ordinals) := by
  constructor
  · rintro ⟨short, small⟩ (long | last)
    · rw [List.length_map] at short
      exact Nat.not_lt.mpr short long
    · exact toNat_le_maxIndex_iff.mp (small _ (List.mem_map_of_mem last)) rfl
  · intro fits
    obtain ⟨short, small⟩ := not_or.mp fits
    refine ⟨by rw [List.length_map]; exact Nat.not_lt.mp short, fun index member => ?_⟩
    obtain ⟨ordinal, listed, rfl⟩ := List.mem_map.mp member
    exact toNat_le_maxIndex_iff.mpr fun last => small (last ▸ listed)

/-! ## Appending -/

/-- The first digit that is zero has room for what is written, so nothing is carried. -/
theorem toNat_push (pushed : code.push index = .ok longer) :
    longer.raw.toNat =
      code.raw.toNat + (index + 1) * placeValue (maxLevels - 1 - code.depth) := by
  obtain ⟨shallow, small⟩ := push_eq_ok pushed
  have absent := digit_depth shallow
  have bound := code.raw.toNat_lt
  rw [push, if_neg (Nat.not_le.mpr shallow), if_neg (Nat.not_lt.mpr small), Except.ok.injEq]
    at pushed
  rw [← pushed]
  apply UInt32.toNat_ofNat_of_lt'
  generalize code.depth = depth at shallow absent ⊢
  simp only [digit, maxLevels, maxIndex, placeValue, Nat.pow_eq, UInt32.size]
    at shallow small absent ⊢
  interval_cases depth <;> omega

/-- Appending writes the first digit that is zero and no other. -/
theorem digit_push (pushed : code.push index = .ok longer) (inside : level < maxLevels) :
    longer.digit level = if level = code.depth then index + 1 else code.digit level := by
  obtain ⟨shallow, small⟩ := push_eq_ok pushed
  have absent := digit_depth shallow
  have written := toNat_push pushed
  generalize code.depth = depth at shallow absent written ⊢
  simp only [digit, maxLevels, maxIndex, placeValue, Nat.pow_eq]
    at shallow small absent written inside ⊢
  -- Four places to write to, each seen from four levels, and both are arithmetic in base 256.
  interval_cases depth <;> interval_cases level <;> simp <;> omega

/-- What stands below a gap is left there, and joins on to the ordinal that fills the gap. -/
example : push ⟨0x01000500⟩ 7 = .ok ⟨0x01080500⟩ ∧ TypeCode.indices ⟨0x01080500⟩ = [0, 7, 4] := by
  decide

/-- A code without a gap becomes the code of one ordinal more. -/
theorem Gapless.indices_push (gapless : code.Gapless) (pushed : code.push index = .ok longer) :
    longer.indices = code.indices ++ [index] := by
  obtain ⟨shallow, small⟩ := push_eq_ok pushed
  have packed : ofIndices code.indices = .ok code := by
    rw [ofIndices_indices, truncate_depth_eq_iff.mpr gapless]
  obtain ⟨fit, held⟩ := ofIndices_eq_ok_iff.mp packed
  have fitLonger := fit.concat shallow small
  obtain ⟨_, again, heldLonger⟩ := push_word fitLonger held
  rw [pushed, Except.ok.injEq] at again
  exact indices_of_word fitLonger (again ▸ heldLonger)

theorem run_append (code : TypeCode) (index : Nat) :
    (append index).run.run code =
      match code.push index with
      | .ok longer => (.ok (), longer)
      | .error fault => (.error fault, code) := by
  -- What is appended to is read from the state before anything can fault.
  change (ExceptT.run do
    let longer ← (MonadExcept.ofExcept (code.push index) : ExceptT Fault (StateM TypeCode) TypeCode)
    set longer).run code = _
  cases code.push index <;> rfl

/-- Where an ordinal cannot be appended the code stays, and only there a fault is reported. -/
theorem exists_append_refused_iff :
    (∃ fault, (append index).run.run code = (.error fault, code)) ↔
      ¬ (code.depth < maxLevels ∧ index ≤ maxIndex) := by
  rw [← exists_push_eq_ok_iff, run_append]
  cases code.push index with
  | ok longer =>
    refine iff_of_false ?_ (not_not.mpr ⟨longer, rfl⟩)
    rintro ⟨fault, same⟩
    cases same
  | error fault => exact iff_of_true ⟨fault, rfl⟩ (by simp)

/-- Ordinals and codes. Some ordinals of a byte each are refused just when there are more than a
code has levels or one of them is the last byte; else they have a code, of which they are the
levels, and which no other ordinals have. To pack the levels of any code gives what is above its
first gap, and that is the code itself just when it has no gap. To append an ordinal to any code is
refused just when no level is left or the ordinal is the last byte, and the code then stays; else
one digit is written, the first that was absent, and a code without a gap has the ordinal as a new
last level. -/
theorem ordinals_packed_and_read_back (ordinals : List UInt8) (code : TypeCode)
    (ordinal : UInt8) :
    let indices := ordinals.map UInt8.toNat
    let index := ordinal.toNat
    let attempt := (append index).run.run code
    ((∃ fault, ofIndices indices = .error fault) ↔
      maxLevels < ordinals.length ∨ 255 ∈ ordinals) ∧
    (¬ (maxLevels < ordinals.length ∨ 255 ∈ ordinals) →
      ∃ packed, ofIndices indices = .ok packed ∧
        packed.depth = ordinals.length ∧ packed.indices = indices ∧
        (∀ level, packed.level? level = indices[level]?) ∧
        ∀ others : List UInt8, ofIndices (others.map UInt8.toNat) = .ok packed →
          others = ordinals) ∧
    ofIndices code.indices = .ok (code.truncate code.depth) ∧
    (code.truncate code.depth = code ↔ code.Gapless) ∧
    ((∃ fault, attempt = (.error fault, code)) ↔ code.depth = maxLevels ∨ ordinal = 255) ∧
    (¬ (code.depth = maxLevels ∨ ordinal = 255) →
      ∃ longer, attempt = (.ok (), longer) ∧
        longer.digit code.depth = index + 1 ∧
        (∀ level < maxLevels, level ≠ code.depth → longer.digit level = code.digit level) ∧
        (code.Gapless → longer.indices = code.indices ++ [index])) := by
  intro indices index attempt
  have refused : code.depth = maxLevels ∨ ordinal = 255 ↔
      ¬ (code.depth < maxLevels ∧ index ≤ maxIndex) := by
    rw [toNat_le_maxIndex_iff, not_and_or, not_not, Nat.not_lt]
    exact or_congr_left ⟨Nat.le_of_eq ∘ Eq.symm, Nat.le_antisymm code.depth_le⟩
  refine ⟨?_, fun fits => ?_, ofIndices_indices code, truncate_depth_eq_iff, ?_, fun fits => ?_⟩
  · rw [exists_refused_iff, fit_bytes_iff, not_not]
  · obtain ⟨packed, ran, read⟩ := ofIndices_of_fit (fit_bytes_iff.mpr fits)
    refine ⟨packed, ran, ?_, read, fun level => ?_, fun others ranOther => ?_⟩
    · rw [depth, read, List.length_map]
    · rw [level?, read]
    · exact List.map_injective_iff.mpr (fun _ _ => UInt8.toNat_inj.mp) (packed_inj ranOther ran)
  · rw [exists_append_refused_iff, refused]
  · rw [refused, not_not] at fits
    obtain ⟨longer, pushed⟩ := exists_push_eq_ok_iff.mpr fits
    refine ⟨longer, ?_, ?_, fun level inside other => ?_,
      fun gapless => gapless.indices_push pushed⟩
    · exact (run_append code index).trans (by rw [pushed])
    · rw [digit_push pushed fits.1, if_pos rfl]
    · rw [digit_push pushed inside, if_neg other]

end TypeCode

end MapTypes
