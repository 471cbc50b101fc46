import Mathlib.Data.List.Forall2
import MapTypes.TypeCode

/-!
The digits of type codes. Appending an ordinal writes the first free digit and keeps the digits
above it. Ordinals that fit, no more of them than a code has levels and each small enough for a
digit, are therefore packed without a fault, and no others are; their code has exactly them for its
levels.
-/

namespace MapTypes

/-- A list is run through without a fault exactly when each of its members is. -/
theorem mapM_eq_ok_iff {α β ε : Type} {f : α → Except ε β} {xs : List α} {ys : List β} :
    xs.mapM f = .ok ys ↔ List.Forall₂ (fun x y => f x = .ok y) xs ys := by
  induction xs generalizing ys with
  | nil =>
    rw [List.mapM_nil, List.forall₂_nil_left_iff]
    exact ⟨fun same => (Except.ok.inj same).symm, fun same => same ▸ rfl⟩
  | cons x xs ih =>
    rw [List.mapM_cons]
    constructor
    · intro ran
      cases here : f x with
      | error fault =>
        rw [here] at ran
        cases ran
      | ok y =>
        cases rest : xs.mapM f with
        | error fault =>
          rw [here, rest] at ran
          cases ran
        | ok others =>
          rw [here, rest] at ran
          cases ran
          exact .cons here (ih.mp rest)
    · rintro (_ | ⟨here, rest⟩)
      rw [here, ih.mpr rest]
      rfl

theorem exists_mapM_eq_ok {α β ε : Type} {f : α → Except ε β} {xs : List α}
    (each : ∀ x ∈ xs, ∃ y, f x = .ok y) : ∃ ys, xs.mapM f = .ok ys := by
  induction xs with
  | nil => exact ⟨[], rfl⟩
  | cons x xs ih =>
    obtain ⟨y, here⟩ := each x (by simp)
    obtain ⟨ys, rest⟩ := ih fun other member => each other (List.mem_cons_of_mem x member)
    exact ⟨y :: ys, mapM_eq_ok_iff.mpr (.cons here (mapM_eq_ok_iff.mp rest))⟩

/-- The results of a run are those of its members. -/
theorem mem_of_mapM_eq_ok {α β ε : Type} {f : α → Except ε β} {xs : List α} {ys : List β}
    (ran : xs.mapM f = .ok ys) {y : β} : y ∈ ys ↔ ∃ x ∈ xs, f x = .ok y := by
  rw [mapM_eq_ok_iff] at ran
  induction ran with
  | nil => simp
  | @cons x result xs ys here _ ih =>
    have same : y = result ↔ f x = .ok y := by
      rw [here, Except.ok.injEq, eq_comm]
    simp only [List.mem_cons, ih, same, exists_eq_or_imp]

namespace TypeCode

/-- Ordinals that a code has room for. -/
structure Fit (indices : List Nat) : Prop where
  length_le : indices.length ≤ maxLevels
  le_maxIndex : ∀ index ∈ indices, index ≤ maxIndex

theorem Fit.of_append {front back : List Nat} (fit : Fit (front ++ back)) : Fit front where
  length_le := Nat.le_trans (List.sublist_append_left front back).length_le fit.length_le
  le_maxIndex index member := fit.le_maxIndex index (List.mem_append_left back member)

theorem placeValue_pos (below : Nat) : 0 < placeValue below := Nat.pow_pos (by decide)

theorem placeValue_add (first second : Nat) :
    placeValue (first + second) = placeValue first * placeValue second := Nat.pow_add ..

/-- The word that holds some ordinals, the first of them at a level. -/
def word (level : Nat) : List Nat → Nat
  | [] => 0
  | index :: rest => (index + 1) * placeValue (maxLevels - 1 - level) + word (level + 1) rest

/-- A word that starts at a level is less than the place value of the level above. -/
theorem word_lt_placeValue {level : Nat} {indices : List Nat}
    (small : ∀ index ∈ indices, index ≤ maxIndex)
    (short : level + indices.length ≤ maxLevels) :
    word level indices < placeValue (maxLevels - level) := by
  induction indices generalizing level with
  | nil => exact placeValue_pos _
  | cons index rest ih =>
    have bound := small index (by simp)
    rw [List.length_cons] at short
    have shorter : level + 1 + rest.length ≤ maxLevels := by omega
    have below := ih (fun other member => small other (List.mem_cons_of_mem index member)) shorter
    have unit : placeValue (maxLevels - level) = 256 * placeValue (maxLevels - 1 - level) := by
      have split : maxLevels - level = 1 + (maxLevels - 1 - level) := by omega
      rw [split, placeValue_add]
      rfl
    have same : maxLevels - (level + 1) = maxLevels - 1 - level := by omega
    rw [word, unit]
    rw [same] at below
    calc (index + 1) * placeValue (maxLevels - 1 - level) + word (level + 1) rest
        < (index + 1) * placeValue (maxLevels - 1 - level) + placeValue (maxLevels - 1 - level) :=
          Nat.add_lt_add_left below _
      _ = (index + 2) * placeValue (maxLevels - 1 - level) := (Nat.succ_mul (index + 1) _).symm
      _ ≤ 256 * placeValue (maxLevels - 1 - level) :=
          Nat.mul_le_mul_right _ (by rw [maxIndex] at bound; omega)

theorem word_concat (level : Nat) (indices : List Nat) (index : Nat) :
    word level (indices ++ [index]) =
      word level indices + (index + 1) * placeValue (maxLevels - 1 - (level + indices.length)) := by
  induction indices generalizing level with
  | nil => simp [word]
  | cons first rest ih =>
    have further : level + (first :: rest).length = level + 1 + rest.length := by
      simp only [List.length_cons]
      omega
    simp only [List.cons_append, word, ih, further, Nat.add_assoc]

/-- Every digit of a word is one of its ordinals plus one, or zero past the last. -/
theorem digits_of_word {code : TypeCode} {indices : List Nat} (fit : Fit indices)
    (held : code.raw.toNat = word 0 indices) :
    (List.range maxLevels).map code.digit =
      indices.map (· + 1) ++ List.replicate (maxLevels - indices.length) 0 := by
  obtain ⟨short, small⟩ := fit
  -- There are five lengths up to the number of levels, and each is arithmetic in base 256.
  rcases indices with _ | ⟨a, _ | ⟨b, _ | ⟨c, _ | ⟨d, _ | ⟨e, rest⟩⟩⟩⟩⟩ <;>
    simp [word, placeValue, maxLevels, maxIndex] at held small short <;>
    simp [digit, List.range, List.range.loop, maxLevels, placeValue, List.replicate, held] <;>
    omega

/-- The ordinals a word was made of are read back from it. -/
theorem indices_of_word {code : TypeCode} {indices : List Nat} (fit : Fit indices)
    (held : code.raw.toNat = word 0 indices) : code.indices = indices := by
  have present : ∀ digit ∈ indices.map (· + 1), decide (digit ≠ 0) = true := by simp
  have absent : (List.replicate (maxLevels - indices.length) 0).takeWhile (· ≠ 0) = [] := by
    cases maxLevels - indices.length <;> simp [List.replicate]
  rw [TypeCode.indices, digits_of_word fit held, List.takeWhile_append_of_pos present, absent]
  simp [Function.comp_def]

theorem word_lt {indices : List Nat} (fit : Fit indices) : word 0 indices < UInt32.size :=
  word_lt_placeValue fit.le_maxIndex (by rw [Nat.zero_add]; exact fit.length_le)

/-- Appending an ordinal that fits writes the next digit. -/
theorem push_word {code : TypeCode} {indices : List Nat} {index : Nat}
    (fit : Fit (indices ++ [index])) (held : code.raw.toNat = word 0 indices) :
    ∃ longer, code.push index = .ok longer ∧ longer.raw.toNat = word 0 (indices ++ [index]) := by
  have depth : code.depth = indices.length := by
    rw [TypeCode.depth, indices_of_word fit.of_append held]
  have room : ¬ maxLevels ≤ indices.length := by
    have bound := fit.length_le
    rw [List.length_append, List.length_singleton] at bound
    omega
  have small : ¬ maxIndex < index := Nat.not_lt.mpr (fit.le_maxIndex index (by simp))
  refine ⟨_, by rw [push, depth, if_neg room, if_neg small], ?_⟩
  rw [held, word_concat, UInt32.toNat_ofNat_of_lt']
  · simp
  · have bound := word_lt fit
    rwa [word_concat, Nat.zero_add] at bound

/-- Where appending goes through, a level was left and the ordinal fits into it. -/
theorem push_eq_ok {code longer : TypeCode} {index : Nat} (pushed : code.push index = .ok longer) :
    code.depth < maxLevels ∧ index ≤ maxIndex := by
  rw [push] at pushed
  split at pushed
  · cases pushed
  · rename_i room
    split at pushed
    · cases pushed
    · rename_i small
      exact ⟨Nat.not_le.mp room, Nat.not_lt.mp small⟩

/-- Appending goes through just when a level is left and the ordinal fits into it. -/
theorem exists_push_eq_ok_iff {code : TypeCode} {index : Nat} :
    (∃ longer, code.push index = .ok longer) ↔ code.depth < maxLevels ∧ index ≤ maxIndex := by
  constructor
  · rintro ⟨longer, pushed⟩
    exact push_eq_ok pushed
  · rintro ⟨room, small⟩
    exact ⟨_, by rw [push, if_neg (Nat.not_le.mpr room), if_neg (Nat.not_lt.mpr small)]⟩

theorem Fit.concat {indices : List Nat} {index : Nat} (fit : Fit indices)
    (room : indices.length < maxLevels) (small : index ≤ maxIndex) : Fit (indices ++ [index]) where
  length_le := by
    rw [List.length_append, List.length_singleton]
    exact room
  le_maxIndex other member := by
    rcases List.mem_append.mp member with member | member
    · exact fit.le_maxIndex other member
    · rwa [List.mem_singleton.mp member]

/-- Packing goes through just when the ordinals fit, and then gives the word that holds those packed
before and those that were to be packed. -/
theorem foldlM_push_eq_ok_iff {rest done : List Nat} {code final : TypeCode} (fit : Fit done)
    (held : code.raw.toNat = word 0 done) :
    rest.foldlM push code = .ok final ↔
      Fit (done ++ rest) ∧ final.raw.toNat = word 0 (done ++ rest) := by
  induction rest generalizing done code with
  | nil =>
    rw [List.foldlM_nil, List.append_nil, ← held, UInt32.toNat_inj]
    constructor
    · rintro ran
      cases ran
      exact ⟨fit, rfl⟩
    · rintro ⟨_, same⟩
      obtain ⟨raw⟩ := final
      cases same
      rfl
  | cons index rest ih =>
    have split : done ++ index :: rest = (done ++ [index]) ++ rest := by simp
    rw [List.foldlM_cons, split]
    constructor
    · intro ran
      cases pushed : code.push index with
      | error fault =>
        rw [pushed] at ran
        cases ran
      | ok longer =>
        obtain ⟨room, small⟩ := push_eq_ok pushed
        rw [TypeCode.depth, indices_of_word fit held] at room
        have fitLonger := fit.concat room small
        obtain ⟨_, again, heldLonger⟩ := push_word fitLonger held
        rw [pushed] at again ran
        cases again
        exact (ih fitLonger heldLonger).mp ran
    · rintro ⟨fitAll, heldFinal⟩
      obtain ⟨longer, pushed, heldLonger⟩ := push_word fitAll.of_append held
      rw [pushed]
      exact (ih fitAll.of_append heldLonger).mpr ⟨fitAll, heldFinal⟩

theorem fit_nil : Fit [] where
  length_le := Nat.zero_le _
  le_maxIndex := by simp

/-- The code of some ordinals is the word that holds them, and exists just when they fit. -/
theorem ofIndices_eq_ok_iff {indices : List Nat} {code : TypeCode} :
    ofIndices indices = .ok code ↔ Fit indices ∧ code.raw.toNat = word 0 indices :=
  foldlM_push_eq_ok_iff fit_nil rfl

/-- Packing ordinals that fit never faults, and loses none of them. -/
theorem ofIndices_of_fit {indices : List Nat} (fit : Fit indices) :
    ∃ code, ofIndices indices = .ok code ∧ code.indices = indices := by
  have held : (UInt32.ofNat (word 0 indices)).toNat = word 0 indices :=
    UInt32.toNat_ofNat_of_lt' (word_lt fit)
  exact ⟨⟨UInt32.ofNat (word 0 indices)⟩, ofIndices_eq_ok_iff.mpr ⟨fit, held⟩,
    indices_of_word fit held⟩

end TypeCode

end MapTypes
