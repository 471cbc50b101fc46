/-!
Binary search. `partitionPoint p lo hi` is the place where a test that holds first and fails from
some index on changes its answer. The sorted tables of this library are all searched with it: the
children of a taxonomy node by label, the tables of character properties by code point.
-/

namespace MapTypes

/-- The first index of `[lo, hi)` at which `test` fails, or `hi` when it fails nowhere. The test
must not hold again after its first failure; then each probe halves the range that is left. -/
def partitionPoint (test : Nat → Bool) (lo hi : Nat) : Nat :=
  if lo < hi then
    let mid := (lo + hi) / 2
    if test mid then partitionPoint test (mid + 1) hi else partitionPoint test lo mid
  else lo
termination_by hi - lo

theorem le_partitionPoint (test : Nat → Bool) (lo hi : Nat) : lo ≤ partitionPoint test lo hi := by
  fun_induction partitionPoint test lo hi with
  | case1 lo hi inside mid holds ih => exact Nat.le_trans (by omega) ih
  | case2 lo hi inside mid fails ih => exact ih
  | case3 lo hi empty => exact Nat.le_refl lo

/-- Where a test changes its answer at most once, it holds before the partition point and fails from
there on. -/
theorem partitionPoint_spec {test : Nat → Bool} {lo hi : Nat} (ordered : lo ≤ hi)
    (once : ∀ i j, lo ≤ i → i ≤ j → j < hi → test j = true → test i = true) :
    partitionPoint test lo hi ≤ hi ∧
      (∀ i, lo ≤ i → i < partitionPoint test lo hi → test i = true) ∧
      (∀ i, partitionPoint test lo hi ≤ i → i < hi → test i = false) := by
  fun_induction partitionPoint test lo hi with
  | case1 lo hi inside mid holds ih =>
    obtain ⟨below, before, after⟩ :=
      ih (by omega) fun i j low le high => once i j (by omega) le high
    refine ⟨below, ?_, after⟩
    intro i low early
    rcases Nat.lt_or_ge mid i with late | early'
    · exact before i late early
    · exact once i mid low early' (by omega) holds
  | case2 lo hi inside mid fails ih =>
    obtain ⟨below, before, after⟩ :=
      ih (by omega) fun i j low le high => once i j low le (by omega)
    refine ⟨by omega, before, ?_⟩
    intro i late high
    rcases Nat.lt_or_ge i mid with early | late'
    · exact after i late early
    · -- If the test held at `i`, it would hold at `mid`, which is not after `i`.
      cases held : test i with
      | false => rfl
      | true => exact absurd (once mid i (by omega) late' high held) fails
  | case3 lo hi empty =>
    exact ⟨ordered, fun i low early => by omega, fun i late high => by omega⟩

end MapTypes
