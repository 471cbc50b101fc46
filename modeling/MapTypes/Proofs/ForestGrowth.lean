import Mathlib.Data.String.Basic
import MapTypes.Taxonomy.Draft

/-!
What a draft keeps while it takes paths. Siblings stay in strict order of their labels, no node gets
more children than a type code can number, and no path gets longer than a type code. A path that is
refused changes nothing, so every draft that grew from the empty one is valid, whatever was offered
to it and in whatever order.
-/

namespace MapTypes

namespace Forest

/-- The labels of the trees, from the first to the last. -/
def labels : Forest → List String
  | nil => []
  | cons label _ _ next => label :: next.labels

/-- The number of nodes on the longest way down. -/
def height : Forest → Nat
  | nil => 0
  | cons _ _ below next => max (below.height + 1) next.height

/-- On every level the labels of siblings strictly increase. -/
def Sorted : Forest → Prop
  | nil => True
  | cons label _ below next => (∀ other ∈ next.labels, label < other) ∧ below.Sorted ∧ next.Sorted

/-- Below every node stand at most `limit` trees side by side. -/
def Narrow (limit : Nat) : Forest → Prop
  | nil => True
  | cons _ _ below next => below.breadth ≤ limit ∧ below.Narrow limit ∧ next.Narrow limit

/-- A forest with room for a type code at each of its nodes: as many levels as are left, and
siblings that are in order and can be numbered. -/
structure Valid (levels : Nat) (forest : Forest) : Prop where
  sorted : forest.Sorted
  breadth_le : forest.breadth ≤ maxChildren
  narrow : forest.Narrow maxChildren
  height_le : forest.height ≤ levels

theorem pairwise_labels {forest : Forest} (sorted : forest.Sorted) :
    forest.labels.Pairwise (· < ·) := by
  induction forest with
  | nil => exact .nil
  | cons label visible below next _ ih => exact .cons sorted.1 (ih sorted.2.2)

/-- A label that comes before all others is not there. -/
theorem Sorted.not_mem_of_lt {label here : String} {visible : Bool} {below next : Forest}
    (sorted : (cons here visible below next).Sorted) (before : label < here) :
    label ∉ (cons here visible below next).labels := by
  rw [labels, List.mem_cons, not_or]
  exact ⟨ne_of_lt before, fun member => lt_asymm before (sorted.1 label member)⟩

theorem isSome_find?_iff (forest : Forest) (label : String) :
    (forest.find? label).isSome ↔ label ∈ forest.labels := by
  induction forest with
  | nil => simp [find?, labels]
  | cons here visible below next _ ih =>
    by_cases same : label = here
    · simp [find?, labels, same]
    · simp [find?, labels, same, ih]

theorem find?_eq_none_iff {forest : Forest} {label : String} :
    forest.find? label = none ↔ label ∉ forest.labels := by
  rw [← isSome_find?_iff, Option.not_isSome_iff_eq_none]

theorem height_find?_lt {forest below : Forest} {label : String}
    (found : forest.find? label = some below) : below.height < forest.height := by
  induction forest with
  | nil => cases found
  | cons here visible inner next _ ih =>
    rw [height]
    by_cases same : label = here
    · rw [find?, if_pos same, Option.some.injEq] at found
      subst found
      omega
    · rw [find?, if_neg same] at found
      have := ih found
      omega

theorem Sorted.find? {forest below : Forest} {label : String} (sorted : forest.Sorted)
    (found : forest.find? label = some below) : below.Sorted := by
  induction forest with
  | nil => cases found
  | cons here visible inner next _ ih =>
    rw [Forest.find?] at found
    split at found
    · cases found
      exact sorted.2.1
    · exact ih sorted.2.2 found

theorem Narrow.find? {forest below : Forest} {limit : Nat} {label : String}
    (narrow : forest.Narrow limit) (found : forest.find? label = some below) :
    below.breadth ≤ limit ∧ below.Narrow limit := by
  induction forest with
  | nil => cases found
  | cons here visible inner next _ ih =>
    rw [Forest.find?] at found
    split at found
    · cases found
      exact ⟨narrow.1, narrow.2.1⟩
    · exact ih narrow.2.2 found

/-- What stands below a tree of a valid forest is valid, on one level less. -/
theorem Valid.find? {forest below : Forest} {levels : Nat} {label : String}
    (valid : forest.Valid (levels + 1)) (found : forest.find? label = some below) :
    below.Valid levels where
  sorted := valid.sorted.find? found
  breadth_le := (valid.narrow.find? found).1
  narrow := (valid.narrow.find? found).2
  height_le := by
    have lower := height_find?_lt found
    have height := valid.height_le
    omega

/-! ## Growth -/

theorem mem_labels_grow (visible : Bool) (forest : Forest) (label : String) (rest : List String)
    (other : String) :
    other ∈ (forest.grow visible (label :: rest)).labels ↔
      other = label ∨ other ∈ forest.labels := by
  induction forest with
  | nil => simp [grow, sprout, labels]
  | cons here shown below next _ ih =>
    rw [grow]
    split
    · rename_i same
      simp [labels, same]
    · split
      · simp [labels]
      · simp only [labels, List.mem_cons, ih]
        exact or_left_comm

theorem sorted_sprout (visible : Bool) (path : List String) : (sprout visible path).Sorted := by
  induction path with
  | nil => trivial
  | cons label rest ih => exact ⟨by simp [labels], ih, trivial⟩

theorem height_sprout (visible : Bool) (path : List String) :
    (sprout visible path).height = path.length := by
  induction path with
  | nil => rfl
  | cons label rest ih => simp [sprout, height, ih]

theorem breadth_sprout_le (visible : Bool) (path : List String) :
    (sprout visible path).breadth ≤ 1 := by
  cases path <;> simp [sprout, breadth]

theorem narrow_sprout {limit : Nat} (room : 0 < limit) (visible : Bool) (path : List String) :
    (sprout visible path).Narrow limit := by
  induction path with
  | nil => trivial
  | cons label rest ih =>
    exact ⟨Nat.le_trans (breadth_sprout_le visible rest) room, ih, trivial⟩

/-- A new path keeps siblings in order. -/
theorem sorted_grow {forest : Forest} (visible : Bool) (path : List String)
    (sorted : forest.Sorted) : (forest.grow visible path).Sorted := by
  fun_induction grow visible forest path with
  | case1 forest => exact sorted
  | case2 label rest => exact sorted_sprout visible (label :: rest)
  | case3 here shown below next rest ih => exact ⟨sorted.1, ih sorted.2.1, sorted.2.2⟩
  | case4 here shown below next label rest different before =>
    refine ⟨?_, sorted_sprout visible rest, sorted⟩
    intro other member
    rcases List.mem_cons.mp member with rfl | member
    · exact before
    · exact lt_trans before (sorted.1 other member)
  | case5 here shown below next label rest different notBefore ih =>
    refine ⟨?_, sorted.2.1, ih sorted.2.2⟩
    intro other member
    rcases (mem_labels_grow visible next label rest other).mp member with rfl | member
    · exact lt_of_le_of_ne (not_lt.mp notBefore) (Ne.symm different)
    · exact sorted.1 other member

theorem height_grow_le (visible : Bool) (forest : Forest) (path : List String) :
    (forest.grow visible path).height ≤ max forest.height path.length := by
  fun_induction grow visible forest path with
  | case1 forest => exact Nat.le_max_left ..
  | case2 label rest => simp [height_sprout]
  | case3 here shown below next rest ih =>
    simp only [height, List.length_cons]
    omega
  | case4 here shown below next label rest different before =>
    simp only [height, height_sprout, List.length_cons]
    omega
  | case5 here shown below next label rest different notBefore ih =>
    simp only [height]
    omega

/-- Only a label that is new makes a forest broader. -/
theorem breadth_grow {forest : Forest} (visible : Bool) (label : String) (rest : List String)
    (sorted : forest.Sorted) :
    (forest.grow visible (label :: rest)).breadth =
      forest.breadth + if label ∈ forest.labels then 0 else 1 := by
  induction forest with
  | nil => rfl
  | cons here shown below next _ ih =>
    rw [grow]
    split
    · rename_i same
      simp [breadth, labels, same]
    · rename_i different
      split
      · rename_i before
        rw [if_neg (sorted.not_mem_of_lt before)]
        rfl
      · simp only [breadth, labels, ih sorted.2.2, List.mem_cons, different, false_or]
        omega

/-- Growth leaves all nodes narrow but perhaps those on the path. -/
theorem narrow_grow {forest : Forest} {limit : Nat} (room : 0 < limit) (visible : Bool)
    (label : String) (rest : List String) (narrow : forest.Narrow limit)
    (inside : ∀ below, forest.find? label = some below →
      (below.grow visible rest).breadth ≤ limit ∧ (below.grow visible rest).Narrow limit) :
    (forest.grow visible (label :: rest)).Narrow limit := by
  induction forest with
  | nil => exact narrow_sprout room visible (label :: rest)
  | cons here shown below next _ ih =>
    rw [grow]
    split
    · rename_i same
      obtain ⟨breadth, narrowBelow⟩ := inside below (by rw [Forest.find?, if_pos same])
      exact ⟨breadth, narrowBelow, narrow.2.2⟩
    · rename_i different
      split
      · exact ⟨Nat.le_trans (breadth_sprout_le visible rest) room,
          narrow_sprout room visible rest, narrow⟩
      · refine ⟨narrow.1, narrow.2.1, ih narrow.2.2 ?_⟩
        intro inner found
        exact inside inner (by rw [Forest.find?, if_neg different]; exact found)

/-- A path that meets no full node keeps every node narrow. -/
theorem narrow_of_not_crowded {forest : Forest} {limit : Nat} {parent : String}
    (room : 0 < limit) (visible : Bool) (path : List String) (sorted : forest.Sorted)
    (breadth : forest.breadth ≤ limit) (narrow : forest.Narrow limit)
    (free : forest.crowded? limit parent path = none) :
    (forest.grow visible path).breadth ≤ limit ∧ (forest.grow visible path).Narrow limit := by
  induction path generalizing forest parent with
  | nil => simpa [grow] using ⟨breadth, narrow⟩
  | cons label rest ih =>
    rw [crowded?] at free
    simp only [breadth_grow visible label rest sorted, ← isSome_find?_iff]
    split at free
    · rename_i below found
      have grown := ih (sorted.find? found) (narrow.find? found).1 (narrow.find? found).2 free
      refine ⟨by simpa [found] using breadth, narrow_grow room visible label rest narrow ?_⟩
      intro inner foundInner
      rw [found, Option.some.injEq] at foundInner
      exact foundInner ▸ grown
    · rename_i absent
      have notFull : forest.breadth < limit := by
        by_contra full
        rw [if_pos (Nat.not_lt.mp full)] at free
        cases free
      refine ⟨by simpa [absent] using Nat.succ_le_of_lt notFull,
        narrow_grow room visible label rest narrow ?_⟩
      intro inner foundInner
      rw [absent] at foundInner
      cases foundInner

end Forest

namespace Draft

/-- A draft each of whose nodes can have a type code. -/
def Valid (draft : Draft) : Prop :=
  draft.roots.Valid TypeCode.maxLevels

theorem valid_empty : empty.Valid where
  sorted := trivial
  breadth_le := Nat.zero_le _
  narrow := trivial
  height_le := Nat.zero_le _

/-- A path that is accepted keeps a draft valid. -/
theorem Valid.add {draft grown : Draft} {entry : Entry} (valid : draft.Valid)
    (added : draft.add entry = .ok grown) : grown.Valid := by
  rw [Draft.add] at added
  split at added
  · cases added
  · rename_i accepted
    cases added
    simp only [refusal?] at accepted
    split at accepted
    · cases accepted
    · split at accepted
      · cases accepted
      · rename_i short
        split at accepted
        · cases accepted
        · have free := Option.map_eq_none_iff.mp accepted
          have grown := Forest.narrow_of_not_crowded (Nat.succ_pos _) entry.visible entry.path
            valid.sorted valid.breadth_le valid.narrow free
          refine ⟨Forest.sorted_grow _ _ valid.sorted, grown.1, grown.2, ?_⟩
          exact Nat.le_trans (Forest.height_grow_le ..)
            (Nat.max_le.mpr ⟨valid.height_le, Nat.not_lt.mp short⟩)

/-- Whatever is offered to a valid draft, what it accepts leaves it valid. -/
theorem Valid.addAccepted {draft : Draft} (valid : draft.Valid) (entries : List Entry) :
    (draft.addAccepted entries).Valid := by
  induction entries generalizing draft with
  | nil => exact valid
  | cons entry rest ih =>
    rw [Draft.addAccepted, List.foldl_cons, ← Draft.addAccepted]
    apply ih
    cases added : draft.add entry with
    | error refusal => exact valid
    | ok grown => exact valid.add added

end Draft

end MapTypes
