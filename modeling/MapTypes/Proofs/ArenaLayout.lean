import Mathlib.Data.List.Chain
import Mathlib.Logic.Relation
import MapTypes.Proofs.CodeDigits
import MapTypes.Proofs.ForestGrowth
import MapTypes.Taxonomy.Basic

/-!
A frozen draft, read back. `Stored` says that the trees of a forest stand side by side in an arena
with the trees below each of them stored likewise; freezing stores the whole draft. From there on
taxonomies are spoken of by their nodes alone: `HasChild` relates a node to its children, looking a
label up finds exactly the child that bears it (`Sound.child?_eq_some_iff`), and the ordinals on a
way down from the root always fit a type code (`Sound.fit_of_way`).
-/

namespace MapTypes

/-- The trees of a forest stand side by side in an arena, from a place and an ordinal on, and the
trees below each of them are its children. -/
def Stored (nodes : Array Node) : Nat → Nat → Forest → Prop
  | _, _, .nil => True
  | place, index, .cons label visible below next =>
    (∃ first, nodes[place]? = some ⟨label, index, visible, first, below.breadth⟩ ∧
      Stored nodes first 0 below) ∧
    Stored nodes (place + 1) (index + 1) next

/-- A pending node has its place, and the trees below it theirs. -/
def Placed (nodes : Array Node) (place : Nat) (pending : Pending) : Prop :=
  ∃ first, nodes[place]? =
      some ⟨pending.label, pending.index, pending.visible, first, pending.below.breadth⟩ ∧
    Stored nodes first 0 pending.below

theorem stored_of_siblings {nodes : Array Node} {place index : Nat} {forest : Forest}
    (placed : ∀ j pending, (forest.siblings index)[j]? = some pending →
      Placed nodes (place + j) pending) : Stored nodes place index forest := by
  induction forest generalizing place index with
  | nil => trivial
  | cons label visible below next _ ih =>
    refine ⟨placed 0 ⟨label, index, visible, below⟩ rfl, ih ?_⟩
    intro j pending found
    have later := placed (j + 1) pending (by rw [Forest.siblings, List.getElem?_cons_succ, found])
    rwa [show place + 1 + j = place + (j + 1) by omega]

/-- Laying out places every node of the queue, whatever arena its output ends. -/
theorem placed_layOut {nodes : Array Node} {base next : Nat} {queue : List Pending}
    (laid : nodes.toList.drop base = layOut next queue) (behind : next = base + queue.length)
    {j : Nat} {pending : Pending} (waiting : queue[j]? = some pending) :
    Placed nodes (base + j) pending := by
  fun_induction layOut next queue generalizing base j pending with
  | case1 => cases waiting
  | case2 next head queue ih =>
    have here : nodes[base]? =
        some ⟨head.label, head.index, head.visible, next, head.below.breadth⟩ := by
      have first := congrArg (·[0]?) laid
      simpa using first
    have rest : nodes.toList.drop (base + 1) =
        layOut (next + head.below.breadth) (queue ++ head.below.siblings 0) := by
      rw [← List.drop_drop, laid, List.drop_one, List.tail_cons]
    have placed := @ih (base + 1) rest (by
      rw [behind, List.length_append, Forest.length_siblings, List.length_cons]
      omega)
    cases j with
    | zero =>
      cases waiting
      refine ⟨next, here, stored_of_siblings ?_⟩
      -- The children of the head wait behind the queue, so the first of them comes to `next`.
      intro j pending child
      have position : Placed nodes (base + 1 + (queue.length + j)) pending :=
        placed (by rw [List.getElem?_append_right (by omega), Nat.add_sub_cancel_left, child])
      rwa [behind, List.length_cons, show base + (queue.length + 1) + j =
        base + 1 + (queue.length + j) by omega]
    | succ j =>
      rw [List.getElem?_cons_succ] at waiting
      have position : Placed nodes (base + 1 + j) pending :=
        placed (by rw [List.getElem?_append_left (List.getElem?_eq_some_iff.mp waiting).1, waiting])
      rwa [show base + (j + 1) = base + 1 + j by omega]

/-- Each tree of a stored forest has a node with its label, and below this what stands below the
tree. -/
theorem Stored.child {nodes : Array Node} {place index : Nat} {forest : Forest}
    (stored : Stored nodes place index forest) (sorted : forest.Sorted) {j : Nat}
    (bound : j < forest.breadth) :
    ∃ child below, nodes[place + j]? = some child ∧ child.index = index + j ∧
      forest.labels[j]? = some child.label ∧ forest.find? child.label = some below ∧
      child.childCount = below.breadth ∧ Stored nodes child.firstChild 0 below := by
  induction forest generalizing place index j with
  | nil => cases bound
  | cons label visible below next _ ih =>
    obtain ⟨⟨first, here, storedBelow⟩, storedNext⟩ := stored
    cases j with
    | zero =>
      exact ⟨_, below, here, rfl, rfl, by simp [Forest.find?], rfl, storedBelow⟩
    | succ j =>
      obtain ⟨child, inner, there, ordinal, labelled, found, count, storedInner⟩ :=
        ih storedNext sorted.2.2 (Nat.lt_of_succ_lt_succ bound)
      have later : label ≠ child.label :=
        ne_of_lt (sorted.1 _ (List.mem_of_getElem? labelled))
      refine ⟨child, inner, ?_, by omega, ?_, ?_, count, storedInner⟩
      · rwa [show place + (j + 1) = place + 1 + j by omega]
      · rwa [Forest.labels, List.getElem?_cons_succ]
      · rwa [Forest.find?, if_neg (Ne.symm later)]

namespace Taxonomy

/-- The relation between a node and the nodes right below it. -/
def HasChild (taxonomy : Taxonomy) (node child : Node) : Prop :=
  child ∈ taxonomy.children node

/-- What a taxonomy is relied on for: a label finds the child that bears it, and every way down from
the root fits a type code. -/
structure Sound (taxonomy : Taxonomy) : Prop where
  child?_eq_some_iff : ∀ {node : Node}, Relation.ReflTransGen taxonomy.HasChild taxonomy.root node →
    ∀ {label : String} {child : Node},
      taxonomy.child? node label = some child ↔ taxonomy.HasChild node child ∧ child.label = label
  fit_of_way : ∀ {way : List Node}, (taxonomy.root :: way).IsChain taxonomy.HasChild →
    TypeCode.Fit (way.map Node.index)

theorem Sound.child?_eq_none_iff {taxonomy : Taxonomy} (sound : taxonomy.Sound) {node : Node}
    (reachable : Relation.ReflTransGen taxonomy.HasChild taxonomy.root node) {label : String} :
    taxonomy.child? node label = none ↔
      ∀ child, taxonomy.HasChild node child → child.label ≠ label := by
  constructor
  · rintro absent child edge rfl
    rw [(sound.child?_eq_some_iff reachable).mpr ⟨edge, rfl⟩] at absent
    cases absent
  · intro other
    cases found : taxonomy.child? node label with
    | none => rfl
    | some child =>
      obtain ⟨edge, labelled⟩ := (sound.child?_eq_some_iff reachable).mp found
      exact absurd labelled (other child edge)

/-- A way down from a node leads to nodes that can be reached from it. -/
theorem reachable_of_isChain {taxonomy : Taxonomy} {node : Node} {way : List Node}
    (chain : (node :: way).IsChain taxonomy.HasChild) :
    Relation.ReflTransGen taxonomy.HasChild node (way.getLastD node) := by
  apply List.relationReflTransGen_of_exists_isChain_cons way chain
  rw [List.getLastD_eq_getLast?, List.getLast_eq_getLastD, List.getLastD_eq_getLast?]

theorem hasChild_iff {taxonomy : Taxonomy} {node child : Node} :
    taxonomy.HasChild node child ↔
      ∃ j < node.childCount, taxonomy.nodes[node.firstChild + j]? = some child := by
  rw [HasChild, children, Array.mem_toList_iff, Array.mem_iff_getElem?]
  refine exists_congr fun j => ?_
  rw [Array.getElem?_extract]
  constructor
  · intro found
    split at found
    · rename_i bound
      exact ⟨by omega, found⟩
    · cases found
  · rintro ⟨bound, found⟩
    have size := (Array.getElem?_eq_some_iff.mp found).1
    rw [if_pos (by omega), found]

/-- A child is looked for where a search for the first sibling ends whose label is not before the
wanted one. -/
theorem child?_eq (taxonomy : Taxonomy) (node : Node) (label : String) :
    ∃ test : Nat → Bool,
      (∀ i sibling, taxonomy.nodes[i]? = some sibling → test i = decide (sibling.label < label)) ∧
      taxonomy.child? node label =
        let place := partitionPoint test node.firstChild (node.firstChild + node.childCount)
        if place < node.firstChild + node.childCount then
          taxonomy.nodes[place]?.filter (·.label == label)
        else none := by
  refine ⟨_, ?_, rfl⟩
  intro i sibling found
  rw [found]

/-- A child that is found is one, and bears the label. -/
theorem hasChild_of_child? {taxonomy : Taxonomy} {node child : Node} {label : String}
    (found : taxonomy.child? node label = some child) :
    taxonomy.HasChild node child ∧ child.label = label := by
  obtain ⟨test, _, search⟩ := child?_eq taxonomy node label
  simp only [search] at found
  split at found
  · rename_i bound
    obtain ⟨there, labelled⟩ := Option.filter_eq_some_iff.mp found
    obtain ⟨j, place⟩ := Nat.exists_eq_add_of_le (le_partitionPoint _ _ _)
    rw [place] at bound there
    exact ⟨hasChild_iff.mpr ⟨j, by omega, there⟩, by simpa using labelled⟩
  · cases found

/-- The trees of a forest are what stands below a node. -/
structure Spans (taxonomy : Taxonomy) (node : Node) (forest : Forest) : Prop where
  childCount_eq : node.childCount = forest.breadth
  stored : Stored taxonomy.nodes node.firstChild 0 forest

theorem Spans.child {taxonomy : Taxonomy} {node child : Node} {forest : Forest}
    (spans : taxonomy.Spans node forest) (sorted : forest.Sorted)
    (edge : taxonomy.HasChild node child) :
    ∃ below, forest.find? child.label = some below ∧ taxonomy.Spans child below ∧
      child.index < forest.breadth := by
  obtain ⟨j, bound, there⟩ := hasChild_iff.mp edge
  rw [spans.childCount_eq] at bound
  obtain ⟨stored, below, here, ordinal, _, found, count, inner⟩ := spans.stored.child sorted bound
  rw [there, Option.some.injEq] at here
  subst here
  exact ⟨below, found, ⟨count, inner⟩, by omega⟩

/-- Siblings stand in the order of their labels. -/
theorem Spans.label_lt {taxonomy : Taxonomy} {node first second : Node} {forest : Forest}
    (spans : taxonomy.Spans node forest) (sorted : forest.Sorted) {i j : Nat} (before : i < j)
    (bound : j < node.childCount) (here : taxonomy.nodes[node.firstChild + i]? = some first)
    (there : taxonomy.nodes[node.firstChild + j]? = some second) : first.label < second.label := by
  have labelled : ∀ k < node.childCount, ∀ sibling,
      taxonomy.nodes[node.firstChild + k]? = some sibling →
        forest.labels[k]? = some sibling.label := by
    intro k bound sibling found
    obtain ⟨stored, _, place, _, labelled, _⟩ :=
      spans.stored.child sorted (spans.childCount_eq ▸ bound)
    rw [found, Option.some.injEq] at place
    exact place ▸ labelled
  obtain ⟨_, firstLabel⟩ := List.getElem?_eq_some_iff.mp (labelled i (by omega) first here)
  obtain ⟨_, secondLabel⟩ := List.getElem?_eq_some_iff.mp (labelled j bound second there)
  rw [← firstLabel, ← secondLabel]
  exact List.pairwise_iff_getElem.mp (Forest.pairwise_labels sorted) i j _ _ before

/-- Among sorted siblings the binary search misses no label. -/
theorem Spans.child?_eq_some {taxonomy : Taxonomy} {node child : Node} {forest : Forest}
    (spans : taxonomy.Spans node forest) (sorted : forest.Sorted)
    (edge : taxonomy.HasChild node child) : taxonomy.child? node child.label = some child := by
  obtain ⟨j, bound, there⟩ := hasChild_iff.mp edge
  have present : ∀ k < node.childCount, ∃ sibling,
      taxonomy.nodes[node.firstChild + k]? = some sibling := by
    intro k bound
    obtain ⟨sibling, _, found, _⟩ := spans.stored.child sorted (spans.childCount_eq ▸ bound)
    exact ⟨sibling, found⟩
  obtain ⟨test, tested, search⟩ := child?_eq taxonomy node child.label
  have once : ∀ i k, node.firstChild ≤ i → i ≤ k → k < node.firstChild + node.childCount →
      test k = true → test i = true := by
    intro i k low le high holds
    obtain ⟨i, rfl⟩ := Nat.exists_eq_add_of_le low
    obtain ⟨k, rfl⟩ := Nat.exists_eq_add_of_le (Nat.le_trans low le)
    obtain ⟨first, here⟩ := present i (by omega)
    obtain ⟨second, later⟩ := present k (by omega)
    simp only [tested _ _ here, tested _ _ later, decide_eq_true_eq] at holds ⊢
    rcases Nat.eq_or_lt_of_le le with same | before
    · rw [same, later, Option.some.injEq] at here
      exact here ▸ holds
    · exact lt_trans (spans.label_lt sorted (by omega) (by omega) here later) holds
  obtain ⟨below, before, after⟩ := partitionPoint_spec (Nat.le_add_right _ _) once
  obtain ⟨k, place⟩ := Nat.exists_eq_add_of_le
    (le_partitionPoint test node.firstChild (node.firstChild + node.childCount))
  -- The search stops neither behind the child, where labels are greater, nor before it, where they
  -- are less.
  have same : k = j := by
    rcases Nat.lt_trichotomy k j with less | equal | greater
    · obtain ⟨sibling, found⟩ := present k (by omega)
      have fails := after (node.firstChild + k) (by omega) (by omega)
      simp only [tested _ _ found, decide_eq_false_iff_not] at fails
      exact absurd (spans.label_lt sorted less bound found there) fails
    · exact equal
    · have holds := before (node.firstChild + j) (by omega) (by omega)
      simp only [tested _ _ there, decide_eq_true_eq] at holds
      exact absurd holds (lt_irrefl _)
  simp only [search, place, same]
  rw [if_pos (by omega), there, Option.filter_some, if_pos (beq_self_eq_true _)]

/-- A node below which a valid forest of so many levels stands. -/
def Roomy (taxonomy : Taxonomy) (levels : Nat) (node : Node) : Prop :=
  ∃ forest, forest.Valid levels ∧ taxonomy.Spans node forest

theorem Roomy.child {taxonomy : Taxonomy} {node child : Node} {levels : Nat}
    (roomy : taxonomy.Roomy levels node) (edge : taxonomy.HasChild node child) :
    ∃ fewer, levels = fewer + 1 ∧ taxonomy.Roomy fewer child ∧
      child.index ≤ TypeCode.maxIndex := by
  obtain ⟨forest, valid, spans⟩ := roomy
  obtain ⟨below, found, spansBelow, ordinal⟩ := spans.child valid.sorted edge
  cases levels with
  | zero =>
    have empty := valid.height_le
    have lower := Forest.height_find?_lt found
    omega
  | succ fewer =>
    have breadth := valid.breadth_le
    rw [maxChildren] at breadth
    exact ⟨fewer, rfl, ⟨below, valid.find? found, spansBelow⟩, by omega⟩

/-- A way down passes no more nodes than there are levels, and each of them can be numbered. -/
theorem Roomy.way {taxonomy : Taxonomy} {node : Node} {levels : Nat} {way : List Node}
    (roomy : taxonomy.Roomy levels node) (chain : (node :: way).IsChain taxonomy.HasChild) :
    way.length ≤ levels ∧ ∀ step ∈ way, step.index ≤ TypeCode.maxIndex := by
  induction way generalizing node levels with
  | nil => simp
  | cons child rest ih =>
    obtain ⟨edge, further⟩ := List.isChain_cons_cons.mp chain
    obtain ⟨fewer, rfl, roomyChild, ordinal⟩ := roomy.child edge
    obtain ⟨length, ordinals⟩ := ih roomyChild further
    refine ⟨Nat.succ_le_succ length, ?_⟩
    intro step member
    rcases List.mem_cons.mp member with rfl | member
    · exact ordinal
    · exact ordinals step member

end Taxonomy

/-- A frozen draft has the trees of the draft below its root. -/
theorem Draft.spans_root (draft : Draft) : draft.freeze.Spans draft.freeze.root draft.roots := by
  have placed : Placed draft.freeze.nodes 0 ⟨rootLabel, 0, false, draft.roots⟩ := by
    have laid : draft.freeze.nodes.toList.drop 0 =
        layOut 1 [⟨rootLabel, 0, false, draft.roots⟩] := by
      simp [Draft.freeze]
    exact placed_layOut laid rfl (j := 0) rfl
  obtain ⟨first, here, stored⟩ := placed
  refine ⟨?_, ?_⟩
  · rw [Taxonomy.root, here, Option.getD_some]
  · rw [Taxonomy.root, here, Option.getD_some]
    exact stored

theorem Draft.Valid.roomy_root {draft : Draft} (valid : draft.Valid) :
    draft.freeze.Roomy TypeCode.maxLevels draft.freeze.root :=
  ⟨draft.roots, valid, draft.spans_root⟩

/-- Below every node that can be reached stands a valid forest. -/
theorem Draft.Valid.roomy {draft : Draft} (valid : draft.Valid) {node : Node}
    (reachable : Relation.ReflTransGen draft.freeze.HasChild draft.freeze.root node) :
    ∃ levels, draft.freeze.Roomy levels node := by
  induction reachable with
  | refl => exact ⟨_, valid.roomy_root⟩
  | tail _ edge ih =>
    obtain ⟨levels, roomy⟩ := ih
    obtain ⟨fewer, _, roomyChild, _⟩ := roomy.child edge
    exact ⟨fewer, roomyChild⟩

/-- Freezing a valid draft gives a sound taxonomy. -/
theorem Draft.Valid.sound {draft : Draft} (valid : draft.Valid) : draft.freeze.Sound where
  child?_eq_some_iff {node} reachable {label child} := by
    obtain ⟨levels, forest, validForest, spans⟩ := valid.roomy reachable
    constructor
    · exact Taxonomy.hasChild_of_child?
    · rintro ⟨edge, rfl⟩
      exact spans.child?_eq_some validForest.sorted edge
  fit_of_way {way} chain := by
    obtain ⟨length, ordinals⟩ := valid.roomy_root.way chain
    refine ⟨by rwa [List.length_map], ?_⟩
    intro index member
    obtain ⟨step, onWay, rfl⟩ := List.mem_map.mp member
    exact ordinals step onWay

/-- Every taxonomy that is frozen from accepted paths is sound, whatever paths were refused. -/
theorem Taxonomy.sound_freeze (entries : List Entry) :
    (Draft.empty.addAccepted entries).freeze.Sound :=
  (Draft.valid_empty.addAccepted entries).sound

end MapTypes
