import Mathlib.Data.List.Nodup
import MapTypes.Proofs.EntryOrder

/-!
The arena as a tree. Laying out puts the children of each node behind everything that waits, so the
child ranges of the nodes, read in the order of the nodes, follow one another from the first place
behind the root to the end (`tiles_layOut`), and each of them is behind its own node
(`lt_of_mem_childPlaces`). Hence every place but the root's is in the range of just one node, and
going up from it ends at the root. Going down, a path of labels leads to the node that spans what
the draft has below that path (`Draft.Valid.spans_of_leadsTo`), which gives the children of every
node.
-/

namespace MapTypes

/-- The places of the children of a node. -/
def Node.childPlaces (node : Node) : List Nat :=
  List.range' node.firstChild node.childCount

theorem Node.mem_childPlaces {node : Node} {place : Nat} :
    place ∈ node.childPlaces ↔
      node.firstChild ≤ place ∧ place < node.firstChild + node.childCount :=
  List.mem_range'_1

/-! ## Ranges -/

/-- The child ranges of some nodes follow one another, from one place up to another. -/
def Tiles : Nat → List Node → Nat → Prop
  | first, [], last => first = last
  | first, node :: rest, last =>
    node.firstChild = first ∧ Tiles (first + node.childCount) rest last

section Tiles

variable {nodes : List Node} {first last : Nat}

/-- The invariant of the queue. The places up to `next` are taken by what is laid out, which ends at
`base`, and by what waits; so they are when the head is laid out and its children wait. -/
theorem next_eq_of_cons {base next : Nat} {head : Pending} {queue : List Pending}
    (taken : next = base + (head :: queue).length) :
    next + head.below.breadth = base + 1 + (queue ++ head.below.siblings 0).length := by
  rw [taken, List.length_append, Forest.length_siblings, List.length_cons]
  omega

/-- When the queue is worked off, the places that were given to children are those that were laid
out behind the queue. -/
theorem tiles_layOut {base next : Nat} {queue : List Pending}
    (taken : next = base + queue.length) :
    Tiles next (layOut next queue) (base + (layOut next queue).length) := by
  fun_induction layOut next queue generalizing base with
  | case1 next => exact taken
  | case2 next head queue ih =>
    have further := ih (next_eq_of_cons taken)
    rw [Nat.add_right_comm] at further
    exact ⟨rfl, further⟩

theorem Tiles.le (tiles : Tiles first nodes last) : first ≤ last := by
  induction nodes generalizing first with
  | nil => exact Nat.le_of_eq tiles
  | cons node rest ih => exact Nat.le_trans (Nat.le_add_right ..) (ih tiles.2)

/-- No range reaches past the end. -/
theorem Tiles.end_le (tiles : Tiles first nodes last) :
    ∀ node ∈ nodes, node.firstChild + node.childCount ≤ last := by
  induction nodes generalizing first with
  | nil => simp
  | cons node rest ih =>
    refine List.forall_mem_cons.mpr ⟨?_, ih tiles.2⟩
    rw [tiles.1]
    exact tiles.2.le

/-- One after the other the ranges give every place once, in order. -/
theorem Tiles.flatMap_childPlaces (tiles : Tiles first nodes last) :
    nodes.flatMap Node.childPlaces = List.range' first (last - first) := by
  induction nodes generalizing first with
  | nil =>
    rw [show first = last from tiles, Nat.sub_self]
    rfl
  | cons node rest ih =>
    obtain ⟨rfl, further⟩ := tiles
    have behind := further.le
    rw [List.flatMap_cons, ih further, Node.childPlaces, List.range'_append_1]
    congr 1
    omega

/-- Of nodes whose ranges are disjoint no two have a place in their ranges. -/
theorem eq_of_mem_childPlaces (disjoint : (nodes.flatMap Node.childPlaces).Nodup) {i j place : Nat}
    {node other : Node} (here : nodes[i]? = some node) (there : nodes[j]? = some other)
    (member : place ∈ node.childPlaces) (memberOther : place ∈ other.childPlaces) : i = j := by
  have apart := List.pairwise_iff_getElem.mp (List.nodup_flatMap.mp disjoint).2
  obtain ⟨bound, rfl⟩ := List.getElem?_eq_some_iff.mp here
  obtain ⟨boundOther, rfl⟩ := List.getElem?_eq_some_iff.mp there
  rcases Nat.lt_trichotomy i j with before | same | after
  · exact absurd memberOther (apart i j bound boundOther before member)
  · exact same
  · exact absurd member (apart j i boundOther bound after memberOther)

end Tiles

/-- Children are laid out behind their node, since it is in front of all that waits. -/
theorem lt_of_mem_childPlaces {base next : Nat} {queue : List Pending}
    (taken : next = base + queue.length) {i place : Nat} {node : Node}
    (here : (layOut next queue)[i]? = some node) (member : place ∈ node.childPlaces) :
    base + i < place := by
  fun_induction layOut next queue generalizing base i with
  | case1 next => cases here
  | case2 next head queue ih =>
    cases i with
    | zero =>
      cases here
      have first := (Node.mem_childPlaces.mp member).1
      rw [List.length_cons] at taken
      dsimp only at first
      omega
    | succ i =>
      rw [List.getElem?_cons_succ] at here
      have later := ih (next_eq_of_cons taken) here
      omega

namespace Taxonomy

variable {taxonomy : Taxonomy} {node child : Node} {parent place : Nat} {path : List String}

/-- The node at a place has the node at another place for a child. -/
def Owns (taxonomy : Taxonomy) (parent place : Nat) : Prop :=
  ∃ node, taxonomy.nodes[parent]? = some node ∧ place ∈ node.childPlaces

/-- A path of labels leads from the root to a place, from each node to one of its children. -/
inductive LeadsTo (taxonomy : Taxonomy) : List String → Nat → Prop
  | root : LeadsTo taxonomy [] 0
  | child {path : List String} {parent place : Nat} {node : Node} :
      LeadsTo taxonomy path parent → taxonomy.Owns parent place →
        taxonomy.nodes[place]? = some node → LeadsTo taxonomy (path ++ [node.label]) place

/-- The child ranges make a tree of the arena: they tile all that is behind the root, and each is
behind its own node. -/
structure Tiled (taxonomy : Taxonomy) : Prop where
  tiles : Tiles 1 taxonomy.nodes.toList taxonomy.nodes.size
  lt_of_owns : ∀ {parent place : Nat}, taxonomy.Owns parent place → parent < place

theorem Tiled.childPlaces_eq (tiled : taxonomy.Tiled) :
    taxonomy.nodes.toList.flatMap Node.childPlaces = List.range' 1 (taxonomy.nodes.size - 1) :=
  tiled.tiles.flatMap_childPlaces

theorem exists_owns_iff_mem :
    (∃ parent, taxonomy.Owns parent place) ↔
      place ∈ taxonomy.nodes.toList.flatMap Node.childPlaces := by
  rw [List.mem_flatMap]
  constructor
  · rintro ⟨parent, node, here, member⟩
    exact ⟨node, Array.mem_toList_iff.mpr (Array.mem_of_getElem? here), member⟩
  · rintro ⟨node, listed, member⟩
    obtain ⟨parent, here⟩ := Array.mem_iff_getElem?.mp (Array.mem_toList_iff.mp listed)
    exact ⟨parent, node, here, member⟩

/-- The places that just one node owns are all but that of the root. -/
theorem Tiled.existsUnique_owner_iff (tiled : taxonomy.Tiled) :
    (∃! parent, taxonomy.Owns parent place) ↔ 0 < place ∧ place < taxonomy.nodes.size := by
  have inside : place ∈ taxonomy.nodes.toList.flatMap Node.childPlaces ↔
      0 < place ∧ place < taxonomy.nodes.size := by
    have behind := tiled.tiles.le
    rw [tiled.childPlaces_eq, List.mem_range'_1]
    omega
  rw [← inside, ← exists_owns_iff_mem]
  refine ⟨ExistsUnique.exists, fun owned => ?_⟩
  obtain ⟨parent, node, here, member⟩ := owned
  refine ⟨parent, ⟨node, here, member⟩, ?_⟩
  rintro other ⟨sibling, there, memberOther⟩
  rw [← Array.getElem?_toList] at here there
  refine eq_of_mem_childPlaces ?_ there here memberOther member
  rw [tiled.childPlaces_eq]
  exact List.nodup_range'

/-- Every place can be reached: its owner stands before it, and can be reached. -/
theorem Tiled.exists_leadsTo (tiled : taxonomy.Tiled) (bound : place < taxonomy.nodes.size) :
    ∃ path, taxonomy.LeadsTo path place := by
  induction place using Nat.strong_induction_on with
  | h place ih =>
    rcases Nat.eq_zero_or_pos place with rfl | positive
    · exact ⟨[], .root⟩
    · obtain ⟨parent, owned⟩ := (tiled.existsUnique_owner_iff.mpr ⟨positive, bound⟩).exists
      have before := tiled.lt_of_owns owned
      obtain ⟨path, leads⟩ := ih parent before (Nat.lt_trans before bound)
      exact ⟨_, leads.child owned (Array.getElem?_eq_getElem bound)⟩

/-! ## Children -/

theorem hasChild_of_owns (here : taxonomy.nodes[parent]? = some node)
    (owned : taxonomy.Owns parent place) (there : taxonomy.nodes[place]? = some child) :
    taxonomy.HasChild node child := by
  obtain ⟨owner, found, member⟩ := owned
  rw [here, Option.some.injEq] at found
  obtain ⟨low, high⟩ := Node.mem_childPlaces.mp (found ▸ member)
  obtain ⟨j, rfl⟩ := Nat.exists_eq_add_of_le low
  exact hasChild_iff.mpr ⟨j, by omega, there⟩

/-- Each child stands at its ordinal. -/
theorem Spans.indices_children {forest : Forest} (spans : taxonomy.Spans node forest)
    (sorted : forest.Sorted) :
    (taxonomy.children node).map Node.index = List.range (taxonomy.children node).length := by
  refine List.ext_getElem (by rw [List.length_map, List.length_range]) fun place inside _ => ?_
  rw [List.length_map, spans.length_children sorted] at inside
  obtain ⟨child, found, ordinal, _⟩ := spans.getElem?_children sorted inside
  obtain ⟨_, rfl⟩ := List.getElem?_eq_some_iff.mp found
  rw [List.getElem_map, List.getElem_range, ordinal]

/-- The binary search finds what a look at one child after the other finds. -/
theorem Spans.child?_eq_find? {forest : Forest} (spans : taxonomy.Spans node forest)
    (sorted : forest.Sorted) (label : String) :
    taxonomy.child? node label = (taxonomy.children node).find? (·.label == label) := by
  cases search : (taxonomy.children node).find? (·.label == label) with
  | none =>
    rw [List.find?_eq_none] at search
    rw [Option.eq_none_iff_forall_ne_some]
    intro child found
    obtain ⟨edge, labelled⟩ := hasChild_of_child? found
    exact search child edge (beq_iff_eq.mpr labelled)
  | some child =>
    have labelled := List.find?_some search
    rw [← beq_iff_eq.mp labelled]
    exact spans.child?_eq_some sorted (List.mem_of_find?_eq_some search)

end Taxonomy

/-! ## Frozen drafts -/

namespace Draft

variable {draft : Draft} {entry : Entry} {entries : List Entry} {path : List String} {place : Nat}

/-- Freezing makes a tree of the arena, whatever the draft. -/
theorem tiled_freeze (draft : Draft) : draft.freeze.Tiled where
  tiles := by
    have alone : 1 = 0 + [(⟨rootLabel, 0, false, draft.roots⟩ : Pending)].length := rfl
    have tiles := tiles_layOut alone
    rwa [Nat.zero_add] at tiles
  lt_of_owns {parent place} owned := by
    obtain ⟨node, here, member⟩ := owned
    rw [freeze, List.getElem?_toArray] at here
    have alone : 1 = 0 + [(⟨rootLabel, 0, false, draft.roots⟩ : Pending)].length := rfl
    have before := lt_of_mem_childPlaces alone here member
    rwa [Nat.zero_add] at before

/-- The places of the children, level by level. -/
example :
    let draft := empty.addAccepted [⟨["highway", "primary", "bridge"], true⟩,
      ⟨["highway", "residential"], true⟩, ⟨["amenity", "cafe"], true⟩]
    draft.freeze.nodes.toList.map (fun node => (node.label, node.childPlaces)) =
      [("world", [1, 2]), ("amenity", [3]), ("highway", [4, 5]), ("cafe", []), ("primary", [6]),
        ("residential", []), ("bridge", [])] := by
  cbv

theorem getElem?_zero_freeze (draft : Draft) :
    draft.freeze.nodes[0]? = some draft.freeze.root := by
  simp [freeze, layOut, Taxonomy.root]

/-- A path leads to the node that spans what the draft has below the path. -/
theorem Valid.spans_of_leadsTo (valid : draft.Valid) (leads : draft.freeze.LeadsTo path place) :
    ∃ node forest, draft.freeze.nodes[place]? = some node ∧
      draft.roots.below? path = some forest ∧ draft.freeze.Spans node forest := by
  induction leads with
  | root => exact ⟨_, draft.roots, draft.getElem?_zero_freeze, rfl, draft.spans_root⟩
  | @child path parent place node _ owned there ih =>
    obtain ⟨above, forest, here, leadsBelow, spans⟩ := ih
    obtain ⟨below, found, spansBelow, _⟩ := spans.child (valid.sorted.below? leadsBelow)
      (Taxonomy.hasChild_of_owns here owned there)
    refine ⟨node, below, there, ?_, spansBelow⟩
    rw [Forest.below?_append, leadsBelow, Option.bind_some, Forest.below?, found]
    rfl

/-- What a draft takes are the entries that it does not reply to with a refusal. -/
theorem Valid.mem_accepted_iff (valid : draft.Valid) :
    entry ∈ draft.accepted entries ↔ (entry, none) ∈ entries.zip (draft.offer entries).1 := by
  induction entries generalizing draft with
  | nil => simp [accepted]
  | cons first rest ih =>
    rw [accepted, offer]
    dsimp only
    rw [List.zip_cons_cons, List.mem_cons, ← ih (valid.insert first), valid.insert_eq, Draft.add]
    cases draft.refusal? first.path <;> simp [Except.toOption]

/-- The labels right below a path are those that accepted paths have next after it. -/
theorem mem_labels_below_iff {forest : Forest} {label : String}
    (below : (empty.offer entries).2.roots.below? path = some forest) :
    label ∈ forest.labels ↔
      ∃ entry, (entry, none) ∈ entries.zip (empty.offer entries).1 ∧
        path ++ [label] <+: entry.path := by
  have onward : path ++ [label] ≠ [] := List.append_ne_nil_of_right_ne_nil path (by simp)
  have present := isSome_below?_offer_iff entries onward
  simp only [valid_empty.mem_accepted_iff] at present
  rw [← present, Forest.below?_append, below, Option.bind_some,
    Forest.isSome_below?_singleton_iff]

end Draft

/-- Whatever was offered to a draft, refused or not, its frozen form is a tree. At every place that
a path leads to, the children have strictly increasing labels, each stands at its ordinal, there are
at most 255 of them, their labels are just those that some accepted path has next after this one,
and for any label, there or not, the binary search finds what a search through all children finds.
Every place is led to by a path. Every place but the root's is in the child range of just one node;
the ranges stay inside the arena and, one after the other, give all its places behind the root, each
once. -/
theorem Taxonomy.arena_is_tree (calls : List Entry) :
    let offered := Draft.empty.offer calls
    let taxonomy := offered.2.freeze
    (∀ path place, taxonomy.LeadsTo path place → ∃ node, taxonomy.nodes[place]? = some node ∧
      let children := taxonomy.children node
      (children.map Node.label).Pairwise (· < ·) ∧
      children.map Node.index = List.range children.length ∧
      children.length ≤ 255 ∧
      (∀ label, label ∈ children.map Node.label ↔
        ∃ entry, (entry, none) ∈ calls.zip offered.1 ∧ path ++ [label] <+: entry.path) ∧
      ∀ label, taxonomy.child? node label = children.find? (·.label == label)) ∧
    (∀ place < taxonomy.nodes.size, ∃ path, taxonomy.LeadsTo path place) ∧
    (∀ place, (∃! parent, taxonomy.Owns parent place) ↔
      0 < place ∧ place < taxonomy.nodes.size) ∧
    (∀ node ∈ taxonomy.nodes, node.firstChild + node.childCount ≤ taxonomy.nodes.size) ∧
    taxonomy.nodes.toList.flatMap Node.childPlaces = List.range' 1 (taxonomy.nodes.size - 1) := by
  intro offered taxonomy
  have valid : offered.2.Valid := Draft.valid_offer calls
  have tiled : taxonomy.Tiled := offered.2.tiled_freeze
  refine ⟨fun path place leads => ?_, fun place bound => tiled.exists_leadsTo bound,
    fun place => tiled.existsUnique_owner_iff, ?_, tiled.childPlaces_eq⟩
  · obtain ⟨node, forest, here, below, spans⟩ := valid.spans_of_leadsTo leads
    have sorted := valid.sorted.below? below
    refine ⟨node, here, ?_, spans.indices_children sorted, ?_, ?_, spans.child?_eq_find? sorted⟩
    · rw [spans.labels_children sorted]
      exact Forest.pairwise_labels sorted
    · rw [spans.length_children sorted]
      exact valid.narrow.below? valid.breadth_le below
    · intro label
      rw [spans.labels_children sorted]
      exact Draft.mem_labels_below_iff below
  · intro node member
    exact tiled.tiles.end_le node (Array.mem_toList_iff.mpr member)

end MapTypes
