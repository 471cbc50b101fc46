import MapTypes.Proofs.ArenaLayout

/-!
Ordinals and labels of siblings. In a frozen draft the children of a node stand in the order of
their labels, each at the place that is its ordinal. So an ordinal names a child as well as a label
does: going down by labels and going down by ordinals are both to follow a way of nodes, and of two
ways from one node the ordinals compare as the labels do.
-/

namespace MapTypes

theorem Forest.length_labels (forest : Forest) : forest.labels.length = forest.breadth := by
  induction forest with
  | nil => rfl
  | cons label visible below next _ ih => simp [labels, breadth, ih]

namespace Taxonomy

variable {taxonomy : Taxonomy} {node : Node}

/-- A sound taxonomy in which siblings are in the order of their labels and numbered from zero
on. -/
structure Numbered (taxonomy : Taxonomy) : Prop extends taxonomy.Sound where
  label_lt : ∀ {node : Node}, Relation.ReflTransGen taxonomy.HasChild taxonomy.root node →
    (taxonomy.children node).Pairwise (·.label < ·.label)
  index_eq : ∀ {node : Node}, Relation.ReflTransGen taxonomy.HasChild taxonomy.root node →
    ∀ {place : Nat} {child : Node}, (taxonomy.children node)[place]? = some child →
      child.index = place

theorem childAt?_eq_getElem? (taxonomy : Taxonomy) (node : Node) (index : Nat) :
    taxonomy.childAt? node index = (taxonomy.children node)[index]? := by
  rw [childAt?, children, Array.getElem?_toList, Array.getElem?_extract]
  by_cases bound : index < node.childCount
  · rw [if_pos bound]
    split
    · rfl
    · rename_i outside
      exact Array.getElem?_eq_none (by omega)
  · rw [if_neg bound, if_neg (by omega)]

theorem Spans.getElem?_children {forest : Forest} (spans : taxonomy.Spans node forest)
    (sorted : forest.Sorted) {place : Nat} (bound : place < forest.breadth) :
    ∃ child, (taxonomy.children node)[place]? = some child ∧ child.index = place ∧
      forest.labels[place]? = some child.label := by
  obtain ⟨child, _, here, ordinal, labelled, _⟩ := spans.stored.child sorted bound
  refine ⟨child, ?_, by omega, labelled⟩
  rw [← childAt?_eq_getElem?, childAt?, spans.childCount_eq, if_pos bound, here]

theorem Spans.length_children {forest : Forest} (spans : taxonomy.Spans node forest)
    (sorted : forest.Sorted) : (taxonomy.children node).length = forest.breadth := by
  apply Nat.le_antisymm
  · rw [children, Array.length_toList, Array.size_extract, ← spans.childCount_eq]
    omega
  · by_contra fewer
    obtain ⟨child, found, _⟩ := spans.getElem?_children sorted (Nat.not_le.mp fewer)
    rw [List.getElem?_eq_none (Nat.le_refl _)] at found
    cases found

/-- The children bear the labels of the trees, in their order. -/
theorem Spans.labels_children {forest : Forest} (spans : taxonomy.Spans node forest)
    (sorted : forest.Sorted) : (taxonomy.children node).map Node.label = forest.labels := by
  apply List.ext_getElem?
  intro place
  rw [List.getElem?_map]
  by_cases bound : place < forest.breadth
  · obtain ⟨child, found, _, labelled⟩ := spans.getElem?_children sorted bound
    rw [found, labelled]
    rfl
  · have beyond : forest.breadth ≤ place := Nat.not_lt.mp bound
    rw [List.getElem?_eq_none (by rwa [spans.length_children sorted]),
      List.getElem?_eq_none (by rwa [Forest.length_labels])]
    rfl

end Taxonomy

theorem Draft.Valid.numbered {draft : Draft} (valid : draft.Valid) : draft.freeze.Numbered where
  toSound := valid.sound
  label_lt {node} reachable := by
    obtain ⟨levels, forest, validForest, spans⟩ := valid.roomy reachable
    have sorted := Forest.pairwise_labels validForest.sorted
    rw [← spans.labels_children validForest.sorted] at sorted
    exact List.pairwise_map.mp sorted
  index_eq {node} reachable {place child} found := by
    obtain ⟨levels, forest, validForest, spans⟩ := valid.roomy reachable
    have bound : place < forest.breadth := by
      rw [← spans.length_children validForest.sorted]
      exact (List.getElem?_eq_some_iff.mp found).1
    obtain ⟨sibling, here, ordinal, _⟩ := spans.getElem?_children validForest.sorted bound
    rw [found, Option.some.injEq] at here
    rw [here, ordinal]

/-- Every taxonomy that is frozen from accepted paths is numbered, whatever paths were refused. -/
theorem Taxonomy.numbered_freeze (entries : List Entry) :
    (Draft.empty.addAccepted entries).freeze.Numbered :=
  (Draft.valid_empty.addAccepted entries).numbered

namespace Taxonomy

variable {taxonomy : Taxonomy} {node child other : Node} {way further : List Node}

/-! ## Siblings -/

theorem Numbered.childAt?_eq_some_iff (numbered : taxonomy.Numbered)
    (reachable : Relation.ReflTransGen taxonomy.HasChild taxonomy.root node) {index : Nat} :
    taxonomy.childAt? node index = some child ↔
      taxonomy.HasChild node child ∧ child.index = index := by
  rw [childAt?_eq_getElem?]
  constructor
  · intro found
    exact ⟨List.mem_of_getElem? found, numbered.index_eq reachable found⟩
  · rintro ⟨edge, rfl⟩
    obtain ⟨place, found⟩ := List.mem_iff_getElem?.mp edge
    rwa [numbered.index_eq reachable found]

/-- Siblings compare by ordinal as they do by label. -/
theorem Numbered.index_lt_iff (numbered : taxonomy.Numbered)
    (reachable : Relation.ReflTransGen taxonomy.HasChild taxonomy.root node)
    (edge : taxonomy.HasChild node child) (edgeOther : taxonomy.HasChild node other) :
    child.index < other.index ↔ child.label < other.label := by
  obtain ⟨place, bound, found⟩ := List.getElem_of_mem edge
  obtain ⟨placeOther, boundOther, foundOther⟩ := List.getElem_of_mem edgeOther
  have ordinal := numbered.index_eq reachable
    (List.getElem?_eq_some_iff.mpr ⟨bound, found⟩)
  have ordinalOther := numbered.index_eq reachable
    (List.getElem?_eq_some_iff.mpr ⟨boundOther, foundOther⟩)
  have increasing := List.pairwise_iff_getElem.mp (numbered.label_lt reachable)
  rw [ordinal, ordinalOther]
  rcases Nat.lt_trichotomy place placeOther with before | same | after
  · have less := increasing place placeOther bound boundOther before
    rw [found, foundOther] at less
    exact iff_of_true before less
  · subst same
    rw [found] at foundOther
    subst foundOther
    simp
  · have less := increasing placeOther place boundOther bound after
    rw [found, foundOther] at less
    exact iff_of_false (Nat.lt_asymm after) (lt_asymm less)

/-- Siblings have one ordinal just when they have one label, and are then the same. -/
theorem Numbered.index_eq_iff (numbered : taxonomy.Numbered)
    (reachable : Relation.ReflTransGen taxonomy.HasChild taxonomy.root node)
    (edge : taxonomy.HasChild node child) (edgeOther : taxonomy.HasChild node other) :
    (child.index = other.index ↔ child.label = other.label) ∧
      (child.index = other.index → child = other) := by
  have same : child.index = other.index → child = other := by
    intro equal
    have found := (numbered.childAt?_eq_some_iff reachable).mpr ⟨edge, equal⟩
    rw [(numbered.childAt?_eq_some_iff reachable).mpr ⟨edgeOther, rfl⟩, Option.some.injEq] at found
    exact found.symm
  refine ⟨⟨fun equal => congrArg Node.label (same equal), fun equal => ?_⟩, same⟩
  apply Nat.le_antisymm
  · rw [← Nat.not_lt, numbered.index_lt_iff reachable edgeOther edge, equal]
    exact lt_irrefl _
  · rw [← Nat.not_lt, numbered.index_lt_iff reachable edge edgeOther, equal]
    exact lt_irrefl _

/-! ## Ways -/

/-- A descent that goes, key by key, to the child with the key follows the way with these keys. -/
theorem descent_eq_some_iff {κ : Type} (key : Node → κ) (step : Node → κ → Option Node)
    (descent : Node → List κ → Option (List Node)) (atEnd : ∀ node, descent node [] = some [])
    (goesOn : ∀ node first rest, descent node (first :: rest) =
      (step node first).bind fun child =>
        (descent child rest).bind fun onward => some (child :: onward))
    (step_iff : ∀ {node : Node}, Relation.ReflTransGen taxonomy.HasChild taxonomy.root node →
      ∀ {first : κ} {child : Node},
        step node first = some child ↔ taxonomy.HasChild node child ∧ key child = first)
    (reachable : Relation.ReflTransGen taxonomy.HasChild taxonomy.root node) {keys : List κ} :
    descent node keys = some way ↔
      (node :: way).IsChain taxonomy.HasChild ∧ way.map key = keys := by
  induction keys generalizing node way with
  | nil =>
    rw [atEnd, Option.some.injEq, List.map_eq_nil_iff]
    constructor
    · rintro rfl
      exact ⟨.singleton node, rfl⟩
    · rintro ⟨_, rfl⟩
      rfl
  | cons first rest ih =>
    rw [goesOn, Option.bind_eq_some_iff]
    constructor
    · rintro ⟨child, here, below⟩
      obtain ⟨onward, found, same⟩ := Option.bind_eq_some_iff.mp below
      cases same
      obtain ⟨edge, rfl⟩ := (step_iff reachable).mp here
      obtain ⟨chain, same⟩ := (ih (reachable.tail edge)).mp found
      exact ⟨.cons_cons edge chain, by rw [List.map_cons, same]⟩
    · rintro ⟨chain, same⟩
      cases way with
      | nil => cases same
      | cons child onward =>
        rw [List.map_cons, List.cons.injEq] at same
        obtain ⟨edge, chain⟩ := List.isChain_cons_cons.mp chain
        have found := (ih (reachable.tail edge)).mpr ⟨chain, same.2⟩
        exact ⟨child, (step_iff reachable).mpr ⟨edge, same.1⟩, by rw [found]; rfl⟩

/-- Going down by labels is to follow the way with these labels. -/
theorem Sound.descend?_eq_some_iff (sound : taxonomy.Sound)
    (reachable : Relation.ReflTransGen taxonomy.HasChild taxonomy.root node) {path : List String} :
    taxonomy.descend? node path = some way ↔
      (node :: way).IsChain taxonomy.HasChild ∧ way.map Node.label = path :=
  descent_eq_some_iff Node.label taxonomy.child? taxonomy.descend? (fun _ => rfl)
    (fun _ _ _ => rfl) (fun reached => sound.child?_eq_some_iff reached) reachable

/-- Going down by ordinals is to follow the way with these ordinals. -/
theorem Numbered.descendAt?_eq_some_iff (numbered : taxonomy.Numbered)
    (reachable : Relation.ReflTransGen taxonomy.HasChild taxonomy.root node) {indices : List Nat} :
    taxonomy.descendAt? node indices = some way ↔
      (node :: way).IsChain taxonomy.HasChild ∧ way.map Node.index = indices :=
  descent_eq_some_iff Node.index taxonomy.childAt? taxonomy.descendAt? (fun _ => rfl)
    (fun _ _ _ => rfl) (fun reached => numbered.childAt?_eq_some_iff reached) reachable

/-- Two ways from one node compare by their ordinals as they do by their labels. -/
theorem Numbered.indices_lt_iff (numbered : taxonomy.Numbered)
    (reachable : Relation.ReflTransGen taxonomy.HasChild taxonomy.root node)
    (chain : (node :: way).IsChain taxonomy.HasChild)
    (chainOther : (node :: further).IsChain taxonomy.HasChild) :
    way.map Node.index < further.map Node.index ↔ way.map Node.label < further.map Node.label := by
  induction way generalizing node further with
  | nil => cases further <;> simp
  | cons child rest ih =>
    cases further with
    | nil => simp
    | cons other onward =>
      obtain ⟨edge, chain⟩ := List.isChain_cons_cons.mp chain
      obtain ⟨edgeOther, chainOther⟩ := List.isChain_cons_cons.mp chainOther
      simp only [List.map_cons, List.cons_lt_cons_iff,
        numbered.index_lt_iff reachable edge edgeOther]
      obtain ⟨alike, same⟩ := numbered.index_eq_iff reachable edge edgeOther
      rw [← alike]
      refine or_congr_right (and_congr_right fun equal => ?_)
      cases same equal
      exact ih (reachable.tail edge) chain chainOther

end Taxonomy

end MapTypes
