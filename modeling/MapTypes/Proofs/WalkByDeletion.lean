import MapTypes.Proofs.WalkSteps

/-!
The walk told without marks. The candidates stand in a list, a path takes the tags it uses out of
the list, and every search begins anew at the head of what remains; children are looked for one
after the other. The marks of the real walk come to the same: the tags that are still open, in their
order, are the list that remains (`delete?_remaining`), so step for step the same tags are taken and
the same nodes passed.
-/

namespace MapTypes

namespace Deletion

/-- The first child with a label. -/
def childNamed? (taxonomy : Taxonomy) (node : Node) (label : String) : Option Node :=
  (taxonomy.children node).find? (·.label == label)

/-- The nodes that a tag leads to by its key: the child the key names and, where the value may stand
for a category and names a child of that one, this child too. -/
def nodesByKey (taxonomy : Taxonomy) (node : Node) (tag : Tag) : List Node :=
  match childNamed? taxonomy node tag.key with
  | none => []
  | some child =>
    child :: (if tag.valueClassifies then (childNamed? taxonomy child tag.value).toList else [])

/-- The node that a tag leads to by its value, if that may stand for a category. -/
def nodesByValue (taxonomy : Taxonomy) (node : Node) (tag : Tag) : List Node :=
  if tag.valueClassifies then (childNamed? taxonomy node tag.value).toList else []

/-- Takes the first tag that leads somewhere out of a list: where it leads, and what remains. -/
def delete? (leads : Tag → List Node) (tags : List Tag) : Option (List Node × List Tag) :=
  (tags.find? (leads · ≠ [])).map fun tag => (leads tag, tags.eraseP (leads · ≠ []))

theorem delete?_cons_of_leads {leads : Tag → List Node} {tag : Tag} {rest : List Tag}
    (led : leads tag ≠ []) : delete? leads (tag :: rest) = some (leads tag, rest) := by
  simp [delete?, led]

theorem delete?_cons_of_not_leads {leads : Tag → List Node} {tag : Tag} {rest : List Tag}
    (not : leads tag = []) : delete? leads (tag :: rest) =
      (delete? leads rest).map fun found => (found.1, tag :: found.2) := by
  simp [delete?, not, Function.comp_def]

theorem length_of_delete? {leads : Tag → List Node} {tags rest : List Tag} {nodes : List Node}
    (found : delete? leads tags = some (nodes, rest)) : rest.length < tags.length := by
  obtain ⟨tag, first, same⟩ := Option.map_eq_some_iff.mp found
  have removed := List.length_eraseP_of_mem (List.mem_of_find?_eq_some first)
    (List.find?_some first)
  have present := List.length_pos_of_mem (List.mem_of_find?_eq_some first)
  rw [← (Prod.mk.inj same).2]
  omega

/-- One step on from a node: by the value of a tag or, where no tag leads on so, by the key of
one. -/
def step? (taxonomy : Taxonomy) (node : Node) (tags : List Tag) : Option (List Node × List Tag) :=
  (delete? (nodesByValue taxonomy node) tags).or (delete? (nodesByKey taxonomy node) tags)

theorem length_of_step? {taxonomy : Taxonomy} {node : Node} {tags rest : List Tag}
    {nodes : List Node} (found : step? taxonomy node tags = some (nodes, rest)) :
    rest.length < tags.length := by
  rcases Option.or_eq_some_iff.mp found with byValue | ⟨_, byKey⟩
  · exact length_of_delete? byValue
  · exact length_of_delete? byKey

/-- Goes on from a node as long as some tag leads on: the nodes on the way, and the tags that
remain. -/
def descend (taxonomy : Taxonomy) (node : Node) (tags : List Tag) : List Node × List Tag :=
  match _found : step? taxonomy node tags with
  | none => ([], tags)
  | some (nodes, rest) =>
    let further := descend taxonomy (nodes.getLastD node) rest
    (nodes ++ further.1, further.2)
termination_by tags.length
decreasing_by exact length_of_step? _found

theorem descend_of_none {taxonomy : Taxonomy} {node : Node} {tags : List Tag}
    (stuck : step? taxonomy node tags = none) : descend taxonomy node tags = ([], tags) := by
  rw [descend]
  split
  · rfl
  · rename_i found
    rw [stuck] at found
    cases found

theorem descend_of_some {taxonomy : Taxonomy} {node : Node} {tags rest : List Tag}
    {nodes : List Node} (found : step? taxonomy node tags = some (nodes, rest)) :
    descend taxonomy node tags =
      (nodes ++ (descend taxonomy (nodes.getLastD node) rest).1,
        (descend taxonomy (nodes.getLastD node) rest).2) := by
  rw [descend]
  split
  · rename_i stuck
    rw [found] at stuck
    cases stuck
  · rename_i again
    rw [found] at again
    cases again
    rfl

theorem length_descend_le (taxonomy : Taxonomy) (node : Node) (tags : List Tag) :
    (descend taxonomy node tags).2.length ≤ tags.length := by
  fun_induction descend taxonomy node tags with
  | case1 => exact Nat.le_refl _
  | case2 node tags nodes rest found further ih =>
    exact Nat.le_trans ih (Nat.le_of_lt (length_of_step? found))

/-- The paths that a list of tags supports. Each starts at a child of the root that is the key of a
tag; there is none left when no key is. -/
def paths (taxonomy : Taxonomy) (tags : List Tag) : List (List Node) :=
  match _found : delete? (nodesByKey taxonomy taxonomy.root) tags with
  | none => []
  | some (nodes, rest) =>
    let further := descend taxonomy (nodes.getLastD taxonomy.root) rest
    (nodes ++ further.1) :: paths taxonomy further.2
termination_by tags.length
decreasing_by
  exact Nat.lt_of_le_of_lt (length_descend_le _ _ _) (length_of_delete? _found)

theorem paths_of_none {taxonomy : Taxonomy} {tags : List Tag}
    (nothing : delete? (nodesByKey taxonomy taxonomy.root) tags = none) :
    paths taxonomy tags = [] := by
  rw [paths]
  split
  · rfl
  · rename_i found
    rw [nothing] at found
    cases found

theorem paths_of_some {taxonomy : Taxonomy} {tags rest : List Tag} {nodes : List Node}
    (found : delete? (nodesByKey taxonomy taxonomy.root) tags = some (nodes, rest)) :
    paths taxonomy tags =
      (nodes ++ (descend taxonomy (nodes.getLastD taxonomy.root) rest).1) ::
        paths taxonomy (descend taxonomy (nodes.getLastD taxonomy.root) rest).2 := by
  rw [paths]
  split
  · rename_i nothing
    rw [found] at nothing
    cases nothing
  · rename_i again
    rw [found] at again
    cases again
    rfl

end Deletion

namespace Walk

variable {taxonomy : Taxonomy}

/-- The tags that may still be used, in their order. -/
def remaining (slots : List Slot) : List Tag :=
  (slots.filter Slot.isOpen).map Slot.tag

theorem remaining_slotsOf (tags : List Tag) :
    remaining (slotsOf tags) = tags.filter Tag.isCandidate := by
  induction tags with
  | nil => rfl
  | cons tag rest ih =>
    simp only [remaining, slotsOf, List.map_cons] at ih ⊢
    by_cases candidate : tag.isCandidate = true
    · simp [Slot.isOpen, candidate, ih]
    · simp [Slot.isOpen, candidate, ih]

/-- To mark the first open tag that leads somewhere is to take it out of what remains. -/
theorem delete?_remaining {leads : Tag → Option Descent} {nodes : Tag → List Node}
    (same : ∀ tag, nodes tag = ((leads tag).map Descent.nodes).getD []) (slots : List Slot) :
    Deletion.delete? nodes (remaining slots) =
      (claim? leads slots).map fun claim => (claim.descent.nodes, remaining claim.slots) := by
  induction slots with
  | nil => rfl
  | cons slot rest ih =>
    rw [claim?]
    by_cases isOpen : slot.isOpen = true
    · have first : remaining (slot :: rest) = slot.tag :: remaining rest := by
        simp [remaining, isOpen]
      rw [if_pos isOpen, first]
      cases led : leads slot.tag with
      | some descent =>
        have some : nodes slot.tag = descent.nodes := by rw [same, led]; rfl
        rw [Deletion.delete?_cons_of_leads (by simp [some, Descent.nodes]), some]
        simp [remaining, Slot.isOpen]
      | none =>
        rw [Deletion.delete?_cons_of_not_leads (by rw [same, led]; rfl), ih]
        simp [Function.comp_def, remaining, isOpen]
    · have passed : remaining (slot :: rest) = remaining rest := by
        simp [remaining, isOpen]
      rw [if_neg isOpen, passed, ih]
      simp [Option.map_map, Function.comp_def, remaining, isOpen]

/-- Over a sound taxonomy a label is looked up as if among all children. -/
theorem childNamed?_eq_child? (sound : taxonomy.Sound) {node : Node}
    (reachable : Relation.ReflTransGen taxonomy.HasChild taxonomy.root node) (label : String) :
    Deletion.childNamed? taxonomy node label = taxonomy.child? node label := by
  cases looked : Deletion.childNamed? taxonomy node label with
  | none =>
    refine ((sound.child?_eq_none_iff reachable).mpr fun child edge => ?_).symm
    simpa using List.find?_eq_none.mp looked child edge
  | some child =>
    refine ((sound.child?_eq_some_iff reachable).mpr ⟨List.mem_of_find?_eq_some looked, ?_⟩).symm
    simpa using List.find?_some looked

theorem nodesByKey_eq (sound : taxonomy.Sound) {node : Node}
    (reachable : Relation.ReflTransGen taxonomy.HasChild taxonomy.root node) (tag : Tag) :
    Deletion.nodesByKey taxonomy node tag =
      ((descentByKey? taxonomy node tag).map Descent.nodes).getD [] := by
  rw [Deletion.nodesByKey, descentByKey?, childNamed?_eq_child? sound reachable]
  cases found : taxonomy.child? node tag.key with
  | none => rfl
  | some child =>
    have onward := reachable.tail (Taxonomy.hasChild_of_child? found).1
    simp only [childNamed?_eq_child? sound onward]
    split <;> rfl

theorem nodesByValue_eq (sound : taxonomy.Sound) {node : Node}
    (reachable : Relation.ReflTransGen taxonomy.HasChild taxonomy.root node) (tag : Tag) :
    Deletion.nodesByValue taxonomy node tag =
      ((descentByValue? taxonomy node tag).map Descent.nodes).getD [] := by
  rw [Deletion.nodesByValue, descentByValue?, childNamed?_eq_child? sound reachable]
  split
  · cases taxonomy.child? node tag.value <;> rfl
  · rfl

theorem step?_remaining (sound : taxonomy.Sound) {node : Node}
    (reachable : Relation.ReflTransGen taxonomy.HasChild taxonomy.root node) (slots : List Slot) :
    Deletion.step? taxonomy node (remaining slots) =
      (step? taxonomy node slots).map fun claim =>
        (claim.descent.nodes, remaining claim.slots) := by
  rw [Deletion.step?, step?, delete?_remaining (nodesByValue_eq sound reachable),
    delete?_remaining (nodesByKey_eq sound reachable), Option.map_or]

theorem getLastD_nodes (descent : Descent) (node : Node) :
    descent.nodes.getLastD node = descent.last := by
  rw [List.getLastD_eq_getLast?, getLast?_nodes, Option.getD_some]

theorem reachable_last {node : Node} {tag : Tag} {descent : Descent}
    (reachable : Relation.ReflTransGen taxonomy.HasChild taxonomy.root node)
    (led : Leads taxonomy node tag descent) :
    Relation.ReflTransGen taxonomy.HasChild taxonomy.root descent.last := by
  have onward := Taxonomy.reachable_of_isChain (isChain_of_leads led)
  rw [getLastD_nodes] at onward
  exact reachable.trans onward

/-- Extending a trail with marks passes the same nodes as going on with a list, and leaves the same
tags. -/
theorem descend_remaining (sound : taxonomy.Sound) {node : Node} (slots : List Slot)
    (reachable : Relation.ReflTransGen taxonomy.HasChild taxonomy.root node) :
    Deletion.descend taxonomy node (remaining slots) =
      ((extend taxonomy node slots).1.flatMap (·.descent.nodes),
        remaining (extend taxonomy node slots).2) := by
  fun_induction extend taxonomy node slots with
  | case1 node slots claim found after ih =>
    obtain ⟨⟨tag, _, led⟩, _⟩ := step?_eq_some found
    have step := step?_remaining sound reachable slots
    rw [found, Option.map_some] at step
    rw [Deletion.descend_of_some step, getLastD_nodes, ih (reachable_last reachable led)]
    rfl
  | case2 node slots stuck =>
    have step := step?_remaining sound reachable slots
    rw [stuck, Option.map_none] at step
    exact Deletion.descend_of_none step

/-- The walk with marks finds the paths of the walk by deletion, in the same order. -/
theorem paths_remaining (sound : taxonomy.Sound) (slots : List Slot) :
    Deletion.paths taxonomy (remaining slots) = (trailsFrom taxonomy slots).map Trail.nodes := by
  have start := delete?_remaining (nodesByKey_eq sound .refl)
  fun_induction trailsFrom taxonomy slots with
  | case1 slots nothing =>
    have start := start slots
    rw [nothing, Option.map_none] at start
    exact Deletion.paths_of_none start
  | case2 slots claim found after ih =>
    obtain ⟨⟨tag, _, led⟩, _⟩ := claim?_eq_some found
    have start := start slots
    rw [found, Option.map_some] at start
    rw [Deletion.paths_of_some start, getLastD_nodes,
      descend_remaining sound claim.slots (reachable_last .refl (.inr led)), ih]
    rfl

/-- The category at the end of a way down from the root. -/
def discoveryAt (taxonomy : Taxonomy) (way : List Node) : Except TypeCode.Fault Discovery := do
  let code ← TypeCode.ofIndices (way.map Node.index)
  return ⟨code, (taxonomy.labelsOf? code).getD [], taxonomy.isVisible code⟩

theorem discover_eq_mapM (sound : taxonomy.Sound) (tags : List Tag) :
    discover taxonomy tags =
      (Deletion.paths taxonomy (tags.filter Tag.isCandidate)).mapM (discoveryAt taxonomy) := by
  rw [← remaining_slotsOf, paths_remaining sound, List.mapM_map]
  rfl

/-- The walk finds, in the same order, the codes that the walk by deletion finds among the
candidates. -/
theorem discover_eq_paths_by_deletion (entries : List Entry) (tags : List Tag) :
    let taxonomy := (Draft.empty.addAccepted entries).freeze
    ∃ discoveries, discover taxonomy tags = .ok discoveries ∧
      (Deletion.paths taxonomy (tags.filter Tag.isCandidate)).mapM
        (fun way => TypeCode.ofIndices (way.map Node.index)) =
          .ok (discoveries.map Discovery.code) := by
  intro taxonomy
  have sound : taxonomy.Sound := Taxonomy.sound_freeze entries
  obtain ⟨discoveries, ran⟩ := exists_discover sound tags
  refine ⟨discoveries, ran, ?_⟩
  rw [discover_eq_mapM sound, mapM_eq_ok_iff] at ran
  rw [mapM_eq_ok_iff, List.forall₂_map_right_iff]
  refine ran.imp fun way discovery found => ?_
  simp only [discoveryAt] at found
  cases packed : TypeCode.ofIndices (way.map Node.index) with
  | error fault =>
    rw [packed] at found
    cases found
  | ok code =>
    rw [packed] at found
    cases found
    rfl

end Walk

end MapTypes
