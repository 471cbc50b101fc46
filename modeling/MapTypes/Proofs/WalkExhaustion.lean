import Mathlib.Data.List.Perm.Subperm
import MapTypes.Proofs.WalkSteps

/-!
Nothing is used twice, and nothing is left that could be used. The trails of a walk share no tag,
they start further and further down the list, and in the end no unused candidate names a category of
the first level or a child of the node where any of the trails ended. That a trail cannot be
continued when it ends is plain; that it still cannot at the end of the walk holds because tags are
only ever used up.
-/

namespace MapTypes

/-- The key of a tag is the label of a child of a node. -/
def Taxonomy.NamesByKey (taxonomy : Taxonomy) (node : Node) (tag : Tag) : Prop :=
  ∃ child ∈ taxonomy.children node, child.label = tag.key

/-- The value of a tag may stand for a category and is the label of a child of a node. -/
def Taxonomy.NamesByValue (taxonomy : Taxonomy) (node : Node) (tag : Tag) : Prop :=
  tag.valueClassifies = true ∧ ∃ child ∈ taxonomy.children node, child.label = tag.value

instance (taxonomy : Taxonomy) (node : Node) (tag : Tag) :
    Decidable (taxonomy.NamesByKey node tag) :=
  inferInstanceAs (Decidable (∃ child ∈ taxonomy.children node, child.label = tag.key))

namespace Walk

variable {taxonomy : Taxonomy} {node : Node} {tag : Tag}

theorem descentByKey?_eq_none_iff (sound : taxonomy.Sound)
    (reachable : Relation.ReflTransGen taxonomy.HasChild taxonomy.root node) :
    descentByKey? taxonomy node tag = none ↔ ¬ taxonomy.NamesByKey node tag := by
  rw [descentByKey?, Option.map_eq_none_iff, sound.child?_eq_none_iff reachable]
  simp [Taxonomy.NamesByKey, Taxonomy.HasChild]

theorem descentByValue?_eq_none_iff (sound : taxonomy.Sound)
    (reachable : Relation.ReflTransGen taxonomy.HasChild taxonomy.root node) :
    descentByValue? taxonomy node tag = none ↔ ¬ taxonomy.NamesByValue node tag := by
  rw [descentByValue?]
  split
  · rename_i classifies
    rw [Option.map_eq_none_iff, sound.child?_eq_none_iff reachable]
    simp [Taxonomy.NamesByValue, Taxonomy.HasChild, classifies]
  · rename_i classifies
    simp [Taxonomy.NamesByValue, classifies]

/-- The tags that start trails stand further and further down the list. -/
theorem starts_increase (taxonomy : Taxonomy) (slots : List Slot) :
    ((trailsFrom taxonomy slots).map (·.start.position)).Pairwise (· < ·) ∧
      ∀ trail ∈ trailsFrom taxonomy slots, ∃ tag, Open slots trail.start.position tag ∧
        descentByKey? taxonomy taxonomy.root tag = some trail.start.descent := by
  fun_induction trailsFrom taxonomy slots with
  | case1 slots nothing => simp
  | case2 slots claim found after ih =>
    obtain ⟨here, first, claimed⟩ := claim?_eq_some found
    have extended := (extend_spec taxonomy claim.descent.last claim.slots).1
    obtain ⟨increasing, started⟩ := ih
    have uses := claimed.trans extended
    refine ⟨List.pairwise_cons.mpr ⟨?_, increasing⟩, ?_⟩
    · intro position member
      obtain ⟨trail, onward, rfl⟩ := List.mem_map.mp member
      obtain ⟨tag, isOpen, led⟩ := started trail onward
      obtain ⟨wasOpen, unused⟩ := (uses.open_iff _ _).mp isOpen
      -- An earlier tag would have been claimed, and this one is used up.
      rcases Nat.lt_trichotomy trail.start.position claim.position with less | same | greater
      · rw [first _ tag less wasOpen] at led
        cases led
      · exact absurd (by simp [same]) unused
      · exact greater
    · intro trail member
      rcases List.mem_cons.mp member with rfl | onward
      · exact here
      · obtain ⟨tag, isOpen, led⟩ := started trail onward
        exact ⟨tag, ((uses.open_iff _ _).mp isOpen).1, led⟩

/-- Distinct positions of tags of a kind are no more than the tags of this kind. -/
theorem length_le_countP {tags : List Tag} {kind : Tag → Bool} {positions : List Nat}
    (nodup : positions.Nodup)
    (each : ∀ i ∈ positions, ∃ tag, tags[i]? = some tag ∧ kind tag = true) :
    positions.length ≤ tags.countP kind := by
  have listed : (List.range tags.length).map (fun i => tags[i]?.getD default) = tags := by
    apply List.ext_getElem?
    intro i
    rw [List.getElem?_map]
    rcases Nat.lt_or_ge i tags.length with inside | outside
    · simp [inside]
    · simp [outside]
  have subset : positions ⊆
      (List.range tags.length).filter (fun i => kind (tags[i]?.getD default)) := by
    intro i member
    obtain ⟨tag, here, ofKind⟩ := each i member
    have inside := (List.getElem?_eq_some_iff.mp here).1
    rw [List.mem_filter, List.mem_range, here]
    exact ⟨inside, ofKind⟩
  calc positions.length
      ≤ ((List.range tags.length).filter (fun i => kind (tags[i]?.getD default))).length :=
        (nodup.subperm subset).length_le
    _ = ((List.range tags.length).map (fun i => tags[i]?.getD default)).countP kind := by
        rw [List.countP_map, List.countP_eq_length_filter]
        rfl
    _ = tags.countP kind := by rw [listed]

/-- No more tags are used than there are candidates. -/
theorem length_usedBy_le (taxonomy : Taxonomy) (tags : List Tag) :
    (usedBy (trails taxonomy tags)).length ≤ tags.countP Tag.isCandidate := by
  obtain ⟨_, uses, _⟩ := trailsFrom_spec taxonomy (slotsOf tags)
  refine length_le_countP uses.nodup fun i member => ?_
  obtain ⟨tag, isOpen⟩ := uses.was_open i member
  exact ⟨tag, open_slotsOf.mp isOpen⟩

/-- There are no more trails than candidates that name a category of the first level. -/
theorem length_trails_le (sound : taxonomy.Sound) (tags : List Tag) :
    (trails taxonomy tags).length ≤
      tags.countP (fun tag => tag.isCandidate ∧ taxonomy.NamesByKey taxonomy.root tag) := by
  obtain ⟨increasing, started⟩ := starts_increase taxonomy (slotsOf tags)
  rw [← List.length_map (f := fun trail : Trail => trail.start.position)]
  refine length_le_countP (increasing.imp Nat.ne_of_lt) fun i member => ?_
  obtain ⟨trail, onward, rfl⟩ := List.mem_map.mp member
  obtain ⟨tag, isOpen, led⟩ := started trail onward
  obtain ⟨here, candidate⟩ := open_slotsOf.mp isOpen
  have named : taxonomy.NamesByKey taxonomy.root tag := by
    by_contra unnamed
    rw [(descentByKey?_eq_none_iff sound .refl).mpr unnamed] at led
    cases led
  exact ⟨tag, here, by simp [candidate, named]⟩

/-- A candidate that the walk leaves unused starts no trail and continues none. -/
theorem unused_names_nothing (sound : taxonomy.Sound) {tags : List Tag} {i : Nat}
    (here : tags[i]? = some tag) (candidate : tag.isCandidate = true)
    (unused : i ∉ usedBy (trails taxonomy tags)) :
    ¬ taxonomy.NamesByKey taxonomy.root tag ∧
      ∀ trail ∈ trails taxonomy tags, ∀ last, trail.nodes.getLast? = some last →
        ¬ taxonomy.NamesByKey last tag ∧ ¬ taxonomy.NamesByValue last tag := by
  obtain ⟨after, uses, rootless, each⟩ := trailsFrom_spec taxonomy (slotsOf tags)
  have isOpen : Open after i tag :=
    (uses.open_iff i tag).mpr ⟨open_slotsOf.mpr ⟨here, candidate⟩, unused⟩
  refine ⟨(descentByKey?_eq_none_iff sound .refl).mp (rootless i tag isOpen), ?_⟩
  intro trail member last isLast
  obtain ⟨follows, stuck⟩ := each trail member
  have atEnd : endOf taxonomy.root trail.hops = last := by
    rw [endOf, List.getLastD_eq_getLast?]
    exact Option.getD_eq_iff.mpr (.inl isLast)
  have reachable := Taxonomy.reachable_of_isChain follows.isChain
  rw [← endOf, atEnd] at reachable
  rw [atEnd] at stuck
  obtain ⟨byValue, byKey⟩ := step?_eq_none_iff.mp stuck i tag isOpen
  exact ⟨(descentByKey?_eq_none_iff sound reachable).mp byKey,
    (descentByValue?_eq_none_iff sound reachable).mp byValue⟩

/-- The walk ends with every tag used at most once, by steps that lead down the taxonomy from starts
in increasing order, and with no candidate left that could start a trail or continue one. -/
theorem walk_exhausts_candidates (entries : List Entry) (tags : List Tag) :
    let taxonomy := (Draft.empty.addAccepted entries).freeze
    let found := trails taxonomy tags
    (∃ discoveries, discover taxonomy tags = .ok discoveries ∧
      List.Forall₂ (fun trail discovery => discoveryOf taxonomy trail = .ok discovery)
        found discoveries) ∧
    (∀ trail ∈ found, Follows taxonomy (slotsOf tags) taxonomy.root trail.hops) ∧
    (usedBy found).Nodup ∧
    (usedBy found).length ≤ tags.countP Tag.isCandidate ∧
    (found.map (·.start.position)).Pairwise (· < ·) ∧
    found.length ≤
      tags.countP (fun tag => tag.isCandidate ∧ taxonomy.NamesByKey taxonomy.root tag) ∧
    ∀ i tag, tags[i]? = some tag → tag.isCandidate = true → i ∉ usedBy found →
      ¬ taxonomy.NamesByKey taxonomy.root tag ∧
      ∀ trail ∈ found, ∀ last, trail.nodes.getLast? = some last →
        ¬ taxonomy.NamesByKey last tag ∧ ¬ taxonomy.NamesByValue last tag := by
  intro taxonomy found
  have sound : taxonomy.Sound := Taxonomy.sound_freeze entries
  obtain ⟨_, uses, _, each⟩ := trailsFrom_spec taxonomy (slotsOf tags)
  obtain ⟨discoveries, ran⟩ := exists_discover sound tags
  refine ⟨⟨discoveries, ran, mapM_eq_ok_iff.mp ran⟩, fun trail member => (each trail member).1,
    uses.nodup, length_usedBy_le taxonomy tags, (starts_increase taxonomy (slotsOf tags)).1,
    length_trails_le sound tags, ?_⟩
  intro i tag here candidate unused
  exact unused_names_nothing sound here candidate unused

end Walk

end MapTypes
