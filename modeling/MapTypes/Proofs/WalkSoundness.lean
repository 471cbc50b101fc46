import MapTypes.Proofs.PathCodes
import MapTypes.Proofs.TypeProvenance
import MapTypes.Proofs.WalkExhaustion

/-!
What a discovery says is so. Every trail of the walk is a way down from the root, each node of it is
named by a candidate, the first by its key. The labels, the code and the prefixes of the code that
are computed from the ordinals of the way are therefore those of one path.
-/

namespace MapTypes.Walk

variable {taxonomy : Taxonomy} {tags : List Tag}

/-- A candidate has a label for its key. -/
def NamedByKey (tags : List Tag) (label : String) : Prop :=
  ∃ tag ∈ tags, tag.isCandidate = true ∧ tag.key = label

/-- A candidate has a label for its key, or for its value where that may stand for a category. -/
def Named (tags : List Tag) (label : String) : Prop :=
  ∃ tag ∈ tags, tag.isCandidate = true ∧
    (tag.key = label ∨ tag.valueClassifies = true ∧ tag.value = label)

/-- A discovery is the category at the end of a path that the tags support, and all that it says is
in terms of this path. -/
structure Discovery.StandsFor (taxonomy : Taxonomy) (tags : List Tag) (discovery : Discovery)
    (path : List String) : Prop where
  nonempty : 1 ≤ path.length
  length_le : path.length ≤ TypeCode.maxLevels
  codeOf? : taxonomy.codeOf? path = .ok (some discovery.code)
  labelsOf? : taxonomy.labelsOf? discovery.code = some path
  labels : discovery.labels = path
  /-- The code of every shorter path is the truncated code. -/
  prefixes : ∀ levels, 1 ≤ levels → levels ≤ path.length →
    taxonomy.codeOf? (path.take levels) = .ok (some (discovery.code.truncate levels))
  /-- The first label is a key. -/
  first : ∀ label ∈ path.head?, NamedByKey tags label
  /-- The labels after the first are keys or values. -/
  later : ∀ label ∈ path.tail, Named tags label
  visible : discovery.visible = taxonomy.isVisible discovery.code

/-! ## Labels of a trail -/

/-- A tag names all nodes that it leads to. -/
theorem named_of_leads {node child : Node} {tag : Tag} {descent : Descent}
    (member : tag ∈ tags) (candidate : tag.isCandidate = true)
    (led : Leads taxonomy node tag descent) (reached : child ∈ descent.nodes) :
    Named tags child.label := by
  refine ⟨tag, member, candidate, ?_⟩
  obtain ⟨first, second⟩ := descent
  rw [Descent.nodes, List.mem_cons, Option.mem_toList] at reached
  rcases led with byValue | byKey
  · obtain ⟨classifies, found, alone⟩ := descentByValue?_eq_some byValue
    rcases reached with rfl | further
    · exact .inr ⟨classifies, (Taxonomy.hasChild_of_child? found).2.symm⟩
    · rw [alone] at further
      cases further
  · obtain ⟨found, onward⟩ := descentByKey?_eq_some byKey
    rcases reached with rfl | further
    · exact .inl (Taxonomy.hasChild_of_child? found).2.symm
    · rw [further] at onward
      split at onward
      · rename_i classifies
        exact .inr ⟨classifies, (Taxonomy.hasChild_of_child? onward.symm).2.symm⟩
      · cases onward

/-- Every node of a trail is named. -/
theorem Follows.named {node : Node} {hops : List Hop}
    (follows : Follows taxonomy (slotsOf tags) node hops) :
    ∀ child ∈ hops.flatMap (·.descent.nodes), Named tags child.label := by
  induction follows with
  | nil node =>
    intro child member
    cases member
  | cons isOpen led _ ih =>
    intro child member
    rw [List.flatMap_cons, List.mem_append] at member
    rcases member with here | onward
    · obtain ⟨place, candidate⟩ := open_slotsOf.mp isOpen
      exact named_of_leads (List.mem_of_getElem? place) candidate led here
    · exact ih child onward

/-- The first node of a trail is named by a key. -/
theorem namedByKey_start {trail : Trail} (member : trail ∈ trails taxonomy tags) :
    NamedByKey tags trail.start.descent.first.label := by
  obtain ⟨tag, isOpen, led⟩ := (starts_increase taxonomy (slotsOf tags)).2 trail member
  obtain ⟨place, candidate⟩ := open_slotsOf.mp isOpen
  obtain ⟨found, _⟩ := descentByKey?_eq_some led
  exact ⟨tag, List.mem_of_getElem? place, candidate,
    (Taxonomy.hasChild_of_child? found).2.symm⟩

theorem Trail.nodes_eq_cons (trail : Trail) :
    ∃ onward, trail.nodes = trail.start.descent.first :: onward :=
  ⟨_, rfl⟩

/-! ## Discoveries -/

theorem discoveryOf_eq_ok {trail : Trail} {discovery : Discovery}
    (made : discoveryOf taxonomy trail = .ok discovery) :
    TypeCode.ofIndices (trail.nodes.map Node.index) = .ok discovery.code ∧
      discovery.labels = (taxonomy.labelsOf? discovery.code).getD [] ∧
      discovery.visible = taxonomy.isVisible discovery.code := by
  rw [discoveryOf] at made
  cases packed : TypeCode.ofIndices (trail.nodes.map Node.index) with
  | error fault =>
    rw [packed] at made
    cases made
  | ok code =>
    rw [packed] at made
    cases made
    exact ⟨rfl, rfl, rfl⟩

/-- Whatever the walk finds stands for a path. -/
theorem standsFor_of_discover (numbered : taxonomy.Numbered) {discoveries : List Discovery}
    (ran : discover taxonomy tags = .ok discoveries) {discovery : Discovery}
    (found : discovery ∈ discoveries) : ∃ path, discovery.StandsFor taxonomy tags path := by
  obtain ⟨trail, member, made⟩ := (mem_of_mapM_eq_ok ran).mp found
  obtain ⟨packed, said, drawn⟩ := discoveryOf_eq_ok made
  -- The trail is a chain of nodes, and everything about its path is read off this chain.
  obtain ⟨_, _, _, each⟩ := trailsFrom_spec taxonomy (slotsOf tags)
  have follows : Follows taxonomy (slotsOf tags) taxonomy.root trail.hops := (each trail member).1
  have chain : (taxonomy.root :: trail.nodes).IsChain taxonomy.HasChild := follows.isChain
  obtain ⟨onward, split⟩ := trail.nodes_eq_cons
  have codes : taxonomy.codeOf? (trail.nodes.map Node.label) = .ok (some discovery.code) :=
    numbered.codeOf?_eq_some_iff.mpr ⟨trail.nodes, by rw [split]; simp, chain, rfl, packed⟩
  have named := numbered.labelsOf?_of_codeOf? codes
  refine ⟨trail.nodes.map Node.label, ?_⟩
  constructor
  case nonempty => simp [split]
  case length_le => simpa using (numbered.fit_of_way chain).length_le
  case codeOf? => exact codes
  case labelsOf? => exact named
  case labels => rw [said, named, Option.getD_some]
  case prefixes => exact fun levels positive _ => numbered.codeOf?_take codes positive
  case visible => exact drawn
  case first =>
    intro label isFirst
    rw [split, List.map_cons, List.head?_cons, Option.mem_some] at isFirst
    rw [← isFirst]
    exact namedByKey_start member
  case later =>
    intro label isLater
    obtain ⟨child, reached, rfl⟩ := List.mem_map.mp (List.mem_of_mem_tail isLater)
    exact follows.named child reached

/-- Every code that the walk finds is that of a path. -/
theorem placed_of_discover (numbered : taxonomy.Numbered) {discoveries : List Discovery}
    (ran : discover taxonomy tags = .ok discoveries) {code : TypeCode}
    (found : code ∈ discoveries.map Discovery.code) :
    ∃ path, taxonomy.codeOf? path = .ok (some code) := by
  obtain ⟨discovery, listed, rfl⟩ := List.mem_map.mp found
  obtain ⟨path, stands⟩ := standsFor_of_discover numbered ran listed
  exact ⟨path, stands.codeOf?⟩

/-- Classification over a frozen draft gives a record, and whatever it lists as found stands for a
path that the tags support, as they are left by the stages before the walk. -/
theorem discoveries_stand_for_paths (entries : List Entry) (options : Options)
    (element : Element) :
    let taxonomy := (Draft.empty.addAccepted entries).freeze
    ∃ outcome, element.classify taxonomy options =
        .ok (outcome, { element with tags := outcome.tags }) ∧
      outcome.tags = (Classify.prepare element.tags).2 ∧
      discover taxonomy outcome.tags = .ok outcome.discoveries ∧
      ∀ discovery ∈ outcome.discoveries, ∃ path,
        discovery.StandsFor taxonomy outcome.tags path := by
  intro taxonomy
  have numbered : taxonomy.Numbered := Taxonomy.numbered_freeze entries
  obtain ⟨landmarks, found, hasEntrance, hasAddress, _⟩ :=
    Landmarks.exists_find numbered.toSound
  obtain ⟨discoveries, walked⟩ :=
    exists_discover numbered.toSound (Classify.prepare element.tags).2
  obtain ⟨outcome, concluded, left, same, _⟩ :=
    @Classify.conclude_spec taxonomy options landmarks numbered.toSound hasEntrance hasAddress
      (Classify.prepare element.tags) (Classify.types_prepare element.tags) discoveries
  have ran := Element.classify_of_stages found walked concluded
  rw [← left, ← same] at walked
  exact ⟨outcome, ran, left, walked, fun discovery member =>
    standsFor_of_discover numbered walked member⟩

end MapTypes.Walk
