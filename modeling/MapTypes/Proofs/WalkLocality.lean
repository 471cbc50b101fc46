import MapTypes.Proofs.WalkByDeletion
import MapTypes.Proofs.WalkExhaustion

/-!
Features that have nothing to do with each other are found each on its own. Where the tags of one
list say nothing about what is below the roots that the other list names, and the other way round,
the walk over both lists, mixed in any way, finds the paths of the one and the paths of the other,
mixed. The walk by deletion makes this plain: a step takes the same tag whether the foreign tags
stand in between or not, and leaves them all behind (`Deletion.step?_interleaving`).
-/

namespace MapTypes

/-- A list that is made of two others, each of them in its order. -/
inductive Interleaving {α : Type} : List α → List α → List α → Prop where
  | nil : Interleaving [] [] []
  | left (x : α) {first second merged : List α} (rest : Interleaving first second merged) :
      Interleaving (x :: first) second (x :: merged)
  | right (x : α) {first second merged : List α} (rest : Interleaving first second merged) :
      Interleaving first (x :: second) (x :: merged)

namespace Interleaving

variable {α : Type} {first second merged : List α}

theorem symm (mixed : Interleaving first second merged) : Interleaving second first merged := by
  induction mixed with
  | nil => exact .nil
  | left x _ ih => exact .right x ih
  | right x _ ih => exact .left x ih

theorem filter (keep : α → Bool) (mixed : Interleaving first second merged) :
    Interleaving (first.filter keep) (second.filter keep) (merged.filter keep) := by
  induction mixed with
  | nil => exact .nil
  | left x _ ih =>
    by_cases kept : keep x = true
    · simpa only [List.filter_cons_of_pos kept] using ih.left x
    · simpa only [List.filter_cons_of_neg kept] using ih
  | right x _ ih =>
    by_cases kept : keep x = true
    · simpa only [List.filter_cons_of_pos kept] using ih.right x
    · simpa only [List.filter_cons_of_neg kept] using ih

/-- Mixed with nothing a list stays as it is. -/
theorem eq_of_nil (mixed : Interleaving first [] merged) : merged = first := by
  induction first generalizing merged with
  | nil =>
    cases mixed
    rfl
  | cons x rest ih =>
    obtain _ | ⟨_, mixed⟩ := mixed
    rw [ih mixed]

/-- What runs through two lists without a fault runs through their mixture, with the results mixed
in the same way. -/
theorem mapM {β ε : Type} {f : α → Except ε β} {firsts seconds : List β}
    (mixed : Interleaving first second merged) (ranFirst : first.mapM f = .ok firsts)
    (ranSecond : second.mapM f = .ok seconds) :
    ∃ results, merged.mapM f = .ok results ∧ Interleaving firsts seconds results := by
  simp only [mapM_eq_ok_iff] at ranFirst ranSecond ⊢
  induction mixed generalizing firsts seconds with
  | nil =>
    cases ranFirst
    cases ranSecond
    exact ⟨[], .nil, .nil⟩
  | left x _ ih =>
    obtain _ | ⟨here, ranFirst⟩ := ranFirst
    obtain ⟨results, ran, mixed⟩ := ih ranFirst ranSecond
    exact ⟨_, .cons here ran, mixed.left _⟩
  | right x _ ih =>
    obtain _ | ⟨here, ranSecond⟩ := ranSecond
    obtain ⟨results, ran, mixed⟩ := ih ranFirst ranSecond
    exact ⟨_, .cons here ran, mixed.right _⟩

end Interleaving

/-- No tag of a list has the label of a node below the given one for its key or its value. -/
def Taxonomy.SilentBelow (taxonomy : Taxonomy) (node : Node) (tags : List Tag) : Prop :=
  ∀ below, Relation.TransGen taxonomy.HasChild node below →
    ∀ tag ∈ tags, tag.key ≠ below.label ∧ tag.value ≠ below.label

/-- The other tags are silent below every category of the first level that is the key of one of
these. -/
def Taxonomy.Foreign (taxonomy : Taxonomy) (tags others : List Tag) : Prop :=
  ∀ tag ∈ tags, ∀ start, taxonomy.HasChild taxonomy.root start → start.label = tag.key →
    taxonomy.SilentBelow start others

namespace Taxonomy

variable {taxonomy : Taxonomy} {node onward : Node} {tags others fewer fewerOthers : List Tag}

theorem SilentBelow.of_reachable (silent : taxonomy.SilentBelow node others)
    (reachable : Relation.ReflTransGen taxonomy.HasChild node onward) :
    taxonomy.SilentBelow onward others :=
  fun below way => silent below (way.trans_right reachable)

theorem Foreign.mono (foreign : taxonomy.Foreign tags others) (kept : fewer ⊆ tags)
    (keptOthers : fewerOthers ⊆ others) : taxonomy.Foreign fewer fewerOthers :=
  fun tag member start edge named below way other present =>
    foreign tag (kept member) start edge named below way other (keptOthers present)

/-- That tags are foreign can be checked node by node, over a list of nodes that leaves out none of
those below the categories that are named. -/
theorem Foreign.of_closed (inside : List Node)
    (covers : ∀ tag ∈ tags, ∀ start ∈ taxonomy.children taxonomy.root, start.label = tag.key →
      ∀ child ∈ taxonomy.children start, child ∈ inside)
    (closed : ∀ above ∈ inside, ∀ child ∈ taxonomy.children above, child ∈ inside)
    (silent : ∀ below ∈ inside, ∀ other ∈ others,
      other.key ≠ below.label ∧ other.value ≠ below.label) : taxonomy.Foreign tags others := by
  intro tag member start edge named below way
  have present : below ∈ inside := by
    induction way with
    | single edgeBelow => exact covers tag member start edge named _ edgeBelow
    | tail _ edgeBelow ih => exact closed _ ih _ edgeBelow
  exact silent below present

end Taxonomy

namespace Deletion

variable {taxonomy : Taxonomy} {node : Node} {leads : Tag → List Node}
variable {first second merged tags rest restFirst : List Tag} {nodes : List Node}

theorem delete?_eq_none_iff : delete? leads tags = none ↔ ∀ tag ∈ tags, leads tag = [] := by
  simp [delete?]

theorem delete?_eq_some (found : delete? leads tags = some (nodes, rest)) :
    (∃ tag ∈ tags, leads tag = nodes ∧ nodes ≠ []) ∧ rest ⊆ tags := by
  obtain ⟨tag, there, same⟩ := Option.map_eq_some_iff.mp found
  cases same
  refine ⟨⟨tag, List.mem_of_find?_eq_some there, rfl, ?_⟩, List.eraseP_subset⟩
  simpa using List.find?_some there

/-- The first tag of a mixture that leads somewhere is the first one of the list it came from. -/
theorem delete?_interleaving (leads : Tag → List Node)
    (mixed : Interleaving first second merged) :
    delete? leads merged = none ∧ delete? leads first = none ∧ delete? leads second = none ∨
    (∃ nodes rest restFirst, delete? leads merged = some (nodes, rest) ∧
      delete? leads first = some (nodes, restFirst) ∧ Interleaving restFirst second rest) ∨
    (∃ nodes rest restSecond, delete? leads merged = some (nodes, rest) ∧
      delete? leads second = some (nodes, restSecond) ∧ Interleaving first restSecond rest) := by
  induction mixed with
  | nil => exact .inl ⟨rfl, rfl, rfl⟩
  | left tag mixed ih =>
    by_cases led : leads tag = []
    · simp only [delete?_cons_of_not_leads led]
      rcases ih with ⟨all, first, second⟩ | ⟨nodes, _, _, all, first, mixed⟩ |
          ⟨nodes, _, _, all, second, mixed⟩
      · exact .inl ⟨by rw [all]; rfl, by rw [first]; rfl, second⟩
      · exact .inr (.inl ⟨nodes, _, _, by rw [all]; rfl, by rw [first]; rfl, mixed.left tag⟩)
      · exact .inr (.inr ⟨nodes, _, _, by rw [all]; rfl, second, mixed.left tag⟩)
    · exact .inr (.inl ⟨_, _, _, delete?_cons_of_leads led, delete?_cons_of_leads led, mixed⟩)
  | right tag mixed ih =>
    by_cases led : leads tag = []
    · simp only [delete?_cons_of_not_leads led]
      rcases ih with ⟨all, first, second⟩ | ⟨nodes, _, _, all, first, mixed⟩ |
          ⟨nodes, _, _, all, second, mixed⟩
      · exact .inl ⟨by rw [all]; rfl, first, by rw [second]; rfl⟩
      · exact .inr (.inl ⟨nodes, _, _, by rw [all]; rfl, first, mixed.right tag⟩)
      · exact .inr (.inr ⟨nodes, _, _, by rw [all]; rfl, by rw [second]; rfl, mixed.right tag⟩)
    · exact .inr (.inr ⟨_, _, _, delete?_cons_of_leads led, delete?_cons_of_leads led, mixed⟩)

/-- Where no tag of the second list leads anywhere, the mixture is searched as if it were the first
list. -/
theorem delete?_interleaving_of_none (mixed : Interleaving first second merged)
    (nothing : delete? leads second = none) :
    delete? leads merged = none ∧ delete? leads first = none ∨
    ∃ nodes rest restFirst, delete? leads merged = some (nodes, rest) ∧
      delete? leads first = some (nodes, restFirst) ∧ Interleaving restFirst second rest := by
  rcases delete?_interleaving leads mixed with ⟨all, none, _⟩ | found | ⟨_, _, _, _, found, _⟩
  · exact .inl ⟨all, none⟩
  · exact .inr found
  · rw [nothing] at found
    cases found

theorem childNamed?_eq_some {label : String} {child : Node}
    (found : childNamed? taxonomy node label = some child) :
    taxonomy.HasChild node child ∧ child.label = label :=
  ⟨List.mem_of_find?_eq_some found, by simpa using List.find?_some found⟩

/-- By its key a tag leads nowhere, or to the child that the key names and perhaps to a child of
that one. -/
theorem nodesByKey_eq_cons {tag : Tag} (led : nodesByKey taxonomy node tag ≠ []) :
    ∃ child further, nodesByKey taxonomy node tag = child :: further ∧
      taxonomy.HasChild node child ∧ child.label = tag.key ∧
      Relation.ReflTransGen taxonomy.HasChild child (further.getLastD child) := by
  rw [nodesByKey] at led ⊢
  cases found : childNamed? taxonomy node tag.key with
  | none =>
    rw [found] at led
    exact absurd rfl led
  | some child =>
    obtain ⟨edge, named⟩ := childNamed?_eq_some found
    refine ⟨child, _, rfl, edge, named, ?_⟩
    split
    · cases further : childNamed? taxonomy child tag.value with
      | none => exact .refl
      | some last => exact .single (childNamed?_eq_some further).1
    · exact .refl

theorem nodesByValue_eq_singleton {tag : Tag} (led : nodesByValue taxonomy node tag ≠ []) :
    ∃ child, nodesByValue taxonomy node tag = [child] ∧ taxonomy.HasChild node child ∧
      child.label = tag.value := by
  rw [nodesByValue] at led ⊢
  split at led
  · rename_i classifies
    rw [if_pos classifies]
    cases found : childNamed? taxonomy node tag.value with
    | none =>
      rw [found] at led
      exact absurd rfl led
    | some child => exact ⟨child, rfl, childNamed?_eq_some found⟩
  · exact absurd rfl led

/-- A step leads down the taxonomy. -/
theorem reachable_of_step? (found : step? taxonomy node tags = some (nodes, rest)) :
    Relation.ReflTransGen taxonomy.HasChild node (nodes.getLastD node) ∧ rest ⊆ tags := by
  rcases Option.or_eq_some_iff.mp found with byValue | ⟨_, byKey⟩
  · obtain ⟨⟨tag, _, same, led⟩, kept⟩ := delete?_eq_some byValue
    rw [← same] at led
    obtain ⟨child, single, edge, _⟩ := nodesByValue_eq_singleton led
    rw [← same, single]
    exact ⟨.single edge, kept⟩
  · obtain ⟨⟨tag, _, same, led⟩, kept⟩ := delete?_eq_some byKey
    rw [← same] at led
    obtain ⟨child, further, pair, edge, _, onward⟩ := nodesByKey_eq_cons led
    rw [← same, pair, List.getLastD_cons]
    exact ⟨.head edge onward, kept⟩

theorem descend_subset (taxonomy : Taxonomy) (node : Node) (tags : List Tag) :
    (descend taxonomy node tags).2 ⊆ tags := by
  fun_induction descend taxonomy node tags with
  | case1 => exact List.Subset.refl _
  | case2 node tags nodes rest found further =>
    rename_i ih
    exact List.Subset.trans ih (reachable_of_step? found).2

/-! ## Silent tags -/

theorem delete?_of_silent (silent : taxonomy.SilentBelow node tags) :
    delete? (nodesByValue taxonomy node) tags = none ∧
      delete? (nodesByKey taxonomy node) tags = none := by
  simp only [delete?_eq_none_iff]
  refine ⟨fun tag member => ?_, fun tag member => ?_⟩
  · by_contra led
    obtain ⟨child, _, edge, named⟩ := nodesByValue_eq_singleton led
    exact (silent child (.single edge) tag member).2 named.symm
  · by_contra led
    obtain ⟨child, _, _, edge, named, _⟩ := nodesByKey_eq_cons led
    exact (silent child (.single edge) tag member).1 named.symm

/-- A step passes silent tags by. -/
theorem step?_interleaving (mixed : Interleaving first second merged)
    (silent : taxonomy.SilentBelow node second) :
    step? taxonomy node merged = none ∧ step? taxonomy node first = none ∨
    ∃ nodes rest restFirst, step? taxonomy node merged = some (nodes, rest) ∧
      step? taxonomy node first = some (nodes, restFirst) ∧
      Interleaving restFirst second rest := by
  obtain ⟨noValue, noKey⟩ := delete?_of_silent silent
  rcases delete?_interleaving_of_none mixed noValue with
    ⟨all, none⟩ | ⟨nodes, rest, restFirst, all, found, mixed⟩
  · simp only [step?, all, none, Option.none_or]
    exact delete?_interleaving_of_none mixed noKey
  · exact .inr ⟨nodes, rest, restFirst, by rw [step?, all, Option.some_or],
      by rw [step?, found, Option.some_or], mixed⟩

/-- On the way down from a node the tags that are silent below it are passed by, and they all
remain. -/
theorem descend_interleaving (mixed : Interleaving first second merged)
    (silent : taxonomy.SilentBelow node second) :
    (descend taxonomy node merged).1 = (descend taxonomy node first).1 ∧
      Interleaving (descend taxonomy node first).2 second (descend taxonomy node merged).2 := by
  fun_induction descend taxonomy node first generalizing merged with
  | case1 node first stuck =>
    rcases step?_interleaving mixed silent with ⟨all, _⟩ | ⟨_, _, _, _, found, _⟩
    · rw [descend_of_none all]
      exact ⟨rfl, mixed⟩
    · rw [stuck] at found
      cases found
  | case2 node first nodes restFirst found further =>
    rename_i ih
    rcases step?_interleaving mixed silent with ⟨_, none⟩ | ⟨_, rest, _, all, same, mixed⟩
    · rw [found] at none
      cases none
    · rw [found] at same
      cases same
      obtain ⟨passed, mixed⟩ := ih mixed (silent.of_reachable (reachable_of_step? found).1)
      rw [descend_of_some all]
      exact ⟨by rw [passed], mixed⟩

/-- A path that starts with a tag of the first list is the one that this list supports by itself,
and uses no tag of the second. -/
theorem path_interleaving
    (found : delete? (nodesByKey taxonomy taxonomy.root) first = some (nodes, restFirst))
    (mixed : Interleaving restFirst second rest) (foreign : taxonomy.Foreign first second) :
    (descend taxonomy (nodes.getLastD taxonomy.root) rest).1 =
        (descend taxonomy (nodes.getLastD taxonomy.root) restFirst).1 ∧
      Interleaving (descend taxonomy (nodes.getLastD taxonomy.root) restFirst).2 second
        (descend taxonomy (nodes.getLastD taxonomy.root) rest).2 ∧
      (descend taxonomy (nodes.getLastD taxonomy.root) restFirst).2 ⊆ first := by
  obtain ⟨⟨tag, member, same, led⟩, kept⟩ := delete?_eq_some found
  rw [← same] at led
  obtain ⟨start, further, pair, edge, named, onward⟩ := nodesByKey_eq_cons led
  have silent : taxonomy.SilentBelow (nodes.getLastD taxonomy.root) second := by
    rw [← same, pair, List.getLastD_cons]
    exact (foreign tag member start edge named).of_reachable onward
  obtain ⟨passed, mixed⟩ := descend_interleaving mixed silent
  exact ⟨passed, mixed, List.Subset.trans (descend_subset taxonomy _ _) kept⟩

/-- Two lists that are foreign to each other support the same paths mixed as apart. -/
theorem paths_interleaving (mixed : Interleaving first second merged)
    (foreignSecond : taxonomy.Foreign first second)
    (foreignFirst : taxonomy.Foreign second first) :
    Interleaving (paths taxonomy first) (paths taxonomy second) (paths taxonomy merged) := by
  fun_induction paths taxonomy merged generalizing first second with
  | case1 merged nothing =>
    rcases delete?_interleaving (nodesByKey taxonomy taxonomy.root) mixed with
      ⟨_, none, noneSecond⟩ | ⟨_, _, _, all, _, _⟩ | ⟨_, _, _, all, _, _⟩
    · rw [paths_of_none none, paths_of_none noneSecond]
      exact .nil
    · rw [nothing] at all
      cases all
    · rw [nothing] at all
      cases all
  | case2 merged nodes rest found further =>
    rename_i ih
    rcases delete?_interleaving (nodesByKey taxonomy taxonomy.root) mixed with
      ⟨none, _⟩ | ⟨_, _, restFirst, all, start, mixed⟩ | ⟨_, _, restSecond, all, start, mixed⟩
    · rw [found] at none
      cases none
    · rw [found] at all
      cases all
      obtain ⟨passed, mixed, kept⟩ := path_interleaving start mixed foreignSecond
      rw [paths_of_some start, ← passed]
      exact .left _ (ih mixed (foreignSecond.mono kept (List.Subset.refl _))
        (foreignFirst.mono (List.Subset.refl _) kept))
    · rw [found] at all
      cases all
      obtain ⟨passed, mixed, kept⟩ := path_interleaving start mixed.symm foreignFirst
      rw [paths_of_some start, ← passed]
      exact .right _ (ih mixed.symm (foreignSecond.mono (List.Subset.refl _) kept)
        (foreignFirst.mono kept (List.Subset.refl _)))

end Deletion

namespace Walk

/-- Over foreign lists of tags the walk is local: mixed in any way they give the discoveries that
each gives alone, mixed. Tags that name no category of the first level and nothing below those that
are named make no difference at all. -/
theorem discover_interleaving (entries : List Entry) {first second merged : List Tag}
    (mixed : Interleaving first second merged)
    (foreign : (Draft.empty.addAccepted entries).freeze.Foreign
      (first.filter Tag.isCandidate) (second.filter Tag.isCandidate)) :
    let taxonomy := (Draft.empty.addAccepted entries).freeze
    (taxonomy.Foreign (second.filter Tag.isCandidate) (first.filter Tag.isCandidate) →
      ∃ firsts seconds discoveries, discover taxonomy first = .ok firsts ∧
        discover taxonomy second = .ok seconds ∧ discover taxonomy merged = .ok discoveries ∧
        Interleaving firsts seconds discoveries) ∧
    ((∀ tag ∈ second.filter Tag.isCandidate, ¬ taxonomy.NamesByKey taxonomy.root tag) →
      discover taxonomy merged = discover taxonomy first) := by
  intro taxonomy
  have sound : taxonomy.Sound := Taxonomy.sound_freeze entries
  have apart : taxonomy.Foreign (second.filter Tag.isCandidate) (first.filter Tag.isCandidate) →
      ∃ firsts seconds discoveries, discover taxonomy first = .ok firsts ∧
        discover taxonomy second = .ok seconds ∧ discover taxonomy merged = .ok discoveries ∧
        Interleaving firsts seconds discoveries := by
    intro back
    obtain ⟨firsts, ranFirst⟩ := exists_discover sound first
    obtain ⟨seconds, ranSecond⟩ := exists_discover sound second
    have paths := Deletion.paths_interleaving (mixed.filter Tag.isCandidate) foreign back
    obtain ⟨discoveries, ran, mixed⟩ := paths.mapM
      ((discover_eq_mapM sound first).symm.trans ranFirst)
      ((discover_eq_mapM sound second).symm.trans ranSecond)
    exact ⟨firsts, seconds, discoveries, ranFirst, ranSecond,
      (discover_eq_mapM sound merged).trans ran, mixed⟩
  refine ⟨apart, fun unnamed => ?_⟩
  have rootless : Deletion.delete? (Deletion.nodesByKey taxonomy taxonomy.root)
      (second.filter Tag.isCandidate) = none := by
    refine Deletion.delete?_eq_none_iff.mpr fun tag member => ?_
    by_contra led
    obtain ⟨child, _, _, edge, named, _⟩ := Deletion.nodesByKey_eq_cons led
    exact unnamed tag member ⟨child, edge, named⟩
  obtain ⟨firsts, seconds, discoveries, ranFirst, ranSecond, ran, mixed⟩ :=
    apart fun tag member start edge named => absurd ⟨start, edge, named⟩ (unnamed tag member)
  rw [discover_eq_mapM sound, Deletion.paths_of_none rootless] at ranSecond
  cases ranSecond
  rw [ran, ranFirst, mixed.eq_of_nil]

/-- A road on a bridge and a café in one element, their tags mixed. -/
theorem discover_road_and_cafe :
    let taxonomy := (Draft.empty.addAccepted
      [⟨["highway", "residential", "bridge"], true⟩, ⟨["amenity", "cafe"], true⟩]).freeze
    let road : List Tag := [⟨"highway", "residential", false⟩, ⟨"bridge", "yes", false⟩]
    let cafe : List Tag := [⟨"name", "bridge", false⟩, ⟨"amenity", "cafe", false⟩]
    let both : List Tag := [⟨"name", "bridge", false⟩, ⟨"highway", "residential", false⟩,
      ⟨"amenity", "cafe", false⟩, ⟨"bridge", "yes", false⟩]
    Interleaving road cafe both ∧
    taxonomy.Foreign (road.filter Tag.isCandidate) (cafe.filter Tag.isCandidate) ∧
    taxonomy.Foreign (cafe.filter Tag.isCandidate) (road.filter Tag.isCandidate) ∧
    ∃ roads cafes discoveries, discover taxonomy road = .ok roads ∧
      discover taxonomy cafe = .ok cafes ∧ discover taxonomy both = .ok discoveries ∧
      Interleaving roads cafes discoveries := by
  intro taxonomy road cafe both
  have mixed : Interleaving road cafe both := .right _ (.left _ (.right _ (.left _ .nil)))
  have foreignCafe : taxonomy.Foreign (road.filter Tag.isCandidate)
      (cafe.filter Tag.isCandidate) :=
    .of_closed [⟨"residential", 0, false, 5, 1⟩, ⟨"bridge", 0, true, 6, 0⟩]
      (by decide +kernel) (by decide +kernel) (by decide +kernel)
  have foreignRoad : taxonomy.Foreign (cafe.filter Tag.isCandidate)
      (road.filter Tag.isCandidate) :=
    .of_closed [⟨"cafe", 0, true, 5, 0⟩] (by decide +kernel) (by decide +kernel)
      (by decide +kernel)
  exact ⟨mixed, foreignCafe, foreignRoad,
    (discover_interleaving _ mixed foreignCafe).1 foreignRoad⟩

end Walk

end MapTypes
