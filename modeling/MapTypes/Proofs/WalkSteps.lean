import MapTypes.Proofs.ArenaLayout
import MapTypes.Walk

/-!
The walk, step by step. A step takes the first open tag that leads on (`claim?_eq_some`), and stops
only where no open tag does (`claim?_eq_none_iff`). `Uses` is the account that a stretch of the walk
gives of its tags: those at some positions are used up, each once, and all others stay as they were.
Stretches add up, so the account of one step gives those of a whole trail and of the whole walk.
Every trail is a way down from the root, so over a sound taxonomy its code fits.
-/

namespace MapTypes.Walk

variable {taxonomy : Taxonomy} {leads : Tag → Option Descent}

/-- A tag stands at a position and may still be used. -/
def Open (slots : List Slot) (i : Nat) (tag : Tag) : Prop :=
  ∃ slot, slots[i]? = some slot ∧ slot.isOpen = true ∧ slot.tag = tag

@[simp]
theorem open_nil {i : Nat} {tag : Tag} : ¬ Open [] i tag := by simp [Open]

@[simp]
theorem open_cons_zero {slot : Slot} {rest : List Slot} {tag : Tag} :
    Open (slot :: rest) 0 tag ↔ slot.isOpen = true ∧ slot.tag = tag := by simp [Open]

@[simp]
theorem open_cons_succ {slot : Slot} {rest : List Slot} {i : Nat} {tag : Tag} :
    Open (slot :: rest) (i + 1) tag ↔ Open rest i tag := by simp [Open]

/-- Before the walk the candidates are open. -/
theorem open_slotsOf {tags : List Tag} {i : Nat} {tag : Tag} :
    Open (slotsOf tags) i tag ↔ tags[i]? = some tag ∧ tag.isCandidate = true := by
  simp only [Open, slotsOf, List.getElem?_map, Option.map_eq_some_iff]
  constructor
  · rintro ⟨slot, ⟨found, here, rfl⟩, isOpen, rfl⟩
    exact ⟨here, by simpa [Slot.isOpen] using isOpen⟩
  · rintro ⟨here, candidate⟩
    exact ⟨_, ⟨tag, here, rfl⟩, by simpa [Slot.isOpen] using candidate, rfl⟩

/-- A stretch of the walk used the tags at some positions, each once, and no other. -/
structure Uses (before after : List Slot) (positions : List Nat) : Prop where
  nodup : positions.Nodup
  was_open : ∀ i ∈ positions, ∃ tag, Open before i tag
  open_iff : ∀ i tag, Open after i tag ↔ Open before i tag ∧ i ∉ positions

theorem Uses.refl (slots : List Slot) : Uses slots slots [] where
  nodup := .nil
  was_open := by simp
  open_iff := by simp

theorem Uses.trans {before between after : List Slot} {first second : List Nat}
    (earlier : Uses before between first) (later : Uses between after second) :
    Uses before after (first ++ second) where
  nodup := by
    refine List.nodup_append.mpr ⟨earlier.nodup, later.nodup, ?_⟩
    rintro i early _ late rfl
    obtain ⟨tag, isOpen⟩ := later.was_open i late
    exact ((earlier.open_iff i tag).mp isOpen).2 early
  was_open i member := by
    rcases List.mem_append.mp member with early | late
    · exact earlier.was_open i early
    · obtain ⟨tag, isOpen⟩ := later.was_open i late
      exact ⟨tag, ((earlier.open_iff i tag).mp isOpen).1⟩
  open_iff i tag := by
    rw [later.open_iff, earlier.open_iff, List.mem_append, not_or, and_assoc]

/-! ## One step -/

theorem claim?_eq_none_iff {slots : List Slot} :
    claim? leads slots = none ↔ ∀ i tag, Open slots i tag → leads tag = none := by
  induction slots with
  | nil => simp [claim?]
  | cons slot rest ih =>
    rw [claim?]
    constructor
    · intro nothing i tag isOpen
      split at nothing
      · cases nothing
      · rename_i passed
        cases i with
        | zero =>
          obtain ⟨slotOpen, rfl⟩ := open_cons_zero.mp isOpen
          rwa [if_pos slotOpen] at passed
        | succ i =>
          exact ih.mp (Option.map_eq_none_iff.mp nothing) i tag (open_cons_succ.mp isOpen)
    · intro none
      have passed : (if slot.isOpen = true then leads slot.tag else .none) = .none := by
        split
        · rename_i slotOpen
          exact none 0 slot.tag (open_cons_zero.mpr ⟨slotOpen, rfl⟩)
        · rfl
      rw [passed]
      exact Option.map_eq_none_iff.mpr
        (ih.mpr fun i tag isOpen => none (i + 1) tag (open_cons_succ.mpr isOpen))

/-- A claim spends the first open tag that leads somewhere, and nothing else. -/
theorem claim?_eq_some {slots : List Slot} {claim : Claim}
    (found : claim? leads slots = some claim) :
    (∃ tag, Open slots claim.position tag ∧ leads tag = some claim.descent) ∧
      (∀ i tag, i < claim.position → Open slots i tag → leads tag = none) ∧
      Uses slots claim.slots [claim.position] := by
  induction slots generalizing claim with
  | nil => cases found
  | cons slot rest ih =>
    rw [claim?] at found
    split at found
    · rename_i descent led
      have slotOpen : slot.isOpen = true := by
        by_contra closed
        rw [if_neg closed] at led
        cases led
      rw [if_pos slotOpen] at led
      cases found
      refine ⟨⟨slot.tag, by simpa using slotOpen, led⟩, by simp, ?_⟩
      refine ⟨by simp, by simpa using slotOpen, ?_⟩
      intro i tag
      cases i <;> simp [Slot.isOpen]
    · rename_i passed
      obtain ⟨inner, foundInner, rfl⟩ := Option.map_eq_some_iff.mp found
      obtain ⟨⟨tag, isOpen, led⟩, first, uses⟩ := ih foundInner
      refine ⟨⟨tag, open_cons_succ.mpr isOpen, led⟩, ?_, ?_⟩
      · intro i other before otherOpen
        cases i with
        | zero =>
          obtain ⟨slotOpen, rfl⟩ := open_cons_zero.mp otherOpen
          rwa [if_pos slotOpen] at passed
        | succ i =>
          exact first i other (Nat.lt_of_succ_lt_succ before) (open_cons_succ.mp otherOpen)
      · refine ⟨by simp, by simpa using ⟨tag, isOpen⟩, ?_⟩
        intro i other
        cases i with
        | zero => simp
        | succ i => simpa using uses.open_iff i other

/-- A tag leads from a node on, by its value or by its key. -/
def Leads (taxonomy : Taxonomy) (node : Node) (tag : Tag) (descent : Descent) : Prop :=
  descentByValue? taxonomy node tag = some descent ∨ descentByKey? taxonomy node tag = some descent

theorem step?_eq_none_iff {node : Node} {slots : List Slot} :
    step? taxonomy node slots = none ↔ ∀ i tag, Open slots i tag →
      descentByValue? taxonomy node tag = none ∧ descentByKey? taxonomy node tag = none := by
  simp only [step?, Option.or_eq_none_iff, claim?_eq_none_iff]
  grind

theorem step?_eq_some {node : Node} {slots : List Slot} {claim : Claim}
    (found : step? taxonomy node slots = some claim) :
    (∃ tag, Open slots claim.position tag ∧ Leads taxonomy node tag claim.descent) ∧
      Uses slots claim.slots [claim.position] := by
  rw [step?, Option.or_eq_some_iff] at found
  rcases found with byValue | ⟨_, byKey⟩
  · obtain ⟨⟨tag, isOpen, led⟩, _, uses⟩ := claim?_eq_some byValue
    exact ⟨⟨tag, isOpen, .inl led⟩, uses⟩
  · obtain ⟨⟨tag, isOpen, led⟩, _, uses⟩ := claim?_eq_some byKey
    exact ⟨⟨tag, isOpen, .inr led⟩, uses⟩

/-! ## Trails -/

/-- A step by key goes to a child that bears the key, and perhaps to a child of that one that bears
the value. -/
theorem descentByKey?_eq_some {node : Node} {tag : Tag} {descent : Descent}
    (led : descentByKey? taxonomy node tag = some descent) :
    taxonomy.child? node tag.key = some descent.first ∧
      descent.second = if tag.valueClassifies then taxonomy.child? descent.first tag.value
        else none := by
  obtain ⟨child, found, rfl⟩ := Option.map_eq_some_iff.mp led
  exact ⟨found, rfl⟩

theorem descentByValue?_eq_some {node : Node} {tag : Tag} {descent : Descent}
    (led : descentByValue? taxonomy node tag = some descent) :
    tag.valueClassifies = true ∧ taxonomy.child? node tag.value = some descent.first ∧
      descent.second = none := by
  rw [descentByValue?] at led
  split at led
  · rename_i classifies
    obtain ⟨child, found, rfl⟩ := Option.map_eq_some_iff.mp led
    exact ⟨classifies, found, rfl⟩
  · cases led

/-- A tag leads to children only. -/
theorem isChain_of_leads {node : Node} {tag : Tag} {descent : Descent}
    (led : Leads taxonomy node tag descent) :
    (node :: descent.nodes).IsChain taxonomy.HasChild := by
  obtain ⟨first, second⟩ := descent
  rcases led with byValue | byKey
  · obtain ⟨_, found, rfl⟩ := descentByValue?_eq_some byValue
    exact .cons_cons (Taxonomy.hasChild_of_child? found).1 (.singleton first)
  · obtain ⟨found, further⟩ := descentByKey?_eq_some byKey
    refine .cons_cons (Taxonomy.hasChild_of_child? found).1 ?_
    cases second with
    | none => exact .singleton first
    | some second =>
      split at further
      · exact .cons_cons (Taxonomy.hasChild_of_child? further.symm).1 (.singleton second)
      · cases further

theorem getLast?_nodes (descent : Descent) : descent.nodes.getLast? = some descent.last := by
  obtain ⟨first, _ | second⟩ := descent <;> rfl

theorem isChain_append {node : Node} {descent : Descent} {rest : List Node}
    (step : (node :: descent.nodes).IsChain taxonomy.HasChild)
    (further : (descent.last :: rest).IsChain taxonomy.HasChild) :
    (node :: (descent.nodes ++ rest)).IsChain taxonomy.HasChild := by
  obtain ⟨first, _ | second⟩ := descent
  · exact .cons_cons (List.isChain_cons_cons.mp step).1 further
  · obtain ⟨toFirst, toSecond⟩ := List.isChain_cons_cons.mp step
    exact .cons_cons toFirst (.cons_cons (List.isChain_cons_cons.mp toSecond).1 further)

/-- Steps from a node on: each is made by an open tag that leads there from the end of the one
before. -/
inductive Follows (taxonomy : Taxonomy) (slots : List Slot) : Node → List Hop → Prop where
  | nil (node : Node) : Follows taxonomy slots node []
  | cons {node : Node} {tag : Tag} {hop : Hop} {hops : List Hop}
      (isOpen : Open slots hop.position tag) (led : Leads taxonomy node tag hop.descent)
      (rest : Follows taxonomy slots hop.descent.last hops) :
      Follows taxonomy slots node (hop :: hops)

theorem Follows.earlier {before after : List Slot} {positions : List Nat} {node : Node}
    {hops : List Hop} (uses : Uses before after positions)
    (follows : Follows taxonomy after node hops) : Follows taxonomy before node hops := by
  induction follows with
  | nil node => exact .nil node
  | cons isOpen led _ ih => exact .cons ((uses.open_iff _ _).mp isOpen).1 led ih

theorem Follows.isChain {slots : List Slot} {node : Node} {hops : List Hop}
    (follows : Follows taxonomy slots node hops) :
    (node :: hops.flatMap (·.descent.nodes)).IsChain taxonomy.HasChild := by
  induction follows with
  | nil node => exact .singleton node
  | cons _ led _ ih => exact isChain_append (isChain_of_leads led) ih

/-- Where some steps from a node end. -/
def endOf (node : Node) (hops : List Hop) : Node :=
  (hops.flatMap (·.descent.nodes)).getLastD node

theorem endOf_cons (node : Node) (hop : Hop) (hops : List Hop) :
    endOf node (hop :: hops) = endOf hop.descent.last hops := by
  simp [endOf, List.getLastD_eq_getLast?, List.getLast?_append, getLast?_nodes]

/-- What extending a trail from a node does: it uses tags that lead on, and ends where no open tag
does. -/
theorem extend_spec (taxonomy : Taxonomy) (node : Node) (slots : List Slot) :
    Uses slots (extend taxonomy node slots).2 ((extend taxonomy node slots).1.map Hop.position) ∧
      Follows taxonomy slots node (extend taxonomy node slots).1 ∧
      step? taxonomy (endOf node (extend taxonomy node slots).1) (extend taxonomy node slots).2 =
        none := by
  fun_induction extend taxonomy node slots with
  | case1 node slots claim found after ih =>
    obtain ⟨⟨tag, isOpen, led⟩, claimed⟩ := step?_eq_some found
    obtain ⟨used, follows, stuck⟩ := ih
    exact ⟨claimed.trans used, .cons isOpen led (follows.earlier claimed), by rwa [endOf_cons]⟩
  | case2 node slots stuck => exact ⟨.refl slots, .nil node, stuck⟩

theorem Uses.stuck {before after : List Slot} {positions : List Nat} {node : Node}
    (uses : Uses before after positions) (stuck : step? taxonomy node before = none) :
    step? taxonomy node after = none :=
  step?_eq_none_iff.mpr fun i tag isOpen =>
    step?_eq_none_iff.mp stuck i tag ((uses.open_iff i tag).mp isOpen).1

theorem endOf_hops (node : Node) (trail : Trail) :
    endOf node trail.hops = endOf trail.start.descent.last trail.further :=
  endOf_cons node trail.start trail.further

/-- The positions of all tags that some trails used, in the order of use. -/
def usedBy (trails : List Trail) : List Nat :=
  trails.flatMap fun trail => trail.hops.map Hop.position

/-- What walking on does: it uses tags, and in the end no open tag starts a trail or leads on from
the end of any of the trails that were found. -/
theorem trailsFrom_spec (taxonomy : Taxonomy) (slots : List Slot) :
    ∃ after, Uses slots after (usedBy (trailsFrom taxonomy slots)) ∧
      (∀ i tag, Open after i tag → descentByKey? taxonomy taxonomy.root tag = none) ∧
      ∀ trail ∈ trailsFrom taxonomy slots,
        Follows taxonomy slots taxonomy.root trail.hops ∧
        step? taxonomy (endOf taxonomy.root trail.hops) after = none := by
  fun_induction trailsFrom taxonomy slots with
  | case1 slots nothing =>
    exact ⟨slots, .refl slots, claim?_eq_none_iff.mp nothing, by simp⟩
  | case2 slots claim found after ih =>
    obtain ⟨⟨tag, isOpen, led⟩, _, claimed⟩ := claim?_eq_some found
    obtain ⟨extended, follows, stuck⟩ := extend_spec taxonomy claim.descent.last claim.slots
    obtain ⟨final, used, rootless, others⟩ := ih
    refine ⟨final, (claimed.trans extended).trans used, rootless, ?_⟩
    intro trail member
    rcases List.mem_cons.mp member with rfl | member
    · exact ⟨.cons isOpen (.inr led) (follows.earlier claimed), used.stuck (by rwa [endOf_hops])⟩
    · obtain ⟨furtherFollows, furtherStuck⟩ := others trail member
      exact ⟨furtherFollows.earlier (claimed.trans extended), furtherStuck⟩

/-! ## Discovery -/

/-- Over a sound taxonomy every trail has a code. -/
theorem exists_discoveryOf (sound : taxonomy.Sound) {trail : Trail}
    (chain : (taxonomy.root :: trail.nodes).IsChain taxonomy.HasChild) :
    ∃ discovery, discoveryOf taxonomy trail = .ok discovery := by
  obtain ⟨code, packed, _⟩ := TypeCode.ofIndices_of_fit (sound.fit_of_way chain)
  exact ⟨_, by rw [discoveryOf, packed]; rfl⟩

/-- Over a sound taxonomy the walk never faults. -/
theorem exists_discover (sound : taxonomy.Sound) (tags : List Tag) :
    ∃ discoveries, discover taxonomy tags = .ok discoveries := by
  obtain ⟨_, _, _, each⟩ := trailsFrom_spec taxonomy (slotsOf tags)
  exact exists_mapM_eq_ok fun trail member => exists_discoveryOf sound (each trail member).1.isChain

end MapTypes.Walk
