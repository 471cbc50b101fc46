import MapTypes.Tag
import MapTypes.Taxonomy.Basic

/-!
The walk, which finds the categories that a list of tags supports. A trail starts at a root category
that is the key of a tag and goes down as long as some tag leads further, by its value or by its
key. A tag that a trail has used is spent for the rest of the walk, so no two trails share one; the
tags themselves are left alone. `discover` walks until no tag starts another trail and gives every
trail its code.

Each step of the walk spends a tag, which bounds it: `unspent` counts what is left.
-/

namespace MapTypes.Walk

/-- A tag during a walk. -/
structure Slot where
  tag : Tag
  /-- Whether a trail has used the tag. -/
  spent : Bool := false
  deriving DecidableEq, Repr, Inhabited

/-- A tag that may still be used. -/
def Slot.isOpen (slot : Slot) : Bool :=
  !slot.spent && slot.tag.isCandidate

/-- How many tags may still be used. -/
def unspent (slots : List Slot) : Nat :=
  slots.countP Slot.isOpen

/-- The tags before a walk. -/
def slotsOf (tags : List Tag) : List Slot :=
  tags.map (⟨·, false⟩)

/-- One step down a taxonomy: to a child and, where the same tag also names a child of that one, to
this second node. -/
structure Descent where
  first : Node
  second : Option Node := none
  deriving DecidableEq, Repr, Inhabited

namespace Descent

/-- The node that a step ends at. -/
def last (descent : Descent) : Node :=
  descent.second.getD descent.first

/-- The nodes of a step. -/
def nodes (descent : Descent) : List Node :=
  descent.first :: descent.second.toList

end Descent

/-- The step from a node that the key of a tag leads to. -/
def descentByKey? (taxonomy : Taxonomy) (node : Node) (tag : Tag) : Option Descent :=
  (taxonomy.child? node tag.key).map fun child =>
    ⟨child, if tag.valueClassifies then taxonomy.child? child tag.value else none⟩

/-- The step from a node that the value of a tag leads to. -/
def descentByValue? (taxonomy : Taxonomy) (node : Node) (tag : Tag) : Option Descent :=
  if tag.valueClassifies then (taxonomy.child? node tag.value).map (⟨·, none⟩) else none

/-- A tag that was found and spent. -/
structure Claim where
  position : Nat
  descent : Descent
  /-- The tags after the claim. -/
  slots : List Slot
  deriving Repr

/-- Spends the first open tag that leads somewhere. -/
def claim? (leads : Tag → Option Descent) : List Slot → Option Claim
  | [] => none
  | slot :: rest =>
    match if slot.isOpen then leads slot.tag else none with
    | some descent => some ⟨0, descent, { slot with spent := true } :: rest⟩
    | none =>
      (claim? leads rest).map fun claim => ⟨claim.position + 1, claim.descent, slot :: claim.slots⟩

/-- A claim leaves one open tag less. -/
theorem unspent_of_claim? {leads : Tag → Option Descent} {slots : List Slot} {claim : Claim}
    (found : claim? leads slots = some claim) : unspent claim.slots + 1 = unspent slots := by
  induction slots generalizing claim with
  | nil => simp [claim?] at found
  | cons slot rest ih =>
    rw [claim?] at found
    split at found
    · rename_i descent led
      have isOpen : slot.isOpen = true := by
        by_cases h : slot.isOpen = true
        · exact h
        · simp [h] at led
      cases found
      simp only [unspent, List.countP_cons, isOpen]
      simp [Slot.isOpen]
    · obtain ⟨inner, foundInner, rfl⟩ := Option.map_eq_some_iff.mp found
      have := ih foundInner
      simp only [unspent, List.countP_cons] at this ⊢
      omega

/-- The next step of a trail that has come to a node. Any tag that leads on by its value goes before
those that lead on by their key. -/
def step? (taxonomy : Taxonomy) (node : Node) (slots : List Slot) : Option Claim :=
  (claim? (descentByValue? taxonomy node) slots).or (claim? (descentByKey? taxonomy node) slots)

theorem unspent_of_step? {taxonomy : Taxonomy} {node : Node} {slots : List Slot} {claim : Claim}
    (found : step? taxonomy node slots = some claim) : unspent claim.slots + 1 = unspent slots := by
  rw [step?, Option.or_eq_some_iff] at found
  rcases found with byValue | ⟨_, byKey⟩
  · exact unspent_of_claim? byValue
  · exact unspent_of_claim? byKey

/-- A step of a trail: where the tag stood that made it, and the nodes it led to. -/
structure Hop where
  position : Nat
  descent : Descent
  deriving DecidableEq, Repr

/-- Follows a trail from a node to its end. -/
def extend (taxonomy : Taxonomy) (node : Node) (slots : List Slot) : List Hop × List Slot :=
  match _found : step? taxonomy node slots with
  | some claim =>
    let after := extend taxonomy claim.descent.last claim.slots
    (⟨claim.position, claim.descent⟩ :: after.1, after.2)
  | none => ([], slots)
termination_by unspent slots
decreasing_by
  have := unspent_of_step? _found
  omega

theorem unspent_extend_le (taxonomy : Taxonomy) (node : Node) (slots : List Slot) :
    unspent (extend taxonomy node slots).2 ≤ unspent slots := by
  fun_induction extend taxonomy node slots with
  | case1 node slots claim found after ih =>
    have := unspent_of_step? found
    exact Nat.le_trans ih (by omega)
  | case2 => exact Nat.le_refl _

/-- A trail: its first step, from the root, and the steps after it. -/
structure Trail where
  start : Hop
  further : List Hop
  deriving DecidableEq, Repr

namespace Trail

/-- The steps in their order. -/
def hops (trail : Trail) : List Hop :=
  trail.start :: trail.further

/-- The nodes from the first level down. -/
def nodes (trail : Trail) : List Node :=
  trail.hops.flatMap (·.descent.nodes)

end Trail

/-- Walks until no tag starts another trail. -/
def trailsFrom (taxonomy : Taxonomy) (slots : List Slot) : List Trail :=
  match _found : claim? (descentByKey? taxonomy taxonomy.root) slots with
  | none => []
  | some claim =>
    let after := extend taxonomy claim.descent.last claim.slots
    ⟨⟨claim.position, claim.descent⟩, after.1⟩ :: trailsFrom taxonomy after.2
termination_by unspent slots
decreasing_by
  have claimed := unspent_of_claim? _found
  have extended := unspent_extend_le taxonomy claim.descent.last claim.slots
  exact Nat.lt_of_le_of_lt extended (by omega)

/-- The trails that a list of tags supports, in the order of their first tags. -/
def trails (taxonomy : Taxonomy) (tags : List Tag) : List Trail :=
  trailsFrom taxonomy (slotsOf tags)

/-- A category that a walk has found. -/
structure Discovery where
  code : TypeCode
  /-- The labels on the way to the category. -/
  labels : List String
  visible : Bool
  deriving DecidableEq, Repr

/-- The category at the end of a trail. -/
def discoveryOf (taxonomy : Taxonomy) (trail : Trail) : Except TypeCode.Fault Discovery := do
  let code ← TypeCode.ofIndices (trail.nodes.map Node.index)
  return ⟨code, (taxonomy.labelsOf? code).getD [], taxonomy.isVisible code⟩

/-- The categories that a list of tags supports, in the order of discovery. -/
def discover (taxonomy : Taxonomy) (tags : List Tag) :
    Except TypeCode.Fault (List Discovery) :=
  (trails taxonomy tags).mapM (discoveryOf taxonomy)

end MapTypes.Walk
