import MapTypes.PartitionPoint
import MapTypes.Taxonomy.Draft

/-!
Taxonomies: trees of labels, laid out once and then only read. All nodes stand in one array, level
by level. The children of a node are neighbours in it, in the order of their labels, so a child is
found by its label with a binary search and by its ordinal with one step.
-/

namespace MapTypes

/-- A node of a taxonomy. -/
structure Node where
  label : String
  /-- The ordinal of the node among its siblings. -/
  index : Nat
  /-- Whether the category is drawn. -/
  visible : Bool
  /-- The place of the first child. -/
  firstChild : Nat
  childCount : Nat
  deriving DecidableEq, Repr, Inhabited

/-- The text of a node, for a reader who looks for a fault. -/
def Node.describe (node : Node) : String :=
  "NodeRef \x7b label: " ++ Text.quote node.label ++ ", index: " ++ Nat.repr node.index ++ " \x7d"

/-- A node whose children have no place yet. -/
structure Pending where
  label : String
  index : Nat
  visible : Bool
  below : Forest
  deriving DecidableEq, Repr, Inhabited

/-- The trees of a forest as siblings, numbered from `index` on. -/
def Forest.siblings (index : Nat) : Forest → List Pending
  | .nil => []
  | .cons label visible below next => ⟨label, index, visible, below⟩ :: next.siblings (index + 1)

theorem Forest.length_siblings (forest : Forest) (index : Nat) :
    (forest.siblings index).length = forest.breadth := by
  induction forest generalizing index with
  | nil => rfl
  | cons _ _ _ _ _ ih => simp [siblings, breadth, ih]

/-- The nodes that pending nodes stand for, their own and those below. -/
def pendingSize : List Pending → Nat
  | [] => 0
  | pending :: queue => pending.below.size + 1 + pendingSize queue

theorem pendingSize_append (front back : List Pending) :
    pendingSize (front ++ back) = pendingSize front + pendingSize back := by
  induction front with
  | nil => simp [pendingSize]
  | cons pending queue ih => simp [pendingSize, ih, Nat.add_assoc]

theorem pendingSize_siblings (forest : Forest) (index : Nat) :
    pendingSize (forest.siblings index) = forest.size := by
  induction forest generalizing index with
  | nil => rfl
  | cons _ _ below next _ ih =>
    simp only [Forest.siblings, pendingSize, Forest.size, ih]
    omega

/-- Lays pending nodes out one after the other. The children of each go behind everything that
waits already, the first of them at place `next`. -/
def layOut (next : Nat) : List Pending → List Node
  | [] => []
  | pending :: queue =>
    ⟨pending.label, pending.index, pending.visible, next, pending.below.breadth⟩
      :: layOut (next + pending.below.breadth) (queue ++ pending.below.siblings 0)
termination_by queue => pendingSize queue
decreasing_by
  rw [pendingSize_append, pendingSize_siblings, pendingSize]
  omega

/-- A taxonomy: all nodes, the root first. -/
structure Taxonomy where
  nodes : Array Node
  deriving DecidableEq, Repr, Inhabited

/-- Freezes a draft into a taxonomy. -/
def Draft.freeze (draft : Draft) : Taxonomy :=
  ⟨(layOut 1 [⟨rootLabel, 0, false, draft.roots⟩]).toArray⟩

namespace Taxonomy

/-- The node that all paths start from. -/
def root (taxonomy : Taxonomy) : Node :=
  taxonomy.nodes[0]?.getD ⟨rootLabel, 0, false, 0, 0⟩

/-- The child with a label. -/
def child? (taxonomy : Taxonomy) (node : Node) (label : String) : Option Node :=
  let limit := node.firstChild + node.childCount
  let place := partitionPoint
    (fun i => match taxonomy.nodes[i]? with
      | some sibling => sibling.label < label
      | none => false)
    node.firstChild limit
  if place < limit then taxonomy.nodes[place]?.filter (·.label == label) else none

/-- The child with an ordinal. -/
def childAt? (taxonomy : Taxonomy) (node : Node) (index : Nat) : Option Node :=
  if index < node.childCount then taxonomy.nodes[node.firstChild + index]? else none

/-- The children in their order. -/
def children (taxonomy : Taxonomy) (node : Node) : List Node :=
  (taxonomy.nodes.extract node.firstChild (node.firstChild + node.childCount)).toList

/-- The nodes on the way down a path of labels, when the way exists. -/
def descend? (taxonomy : Taxonomy) (node : Node) : List String → Option (List Node)
  | [] => some []
  | label :: rest => do
    let child ← taxonomy.child? node label
    let further ← taxonomy.descend? child rest
    return child :: further

/-- The nodes on the way down a list of ordinals, when the way exists. -/
def descendAt? (taxonomy : Taxonomy) (node : Node) : List Nat → Option (List Node)
  | [] => some []
  | index :: rest => do
    let child ← taxonomy.childAt? node index
    let further ← taxonomy.descendAt? child rest
    return child :: further

/-- The node at the end of a path of labels. -/
def follow? (taxonomy : Taxonomy) (path : List String) : Option Node :=
  (taxonomy.descend? taxonomy.root path).map fun way => way.getLast?.getD taxonomy.root

/-- The code of a path of labels, when every label exists. The empty path has no code. -/
def codeOf? (taxonomy : Taxonomy) (path : List String) :
    Except TypeCode.Fault (Option TypeCode) :=
  match taxonomy.descend? taxonomy.root path with
  | none => .ok none
  | some way => do
    let code ← TypeCode.ofIndices (way.map Node.index)
    return if code.isEmpty then none else some code

/-- The codes of those of some paths that have one. -/
def codesOf (taxonomy : Taxonomy) (paths : List (List String)) :
    Except TypeCode.Fault (List TypeCode) := do
  let codes ← paths.mapM taxonomy.codeOf?
  return codes.filterMap id

/-- The nodes on the way to the place of a code, when there is such a place. -/
def wayTo? (taxonomy : Taxonomy) (code : TypeCode) : Option (List Node) :=
  if code.isEmpty then none else taxonomy.descendAt? taxonomy.root code.indices

/-- The labels on the way to the place of a code. -/
def labelsOf? (taxonomy : Taxonomy) (code : TypeCode) : Option (List String) :=
  (taxonomy.wayTo? code).map (·.map Node.label)

/-- Whether a code has a place and the category there is drawn. -/
def isVisible (taxonomy : Taxonomy) (code : TypeCode) : Bool :=
  match taxonomy.wayTo? code with
  | some way => (way.getLast?.getD taxonomy.root).visible
  | none => false

/-- The labels on the way to the place of a code in one word, or the code itself where there is no
such place. -/
def readable (taxonomy : Taxonomy) (code : TypeCode) : String :=
  match taxonomy.labelsOf? code with
  | some labels => "-".intercalate labels
  | none => code.hex

/-- The ways to all nodes below a node, depth first in the order of the children, down to a number
of levels. -/
def waysBelow (taxonomy : Taxonomy) : Nat → Node → List (List Node)
  | 0, _ => []
  | levels + 1, node =>
    (taxonomy.children node).flatMap fun child =>
      [child] :: (taxonomy.waysBelow levels child).map (child :: ·)

/-- The ways to all nodes but the root, depth first. No way is longer than a code. -/
def ways (taxonomy : Taxonomy) : List (List Node) :=
  taxonomy.waysBelow TypeCode.maxLevels taxonomy.root

end Taxonomy

end MapTypes
