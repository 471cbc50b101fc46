/-!
Labelled trees side by side, each label at most once, in the order of the labels. This is the form
in which a taxonomy grows: `grow` adds a path and keeps what is there. `insert` adds a path in
place, label by label, and stops where a node is full, with all that it did on the way there.
-/

namespace MapTypes

/-- Trees side by side: the label of the first one, whether its category is drawn, the trees below
it, and the trees after it. -/
inductive Forest where
  | nil
  | cons (label : String) (visible : Bool) (below next : Forest)
  deriving DecidableEq, Repr, Inhabited

namespace Forest

/-- The number of trees. -/
def breadth : Forest → Nat
  | nil => 0
  | cons _ _ _ next => next.breadth + 1

/-- The number of nodes in all the trees. -/
def size : Forest → Nat
  | nil => 0
  | cons _ _ below next => below.size + next.size + 1

/-- What stands below the tree with a label. -/
def find? (label : String) : Forest → Option Forest
  | nil => none
  | cons here _ below next => if label = here then some below else next.find? label

/-- A single path of new nodes; only its end is drawn. -/
def sprout (visible : Bool) : List String → Forest
  | [] => nil
  | label :: rest => cons label (rest.isEmpty && visible) (sprout visible rest) nil

/-- Adds a path. Nodes that exist stay, missing ones are put where the order of labels wants them.
The end of the path becomes visible when asked for, and never loses visibility. -/
def grow (visible : Bool) : Forest → List String → Forest
  | forest, [] => forest
  | nil, label :: rest => sprout visible (label :: rest)
  | cons here shown below next, label :: rest =>
    if label = here then
      cons here (shown || (rest.isEmpty && visible)) (below.grow visible rest) next
    else if label < here then
      cons label (rest.isEmpty && visible) (sprout visible rest) (cons here shown below next)
    else cons here shown below (next.grow visible (label :: rest))

/-- The node at which a path would need a new tree where already `limit` trees stand; the forest
itself is what stands below `parent`. -/
def crowded? (limit : Nat) (parent : String) : Forest → List String → Option String
  | _, [] => none
  | forest, label :: rest =>
    match forest.find? label with
    | some below => below.crowded? limit label rest
    | none => if limit ≤ forest.breadth then some parent else none

/-- Goes to the tree with a label and changes it: whether its category is drawn and what stands
below it. A missing tree is first put where the order of labels wants it, with nothing below it and
not drawn. The change also gives an answer. -/
def visit {α : Type} (label : String) (change : Bool → Forest → α × Bool × Forest) :
    Forest → α × Forest
  | nil =>
    let made := change false nil
    (made.1, cons label made.2.1 made.2.2 nil)
  | cons here visible inner next =>
    if label = here then
      let changed := change visible inner
      (changed.1, cons here changed.2.1 changed.2.2 next)
    else if label < here then
      let made := change false nil
      (made.1, cons label made.2.1 made.2.2 (cons here visible inner next))
    else
      let onward := next.visit label change
      (onward.1, cons here visible inner onward.2)

/-- Adds a path in place and gives what is there in the end. On the way down every missing node is
created. A node that would need one more child where already `limit` stand ends the way; its label
is the answer. Only at the end of the path its category is set to be drawn. -/
def insert (limit : Nat) (visible : Bool) (parent : String) (forest : Forest) :
    List String → Option String × Forest
  | [] => (none, forest)
  | label :: rest =>
    if (forest.find? label).isNone && limit ≤ forest.breadth then (some parent, forest)
    else
      forest.visit label fun shown below =>
        let onward := below.insert limit visible label rest
        (onward.1, shown || (rest.isEmpty && visible), onward.2)

end Forest

end MapTypes
