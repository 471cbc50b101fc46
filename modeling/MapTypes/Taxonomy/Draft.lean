import MapTypes.Taxonomy.Forest
import MapTypes.Text.Quoted
import MapTypes.TypeCode

/-!
Taxonomies in the making. A draft takes paths of labels one by one; a path that no type code could
stand for is refused, and a refused path leaves the draft as it was. For `add` this is so by its
form; `insert` works in place and notices a full node only when it comes to it.
-/

namespace MapTypes

/-- A path of labels from the top of a taxonomy, and whether the category at its end is drawn. -/
structure Entry where
  path : List String
  visible : Bool := true
  deriving DecidableEq, Repr, Inhabited

/-- Why a path is refused. -/
inductive Refusal where
  | emptyPath
  | tooDeep (path : List String)
  | emptyLabel (path : List String)
  /-- A node on the path has no room for another child. -/
  | tooManyChildren (parent : String)
  deriving DecidableEq, Repr

/-- The label of the node that all paths start from. -/
def rootLabel : String := "world"

/-- The most children a node can have, so that the ordinal of each fits a type code. -/
def maxChildren : Nat := TypeCode.maxIndex + 1

/-- The text of a refusal. -/
def Refusal.message : Refusal → String
  | emptyPath => "empty classification path"
  | tooDeep path =>
    "classification path " ++ Text.quoteList path ++ " is deeper than "
      ++ Nat.repr TypeCode.maxLevels ++ " levels"
  | emptyLabel path => "empty label in classification path " ++ Text.quoteList path
  | tooManyChildren parent =>
    "node " ++ Text.quote parent ++ " has more than " ++ Nat.repr maxChildren ++ " children"

/-- A taxonomy in the making. -/
structure Draft where
  /-- The categories of the first level and all that stands below them. -/
  roots : Forest
  deriving DecidableEq, Repr, Inhabited

namespace Draft

/-- The draft without a path. -/
def empty : Draft := ⟨.nil⟩

/-- The reason to refuse a path, if there is one. Of several reasons the first counts: no label at
all, too many labels, an empty label, no room. -/
def refusal? (draft : Draft) (path : List String) : Option Refusal :=
  if path = [] then some .emptyPath
  else if TypeCode.maxLevels < path.length then some (.tooDeep path)
  else if path.contains "" then some (.emptyLabel path)
  else (draft.roots.crowded? maxChildren rootLabel path).map .tooManyChildren

/-- Adds a path, or says why not. Nodes above the end of the path are created as needed; they are
not drawn unless they are added themselves. -/
def add (draft : Draft) (entry : Entry) : Except Refusal Draft :=
  match draft.refusal? entry.path with
  | some refusal => .error refusal
  | none => .ok ⟨draft.roots.grow entry.visible entry.path⟩

/-- Adds paths up to the first that is refused. -/
def addAll (draft : Draft) (entries : List Entry) : Except Refusal Draft :=
  entries.foldlM add draft

/-- Adds every path that is not refused. -/
def addAccepted (draft : Draft) (entries : List Entry) : Draft :=
  entries.foldl (fun draft entry => (draft.add entry).toOption.getD draft) draft

/-- Adds a path in place: the reason to refuse it, if there is one, and the draft as it is left,
refused or not. -/
def insert (draft : Draft) (entry : Entry) : Option Refusal × Draft :=
  if entry.path = [] then (some .emptyPath, draft)
  else if TypeCode.maxLevels < entry.path.length then (some (.tooDeep entry.path), draft)
  else if entry.path.contains "" then (some (.emptyLabel entry.path), draft)
  else
    let inserted := draft.roots.insert maxChildren entry.visible rootLabel entry.path
    (inserted.1.map .tooManyChildren, ⟨inserted.2⟩)

/-- Adds paths in place one after the other, whatever becomes of them: the reply to each, and the
draft as they leave it. -/
def offer (draft : Draft) : List Entry → List (Option Refusal) × Draft
  | [] => ([], draft)
  | entry :: rest =>
    let here := draft.insert entry
    let onward := here.2.offer rest
    (here.1 :: onward.1, onward.2)

/-- Adds paths in place up to the first that is refused: how many were taken, the refusal, and the
draft as they leave it. -/
def addUntilRefused (draft : Draft) : List Entry → Nat × Option Refusal × Draft
  | [] => (0, none, draft)
  | entry :: rest =>
    match draft.insert entry with
    | (some refusal, left) => (0, some refusal, left)
    | (none, grown) =>
      let further := grown.addUntilRefused rest
      (further.1 + 1, further.2)

end Draft

end MapTypes
