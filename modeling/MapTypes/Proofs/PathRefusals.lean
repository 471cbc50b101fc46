import MapTypes.Proofs.DraftContents

/-!
Refusals. A path is refused for its own shape, or because it needs a new node where a full node
stands (`Draft.Refuses`). Adding in place comes to the full node only after a part of the path is
dealt with, and may create nodes on its way. But a node that was just created has no children, so
behind it there is no full node: whoever stops has created nothing yet (`Forest.insert_eq`).
-/

namespace MapTypes

namespace Forest

variable {forest : Forest} {limit : Nat} {path : List String}

/-! ## Full nodes -/

/-- What stands below the node at the end of a path; the empty path stands for the node that all
paths start from. -/
def below? : Forest → List String → Option Forest
  | forest, [] => some forest
  | forest, label :: rest => (forest.find? label).bind fun below => below.below? rest

/-- A path goes through a full node: its first labels, as many as `level`, lead to a node that is
there and has as many children as a node can have, and the next label is not among them. -/
def FullAt (forest : Forest) (path : List String) (level : Nat) : Prop :=
  ∃ below label, forest.below? (path.take level) = some below ∧ path[level]? = some label ∧
    below.breadth = maxChildren ∧ label ∉ below.labels

theorem Sorted.below? {below : Forest} (sorted : forest.Sorted)
    (found : forest.below? path = some below) : below.Sorted := by
  induction path generalizing forest with
  | nil =>
    cases found
    exact sorted
  | cons label rest ih =>
    obtain ⟨inner, here, onward⟩ := Option.bind_eq_some_iff.mp found
    exact ih (sorted.find? here) onward

theorem Narrow.below? {below : Forest} (breadth : forest.breadth ≤ limit)
    (narrow : forest.Narrow limit) (found : forest.below? path = some below) :
    below.breadth ≤ limit := by
  induction path generalizing forest with
  | nil =>
    cases found
    exact breadth
  | cons label rest ih =>
    obtain ⟨inner, here, onward⟩ := Option.bind_eq_some_iff.mp found
    exact ih (narrow.find? here).1 (narrow.find? here).2 onward

/-- The search for a full node finds it at the level where the path leaves what is there. -/
theorem crowded?_eq_some_iff {parent full : String} :
    forest.crowded? limit parent path = some full ↔
      ∃ level below label, forest.below? (path.take level) = some below ∧
        path[level]? = some label ∧ limit ≤ below.breadth ∧ label ∉ below.labels ∧
        (parent :: path)[level]? = some full := by
  induction path generalizing forest parent with
  | nil => simp [crowded?]
  | cons label rest ih =>
    rw [crowded?]
    cases found : forest.find? label with
    | some inner =>
      rw [ih]
      constructor
      · rintro ⟨level, below, next, leads, here, breadth, absent, parents⟩
        exact ⟨level + 1, below, next, by simpa [below?, found] using leads, here, breadth, absent,
          parents⟩
      · rintro ⟨level, below, next, leads, here, breadth, absent, parents⟩
        cases level with
        | zero =>
          cases leads
          cases here
          rw [find?_eq_none_iff.mpr absent] at found
          cases found
        | succ level =>
          exact ⟨level, below, next, by simpa [below?, found] using leads, here, breadth, absent,
            parents⟩
    | none =>
      have absent := find?_eq_none_iff.mp found
      constructor
      · intro stops
        obtain ⟨breadth, parents⟩ := Option.ite_none_right_eq_some.mp stops
        exact ⟨0, forest, label, rfl, rfl, breadth, absent, parents⟩
      · rintro ⟨level, below, next, leads, here, breadth, _, parents⟩
        cases level with
        | zero =>
          cases leads
          rw [if_pos breadth]
          exact parents
        | succ level => simp [below?, found] at leads

/-! ## Adding in place -/

section Visits

variable {α : Type} {answer : α} {label : String} {change : Bool → Forest → α × Bool × Forest}

/-- To visit a tree that is there and change nothing changes nothing. -/
theorem visit_eq_self {below : Forest} (sorted : forest.Sorted)
    (found : forest.find? label = some below)
    (keeps : ∀ shown, change shown below = (answer, shown, below)) :
    forest.visit label change = (answer, forest) := by
  induction forest with
  | nil => cases found
  | cons here visible inner next _ ih =>
    rw [visit]
    by_cases same : label = here
    · rw [find?, if_pos same, Option.some.injEq] at found
      rw [if_pos same, found, keeps]
    · have notBefore : ¬ label < here := by
        intro before
        rw [find?_eq_none_iff.mpr (sorted.not_mem_of_lt before)] at found
        cases found
      rw [find?, if_neg same] at found
      rw [if_neg same, if_neg notBefore, ih sorted.2.2 found]

theorem grow_nil (visible : Bool) (path : List String) :
    nil.grow visible path = sprout visible path := by
  cases path <;> rfl

/-- To visit a tree, there or not, and let what is below it grow makes the whole forest grow. -/
theorem visit_eq_grow {visible : Bool} {rest : List String} (sorted : forest.Sorted)
    (grows : ∀ shown, change shown ((forest.find? label).getD nil) =
      (answer, shown || (rest.isEmpty && visible),
        ((forest.find? label).getD nil).grow visible rest)) :
    forest.visit label change = (answer, forest.grow visible (label :: rest)) := by
  induction forest with
  | nil =>
    have created := grows false
    rw [find?, Option.getD_none, grow_nil] at created
    rw [visit, created]
    rfl
  | cons here shown inner next _ ih =>
    rw [visit, grow]
    by_cases same : label = here
    · rw [find?, if_pos same, Option.getD_some] at grows
      rw [if_pos same, if_pos same, grows]
    · rw [if_neg same, if_neg same]
      by_cases before : label < here
      · have created := grows false
        rw [find?_eq_none_iff.mpr (sorted.not_mem_of_lt before), Option.getD_none, grow_nil]
          at created
        rw [if_pos before, if_pos before, created]
        rfl
      · rw [find?, if_neg same] at grows
        rw [if_neg before, if_neg before, ih sorted.2.2 grows]

end Visits

/-- Below a node that was just created nothing is full. -/
theorem crowded?_nil (room : 0 < limit) (parent : String) (path : List String) :
    nil.crowded? limit parent path = none := by
  cases path with
  | nil => rfl
  | cons label rest => exact if_neg (Nat.not_le.mpr room)

/-- Adding in place stops just where a full node is found beforehand, and then everything is as it
was. Where it does not stop, the forest has grown by the path. -/
theorem insert_eq (room : 0 < limit) (sorted : forest.Sorted) (visible : Bool) (parent : String)
    (path : List String) :
    forest.insert limit visible parent path =
      match forest.crowded? limit parent path with
      | some full => (some full, forest)
      | none => (none, forest.grow visible path) := by
  induction path generalizing forest parent with
  | nil => simp [insert, crowded?, grow]
  | cons label rest ih =>
    rw [insert, crowded?]
    cases found : forest.find? label with
    | none =>
      by_cases full : limit ≤ forest.breadth
      · simp [full]
      · have created := @ih nil trivial label
        rw [crowded?_nil room] at created
        rw [if_neg (by simp [full]), visit_eq_grow sorted fun shown => ?_, if_neg full]
        rw [found, Option.getD_none, created]
    | some below =>
      have inside := ih (sorted.find? found) label
      rw [Option.isNone_some, Bool.false_and, if_neg Bool.false_ne_true]
      dsimp only
      cases stops : below.crowded? limit label rest with
      | some full =>
        -- Where it stops there is a label left, so nothing on the way was set to be drawn.
        have further : rest ≠ [] := by
          rintro rfl
          cases stops
        rw [stops] at inside
        refine visit_eq_self sorted found fun shown => ?_
        rw [inside]
        simp [further]
      | none =>
        rw [stops] at inside
        refine visit_eq_grow sorted fun shown => ?_
        rw [found, Option.getD_some, inside]

end Forest

/-! ## Drafts -/

namespace Draft

variable {draft left : Draft} {entry : Entry} {path : List String} {refusal : Refusal}

/-- A path that a type code could stand for, with a text at every level. -/
structure WellShaped (path : List String) : Prop where
  nonempty : path ≠ []
  length_le : path.length ≤ TypeCode.maxLevels
  labelled : "" ∉ path

/-- Why a draft refuses a path. Of several reasons the first counts; a full node counts only for
paths that are well shaped, and is given by its label. -/
inductive Refuses (draft : Draft) (path : List String) : Refusal → Prop
  | emptyPath : path = [] → Refuses draft path .emptyPath
  | tooDeep : TypeCode.maxLevels < path.length → Refuses draft path (.tooDeep path)
  | emptyLabel : path ≠ [] → path.length ≤ TypeCode.maxLevels → "" ∈ path →
      Refuses draft path (.emptyLabel path)
  | tooManyChildren {level : Nat} {parent : String} : WellShaped path →
      draft.roots.FullAt path level → (rootLabel :: path)[level]? = some parent →
      Refuses draft path (.tooManyChildren parent)

/-- In a valid draft, no node has more children than a full one. -/
theorem Valid.crowded?_eq_some_iff (valid : draft.Valid) {parent : String} :
    draft.roots.crowded? maxChildren rootLabel path = some parent ↔
      ∃ level, draft.roots.FullAt path level ∧ (rootLabel :: path)[level]? = some parent := by
  rw [Forest.crowded?_eq_some_iff]
  constructor
  · rintro ⟨level, below, label, leads, here, breadth, absent, isParent⟩
    have most := valid.narrow.below? valid.breadth_le leads
    exact ⟨level, ⟨below, label, leads, here, Nat.le_antisymm most breadth, absent⟩, isParent⟩
  · rintro ⟨level, ⟨below, label, leads, here, breadth, absent⟩, isParent⟩
    exact ⟨level, below, label, leads, here, Nat.le_of_eq breadth.symm, absent, isParent⟩

theorem Valid.refuses_of_refusal? (valid : draft.Valid)
    (found : draft.refusal? path = some refusal) : draft.Refuses path refusal := by
  rw [refusal?] at found
  split at found
  · rename_i nothing
    cases found
    exact .emptyPath nothing
  · rename_i nonempty
    split at found
    · rename_i long
      cases found
      exact .tooDeep long
    · rename_i short
      rw [Nat.not_lt] at short
      split at found
      · rename_i blank
        cases found
        exact .emptyLabel nonempty short (List.contains_iff_mem.mp blank)
      · rename_i labelled
        rw [List.contains_iff_mem] at labelled
        obtain ⟨parent, stops, rfl⟩ := Option.map_eq_some_iff.mp found
        obtain ⟨level, full, isParent⟩ := valid.crowded?_eq_some_iff.mp stops
        exact .tooManyChildren ⟨nonempty, short, labelled⟩ full isParent

/-- A path that is well shaped is refused only for want of room. -/
theorem refusal?_of_wellShaped (shaped : WellShaped path) :
    draft.refusal? path =
      (draft.roots.crowded? maxChildren rootLabel path).map .tooManyChildren := by
  rw [refusal?, if_neg shaped.nonempty, if_neg (Nat.not_lt.mpr shaped.length_le),
    if_neg (mt List.contains_iff_mem.mp shaped.labelled)]

theorem Valid.refusal?_of_refuses (valid : draft.Valid) (refuses : draft.Refuses path refusal) :
    draft.refusal? path = some refusal := by
  cases refuses with
  | emptyPath nothing => rw [refusal?, if_pos nothing]
  | tooDeep long =>
    have nonempty : path ≠ [] := by
      rintro rfl
      cases long
    rw [refusal?, if_neg nonempty, if_pos long]
  | emptyLabel nonempty short blank =>
    rw [refusal?, if_neg nonempty, if_neg (Nat.not_lt.mpr short),
      if_pos (List.contains_iff_mem.mpr blank)]
  | tooManyChildren shaped full isParent =>
    rw [refusal?_of_wellShaped shaped, valid.crowded?_eq_some_iff.mpr ⟨_, full, isParent⟩,
      Option.map_some]

/-- The reason that is found to refuse a path is the reason there is. -/
theorem Valid.refusal?_eq_some_iff (valid : draft.Valid) :
    draft.refusal? path = some refusal ↔ draft.Refuses path refusal :=
  ⟨valid.refuses_of_refusal?, valid.refusal?_of_refuses⟩

theorem maxChildren_pos : 0 < maxChildren := Nat.succ_pos _

/-- Adding in place replies with the reason to refuse the path, and leaves what is accepted. -/
theorem Valid.insert_eq (valid : draft.Valid) (entry : Entry) :
    draft.insert entry = (draft.refusal? entry.path, (draft.add entry).toOption.getD draft) := by
  rw [Draft.insert, Draft.add, refusal?]
  split
  · rfl
  · split
    · rfl
    · split
      · rfl
      · dsimp only
        rw [Forest.insert_eq maxChildren_pos valid.sorted]
        cases draft.roots.crowded? maxChildren rootLabel entry.path <;> rfl

theorem Valid.add_of_insert (valid : draft.Valid) (taken : draft.insert entry = (none, left)) :
    draft.add entry = .ok left := by
  rw [valid.insert_eq, Prod.mk.injEq] at taken
  obtain ⟨free, grown⟩ := taken
  rw [Draft.add, free] at grown ⊢
  rw [← grown]
  rfl

theorem Valid.insert (valid : draft.Valid) (entry : Entry) : (draft.insert entry).2.Valid := by
  rw [valid.insert_eq]
  cases added : draft.add entry with
  | error refusal => exact valid
  | ok grown => exact valid.add added

/-- A path that is refused leaves the draft as it was. -/
theorem Valid.insert_of_refused (valid : draft.Valid)
    (refused : (draft.insert entry).1 = some refusal) : (draft.insert entry).2 = draft := by
  rw [valid.insert_eq] at refused ⊢
  dsimp only at refused ⊢
  rw [Draft.add, refused]
  rfl

/-! ## Histories -/

theorem offer_append (draft : Draft) (entries further : List Entry) :
    draft.offer (entries ++ further) =
      ((draft.offer entries).1 ++ ((draft.offer entries).2.offer further).1,
        ((draft.offer entries).2.offer further).2) := by
  induction entries generalizing draft with
  | nil => rfl
  | cons entry rest ih =>
    simp only [List.cons_append, offer, ih]

theorem length_offer (draft : Draft) (entries : List Entry) :
    (draft.offer entries).1.length = entries.length := by
  induction entries generalizing draft with
  | nil => rfl
  | cons entry rest ih => simp [offer, ih]

/-- To offer entries in place keeps those that are accepted. -/
theorem Valid.offer_eq (valid : draft.Valid) (entries : List Entry) :
    (draft.offer entries).2 = draft.addAccepted entries := by
  induction entries generalizing draft with
  | nil => rfl
  | cons entry rest ih =>
    have here : (draft.insert entry).2 = (draft.add entry).toOption.getD draft := by
      rw [valid.insert_eq]
    rw [Draft.addAccepted, List.foldl_cons, ← Draft.addAccepted, ← here, ← ih (valid.insert entry)]
    rfl

theorem Valid.offer_of_refused (valid : draft.Valid)
    (refused : (draft.insert entry).1 = some refusal) (after : List Entry) :
    draft.offer (entry :: after) =
      (some refusal :: (draft.offer after).1, (draft.offer after).2) := by
  rw [offer, refused, valid.insert_of_refused refused]

theorem valid_offer (entries : List Entry) : (empty.offer entries).2.Valid := by
  rw [valid_empty.offer_eq]
  exact valid_empty.addAccepted entries

/-- Whatever was offered before, a path is refused just for the reason there is to refuse it, and is
accepted where there is none. A path that is refused leaves no trace: the draft is as it was, and
whatever is offered later, all other replies and the draft in the end are the same as if the refused
path had never been offered. -/
theorem refusals_exact_and_without_trace (before : List Entry) (entry : Entry) :
    let draft := (empty.offer before).2
    (∀ refusal, (draft.insert entry).1 = some refusal ↔ draft.Refuses entry.path refusal) ∧
    ((draft.insert entry).1 = none → draft.add entry = .ok (draft.insert entry).2) ∧
    ∀ refusal, (draft.insert entry).1 = some refusal →
      (draft.insert entry).2 = draft ∧
      ∀ after,
        let without := empty.offer (before ++ after)
        let including := empty.offer (before ++ entry :: after)
        including.1[before.length]? = some (some refusal) ∧
        including.1.eraseIdx before.length = without.1 ∧
        including.2 = without.2 ∧
        including.2.freeze = without.2.freeze := by
  intro draft
  have valid : draft.Valid := valid_offer before
  refine ⟨?_, fun taken => valid.add_of_insert (Prod.ext taken rfl), ?_⟩
  · intro refusal
    rw [valid.insert_eq]
    exact valid.refusal?_eq_some_iff
  · intro refusal refused
    refine ⟨valid.insert_of_refused refused, fun after => ?_⟩
    have replies : (empty.offer before).1.length = before.length := length_offer empty before
    rw [offer_append, offer_append, valid.offer_of_refused refused]
    refine ⟨?_, ?_, rfl, rfl⟩
    · rw [← replies, List.getElem?_append_right (Nat.le_refl _), Nat.sub_self]
      rfl
    · rw [← replies, List.eraseIdx_append_of_length_le (Nat.le_refl _), Nat.sub_self]
      rfl

end Draft

end MapTypes
