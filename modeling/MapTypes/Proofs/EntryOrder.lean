import Mathlib.Data.List.Perm.Subperm
import MapTypes.Proofs.PathRefusals

/-!
The order of entries. A forest in order is told by the categories it has and draws
(`Forest.Sorted.eq_of_drawnAt?`), and those of a draft are told by the set of entries that it took.
Whether an entry is taken depends on what is there already, but in one direction only: a draft with
less in it than a valid draft that has the path has no full node on the way
(`Draft.Valid.not_fullAt_of_holds`). So entries that were all taken in one order are taken in every
order, however often each of them is repeated, and the draft is the same.
-/

namespace MapTypes

namespace Forest

variable {forest first second : Forest} {path start : List String} {label : String}

/-! ## Nodes on a path -/

theorem below?_append (forest : Forest) (path further : List String) :
    forest.below? (path ++ further) =
      (forest.below? path).bind fun below => below.below? further := by
  induction path generalizing forest with
  | nil => rfl
  | cons label rest ih => simp only [List.cons_append, below?, Option.bind_assoc, ih]

theorem isSome_below?_singleton_iff : (forest.below? [label]).isSome ↔ label ∈ forest.labels := by
  rw [← isSome_find?_iff, below?]
  cases forest.find? label <;> simp [below?]

/-- Where a path is there, so is everything on the way. -/
theorem isSome_below?_of_start (leads : start <+: path) (present : (forest.below? path).isSome) :
    (forest.below? start).isSome := by
  obtain ⟨further, rfl⟩ := leads
  rw [below?_append] at present
  exact Option.isSome_of_isSome_bind present

theorem isSome_drawnAt?_singleton_iff :
    (forest.drawnAt? [label]).isSome ↔ label ∈ forest.labels := by
  induction forest with
  | nil => simp [drawnAt?, labels]
  | cons here visible below next _ ih =>
    by_cases same : label = here
    · simp [drawnAt?, labels, same]
    · simp [drawnAt?, labels, same, ih]

theorem isSome_drawnAt?_iff (nonempty : path ≠ []) :
    (forest.drawnAt? path).isSome ↔ (forest.below? path).isSome := by
  induction path generalizing forest with
  | nil => exact absurd rfl nonempty
  | cons label rest ih =>
    by_cases last : rest = []
    · rw [last, isSome_drawnAt?_singleton_iff, isSome_below?_singleton_iff]
    · rw [below?]
      cases found : forest.find? label with
      | none =>
        rw [drawnAt?_of_not_mem _ (find?_eq_none_iff.mp found)]
        simp
      | some inner => rw [drawnAt?_of_find? found last, ih last, Option.bind_some]

/-! ## Forests told by their categories -/

theorem mem_labels_congr (same : ∀ path, first.drawnAt? path = second.drawnAt? path) :
    label ∈ first.labels ↔ label ∈ second.labels := by
  rw [← isSome_drawnAt?_singleton_iff, same, isSome_drawnAt?_singleton_iff]

/-- The first label of a forest in order is the least. -/
theorem Sorted.le_of_mem_labels {here : String} {visible : Bool} {below next : Forest}
    (sorted : (cons here visible below next).Sorted)
    (member : label ∈ (cons here visible below next).labels) : here ≤ label := by
  rcases List.mem_cons.mp member with rfl | later
  · exact le_refl label
  · exact le_of_lt (sorted.1 label later)

/-- Two forests in order that have and draw the same categories are the same. -/
theorem Sorted.eq_of_drawnAt? (sorted : first.Sorted) (sortedSecond : second.Sorted)
    (same : ∀ path, first.drawnAt? path = second.drawnAt? path) : first = second := by
  induction first generalizing second with
  | nil =>
    cases second with
    | nil => rfl
    | cons other shown inner rest =>
      have member := (mem_labels_congr same).mpr (List.mem_cons_self (a := other))
      cases member
  | cons here visible below next ihBelow ihNext =>
    cases second with
    | nil =>
      have member := (mem_labels_congr same).mp (List.mem_cons_self (a := here))
      cases member
    | cons other shown inner rest =>
      obtain rfl : here = other := le_antisymm
        (sorted.le_of_mem_labels ((mem_labels_congr same).mpr List.mem_cons_self))
        (sortedSecond.le_of_mem_labels ((mem_labels_congr same).mp List.mem_cons_self))
      have sameTop : visible = shown := by simpa [drawnAt?] using same [here]
      have sameBelow : ∀ path, below.drawnAt? path = inner.drawnAt? path := by
        intro path
        cases path with
        | nil => rw [drawnAt?_nil, drawnAt?_nil]
        | cons label onward => simpa [drawnAt?] using same (here :: label :: onward)
      have sameNext : ∀ path, next.drawnAt? path = rest.drawnAt? path := by
        intro path
        cases path with
        | nil => rw [drawnAt?_nil, drawnAt?_nil]
        | cons label onward =>
          by_cases top : label = here
          · -- Behind the first tree its label does not come again.
            subst top
            have absent : label ∉ next.labels := fun member =>
              lt_irrefl label (sorted.1 label member)
            have absentSecond : label ∉ rest.labels := fun member =>
              lt_irrefl label (sortedSecond.1 label member)
            rw [drawnAt?_of_not_mem onward absent, drawnAt?_of_not_mem onward absentSecond]
          · simpa [drawnAt?, top] using same (label :: onward)
      rw [sameTop, ihBelow sorted.2.1 sortedSecond.2.1 sameBelow,
        ihNext sorted.2.2 sortedSecond.2.2 sameNext]

end Forest

namespace Draft

variable {draft small large : Draft} {entry : Entry} {entries calls others : List Entry}
variable {path start : List String}

/-! ## Room -/

/-- A draft has all the nodes that another has, whether or not they are drawn. -/
def Holds (large small : Draft) : Prop :=
  ∀ path, (small.roots.below? path).isSome → (large.roots.below? path).isSome

/-- Where a path is there in a valid draft, it meets no full node in a draft with less in it: the
children of a full node, and with them the label that is missing, would be too many. -/
theorem Valid.not_fullAt_of_holds (valid : large.Valid) (sorted : small.roots.Sorted)
    (holds : large.Holds small) (present : (large.roots.below? path).isSome) (level : Nat) :
    ¬ small.roots.FullAt path level := by
  rintro ⟨below, label, leads, here, breadth, absent⟩
  have onward : path.take level ++ [label] <+: path := by
    have further : path.take (level + 1) = path.take level ++ [label] := by
      rw [List.take_add_one, here, Option.toList_some]
    exact further ▸ List.take_prefix _ path
  obtain ⟨above, leadsLarge⟩ : ∃ above, large.roots.below? (path.take level) = some above :=
    Option.isSome_iff_exists.mp
      (Forest.isSome_below?_of_start (List.take_prefix level path) present)
  have member (other : String)
      (there : (large.roots.below? (path.take level ++ [other])).isSome) :
      other ∈ above.labels := by
    rw [Forest.below?_append, leadsLarge, Option.bind_some] at there
    exact Forest.isSome_below?_singleton_iff.mp there
  have all : label :: below.labels ⊆ above.labels := by
    rw [List.cons_subset]
    refine ⟨member label (Forest.isSome_below?_of_start onward present), fun other inside => ?_⟩
    refine member other (holds _ ?_)
    rw [Forest.below?_append, leads, Option.bind_some]
    exact Forest.isSome_below?_singleton_iff.mpr inside
  have distinct : (label :: below.labels).Nodup := by
    rw [List.nodup_cons]
    exact ⟨absent, (Forest.pairwise_labels (sorted.below? leads)).imp ne_of_lt⟩
  have most := valid.narrow.below? valid.breadth_le leadsLarge
  have fewer := (List.subperm_of_subset distinct all).length_le
  rw [List.length_cons, Forest.length_labels, Forest.length_labels, breadth] at fewer
  omega

/-- A well-shaped path that a larger valid draft has is not refused. -/
theorem Valid.refusal?_eq_none_of_holds (valid : large.Valid) (validSmall : small.Valid)
    (holds : large.Holds small) (shaped : WellShaped path)
    (present : (large.roots.below? path).isSome) : small.refusal? path = none := by
  rw [Option.eq_none_iff_forall_ne_some]
  intro refusal found
  cases validSmall.refuses_of_refusal? found with
  | emptyPath nothing => exact shaped.nonempty nothing
  | tooDeep long => exact absurd long (Nat.not_lt.mpr shaped.length_le)
  | emptyLabel _ _ blank => exact shaped.labelled blank
  | tooManyChildren _ full => exact valid.not_fullAt_of_holds validSmall.sorted holds present _ full

/-! ## Accepted entries -/

/-- Every entry of a list is accepted when they are offered to a draft one after the other. -/
def Accepts (draft : Draft) (entries : List Entry) : Prop :=
  ∀ reply ∈ (draft.offer entries).1, reply = none

theorem accepts_cons_iff {rest : List Entry} :
    draft.Accepts (entry :: rest) ↔
      (draft.insert entry).1 = none ∧ (draft.insert entry).2.Accepts rest :=
  List.forall_mem_cons

instance (draft : Draft) (entries : List Entry) : Decidable (draft.Accepts entries) :=
  inferInstanceAs (Decidable (∀ reply ∈ (draft.offer entries).1, reply = none))

theorem refusal?_of_add {grown : Draft} (added : draft.add entry = .ok grown) :
    draft.refusal? entry.path = none := by
  rw [add] at added
  split at added
  · cases added
  · assumption

theorem wellShaped_of_refusal? (free : draft.refusal? path = none) : WellShaped path := by
  rw [refusal?] at free
  split at free
  · cases free
  · rename_i nonempty
    split at free
    · cases free
    · rename_i short
      split at free
      · cases free
      · rename_i labelled
        exact ⟨nonempty, Nat.not_lt.mp short, mt List.contains_iff_mem.mpr labelled⟩

theorem WellShaped.of_start (shaped : WellShaped path) (leads : start <+: path)
    (nonempty : start ≠ []) : WellShaped start where
  nonempty := nonempty
  length_le := Nat.le_trans leads.length_le shaped.length_le
  labelled := fun blank => shaped.labelled (leads.subset blank)

theorem wellShaped_of_mem_accepted (member : entry ∈ draft.accepted entries) :
    WellShaped entry.path := by
  induction entries generalizing draft with
  | nil => cases member
  | cons first rest ih =>
    rw [accepted] at member
    cases added : draft.add first with
    | error refusal =>
      rw [added] at member
      exact ih member
    | ok grown =>
      rw [added] at member
      rcases List.mem_cons.mp member with rfl | later
      · exact wellShaped_of_refusal? (refusal?_of_add added)
      · exact ih later

theorem Valid.accepted_of_accepts (valid : draft.Valid) (accepts : draft.Accepts entries) :
    draft.accepted entries = entries := by
  induction entries generalizing draft with
  | nil => rfl
  | cons entry rest ih =>
    obtain ⟨taken, acceptsRest⟩ := accepts_cons_iff.mp accepts
    have added := valid.add_of_insert (Prod.ext taken rfl)
    rw [accepted, added]
    dsimp only
    rw [ih (valid.insert entry) acceptsRest]

/-- The nodes of a draft are those on the paths that it took. -/
theorem isSome_below?_offer_iff (entries : List Entry) (nonempty : path ≠ []) :
    ((empty.offer entries).2.roots.below? path).isSome ↔
      ∃ entry ∈ empty.accepted entries, path <+: entry.path := by
  have before : empty.roots.drawnAt? path = none := rfl
  rw [← Forest.isSome_drawnAt?_iff nonempty, valid_empty.offer_eq,
    (valid_empty.drawnAt?_addAccepted entries nonempty).1, before]
  simp

/-- An entry adds the nodes on its path and no others. -/
theorem Valid.holds_insert (valid : draft.Valid) (holds : large.Holds draft)
    (taken : (draft.insert entry).1 = none)
    (present : (large.roots.below? entry.path).isSome) : large.Holds (draft.insert entry).2 := by
  intro path there
  obtain rfl | nonempty := eq_or_ne path []
  · rfl
  · have added := valid.add_of_insert (Prod.ext taken rfl)
    rw [← Forest.isSome_drawnAt?_iff nonempty, (valid.drawnAt?_add added nonempty).1,
      Forest.isSome_drawnAt?_iff nonempty] at there
    rcases there with before | leads
    · exact holds path before
    · exact Forest.isSome_below?_of_start leads present

/-! ## Orders -/

/-- Entries that are accepted in one order are accepted in any other, and so is every choice of
them, each any number of times. -/
theorem accepts_of_subset (accepts : empty.Accepts calls) (subset : others ⊆ calls) :
    empty.Accepts others := by
  let large := (empty.offer calls).2
  have shaped : ∀ entry ∈ calls, WellShaped entry.path ∧
      (large.roots.below? entry.path).isSome := by
    intro entry member
    rw [← valid_empty.accepted_of_accepts accepts] at member
    have shaped := wellShaped_of_mem_accepted member
    exact ⟨shaped, (isSome_below?_offer_iff calls shaped.nonempty).mpr
      ⟨entry, member, List.prefix_refl _⟩⟩
  -- The invariant: what has grown so far is valid, and has nothing that is not there in the end.
  have grows (small : Draft) (validSmall : small.Valid) (holds : large.Holds small) :
      small.Accepts others := by
    induction others generalizing small with
    | nil => simp [Accepts, offer]
    | cons entry rest ih =>
      obtain ⟨here, subsetRest⟩ := List.cons_subset.mp subset
      obtain ⟨shapedHere, present⟩ := shaped entry here
      have taken : (small.insert entry).1 = none := by
        rw [validSmall.insert_eq]
        exact (valid_offer calls).refusal?_eq_none_of_holds validSmall holds shapedHere present
      rw [accepts_cons_iff]
      exact ⟨taken, ih subsetRest _ (validSmall.insert entry)
        (validSmall.holds_insert holds taken present)⟩
  refine grows empty valid_empty fun path there => ?_
  obtain rfl | nonempty := eq_or_ne path []
  · rfl
  · rw [← Forest.isSome_drawnAt?_iff nonempty] at there
    cases there

theorem eq_of_present_of_drawn {first second : Option Bool}
    (present : first.isSome ↔ second.isSome) (drawn : first = some true ↔ second = some true) :
    first = second := by
  rcases first with _ | _ | _ <;> rcases second with _ | _ | _ <;> simp_all

/-- What a draft has and draws after accepted entries is told by their set. -/
theorem offer_eq_of_same (same : ∀ entry, entry ∈ others ↔ entry ∈ calls)
    (accepts : empty.Accepts calls) (acceptsOthers : empty.Accepts others) :
    (empty.offer others).2 = (empty.offer calls).2 := by
  have valid := valid_empty.addAccepted calls
  have validOthers := valid_empty.addAccepted others
  rw [valid_empty.offer_eq, valid_empty.offer_eq, Draft.mk.injEq]
  refine validOthers.sorted.eq_of_drawnAt? valid.sorted fun path => ?_
  obtain rfl | nonempty := eq_or_ne path []
  · rw [Forest.drawnAt?_nil, Forest.drawnAt?_nil]
  · obtain ⟨present, drawn⟩ := valid_empty.drawnAt?_addAccepted calls nonempty
    obtain ⟨presentOthers, drawnOthers⟩ := valid_empty.drawnAt?_addAccepted others nonempty
    rw [valid_empty.accepted_of_accepts accepts] at present drawn
    rw [valid_empty.accepted_of_accepts acceptsOthers] at presentOthers drawnOthers
    simp only [same] at presentOthers drawnOthers
    exact eq_of_present_of_drawn (presentOthers.trans present.symm) (drawnOthers.trans drawn.symm)

/-- To add a path that is there, not to be drawn, changes nothing. -/
theorem insert_of_present {history : List Entry} (nonempty : path ≠ [])
    (present : ((empty.offer history).2.roots.below? path).isSome) :
    (empty.offer history).2.insert ⟨path, false⟩ = (none, (empty.offer history).2) := by
  have valid := valid_offer history
  obtain ⟨entry, member, leads⟩ := (isSome_below?_offer_iff history nonempty).mp present
  have shaped := (wellShaped_of_mem_accepted member).of_start leads nonempty
  have free := valid.refusal?_eq_none_of_holds valid (fun _ there => there) shaped present
  rw [valid.insert_eq, Draft.add]
  simp only [free]
  refine congrArg _ (congrArg Draft.mk ?_)
  refine (Forest.sorted_grow _ _ valid.sorted).eq_of_drawnAt? valid.sorted fun other => ?_
  rw [Forest.drawnAt?_grow valid.sorted]
  split
  · rename_i onWay
    have there := Forest.isSome_below?_of_start onWay.2 present
    rw [← Forest.isSome_drawnAt?_iff onWay.1] at there
    obtain ⟨shown, isShown⟩ := Option.isSome_iff_exists.mp there
    simp [isShown]
  · rfl

/-- The order of entries has no part in the tree. If a list of them is accepted one by one, so is
every list of the same entries, in any order and with any of them any number of times, and the draft
and its frozen form are the same. And whatever a draft took, to add a path that is there, or a part
of its way, not to be drawn, changes nothing; only the path without a label is refused. -/
theorem same_tree_from_same_entries (calls others : List Entry)
    (same : ∀ entry, entry ∈ others ↔ entry ∈ calls) (accepts : empty.Accepts calls) :
    empty.Accepts others ∧
    (empty.offer others).2 = (empty.offer calls).2 ∧
    (empty.offer others).2.freeze = (empty.offer calls).2.freeze ∧
    ∀ history path start,
      let draft := (empty.offer history).2
      (draft.roots.below? path).isSome → start <+: path →
        draft.insert ⟨start, false⟩ = (if start = [] then some .emptyPath else none, draft) := by
  have acceptsOthers : empty.Accepts others :=
    accepts_of_subset accepts fun entry member => (same entry).mp member
  have left := offer_eq_of_same same accepts acceptsOthers
  refine ⟨acceptsOthers, left, by rw [left], fun history path start => ?_⟩
  intro draft present leads
  obtain rfl | nonempty := eq_or_ne start []
  · rfl
  · rw [if_neg nonempty]
    exact insert_of_present nonempty (Forest.isSome_below?_of_start leads present)

/-- A road and its bridge, first added from the bottom up, then from the top down and twice. -/
theorem same_tree_from_road_and_bridge :
    let calls : List Entry := [⟨["highway", "primary", "bridge"], true⟩, ⟨["highway"], false⟩,
      ⟨["highway", "primary"], true⟩]
    let others := calls.reverse ++ calls
    empty.Accepts calls ∧ empty.Accepts others ∧
      (empty.offer others).2.freeze = (empty.offer calls).2.freeze := by
  intro calls others
  have same : ∀ entry, entry ∈ others ↔ entry ∈ calls := by simp [others]
  have accepts : empty.Accepts calls := by decide
  obtain ⟨acceptsOthers, _, sameTree, _⟩ := same_tree_from_same_entries calls others same accepts
  exact ⟨accepts, acceptsOthers, sameTree⟩

end Draft

end MapTypes
