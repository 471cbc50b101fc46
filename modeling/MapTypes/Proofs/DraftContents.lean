import MapTypes.Proofs.PathCodes

/-!
What a taxonomy contains. A draft has the categories on the paths that it took, and draws those that
were themselves taken as drawn; `drawnAt?` reads both off a forest. Growth adds just the path it is
given (`drawnAt?_grow`), and freezing keeps what a draft has (`drawnAt?_eq_some_iff`), so the codes
of a frozen draft and what they say about drawing are known from the entries alone.
-/

namespace MapTypes

namespace Forest

/-- Whether the category at the end of a path is drawn, where there is such a category. -/
def drawnAt? : Forest → List String → Option Bool
  | nil, _ => none
  | cons _ _ _ _, [] => none
  | cons here shown below next, label :: rest =>
    if label = here then
      if rest = [] then some shown else below.drawnAt? rest
    else next.drawnAt? (label :: rest)

@[simp]
theorem drawnAt?_nil (forest : Forest) : forest.drawnAt? [] = none := by
  cases forest <;> rfl

theorem drawnAt?_of_not_mem {forest : Forest} {label : String} (rest : List String)
    (absent : label ∉ forest.labels) : forest.drawnAt? (label :: rest) = none := by
  induction forest with
  | nil => rfl
  | cons here shown below next _ ih =>
    rw [labels, List.mem_cons, not_or] at absent
    rw [drawnAt?, if_neg absent.1, ih absent.2]

theorem drawnAt?_of_find? {forest below : Forest} {label : String} {rest : List String}
    (found : forest.find? label = some below) (further : rest ≠ []) :
    forest.drawnAt? (label :: rest) = below.drawnAt? rest := by
  induction forest with
  | nil => cases found
  | cons here shown inner next _ ih =>
    rw [find?] at found
    rw [drawnAt?]
    by_cases same : label = here
    · rw [if_pos same, Option.some.injEq] at found
      rw [if_pos same, if_neg further, found]
    · rw [if_neg same] at found
      rw [if_neg same, ih found]

theorem drawnAt?_sprout (visible : Bool) (path other : List String) :
    (sprout visible path).drawnAt? other =
      if other ≠ [] ∧ other <+: path then some (visible && decide (other = path)) else none := by
  induction path generalizing other with
  | nil => cases other <;> simp [sprout, drawnAt?]
  | cons label rest ih =>
    cases other with
    | nil => simp
    | cons first onward =>
      rw [sprout, drawnAt?]
      by_cases same : first = label
      · subst same
        by_cases last : onward = []
        · cases rest <;> simp [last]
        · simp [last, ih]
      · simp [same, drawnAt?]

/-- A path adds the categories on it, of which it draws the last, and changes no other. -/
theorem drawnAt?_grow {forest : Forest} (sorted : forest.Sorted) (visible : Bool)
    (path other : List String) :
    (forest.grow visible path).drawnAt? other =
      if other ≠ [] ∧ other <+: path then
        some ((forest.drawnAt? other).getD false || (visible && decide (other = path)))
      else forest.drawnAt? other := by
  fun_induction grow visible forest path generalizing other with
  | case1 forest => simp
  | case2 label rest =>
    rw [drawnAt?_sprout]
    simp [drawnAt?]
  | case3 shown below next here rest ih =>
    cases other with
    | nil => simp
    | cons first onward =>
      by_cases same : first = here
      · subst same
        by_cases last : onward = []
        · cases rest <;> simp [drawnAt?, last]
        · simp [drawnAt?, last, ih sorted.2.1]
      · simp [drawnAt?, same]
  | case4 here shown below next label rest different before =>
    cases other with
    | nil => simp
    | cons first onward =>
      rw [drawnAt?]
      by_cases same : first = label
      · -- The label is before all that are there, so nothing was at the end of the path.
        subst same
        rw [drawnAt?_of_not_mem onward (sorted.not_mem_of_lt before)]
        by_cases last : onward = []
        · cases rest <;> simp [last]
        · simp [last, drawnAt?_sprout]
      · simp [same]
  | case5 here shown below next label rest different notBefore ih =>
    cases other with
    | nil => simp
    | cons first onward =>
      by_cases same : first = here
      · subst same
        simp [drawnAt?, Ne.symm different]
      · simp only [drawnAt?, if_neg same, ih sorted.2.2]

end Forest

/-! ## Freezing -/

/-- A stored tree keeps whether its category is drawn. -/
theorem Stored.drawnAt? {nodes : Array Node} {place index : Nat} {forest : Forest}
    (stored : Stored nodes place index forest) (sorted : forest.Sorted) {j : Nat} {child : Node}
    (bound : j < forest.breadth) (here : nodes[place + j]? = some child) :
    forest.drawnAt? [child.label] = some child.visible := by
  induction forest generalizing place index j with
  | nil => cases bound
  | cons label visible below next _ ih =>
    obtain ⟨⟨first, top, _⟩, storedNext⟩ := stored
    rw [Forest.drawnAt?]
    cases j with
    | zero =>
      rw [Nat.add_zero, top, Option.some.injEq] at here
      subst here
      rw [if_pos rfl, if_pos rfl]
    | succ j =>
      have behind : nodes[place + 1 + j]? = some child := by
        rwa [show place + 1 + j = place + (j + 1) by omega]
      have inside : j < next.breadth := Nat.lt_of_succ_lt_succ bound
      obtain ⟨sibling, _, found, _, labelled, _⟩ := storedNext.child sorted.2.2 inside
      rw [behind, Option.some.injEq] at found
      subst found
      have later : child.label ≠ label :=
        Ne.symm (ne_of_lt (sorted.1 _ (List.mem_of_getElem? labelled)))
      rw [if_neg later]
      exact ih storedNext sorted.2.2 inside behind

namespace Taxonomy

variable {taxonomy : Taxonomy} {node child : Node} {forest : Forest}

theorem Spans.drawnAt?_child (spans : taxonomy.Spans node forest) (sorted : forest.Sorted)
    (edge : taxonomy.HasChild node child) :
    forest.drawnAt? [child.label] = some child.visible := by
  obtain ⟨j, bound, here⟩ := hasChild_iff.mp edge
  rw [spans.childCount_eq] at bound
  exact spans.stored.drawnAt? sorted bound here

/-- A forest has the paths of the ways below its node, each drawn as the node at its end. -/
theorem Spans.drawnAt?_eq_some_iff (spans : taxonomy.Spans node forest) (sorted : forest.Sorted)
    {path : List String} {shown : Bool} :
    forest.drawnAt? path = some shown ↔
      ∃ way, (node :: way).IsChain taxonomy.HasChild ∧ way.map Node.label = path ∧
        way.getLast?.map Node.visible = some shown := by
  induction path generalizing node forest with
  | nil =>
    rw [Forest.drawnAt?_nil]
    constructor
    · intro found
      cases found
    · rintro ⟨way, _, nothing, last⟩
      rw [List.map_eq_nil_iff.mp nothing] at last
      cases last
  | cons label rest ih =>
    constructor
    · intro found
      have present : label ∈ forest.labels := by
        by_contra absent
        rw [Forest.drawnAt?_of_not_mem rest absent] at found
        cases found
      rw [← spans.labels_children sorted] at present
      obtain ⟨child, edge, rfl⟩ := List.mem_map.mp present
      obtain ⟨below, inner, spansBelow, _⟩ := spans.child sorted edge
      by_cases further : rest = []
      · subst further
        rw [spans.drawnAt?_child sorted edge] at found
        exact ⟨[child], .cons_cons edge (.singleton child), rfl, found⟩
      · rw [Forest.drawnAt?_of_find? inner further] at found
        obtain ⟨onward, chain, labels, last⟩ := (ih spansBelow (sorted.find? inner)).mp found
        refine ⟨child :: onward, .cons_cons edge chain, by rw [List.map_cons, labels], ?_⟩
        cases onward with
        | nil => cases last
        | cons next more => rwa [List.getLast?_cons_cons]
    · rintro ⟨way, chain, labels, last⟩
      cases way with
      | nil => cases labels
      | cons child onward =>
        rw [List.map_cons, List.cons.injEq] at labels
        obtain ⟨rfl, labels⟩ := labels
        obtain ⟨edge, chain⟩ := List.isChain_cons_cons.mp chain
        obtain ⟨below, inner, spansBelow, _⟩ := spans.child sorted edge
        cases onward with
        | nil =>
          cases labels
          exact (spans.drawnAt?_child sorted edge).trans last
        | cons next more =>
          have further : rest ≠ [] := by
            rintro rfl
            cases labels
          rw [List.getLast?_cons_cons] at last
          rw [Forest.drawnAt?_of_find? inner further]
          exact (ih spansBelow (sorted.find? inner)).mpr ⟨next :: more, chain, labels, last⟩

theorem isVisible_eq {code : TypeCode} {way : List Node} {last : Node}
    (led : taxonomy.wayTo? code = some way) (ends : way.getLast? = some last) :
    taxonomy.isVisible code = last.visible := by
  rw [isVisible, led]
  simp only [ends, Option.getD_some]

end Taxonomy

/-- Freezing keeps the categories of a draft and whether they are drawn. -/
theorem Draft.Valid.drawnAt?_eq_some_iff {draft : Draft} (valid : draft.Valid)
    {path : List String} {shown : Bool} :
    draft.roots.drawnAt? path = some shown ↔
      ∃ code, draft.freeze.codeOf? path = .ok (some code) ∧
        draft.freeze.isVisible code = shown := by
  rw [draft.spans_root.drawnAt?_eq_some_iff valid.sorted]
  constructor
  · rintro ⟨way, chain, labels, ends⟩
    obtain ⟨last, isLast, shows⟩ := Option.map_eq_some_iff.mp ends
    have nonempty : way ≠ [] := by
      rintro rfl
      cases isLast
    obtain ⟨code, packed, ordinals⟩ :=
      TypeCode.ofIndices_of_fit (valid.sound.fit_of_way chain)
    have found : draft.freeze.codeOf? path = .ok (some code) :=
      valid.sound.codeOf?_eq_some_iff.mpr ⟨way, nonempty, chain, labels, packed⟩
    have occupied : ¬ code.isEmpty = true := by
      rw [TypeCode.isEmpty_iff_of_packed packed, List.map_eq_nil_iff]
      exact nonempty
    have led : draft.freeze.wayTo? code = some way :=
      valid.numbered.wayTo?_eq_some_iff.mpr ⟨occupied, chain, ordinals.symm⟩
    exact ⟨code, found, by rw [Taxonomy.isVisible_eq led isLast, shows]⟩
  · rintro ⟨code, found, shows⟩
    obtain ⟨way, led, nonempty, chain, labels⟩ := valid.numbered.exists_wayTo? found
    have isLast := List.getLast?_eq_some_getLast nonempty
    refine ⟨way, chain, labels, ?_⟩
    rw [isLast, Option.map_some, ← shows, Taxonomy.isVisible_eq led isLast]

/-- What a draft draws is what its frozen form says of the code of the path. -/
theorem Draft.Valid.drawnAt?_eq_map {draft : Draft} (valid : draft.Valid) {path : List String}
    {found : Option TypeCode} (resolves : draft.freeze.codeOf? path = .ok found) :
    draft.roots.drawnAt? path = found.map draft.freeze.isVisible := by
  cases found with
  | some code => exact valid.drawnAt?_eq_some_iff.mpr ⟨code, resolves, rfl⟩
  | none =>
    rw [Option.map_none, Option.eq_none_iff_forall_ne_some]
    intro shown drawn
    obtain ⟨code, codes, _⟩ := valid.drawnAt?_eq_some_iff.mp drawn
    rw [resolves] at codes
    cases codes

/-! ## Entries -/

namespace Draft

/-- The entries that a draft takes when a list of them is offered to it one after the other. -/
def accepted (draft : Draft) : List Entry → List Entry
  | [] => []
  | entry :: rest =>
    match draft.add entry with
    | .error _ => draft.accepted rest
    | .ok grown => entry :: grown.accepted rest

/-- What is taken are paths of at least one label; they make the draft grow. -/
theorem add_eq_ok {draft grown : Draft} {entry : Entry} (added : draft.add entry = .ok grown) :
    entry.path ≠ [] ∧ grown.roots = draft.roots.grow entry.visible entry.path := by
  rw [add] at added
  split at added
  · cases added
  · rename_i free
    cases added
    refine ⟨?_, rfl⟩
    intro nothing
    rw [refusal?, if_pos nothing] at free
    cases free

/-- An accepted entry gives the categories on its path, and draws the one at its end if it is to be
drawn. -/
theorem Valid.drawnAt?_add {draft grown : Draft} (valid : draft.Valid) {entry : Entry}
    (added : draft.add entry = .ok grown) {path : List String} (nonempty : path ≠ []) :
    ((grown.roots.drawnAt? path).isSome ↔
      (draft.roots.drawnAt? path).isSome ∨ path <+: entry.path) ∧
    (grown.roots.drawnAt? path = some true ↔
      draft.roots.drawnAt? path = some true ∨ ⟨path, true⟩ = entry) := by
  rw [(add_eq_ok added).2, Forest.drawnAt?_grow valid.sorted]
  by_cases leads : path <+: entry.path
  · rw [if_pos ⟨nonempty, leads⟩]
    have asked : (⟨path, true⟩ : Entry) = entry ↔ entry.visible = true ∧ path = entry.path := by
      cases entry
      simp [and_comm, eq_comm]
    constructor
    · simp [leads]
    · rw [asked]
      cases draft.roots.drawnAt? path <;> simp
  · rw [if_neg fun both => leads both.2]
    have other : (⟨path, true⟩ : Entry) ≠ entry := by
      rintro rfl
      exact leads (List.prefix_refl path)
    simp [leads, other]

/-- Offering entries gives a draft the categories on the accepted paths, and draws those that were
accepted as drawn. -/
theorem Valid.drawnAt?_addAccepted {draft : Draft} (valid : draft.Valid) (entries : List Entry)
    {path : List String} (nonempty : path ≠ []) :
    (((draft.addAccepted entries).roots.drawnAt? path).isSome ↔
      (draft.roots.drawnAt? path).isSome ∨
        ∃ entry ∈ draft.accepted entries, path <+: entry.path) ∧
    ((draft.addAccepted entries).roots.drawnAt? path = some true ↔
      draft.roots.drawnAt? path = some true ∨ ⟨path, true⟩ ∈ draft.accepted entries) := by
  induction entries generalizing draft with
  | nil => simp [Draft.addAccepted, accepted]
  | cons entry rest ih =>
    rw [Draft.addAccepted, List.foldl_cons, ← Draft.addAccepted, accepted]
    cases added : draft.add entry with
    | error refusal => exact ih valid
    | ok grown =>
      obtain ⟨present, drawn⟩ := ih (valid.add added)
      obtain ⟨presentStep, drawnStep⟩ := valid.drawnAt?_add added nonempty
      rw [presentStep, or_assoc] at present
      rw [drawnStep, or_assoc] at drawn
      rw [List.mem_cons, List.exists_mem_cons_iff]
      exact ⟨present, drawn⟩

/-- Whatever has a code is on the path of an accepted entry, and is drawn just when its own path was
accepted as drawn. -/
theorem accepted_of_codeOf? {entries : List Entry} {path : List String} {code : TypeCode}
    (found : (empty.addAccepted entries).freeze.codeOf? path = .ok (some code)) :
    (∃ entry ∈ empty.accepted entries, path <+: entry.path) ∧
      ((empty.addAccepted entries).freeze.isVisible code = true ↔
        ⟨path, true⟩ ∈ empty.accepted entries) := by
  have nonempty : path ≠ [] := by
    rintro rfl
    cases found
  have before : empty.roots.drawnAt? path = none := rfl
  obtain ⟨present, drawn⟩ := valid_empty.drawnAt?_addAccepted entries nonempty
  rw [(valid_empty.addAccepted entries).drawnAt?_eq_map found, before] at present drawn
  constructor
  · simpa using present
  · simpa using drawn

end Draft

/-- The frozen draft of any entries has just the categories on accepted paths, and draws just those
whose own path was accepted as drawn. -/
theorem Taxonomy.contents_of_accepted (entries : List Entry) (path : List String) :
    let taxonomy := (Draft.empty.addAccepted entries).freeze
    let accepted := Draft.empty.accepted entries
    ∃ found, taxonomy.codeOf? path = .ok found ∧
      (found.isSome ↔ path ≠ [] ∧ ∃ entry ∈ accepted, path <+: entry.path) ∧
      ∀ code, found = some code → (taxonomy.isVisible code ↔ ⟨path, true⟩ ∈ accepted) := by
  intro taxonomy accepted
  have valid : (Draft.empty.addAccepted entries).Valid := Draft.valid_empty.addAccepted entries
  obtain ⟨found, resolves⟩ := valid.sound.exists_codeOf? path
  refine ⟨found, resolves, ?_⟩
  have contents := valid.drawnAt?_eq_map resolves
  obtain rfl | nonempty := eq_or_ne path []
  · rw [Forest.drawnAt?_nil] at contents
    rw [Option.map_eq_none_iff.mp contents.symm]
    simp
  obtain ⟨present, drawn⟩ := Draft.valid_empty.drawnAt?_addAccepted entries nonempty
  have before : Draft.empty.roots.drawnAt? path = none := rfl
  simp only [contents, before, Option.isSome_map, Option.isSome_none, Bool.false_eq_true,
    reduceCtorEq, false_or] at present drawn
  constructor
  · rw [present, and_iff_right nonempty]
  · rintro code rfl
    rwa [Option.map_some, Option.some.injEq] at drawn

end MapTypes
