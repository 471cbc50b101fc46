import MapTypes.Proofs.OutcomeAccount

/-!
No check on type codes ever fails. To append a level takes two checks: the code must have a level
left, and the ordinal must fit into it. `attempts` lists what is checked when ordinals are packed,
`lookUp` what is checked when a path is looked up label by label and each ordinal is appended as
soon as its node is found, be it that the path breaks off further down. Over a frozen draft all of
them pass, since no way down is longer than a code and no node has an ordinal that does not fit.
-/

namespace MapTypes

/-! ## Attempts -/

namespace TypeCode

/-- An attempt to append an ordinal to a code. -/
structure Attempt where
  code : TypeCode
  index : Nat
  deriving DecidableEq, Repr

/-- Both checks of an attempt hold: the code has a level left, and the ordinal fits into it. -/
structure Attempt.Passes (attempt : Attempt) : Prop where
  depth_lt : attempt.code.depth < maxLevels
  index_le : attempt.index ≤ maxIndex

/-- The attempts that are made when ordinals are packed behind a code. A fault ends them. -/
def attempts (code : TypeCode) : List Nat → List Attempt
  | [] => []
  | index :: rest =>
    ⟨code, index⟩ ::
      match code.push index with
      | .ok longer => attempts longer rest
      | .error _ => []

theorem exists_push_iff {code : TypeCode} {index : Nat} :
    (∃ longer, code.push index = .ok longer) ↔ (⟨code, index⟩ : Attempt).Passes := by
  rw [exists_push_eq_ok_iff]
  constructor
  · rintro ⟨room, small⟩
    exact ⟨room, small⟩
  · rintro ⟨room, small⟩
    exact ⟨room, small⟩

/-- Packing goes through just when all checks pass. -/
theorem exists_foldlM_push_iff {code : TypeCode} {indices : List Nat} :
    (∃ final, indices.foldlM push code = .ok final) ↔
      ∀ attempt ∈ attempts code indices, attempt.Passes := by
  induction indices generalizing code with
  | nil => simp [attempts, pure, Except.pure]
  | cons index rest ih =>
    rw [attempts, List.forall_mem_cons, ← exists_push_iff, List.foldlM_cons]
    cases code.push index with
    | error fault => simp [bind, Except.bind]
    | ok longer => simpa [bind, Except.bind] using ih

/-- The second ordinal is too large, so the third is not tried. -/
example : attempts .empty [254, 255, 0] = [⟨.empty, 254⟩, ⟨⟨0xFF000000⟩, 255⟩] := by
  decide

theorem ofIndices_concat {indices : List Nat} {code : TypeCode}
    (packed : ofIndices indices = .ok code) (index : Nat) :
    ofIndices (indices ++ [index]) = code.push index := by
  rw [ofIndices, List.foldlM_append, ← ofIndices, packed]
  exact bind_pure (code.push index)

end TypeCode

/-! ## Lookups -/

namespace Taxonomy

variable {taxonomy : Taxonomy}

/-- Looks a path up from a node on, label by label; the code is that of the ordinals passed so far.
Gives the attempts that are made, and the answer. -/
def lookUpFrom (taxonomy : Taxonomy) (node : Node) (code : TypeCode) :
    List String → List TypeCode.Attempt × Except TypeCode.Fault (Option TypeCode)
  | [] => ([], .ok (if code.isEmpty then none else some code))
  | label :: rest =>
    match taxonomy.child? node label with
    | none => ([], .ok none)
    | some child =>
      match code.push child.index with
      | .error fault => ([⟨code, child.index⟩], .error fault)
      | .ok longer =>
        let onward := taxonomy.lookUpFrom child longer rest
        (⟨code, child.index⟩ :: onward.1, onward.2)

/-- Looks a path up label by label. -/
def lookUp (taxonomy : Taxonomy) (path : List String) :
    List TypeCode.Attempt × Except TypeCode.Fault (Option TypeCode) :=
  taxonomy.lookUpFrom taxonomy.root .empty path

/-- A way down goes on to every child of the node where it ends. -/
theorem isChain_concat {node child : Node} {way : List Node}
    (chain : (node :: way).IsChain taxonomy.HasChild)
    (edge : taxonomy.HasChild (way.getLastD node) child) :
    (node :: (way ++ [child])).IsChain taxonomy.HasChild := by
  rw [← List.cons_append, List.isChain_append]
  refine ⟨chain, .singleton child, ?_⟩
  intro last isLast first isFirst
  rw [List.getLast?_cons, ← List.getLastD_eq_getLast?, Option.mem_some] at isLast
  rw [List.head?_cons, Option.mem_some] at isFirst
  rwa [← isLast, ← isFirst]

theorem descend?_of_child? {node child : Node} {label : String}
    (found : taxonomy.child? node label = some child) (rest : List String) :
    taxonomy.descend? node (label :: rest) = (taxonomy.descend? child rest).map (child :: ·) := by
  rw [descend?, found]
  change (do let further ← taxonomy.descend? child rest; some (child :: further)) = _
  cases taxonomy.descend? child rest <;> rfl

/-- From the end of a way whose ordinals are packed, a lookup passes all checks, and answers with
the code of the whole way when there is one. -/
theorem Sound.lookUpFrom_spec (sound : taxonomy.Sound) {way : List Node} {code : TypeCode}
    (chain : (taxonomy.root :: way).IsChain taxonomy.HasChild)
    (packed : TypeCode.ofIndices (way.map Node.index) = .ok code) (path : List String) :
    let node := way.getLastD taxonomy.root
    (∀ attempt ∈ (taxonomy.lookUpFrom node code path).1, attempt.Passes) ∧
      (taxonomy.lookUpFrom node code path).2 =
        match taxonomy.descend? node path with
        | none => .ok none
        | some onward => do
          let code ← TypeCode.ofIndices ((way ++ onward).map Node.index)
          return if code.isEmpty then none else some code := by
  induction path generalizing way code with
  | nil =>
    refine ⟨by simp [lookUpFrom], ?_⟩
    rw [lookUpFrom, descend?]
    dsimp only
    rw [List.append_nil, packed]
    rfl
  | cons label rest ih =>
    intro node
    cases found : taxonomy.child? node label with
    | none => simp [lookUpFrom, descend?, found]
    | some child =>
      -- The ordinal of the child fits, for the way that goes on to it is a way down from the root.
      have further := isChain_concat chain (hasChild_of_child? found).1
      obtain ⟨longer, packedLonger, _⟩ := TypeCode.ofIndices_of_fit (sound.fit_of_way further)
      have pushed : code.push child.index = .ok longer := by
        rw [← packedLonger, List.map_append, List.map_singleton, TypeCode.ofIndices_concat packed]
      obtain ⟨room, small⟩ := TypeCode.push_eq_ok pushed
      obtain ⟨passes, answer⟩ := ih further packedLonger
      rw [List.getLastD_concat] at passes answer
      simp only [lookUpFrom, found, pushed, List.forall_mem_cons]
      refine ⟨⟨⟨room, small⟩, passes⟩, ?_⟩
      rw [answer, descend?_of_child? found]
      cases taxonomy.descend? child rest with
      | none => rfl
      | some onward =>
        dsimp only [Option.map_some]
        rw [List.append_assoc, List.singleton_append]

/-- To look a path up label by label passes all checks, and gives the code of the path. -/
theorem Sound.lookUp_spec (sound : taxonomy.Sound) (path : List String) :
    (∀ attempt ∈ (taxonomy.lookUp path).1, attempt.Passes) ∧
      (taxonomy.lookUp path).2 = taxonomy.codeOf? path := by
  have start : (taxonomy.root :: ([] : List Node)).IsChain taxonomy.HasChild :=
    .singleton taxonomy.root
  exact sound.lookUpFrom_spec start rfl path

end Taxonomy

/-! ## Ordinals -/

/-- Siblings are numbered on from the first, and what stands below each is narrow. -/
theorem Forest.Narrow.siblings {forest : Forest} {limit : Nat} (narrow : forest.Narrow limit)
    {index : Nat} {pending : Pending} (member : pending ∈ forest.siblings index) :
    pending.index < index + forest.breadth ∧ pending.below.breadth ≤ limit ∧
      pending.below.Narrow limit := by
  induction forest generalizing index with
  | nil => cases member
  | cons label visible below next _ ih =>
    rw [breadth]
    rcases List.mem_cons.mp member with rfl | later
    · exact ⟨Nat.lt_add_of_pos_right (Nat.succ_pos _), narrow.1, narrow.2.1⟩
    · obtain ⟨bound, inner⟩ := ih narrow.2.2 later
      exact ⟨by omega, inner⟩

/-- Laying out gives no node an ordinal beyond those of full siblings. -/
theorem index_le_of_mem_layOut {next : Nat} {queue : List Pending}
    (narrow : ∀ pending ∈ queue, pending.index ≤ TypeCode.maxIndex ∧
      pending.below.breadth ≤ maxChildren ∧ pending.below.Narrow maxChildren) :
    ∀ node ∈ layOut next queue, node.index ≤ TypeCode.maxIndex := by
  fun_induction layOut next queue with
  | case1 => simp
  | case2 next pending queue ih =>
    obtain ⟨⟨ordinal, breadth, below⟩, rest⟩ := List.forall_mem_cons.mp narrow
    refine List.forall_mem_cons.mpr ⟨ordinal, ih ?_⟩
    intro other member
    rcases List.mem_append.mp member with waiting | child
    · exact rest other waiting
    · obtain ⟨bound, inner⟩ := below.siblings child
      rw [maxChildren] at breadth
      exact ⟨by omega, inner⟩

theorem Draft.Valid.index_le {draft : Draft} (valid : draft.Valid) :
    ∀ node ∈ draft.freeze.nodes, node.index ≤ TypeCode.maxIndex := by
  intro node member
  rw [Draft.freeze, List.mem_toArray] at member
  refine index_le_of_mem_layOut ?_ node member
  intro pending only
  rw [List.mem_singleton.mp only]
  exact ⟨Nat.zero_le _, valid.breadth_le, valid.narrow⟩

/-! ## Walks and classification -/

/-- To give a trail its code passes all checks, since the trail is a way down from the root. -/
theorem Walk.attempts_pass {taxonomy : Taxonomy} (sound : taxonomy.Sound) {tags : List Tag}
    {trail : Trail} (member : trail ∈ trails taxonomy tags) :
    ∀ attempt ∈ TypeCode.attempts .empty (trail.nodes.map Node.index), attempt.Passes := by
  obtain ⟨_, _, _, each⟩ := trailsFrom_spec taxonomy (slotsOf tags)
  obtain ⟨code, packed, _⟩ :=
    TypeCode.ofIndices_of_fit (sound.fit_of_way (each trail member).1.isChain)
  exact TypeCode.exists_foldlM_push_iff.mp ⟨code, packed⟩

/-- Whatever was offered to a draft, over its frozen form no check fails. No way down from the root
is longer than a code, and no ordinal in the arena is too large for a level. So all attempts pass
that are made to look up paths, those of the landmarks included, and to give codes to what a walk
finds; a path has the code that looking it up label by label gives; and every element has an
outcome. -/
theorem Classify.checks_never_fail (entries : List Entry) :
    let taxonomy := (Draft.empty.addAccepted entries).freeze
    (∀ way, (taxonomy.root :: way).IsChain taxonomy.HasChild →
      way.length ≤ TypeCode.maxLevels) ∧
    (∀ node ∈ taxonomy.nodes, node.index ≤ TypeCode.maxIndex) ∧
    (∀ path, (∀ attempt ∈ (taxonomy.lookUp path).1, attempt.Passes) ∧
      ∃ found, (taxonomy.lookUp path).2 = .ok found ∧ taxonomy.codeOf? path = .ok found) ∧
    (∃ landmarks, Landmarks.find taxonomy = .ok landmarks) ∧
    (∀ tags, ∀ trail ∈ Walk.trails taxonomy tags,
      ∀ attempt ∈ TypeCode.attempts .empty (trail.nodes.map Node.index), attempt.Passes) ∧
    ∀ (options : Options) (element : Element), ∃ outcome,
      element.classify taxonomy options =
        .ok (outcome, { element with tags := outcome.tags }) := by
  intro taxonomy
  have valid : (Draft.empty.addAccepted entries).Valid := Draft.valid_empty.addAccepted entries
  have sound : taxonomy.Sound := valid.sound
  obtain ⟨landmarks, each⟩ := exists_account entries
  refine ⟨?_, valid.index_le, ?_, ?_, fun tags trail member => Walk.attempts_pass sound member, ?_⟩
  · intro way chain
    simpa using (sound.fit_of_way chain).length_le
  · intro path
    obtain ⟨passes, same⟩ := sound.lookUp_spec path
    obtain ⟨found, resolves⟩ := sound.exists_codeOf? path
    exact ⟨passes, found, by rw [same, resolves], resolves⟩
  · obtain ⟨landmarks, found, _⟩ := Landmarks.exists_find sound
    exact ⟨landmarks, found⟩
  · intro options element
    obtain ⟨outcome, ran, _⟩ := each options element
    exact ⟨outcome, ran⟩

end MapTypes
