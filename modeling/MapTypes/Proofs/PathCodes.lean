import MapTypes.Proofs.CodeOrder
import MapTypes.Proofs.PathLookup
import MapTypes.Proofs.SiblingNumbers

/-!
Codes and paths. Over a numbered taxonomy a code is a path of labels in another form: the path leads
to a way of nodes, the ordinals of these nodes make the code, and the ordinals of the code lead back
along the same way. Codes compare as their paths do, so a depth-first listing has increasing codes,
and the code of a prefix is the truncated code. A code with a gap has the place that is above the
gap.
-/

namespace MapTypes

theorem TypeCode.isEmpty_iff_of_packed {code : TypeCode} {indices : List Nat}
    (packed : ofIndices indices = .ok code) : code.isEmpty = true ↔ indices = [] := by
  constructor
  · intro nothing
    have same : code = empty := eq_of_raw_eq (congrArg UInt32.toNat (eq_of_beq nothing))
    rw [← indices_of_packed packed, same]
    rfl
  · rintro rfl
    cases packed
    rfl

namespace Taxonomy

variable {taxonomy : Taxonomy} {path first second : List String} {way : List Node}
variable {code firstCode secondCode : TypeCode}

/-! ## From paths to codes -/

/-- A path has a code just when it leads to a node below the root, and then the code is packed from
the ordinals on the way. -/
theorem Sound.codeOf?_eq_some_iff (sound : taxonomy.Sound) :
    taxonomy.codeOf? path = .ok (some code) ↔
      ∃ way, way ≠ [] ∧ (taxonomy.root :: way).IsChain taxonomy.HasChild ∧
        way.map Node.label = path ∧ TypeCode.ofIndices (way.map Node.index) = .ok code := by
  rw [codeOf?]
  constructor
  · intro found
    cases descended : taxonomy.descend? taxonomy.root path with
    | none =>
      rw [descended] at found
      cases found
    | some way =>
      obtain ⟨chain, labels⟩ := (sound.descend?_eq_some_iff .refl).mp descended
      obtain ⟨packed, ran, _⟩ := TypeCode.ofIndices_of_fit (sound.fit_of_way chain)
      simp only [descended, ran] at found
      change Except.ok (if packed.isEmpty then none else some packed) = _ at found
      rw [Except.ok.injEq] at found
      split at found
      · cases found
      · rename_i occupied
        cases found
        refine ⟨way, ?_, chain, labels, ran⟩
        rintro rfl
        exact occupied ((TypeCode.isEmpty_iff_of_packed ran).mpr rfl)
  · rintro ⟨way, nonempty, chain, labels, ran⟩
    have occupied : ¬ code.isEmpty = true := by
      rw [TypeCode.isEmpty_iff_of_packed ran, List.map_eq_nil_iff]
      exact nonempty
    simp only [(sound.descend?_eq_some_iff .refl).mpr ⟨chain, labels⟩, ran]
    change Except.ok (if code.isEmpty then none else some code) = _
    rw [if_neg occupied]

/-- The code of a prefix is the truncated code. -/
theorem Sound.codeOf?_take (sound : taxonomy.Sound)
    (found : taxonomy.codeOf? path = .ok (some code)) {levels : Nat} (positive : 0 < levels) :
    taxonomy.codeOf? (path.take levels) = .ok (some (code.truncate levels)) := by
  obtain ⟨way, nonempty, chain, rfl, packed⟩ := sound.codeOf?_eq_some_iff.mp found
  refine sound.codeOf?_eq_some_iff.mpr ⟨way.take levels, ?_, ?_, List.map_take, ?_⟩
  · rw [Ne, List.take_eq_nil_iff, not_or]
    exact ⟨Nat.ne_of_gt positive, nonempty⟩
  · have shorter := chain.take (levels + 1)
    rwa [List.take_succ_cons] at shorter
  · rw [List.map_take]
    exact TypeCode.packed_take packed levels

/-! ## From codes to paths -/

theorem Numbered.wayTo?_eq_some_iff (numbered : taxonomy.Numbered) :
    taxonomy.wayTo? code = some way ↔ ¬ code.isEmpty = true ∧
      (taxonomy.root :: way).IsChain taxonomy.HasChild ∧ way.map Node.index = code.indices := by
  rw [wayTo?]
  split
  · rename_i empty
    simp [empty]
  · rename_i occupied
    rw [numbered.descendAt?_eq_some_iff .refl]
    exact ⟨fun led => ⟨occupied, led⟩, And.right⟩

/-- The ordinals of a code lead along the way that the path of the code takes. -/
theorem Numbered.exists_wayTo? (numbered : taxonomy.Numbered)
    (found : taxonomy.codeOf? path = .ok (some code)) :
    ∃ way, taxonomy.wayTo? code = some way ∧ way ≠ [] ∧
      (taxonomy.root :: way).IsChain taxonomy.HasChild ∧ way.map Node.label = path := by
  obtain ⟨way, nonempty, chain, labels, packed⟩ := numbered.codeOf?_eq_some_iff.mp found
  refine ⟨way, numbered.wayTo?_eq_some_iff.mpr ⟨?_, chain, ?_⟩, nonempty, chain, labels⟩
  · rw [TypeCode.isEmpty_iff_of_packed packed, List.map_eq_nil_iff]
    exact nonempty
  · rw [TypeCode.indices_of_packed packed]

/-- A path is read back from its code. -/
theorem Numbered.labelsOf?_of_codeOf? (numbered : taxonomy.Numbered)
    (found : taxonomy.codeOf? path = .ok (some code)) : taxonomy.labelsOf? code = some path := by
  obtain ⟨way, led, _, _, labels⟩ := numbered.exists_wayTo? found
  rw [labelsOf?, led, Option.map_some, labels]

theorem Numbered.path_eq_of_code (numbered : taxonomy.Numbered)
    (found : taxonomy.codeOf? first = .ok (some code))
    (foundOther : taxonomy.codeOf? second = .ok (some code)) : first = second := by
  have labels := numbered.labelsOf?_of_codeOf? found
  rwa [numbered.labelsOf?_of_codeOf? foundOther, Option.some.injEq, eq_comm] at labels

/-- The labels of a code are those of a path that has the code, but for what is below a gap. A code
without a first level has no labels. -/
theorem Numbered.codeOf?_of_labelsOf? (numbered : taxonomy.Numbered)
    (labelled : taxonomy.labelsOf? code = some path) :
    ¬ code.isEmpty = true ∧ (path = [] ∧ code.digit 0 = 0 ∨
      taxonomy.codeOf? path = .ok (some (code.truncate code.depth))) := by
  obtain ⟨way, led, rfl⟩ := Option.map_eq_some_iff.mp labelled
  obtain ⟨occupied, chain, ordinals⟩ := numbered.wayTo?_eq_some_iff.mp led
  refine ⟨occupied, ?_⟩
  by_cases nothing : way = []
  · subst nothing
    have shallow : code.depth = 0 := by
      rw [TypeCode.depth, ← ordinals]
      rfl
    have absent : code.digit code.depth = 0 := TypeCode.digit_depth (by rw [shallow]; decide)
    rw [shallow] at absent
    exact .inl ⟨rfl, absent⟩
  · have packed := TypeCode.ofIndices_indices code
    rw [← ordinals] at packed
    exact .inr (numbered.codeOf?_eq_some_iff.mpr ⟨way, nothing, chain, rfl, packed⟩)

/-- Encoding undoes decoding for the codes without a gap, and for no other. -/
theorem Numbered.codeOf?_labelsOf?_iff (numbered : taxonomy.Numbered)
    (labelled : taxonomy.labelsOf? code = some path) :
    taxonomy.codeOf? path = .ok (some code) ↔ code.Gapless := by
  obtain ⟨occupied, ⟨rfl, absent⟩ | found⟩ := numbered.codeOf?_of_labelsOf? labelled
  · constructor
    · intro found
      cases found
    · intro gapless
      have zero : code = TypeCode.empty := by
        apply TypeCode.eq_of_digit_eq
        intro level inside
        rw [gapless 0 level (Nat.zero_le _) inside absent]
        simp [TypeCode.digit, TypeCode.empty]
      rw [zero] at occupied
      exact absurd rfl occupied
  · rw [found, ← TypeCode.truncate_depth_eq_iff, Except.ok.injEq, Option.some.injEq]

/-! ## Order -/

/-- Codes compare as their paths do. -/
theorem Numbered.code_lt_iff (numbered : taxonomy.Numbered)
    (found : taxonomy.codeOf? first = .ok (some firstCode))
    (foundOther : taxonomy.codeOf? second = .ok (some secondCode)) :
    firstCode < secondCode ↔ first < second := by
  obtain ⟨way, _, chain, rfl, packed⟩ := numbered.codeOf?_eq_some_iff.mp found
  obtain ⟨further, _, chainOther, rfl, packedOther⟩ := numbered.codeOf?_eq_some_iff.mp foundOther
  rw [TypeCode.packed_lt_iff packed packedOther]
  exact numbered.indices_lt_iff .refl chain chainOther

theorem Numbered.code_eq_iff (numbered : taxonomy.Numbered)
    (found : taxonomy.codeOf? first = .ok (some firstCode))
    (foundOther : taxonomy.codeOf? second = .ok (some secondCode)) :
    firstCode = secondCode ↔ first = second := by
  constructor
  · rintro rfl
    exact numbered.path_eq_of_code found foundOther
  · rintro rfl
    rw [found, Except.ok.injEq, Option.some.injEq] at foundOther
    exact foundOther

/-- A truncated code is that of a landmark just when the path of the landmark is a prefix. -/
theorem Numbered.truncate_eq_iff (numbered : taxonomy.Numbered)
    (found : taxonomy.codeOf? first = .ok (some firstCode))
    (foundOther : taxonomy.codeOf? second = .ok (some secondCode)) :
    secondCode.truncate first.length = firstCode ↔ first <+: second := by
  have positive : 0 < first.length := by
    apply List.length_pos_iff.mpr
    rintro rfl
    cases found
  have shorter := numbered.codeOf?_take foundOther positive
  rw [numbered.code_eq_iff shorter found, List.prefix_iff_eq_take]
  exact eq_comm

/-! ## Listing -/

/-- Down to a number of levels the listing has every way that is not longer. -/
theorem mem_waysBelow_iff {levels : Nat} {node : Node} :
    way ∈ taxonomy.waysBelow levels node ↔
      way ≠ [] ∧ way.length ≤ levels ∧ (node :: way).IsChain taxonomy.HasChild := by
  induction levels generalizing node way with
  | zero =>
    rw [waysBelow, Nat.le_zero, List.length_eq_zero_iff]
    constructor
    · intro member
      cases member
    · rintro ⟨nonempty, nothing, _⟩
      exact absurd nothing nonempty
  | succ levels ih =>
    simp only [waysBelow, List.mem_flatMap, List.mem_cons, List.mem_map, ih]
    constructor
    · rintro ⟨child, edge, rfl | ⟨onward, ⟨_, short, chain⟩, rfl⟩⟩
      · exact ⟨by simp, by simp, .cons_cons edge (.singleton child)⟩
      · exact ⟨by simp, Nat.succ_le_succ short, .cons_cons edge chain⟩
    · rintro ⟨nonempty, short, chain⟩
      cases way with
      | nil => exact absurd rfl nonempty
      | cons child onward =>
        obtain ⟨edge, chain⟩ := List.isChain_cons_cons.mp chain
        refine ⟨child, edge, ?_⟩
        by_cases last : onward = []
        · exact .inl (by rw [last])
        · exact .inr ⟨onward, ⟨last, Nat.le_of_succ_le_succ short, chain⟩, rfl⟩

/-- The listing has the paths that have a code. -/
theorem Sound.mem_ways_iff (sound : taxonomy.Sound) :
    path ∈ taxonomy.ways.map (·.map Node.label) ↔
      ∃ code, taxonomy.codeOf? path = .ok (some code) := by
  simp only [List.mem_map, ways, mem_waysBelow_iff, sound.codeOf?_eq_some_iff]
  constructor
  · rintro ⟨way, ⟨nonempty, _, chain⟩, labels⟩
    obtain ⟨code, packed, _⟩ := TypeCode.ofIndices_of_fit (sound.fit_of_way chain)
    exact ⟨code, way, nonempty, chain, labels, packed⟩
  · rintro ⟨code, way, nonempty, chain, labels, _⟩
    have short := (sound.fit_of_way chain).length_le
    rw [List.length_map] at short
    exact ⟨way, ⟨nonempty, short, chain⟩, labels⟩

/-- Depth first, the paths increase. -/
theorem Numbered.pairwise_waysBelow (numbered : taxonomy.Numbered) (levels : Nat) {node : Node}
    (reachable : Relation.ReflTransGen taxonomy.HasChild taxonomy.root node) :
    ((taxonomy.waysBelow levels node).map (·.map Node.label)).Pairwise (· < ·) := by
  induction levels generalizing node with
  | zero => exact .nil
  | succ levels ih =>
    rw [waysBelow, List.map_flatMap, List.pairwise_flatMap]
    constructor
    · intro child edge
      -- First the child itself, then what is below it: all with the label of the child in front.
      rw [List.map_cons, List.map_map, List.pairwise_cons]
      constructor
      · intro path member
        obtain ⟨onward, below, rfl⟩ := List.mem_map.mp member
        have nonempty := (mem_waysBelow_iff.mp below).1
        cases onward with
        | nil => exact absurd rfl nonempty
        | cons next rest => simp
      · have below := List.pairwise_map.mp (ih (reachable.tail edge))
        refine List.pairwise_map.mpr (below.imp fun less => ?_)
        simp only [Function.comp_apply, List.map_cons, List.cons_lt_cons_iff]
        exact .inr ⟨trivial, less⟩
    · refine (numbered.label_lt reachable).imp fun {child other} less path member onward later => ?_
      have headed : ∀ {top : Node} {labels : List String},
          labels ∈ ([top] :: (taxonomy.waysBelow levels top).map (top :: ·)).map
            (·.map Node.label) → ∃ rest, labels = top.label :: rest := by
        intro top labels listed
        rw [List.map_cons, List.mem_cons, List.map_map, List.mem_map] at listed
        rcases listed with rfl | ⟨way, _, rfl⟩
        · exact ⟨[], rfl⟩
        · exact ⟨way.map Node.label, rfl⟩
      obtain ⟨rest, rfl⟩ := headed member
      obtain ⟨restOther, rfl⟩ := headed later
      exact List.cons_lt_cons_iff.mpr (.inl less)

/-- The codes of the listing increase. -/
theorem Numbered.exists_codes_of_ways (numbered : taxonomy.Numbered) :
    ∃ codes : List TypeCode,
      (taxonomy.ways.map (·.map Node.label)).mapM taxonomy.codeOf? = .ok (codes.map some) ∧
        codes.Pairwise (· < ·) := by
  choose! codeAt found using fun path (listed : path ∈ taxonomy.ways.map (·.map Node.label)) =>
    numbered.mem_ways_iff.mp listed
  refine ⟨(taxonomy.ways.map (·.map Node.label)).map codeAt, ?_, ?_⟩
  · rw [mapM_eq_ok_iff, List.map_map, List.forall₂_map_right_iff, List.forall₂_same]
    exact found
  · rw [List.pairwise_map]
    refine (numbered.pairwise_waysBelow TypeCode.maxLevels .refl).imp_of_mem ?_
    intro path other listed listedOther less
    exact (numbered.code_lt_iff (found path listed) (found other listedOther)).mpr less

/-- Over every frozen draft codes and paths are two forms of the same places, in the same order.
Paths are read back from their codes; codes compare as paths do; the depth-first listing has all
paths with a code, and their codes increase; and of any word that has labels at all, these are the
labels of what is above its first gap, so that encoding gives back the words without a gap and no
others. -/
theorem codes_mirror_paths (entries : List Entry) :
    let taxonomy := (Draft.empty.addAccepted entries).freeze
    let listing := taxonomy.ways.map (·.map Node.label)
    (∀ path code, taxonomy.codeOf? path = .ok (some code) →
      taxonomy.labelsOf? code = some path) ∧
    (∀ first second firstCode secondCode, taxonomy.codeOf? first = .ok (some firstCode) →
      taxonomy.codeOf? second = .ok (some secondCode) →
        (firstCode.raw < secondCode.raw ↔ first < second) ∧
        (firstCode = secondCode ↔ first = second)) ∧
    (∀ path, path ∈ listing ↔ ∃ code, taxonomy.codeOf? path = .ok (some code)) ∧
    (∃ codes : List TypeCode, listing.mapM taxonomy.codeOf? = .ok (codes.map some) ∧
      codes.Pairwise (·.raw < ·.raw)) ∧
    ∀ code path, taxonomy.labelsOf? code = some path →
      (path = [] ∧ code.digit 0 = 0 ∨
        taxonomy.codeOf? path = .ok (some (code.truncate code.depth))) ∧
      (taxonomy.codeOf? path = .ok (some code) ↔ code ≠ TypeCode.empty ∧ code.Gapless) := by
  intro taxonomy listing
  have numbered : taxonomy.Numbered := numbered_freeze entries
  refine ⟨fun path code found => numbered.labelsOf?_of_codeOf? found, ?_,
    fun path => numbered.mem_ways_iff, numbered.exists_codes_of_ways, ?_⟩
  · intro first second firstCode secondCode found foundOther
    exact ⟨numbered.code_lt_iff found foundOther, numbered.code_eq_iff found foundOther⟩
  · intro code path labelled
    obtain ⟨occupied, place⟩ := numbered.codeOf?_of_labelsOf? labelled
    refine ⟨place, ?_⟩
    rw [numbered.codeOf?_labelsOf?_iff labelled]
    constructor
    · intro gapless
      refine ⟨?_, gapless⟩
      rintro rfl
      exact occupied rfl
    · exact And.right

end Taxonomy

end MapTypes
