import MapTypes.Metadata
import MapTypes.Proofs.OutcomeAccount
import MapTypes.Proofs.TagResidue
import MapTypes.Proofs.WalkByDeletion

/-!
Inert tags have no part in a classification. A reading of tags passes inert tags by when one that is
put anywhere makes no difference to it (`PassesInert`). Every stage is such a reading of the tags,
or of what preparation leaves of them: the tables speak of live tags and of none of the descriptive
keys, and names, walk and hand-over pass by what is ignored. Two lists that differ in inert tags
only are therefore classified in the same way.
-/

namespace MapTypes

/-! ## Inert tags -/

namespace Tag

/-- A tag that tells nothing of the element: it is consumed, whatever was written over it, or it has
no key, or one that only describes. -/
def isInert (tag : Tag) : Bool :=
  tag.consumed || tag.key == "" || descriptiveKeys.contains tag.key

variable {tag : Tag}

theorem key_of_inert (inert : tag.isInert = true) (live : tag.isLive = true) :
    tag.key ∈ descriptiveKeys := by
  rw [isLive, Bool.and_eq_true, Bool.not_eq_true', bne_iff_ne] at live
  rw [isInert, live.1, Bool.false_or, Bool.or_eq_true, beq_iff_eq] at inert
  exact List.contains_iff_mem.mp (inert.resolve_left live.2)

theorem isIgnored_of_inert (inert : tag.isInert = true) : tag.isIgnored = true := by
  cases live : tag.isLive with
  | false => exact isIgnored_of_dead live
  | true =>
    rw [isIgnored, List.contains_iff_mem.mpr (key_of_inert inert live), Bool.or_true, Bool.true_or]

theorem languageOfTag?_of_inert (inert : tag.isInert = true) : Names.languageOfTag? tag = none := by
  rw [Names.languageOfTag?, isIgnored_of_inert inert, Bool.true_or, if_pos rfl]

theorem not_isCandidate_of_inert (inert : tag.isInert = true) : tag.isCandidate = false := by
  rw [isCandidate, isIgnored_of_inert inert, Bool.not_true, Bool.false_and]

end Tag

/-- A rule for a key that does more than describe applies to no inert tag. -/
theorem Rule.applies_of_inert {α : Type} {rule : Rule α} {tag : Tag}
    (telling : rule.key ∉ Tag.descriptiveKeys) (inert : tag.isInert = true) :
    rule.applies tag = false := by
  rw [← Bool.not_eq_true, applies_iff]
  rintro ⟨live, key, _⟩
  rw [← key] at telling
  exact telling (Tag.key_of_inert inert live)

/-- A table of such rules finds nothing in inert tags. -/
theorem Rule.find?_of_inert {α : Type} {table : List (Rule α)} {tag : Tag}
    (telling : ∀ rule ∈ table, rule.key ∉ Tag.descriptiveKeys) (inert : tag.isInert = true) :
    table.find? (·.applies tag) = none := by
  rw [List.find?_eq_none]
  intro rule member
  rw [applies_of_inert (telling rule member) inert]
  exact Bool.false_ne_true

theorem Attribute.heldBy?_of_inert {tag : Tag} (inert : tag.isInert = true) :
    heldBy? tag = none := by
  rw [heldBy?, Rule.find?_of_inert (by decide) inert, Option.map_none]

theorem Names.residue_of_inert {tag : Tag} (inert : tag.isInert = true) : residue tag = tag := by
  rw [residue, Tag.languageOfTag?_of_inert inert, Option.isSome_none, if_neg Bool.false_ne_true]

/-- Classification leaves inert tags as they are. -/
theorem Tag.residue_of_inert {tag : Tag} (inert : tag.isInert = true) : tag.residue = tag := by
  rw [residue_eq, Names.residue_of_inert inert, Attribute.residue, Attribute.heldBy?_of_inert inert]

/-! ## Readings -/

/-- A reading of tags that passes inert tags by: it is the same with one more of them anywhere. -/
def PassesInert {α : Type} (read : List Tag → α) : Prop :=
  ∀ before tag after, tag.isInert = true →
    read (before ++ tag :: after) = read (before ++ after)

namespace PassesInert

variable {α : Type} {read : List Tag → α} {tags first second : List Tag}

theorem eq_filter (passes : PassesInert read) (before tags : List Tag) :
    read (before ++ tags) = read (before ++ tags.filter (!·.isInert)) := by
  -- What stays moves to the front, so that the next inert tag can be taken out from behind it.
  induction tags generalizing before with
  | nil => rfl
  | cons tag rest ih =>
    cases inert : tag.isInert with
    | true =>
      rw [passes before tag rest inert, ih, List.filter_cons_of_neg]
      simp [inert]
    | false =>
      have further := ih (before ++ [tag])
      rw [List.append_assoc, List.append_assoc, List.singleton_append, List.singleton_append]
        at further
      rw [further, List.filter_cons_of_pos]
      simp [inert]

/-- Lists that are alike but for inert tags read the same. -/
theorem eq (passes : PassesInert read)
    (alike : first.filter (!·.isInert) = second.filter (!·.isInert)) :
    read first = read second :=
  calc read first
      = read (first.filter (!·.isInert)) := passes.eq_filter [] first
    _ = read (second.filter (!·.isInert)) := by rw [alike]
    _ = read second := (passes.eq_filter [] second).symm

theorem filter {keeps : Tag → Bool} (drops : ∀ tag, tag.isInert = true → keeps tag = false) :
    PassesInert (List.filter keeps) := by
  intro before tag after inert
  rw [List.filter_append, List.filter_append, List.filter_cons_of_neg]
  simp [drops tag inert]

theorem hits {table : List (Rule α)} (telling : ∀ rule ∈ table, rule.key ∉ Tag.descriptiveKeys) :
    PassesInert (Rule.hits table) := by
  intro before tag after inert
  have silent : table.filter (·.applies tag) = [] := by
    rw [List.filter_eq_nil_iff, ← List.find?_eq_none]
    exact Rule.find?_of_inert telling inert
  simp only [Rule.hits, List.flatMap_append, List.flatMap_cons, silent, List.map_nil,
    List.nil_append]

theorem firstHit? {table : List (Rule α)}
    (telling : ∀ rule ∈ table, rule.key ∉ Tag.descriptiveKeys) :
    PassesInert (Rule.firstHit? table) := by
  intro before tag after inert
  simp only [Rule.firstHit?, List.findSome?_append, List.findSome?_cons,
    Rule.find?_of_inert telling inert, Option.map_none]

/-! ### Stages -/

theorem added? : PassesInert Layer.added? := by
  intro before tag after inert
  have same : Rule.hits Layer.hints (before ++ tag :: after) = Rule.hits Layer.hints _ :=
    hits (by decide) before tag after inert
  rw [Layer.added?, Layer.implied?, same, Layer.added?, Layer.implied?]

/-- What is read before the walk. -/
theorem record : PassesInert fun tags => (Classify.prepare tags).1 := by
  intro before tag after inert
  have unnamed (feature : Feature) : (Names.extract feature tag).1 = feature := by
    rw [Names.extract, Tag.languageOfTag?_of_inert inert]
  have unheld (feature : Feature) :
      (Attribute.extractBy Attribute.table feature tag).1 = feature := by
    rw [Attribute.extractBy_table, Attribute.heldBy?_of_inert inert]
  simp only [Classify.prepare_eq, Layer.complete_eq, added? before tag after inert,
    List.append_assoc, List.cons_append, List.map_append, List.map_cons, List.foldl_append,
    List.foldl_cons, Names.residue_of_inert inert, unnamed, unheld]

/-- A reading of what preparation leaves of the tags. -/
theorem prepared (passes : PassesInert read) :
    PassesInert fun tags => read (Classify.prepare tags).2 := by
  intro before tag after inert
  simp only [Classify.prepare_tags, added? before tag after inert, List.map_append, List.map_cons,
    Tag.residue_of_inert inert, List.append_assoc, List.cons_append]
  exact passes _ tag _ inert

theorem discover {taxonomy : Taxonomy} (sound : taxonomy.Sound) :
    PassesInert (Walk.discover taxonomy) := by
  intro before tag after inert
  rw [Walk.discover_eq_mapM sound, Walk.discover_eq_mapM sound,
    filter (fun _ => Tag.not_isCandidate_of_inert) before tag after inert]

theorem ofTags (rounds : Rounds) : PassesInert (Qualifiers.ofTags rounds) := by
  intro before tag after inert
  have roads : Rule.hits Qualifier.roadTable (before ++ tag :: after) = Rule.hits _ _ :=
    hits (by decide) before tag after inert
  have subways : Rule.firstHit? Qualifier.subwayTable (before ++ tag :: after) =
      Rule.firstHit? _ _ := firstHit? (by decide) before tag after inert
  have stations : Rule.firstHit? Qualifier.stationTable (before ++ tag :: after) =
      Rule.firstHit? _ _ := firstHit? (by decide) before tag after inert
  simp only [Qualifiers.ofTags, Qualifiers.roadMarks, Qualifiers.cityOf?, roads, subways, stations]

theorem handOver {σ : Type} (process : Processor σ) (feature : Feature) (state : σ) :
    PassesInert (MapTypes.handOver process feature state) := by
  intro before tag after inert
  induction before generalizing feature state with
  | nil =>
    rw [List.nil_append, List.nil_append, MapTypes.handOver,
      if_pos (Tag.isIgnored_of_inert inert)]
  | cons first rest ih => simp only [List.cons_append, MapTypes.handOver, ih]

end PassesInert

/-! ## Classification -/

/-- A processor that also writes down every tag it is handed. -/
def Processor.logged {σ : Type} (process : Processor σ) : Processor (σ × List Tag) :=
  fun tag feature state =>
    let answer := process tag feature state.1
    (answer.1, answer.2.1, answer.2.2, state.2 ++ [tag])

/-- Writing down what is handed over makes no other difference. -/
theorem handOver_logged {σ : Type} (process : Processor σ) (feature : Feature)
    (state : σ × List Tag) (tags : List Tag) :
    ∃ handed, handOver process.logged feature state tags =
      ((handOver process feature state.1 tags).1,
        (handOver process feature state.1 tags).2, handed) := by
  induction tags generalizing feature state with
  | nil => exact ⟨_, rfl⟩
  | cons tag rest ih =>
    rw [handOver, handOver]
    split
    · exact ih feature state
    · cases claimed : (process tag feature state.1).1 with
      | true => exact ⟨state.2 ++ [tag], by simp [Processor.logged, claimed]⟩
      | false =>
        obtain ⟨handed, ran⟩ := ih (process tag feature state.1).2.1
          ((process tag feature state.1).2.2, state.2 ++ [tag])
        exact ⟨handed, by simp [Processor.logged, claimed, ran]⟩

namespace Tag

/-- What became of the tags that are not inert, one after the other, and what was added behind all
tags. -/
def fates (before after : List Tag) : List Tag :=
  ((before.zip after).filter fun pair => !pair.1.isInert).map Prod.snd ++
    after.drop before.length

theorem fates_of_residue (tags added : List Tag) :
    fates tags (tags.map residue ++ added) =
      (tags.filter (!·.isInert)).map residue ++ added := by
  have kept : ((tags.zip (tags.map residue ++ added)).filter fun pair => !pair.1.isInert).map
      Prod.snd = (tags.filter (!·.isInert)).map residue := by
    induction tags with
    | nil => rfl
    | cons tag rest ih =>
      rw [List.map_cons, List.cons_append, List.zip_cons_cons, List.filter_cons, List.filter_cons]
      split <;> simp [ih]
  have behind : (tags.map residue ++ added).drop tags.length = added := by
    rw [← List.length_map residue, List.drop_left]
  rw [fates, kept, behind]

end Tag

namespace Classify

variable {taxonomy : Taxonomy} {options : Options}

/-- The stages after the walk see of the tags what the rounds conclude from them. -/
theorem conclude_of_prepared {landmarks : Landmarks} {prepared others : Feature × List Tag}
    (record : others.1 = prepared.1)
    (concluded : ∀ rounds, Qualifiers.ofTags rounds others.2 = Qualifiers.ofTags rounds prepared.2)
    (discoveries : List Walk.Discovery) :
    conclude taxonomy options landmarks others discoveries =
      (conclude taxonomy options landmarks prepared discoveries).map
        ({ · with tags := others.2 }) := by
  simp only [conclude, record, concluded]
  cases taxonomy.codesOf _ with
  | error fault => rfl
  | ok codes => rfl

/-- Inert tags have no part in what is classified before the hand-over. -/
theorem classify_of_alike (sound : taxonomy.Sound) {first second : List Tag}
    (alike : first.filter (!·.isInert) = second.filter (!·.isInert)) :
    classify taxonomy options second =
      (classify taxonomy options first).map ({ · with tags := (prepare second).2 }) := by
  have record : (prepare second).1 = (prepare first).1 := PassesInert.record.eq alike.symm
  have found : Walk.discover taxonomy (prepare second).2 =
      Walk.discover taxonomy (prepare first).2 :=
    (PassesInert.discover sound).prepared.eq alike.symm
  have concluded (rounds : Rounds) : Qualifiers.ofTags rounds (prepare second).2 =
      Qualifiers.ofTags rounds (prepare first).2 :=
    (PassesInert.ofTags rounds).prepared.eq alike.symm
  rw [classify, classify]
  dsimp only
  rw [found]
  cases Landmarks.find taxonomy with
  | error fault => rfl
  | ok landmarks =>
    cases Walk.discover taxonomy (prepare first).2 with
    | error fault => rfl
    | ok discoveries => exact conclude_of_prepared record concluded discoveries

theorem classify_of_element {element left : Element} {outcome : Outcome}
    (ran : element.classify taxonomy options = .ok (outcome, left)) :
    classify taxonomy options element.tags = .ok outcome := by
  rw [Element.classify] at ran
  cases classified : classify taxonomy options element.tags with
  | error fault =>
    rw [classified] at ran
    cases ran
  | ok found =>
    rw [classified] at ran
    cases ran
    rfl

theorem classifyWith_of_classify {σ : Type} (process : Processor σ) (state : σ) {tags : List Tag}
    {outcome : Outcome} (classified : classify taxonomy options tags = .ok outcome) :
    classifyWith taxonomy options process state tags =
      .ok ({ outcome with feature := (handOver process outcome.feature state outcome.tags).1 },
        (handOver process outcome.feature state outcome.tags).2) := by
  rw [classifyWith, classified]
  rfl

/-- Two lists of tags that are alike but for inert tags are classified in the same way, whoever
processes what is left: the outcomes differ in the tags alone, the processor is handed the same tags
in the same order and ends in the same state, and the same becomes of all tags that are not inert.
Those that are inert stay as they are. -/
theorem inert_tags_have_no_part {σ : Type} (process : Processor σ) (state : σ)
    (entries : List Entry) (options : Options) {first second : List Tag}
    (alike : first.filter (!·.isInert) = second.filter (!·.isInert)) :
    let taxonomy := (Draft.empty.addAccepted entries).freeze
    ∃ outcome other last handed,
      classifyWith taxonomy options process state first = .ok (outcome, last) ∧
      classifyWith taxonomy options process state second = .ok (other, last) ∧
      classifyWith taxonomy options process.logged (state, []) first =
        .ok (outcome, last, handed) ∧
      classifyWith taxonomy options process.logged (state, []) second =
        .ok (other, last, handed) ∧
      other = { outcome with tags := other.tags } ∧
      Tag.fates second other.tags = Tag.fates first outcome.tags ∧
      ∀ (position : Nat) (tag : Tag), tag.isInert = true → first[position]? = some tag →
        outcome.tags[position]? = some tag := by
  intro taxonomy
  have sound : taxonomy.Sound := Taxonomy.sound_freeze entries
  obtain ⟨landmarks, each⟩ := exists_account entries
  obtain ⟨outcome, ran, account⟩ := each options ⟨0, first⟩
  have left : outcome.tags = (prepare first).2 := account.tags
  have classified := classify_of_element ran
  dsimp only at classified
  have classifiedOther : classify taxonomy options second =
      .ok { outcome with tags := (prepare second).2 } := by
    rw [classify_of_alike sound alike, classified]
    rfl
  obtain ⟨handed, logs⟩ := handOver_logged process outcome.feature (state, []) outcome.tags
  have handsOn {τ : Type} (process : Processor τ) (state : τ) :
      handOver process outcome.feature state (prepare second).2 =
        handOver process outcome.feature state outcome.tags := by
    rw [left]
    exact (PassesInert.handOver process outcome.feature state).prepared.eq alike.symm
  refine ⟨_, { outcome with
      tags := (prepare second).2
      feature := (handOver process outcome.feature state outcome.tags).1 }, _, handed,
    classifyWith_of_classify process state classified, ?_, ?_, ?_, rfl, ?_, ?_⟩
  · rw [classifyWith_of_classify process state classifiedOther, handsOn]
  · rw [classifyWith_of_classify process.logged (state, []) classified, logs]
  · rw [classifyWith_of_classify process.logged (state, []) classifiedOther, handsOn, logs]
  · dsimp only
    rw [left, prepare_tags, prepare_tags, Tag.fates_of_residue, Tag.fates_of_residue, alike,
      PassesInert.added?.eq alike]
  · intro position tag inert present
    have inside := (List.getElem?_eq_some_iff.mp present).1
    dsimp only
    rw [left, prepare_tags, List.getElem?_append_left (by rwa [List.length_map]), List.getElem?_map,
      present, Option.map_some, Tag.residue_of_inert inert]

/-- A street before and after notes are added to it: a tag that was used up and written over, one
without a key, and a plan for its future. -/
theorem inert_tags_of_a_street :
    let taxonomy := (Draft.empty.addAccepted [⟨["highway", "residential"], true⟩]).freeze
    let collector : Collector := ⟨["surface"], true⟩
    let street : List Tag := [⟨"highway", "residential", false⟩, ⟨"lit", "yes", false⟩,
      ⟨"surface", "asphalt", false⟩]
    let noted : List Tag := [⟨"highway", "motorway", true⟩, ⟨"highway", "residential", false⟩,
      ⟨"", "closed", false⟩, ⟨"lit", "yes", false⟩, ⟨"proposed", "footway", false⟩,
      ⟨"surface", "asphalt", false⟩]
    street.filter (!·.isInert) = noted.filter (!·.isInert) ∧
    ∃ outcome other last handed,
      classifyWith taxonomy {} collector.process.logged ([], []) street =
        .ok (outcome, last, handed) ∧
      classifyWith taxonomy {} collector.process.logged ([], []) noted = .ok (other, last, handed) ∧
      other = { outcome with tags := other.tags } := by
  intro taxonomy collector street noted
  have alike : street.filter (!·.isInert) = noted.filter (!·.isInert) := by decide
  obtain ⟨outcome, other, last, handed, _, _, ran, ranOther, same, _⟩ :=
    inert_tags_have_no_part collector.process [] _ {} alike
  exact ⟨alike, outcome, other, last, handed, ran, ranOther, same⟩

end Classify

end MapTypes
