import MapTypes.Proofs.TypeProvenance

/-!
What classification leaves of the tags. Names and attributes are read in two passes, and in the
second each tag is tried by rule after rule, as the rules before left it. Yet no tag is acted on
twice: what a rule leaves of a tag no later rule applies to (`Attribute.pairwise_settles`), so the
passes come to one plain function of the tag, `Tag.residue`. Before them a layer may have been
added at the end (`Layer.isSome_implied?_iff`), which they leave as it is. Neither the taxonomy nor
the options have a part in any of this.
-/

namespace MapTypes

/-! ## Passes -/

/-- A pass that treats tags without regard to the record changes each tag by itself. -/
theorem sweep_eq {α : Type} {step : α → Tag → α × Tag} {residue : Tag → Tag}
    (leaves : ∀ record tag, (step record tag).2 = residue tag) (record : α) (tags : List Tag) :
    sweep step record tags =
      (tags.foldl (fun record tag => (step record tag).1) record, tags.map residue) := by
  induction tags generalizing record with
  | nil => rfl
  | cons tag rest ih => rw [sweep, ih, leaves, List.foldl_cons, List.map_cons]

@[simp]
theorem Tag.isLive_consume (tag : Tag) : tag.consume.isLive = false := rfl

theorem Tag.isIgnored_of_dead {tag : Tag} (dead : tag.isLive = false) : tag.isIgnored = true := by
  rw [isIgnored, dead, Bool.not_false, Bool.true_or, Bool.true_or]

theorem Tag.consumed_of_live {tag : Tag} (live : tag.isLive = true) : tag.consumed = false := by
  rw [isLive, Bool.and_eq_true, Bool.not_eq_true'] at live
  exact live.1

theorem Rule.applies_iff {α : Type} {rule : Rule α} {tag : Tag} :
    rule.applies tag = true ↔
      tag.isLive = true ∧ tag.key = rule.key ∧ rule.value.accepts tag.value = true := by
  rw [applies, Bool.and_eq_true, Bool.and_eq_true, beq_iff_eq, and_assoc]

theorem Rule.applies_of_dead {α : Type} (rule : Rule α) {tag : Tag} (dead : tag.isLive = false) :
    rule.applies tag = false := by
  rw [applies, dead, Bool.false_and, Bool.false_and]

/-- Where a rule of a table applies, a first one does. -/
theorem Rule.exists_first {α : Type} {table : List (Rule α)} {rule : Rule α} {tag : Tag}
    (listed : rule ∈ table) (applies : rule.applies tag = true) :
    ∃ first ∈ table, first.applies tag = true ∧ table.find? (·.applies tag) = some first := by
  have hasFirst : (table.find? (·.applies tag)).isSome = true :=
    List.find?_isSome.mpr ⟨rule, listed, applies⟩
  obtain ⟨first, found⟩ := Option.isSome_iff_exists.mp hasFirst
  have appliesFirst := List.find?_some found
  exact ⟨first, List.mem_of_find?_eq_some found, appliesFirst, found⟩

/-! ## Names -/

namespace Names

/-- What reading names leaves of a tag. -/
def residue (tag : Tag) : Tag :=
  if (languageOfTag? tag).isSome then tag.consume else tag

theorem extract_residue (feature : Feature) (tag : Tag) :
    (extract feature tag).2 = residue tag := by
  rw [extract, residue]
  cases languageOfTag? tag <;> rfl

theorem isSome_languageOfTag?_iff {tag : Tag} :
    (languageOfTag? tag).isSome = true ↔
      tag.isIgnored = false ∧ tag.value ≠ "" ∧ (languageOf? tag.key).isSome = true := by
  rw [languageOfTag?]
  split
  · rename_i passed
    rw [Bool.or_eq_true, beq_iff_eq] at passed
    rcases passed with ignored | blank
    · simp [ignored]
    · simp [blank]
  · rename_i looked
    rw [Bool.or_eq_true, beq_iff_eq, not_or, Bool.not_eq_true] at looked
    simp [looked]

end Names

/-! ## Attributes -/

namespace Attribute

/-- What is left of a tag when its attribute is taken. -/
def leave (tag : Tag) : Attribute → Tag
  | shorthandOf key => { tag with key := key, value := tag.key }
  | layer => tag
  | _ => tag.consume

theorem take_leave (feature : Feature) (tag : Tag) (held : Attribute) :
    (held.take feature tag).2 = held.leave tag := by
  cases held <;> rfl

/-- What the earlier of two rules leaves of a tag, the later does not apply to. -/
def Settles (earlier later : Rule Attribute) : Prop :=
  ∀ tag, earlier.applies tag = true → later.applies (earlier.conclusion.leave tag) = false

/-- A tag that is consumed is dead, and the keys that shorthands are spelled out with are those of
no rule. A layer stays, but its rule is the last. -/
theorem pairwise_settles : table.Pairwise Settles := by
  simp [table, Settles, leave, Rule.applies]

theorem extractBy_of_not_applies {rules : List (Rule Attribute)} {tag : Tag}
    (none : ∀ rule ∈ rules, rule.applies tag = false) (feature : Feature) :
    extractBy rules feature tag = (feature, tag) := by
  induction rules with
  | nil => rfl
  | cons rule rest ih =>
    rw [List.forall_mem_cons] at none
    rw [extractBy, List.foldl_cons, none.1]
    exact ih none.2

/-- Of rules that settle the tags they apply to, the first that applies is the only one that
acts. -/
theorem extractBy_eq_first {rules : List (Rule Attribute)} (settled : rules.Pairwise Settles)
    (feature : Feature) (tag : Tag) :
    extractBy rules feature tag =
      match (rules.find? (·.applies tag)).map Rule.conclusion with
      | some held => held.take feature tag
      | none => (feature, tag) := by
  induction rules with
  | nil => rfl
  | cons rule rest ih =>
    obtain ⟨alone, settledRest⟩ := List.pairwise_cons.mp settled
    simp only [List.find?_cons]
    rw [extractBy, List.foldl_cons]
    cases applies : rule.applies tag with
    | true =>
      have done : ∀ later ∈ rest, later.applies (rule.conclusion.take feature tag).2 = false := by
        intro later member
        rw [take_leave]
        exact alone later member tag applies
      exact extractBy_of_not_applies done _
    | false => exact ih settledRest

/-- The attribute that a tag holds. -/
def heldBy? (tag : Tag) : Option Attribute :=
  (table.find? (·.applies tag)).map Rule.conclusion

theorem heldBy?_of_dead {tag : Tag} (dead : tag.isLive = false) : heldBy? tag = none := by
  rw [heldBy?, Option.map_eq_none_iff, List.find?_eq_none]
  intro rule _
  rw [rule.applies_of_dead dead]
  exact Bool.false_ne_true

/-- From a tag at most one attribute is taken. -/
theorem extractBy_table (feature : Feature) (tag : Tag) :
    extractBy table feature tag =
      match heldBy? tag with
      | some held => held.take feature tag
      | none => (feature, tag) :=
  extractBy_eq_first pairwise_settles feature tag

/-- What reading attributes leaves of a tag. -/
def residue (tag : Tag) : Tag :=
  match heldBy? tag with
  | some held => held.leave tag
  | none => tag

theorem extractBy_residue (feature : Feature) (tag : Tag) :
    (extractBy table feature tag).2 = residue tag := by
  rw [extractBy_table, residue]
  cases heldBy? tag with
  | none => rfl
  | some held => exact take_leave feature tag held

theorem residue_of_dead {tag : Tag} (dead : tag.isLive = false) : residue tag = tag := by
  rw [residue, heldBy?_of_dead dead]

/-- Keys of the tags that hold an attribute and nothing else. -/
def plainKeys : List String :=
  ["addr:housename", "addr:street", "addr:flats", "addr:housenumber", "population", "ref"]

theorem residue_of_live {tag : Tag} (live : tag.isLive = true) :
    residue tag =
      if tag.key = "atm" ∧ tag.value = "yes" then ⟨"amenity", "atm", false⟩
      else if tag.key = "restaurant" ∧ tag.value = "yes" then ⟨"amenity", "restaurant", false⟩
      else if tag.key = "hotel" ∧ tag.value = "yes" then ⟨"tourism", "hotel", false⟩
      else if tag.key ∈ plainKeys then tag.consume
      else tag := by
  have unconsumed := Tag.consumed_of_live live
  have fails {key : String} (other : ¬ (tag.key = key ∧ tag.value = "yes")) :
      (tag.key == key && tag.value == "yes") = false := by
    rwa [← Bool.not_eq_true, Bool.and_eq_true, beq_iff_eq, beq_iff_eq]
  simp only [residue, heldBy?, table, List.find?_cons, Rule.applies, live, ValuePattern.accepts,
    Bool.true_and, Bool.and_true]
  split_ifs with atm restaurant hotel plain
  · simp [atm, leave, unconsumed]
  · simp [restaurant, leave, unconsumed]
  · simp [hotel, leave, unconsumed]
  · simp only [plainKeys, List.mem_cons, List.not_mem_nil, or_false] at plain
    rcases plain with key | key | key | key | key | key <;> simp [key, leave]
  · simp only [plainKeys, List.mem_cons, List.not_mem_nil, or_false, not_or, ← beq_eq_false_iff_ne]
      at plain
    simp only [fails atm, fails restaurant, fails hotel, plain]
    cases tag.key == "layer" <;> rfl

end Attribute

/-! ## Both passes -/

/-- What classification leaves of a tag. A dead tag stays as it is. Of live tags, names are used up;
three shorthands are spelled out; and what holds an attribute and nothing else is used up. All other
tags stay as they are. -/
def Tag.residue (tag : Tag) : Tag :=
  if tag.isLive = false then tag
  else if tag.isIgnored = false ∧ tag.value ≠ "" ∧ (Names.languageOf? tag.key).isSome = true then
    tag.consume
  else if tag.key = "atm" ∧ tag.value = "yes" then ⟨"amenity", "atm", false⟩
  else if tag.key = "restaurant" ∧ tag.value = "yes" then ⟨"amenity", "restaurant", false⟩
  else if tag.key = "hotel" ∧ tag.value = "yes" then ⟨"tourism", "hotel", false⟩
  else if tag.key ∈ Attribute.plainKeys then tag.consume
  else tag

theorem Tag.residue_of_dead {tag : Tag} (dead : tag.isLive = false) : tag.residue = tag := by
  rw [residue, if_pos dead]

theorem Tag.residue_eq (tag : Tag) : tag.residue = Attribute.residue (Names.residue tag) := by
  rw [residue, Names.residue]
  cases live : tag.isLive with
  | false =>
    have unnamed : ¬ (Names.languageOfTag? tag).isSome = true := by
      rw [Names.isSome_languageOfTag?_iff, isIgnored_of_dead live]
      simp
    rw [if_neg unnamed, Attribute.residue_of_dead live, if_pos rfl]
  | true =>
    rw [if_neg (by decide)]
    by_cases named : (Names.languageOfTag? tag).isSome = true
    · rw [if_pos (Names.isSome_languageOfTag?_iff.mp named), if_pos named,
        Attribute.residue_of_dead tag.isLive_consume]
    · rw [if_neg (mt Names.isSome_languageOfTag?_iff.mpr named), if_neg named,
        Attribute.residue_of_live live]

/-! ## Layers -/

theorem Rule.mem_hits {α : Type} {table : List (Rule α)} {tags : List Tag} {conclusion : α} :
    conclusion ∈ hits table tags ↔
      ∃ tag ∈ tags, ∃ rule ∈ table, rule.applies tag = true ∧ rule.conclusion = conclusion := by
  simp only [hits, List.mem_flatMap, List.mem_map, List.mem_filter, and_assoc]

namespace Tag

/-- A live tag that gives a layer. -/
def GivesLayer (tag : Tag) : Prop :=
  tag.isLive = true ∧ tag.key = "layer"

/-- A live tag of a bridge or of a tunnel. -/
def Crosses (tag : Tag) : Prop :=
  tag.isLive = true ∧ (tag.key = "bridge" ∨ tag.key = "tunnel") ∧ tag.value = "yes"

instance (tag : Tag) : Decidable tag.Crosses :=
  inferInstanceAs (Decidable (_ ∧ _ ∧ _))

/-- The layer that a crossing is on: a bridge above the ground, a tunnel below. -/
def crossingLayer (tag : Tag) : String :=
  if tag.key = "bridge" then "1" else "-1"

end Tag

namespace Layer

variable {tags : List Tag}

theorem explicit_mem_hits_iff :
    Hint.explicit ∈ Rule.hits hints tags ↔ ∃ tag ∈ tags, tag.GivesLayer := by
  rw [Rule.mem_hits]
  refine exists_congr fun tag => and_congr_right fun _ => ?_
  simp [hints, Rule.applies, ValuePattern.accepts, Tag.GivesLayer]

/-- The layer that one tag implies. -/
theorem filterMap_implied? (tag : Tag) :
    ((hints.filter (·.applies tag)).map Rule.conclusion).filterMap Hint.implied? =
      (if tag.Crosses then some tag.crossingLayer else none).toList := by
  by_cases crossing : tag.Crosses
  · rw [if_pos crossing]
    obtain ⟨live, bridge | tunnel, yes⟩ := crossing
    · simp [hints, Rule.applies, ValuePattern.accepts, live, bridge, yes, Hint.implied?,
        Tag.crossingLayer]
    · simp [hints, Rule.applies, ValuePattern.accepts, live, tunnel, yes, Hint.implied?,
        Tag.crossingLayer]
  · rw [if_neg crossing, Option.toList_none, List.filterMap_eq_nil_iff]
    intro hint listed
    obtain ⟨rule, ruled, rfl⟩ := List.mem_map.mp listed
    obtain ⟨member, applies⟩ := List.mem_filter.mp ruled
    obtain ⟨live, key, accepted⟩ := Rule.applies_iff.mp applies
    simp only [hints, List.mem_cons, List.not_mem_nil, or_false] at member
    rcases member with rfl | rfl | rfl
    · exact absurd ⟨live, .inl key, eq_of_beq accepted⟩ crossing
    · exact absurd ⟨live, .inr key, eq_of_beq accepted⟩ crossing
    · rfl

/-- The layers that crossings imply, tag by tag. -/
theorem filterMap_hits (tags : List Tag) :
    (Rule.hits hints tags).filterMap Hint.implied? =
      tags.filterMap fun tag => if tag.Crosses then some tag.crossingLayer else none := by
  rw [Rule.hits, List.filterMap_flatMap]
  simp only [filterMap_implied?]
  exact (List.filterMap_eq_flatMap_toList _ tags).symm

/-- A layer is added where none is given and something crosses. -/
theorem isSome_implied?_iff :
    (implied? tags).isSome = true ↔
      (¬ ∃ tag ∈ tags, tag.GivesLayer) ∧ ∃ tag ∈ tags, tag.Crosses := by
  rw [implied?, ← explicit_mem_hits_iff, ← List.contains_iff_mem]
  split
  · rename_i given
    simp only [given, not_true_eq_false, false_and, Option.isSome_none, Bool.false_eq_true]
  · rename_i notGiven
    rw [and_iff_right notGiven, filterMap_hits, List.getLast?_isSome, Ne,
      List.filterMap_eq_nil_iff]
    simp

/-- The layer that is added is that of the last crossing. -/
theorem exists_last_of_implied? {layer : String} (found : implied? tags = some layer) :
    ∃ before crossing after, tags = before ++ crossing :: after ∧ crossing.Crosses ∧
      (∀ other ∈ after, ¬ other.Crosses) ∧ layer = crossing.crossingLayer := by
  rw [implied?] at found
  split at found
  · cases found
  · rw [filterMap_hits, List.getLast?_filterMap, List.findSome?_eq_some_iff] at found
    obtain ⟨after, crossing, before, parts, implied, others⟩ := found
    obtain ⟨crosses, same⟩ := Option.ite_none_right_eq_some.mp implied
    cases same
    refine ⟨before.reverse, crossing, after.reverse, ?_, crosses, ?_, rfl⟩
    · rw [← List.reverse_reverse tags, parts]
      simp
    · intro other member
      simpa using others other (List.mem_reverse.mp member)

/-- The tag that is added, if any. -/
def added? (tags : List Tag) : Option Tag :=
  (implied? tags).map fun layer => ⟨"layer", layer, false⟩

theorem complete_eq (tags : List Tag) : complete tags = tags ++ (added? tags).toList := by
  rw [complete, added?]
  cases implied? tags with
  | none => exact (List.append_nil tags).symm
  | some layer => rfl

end Layer

/-! ## Classification -/

namespace Tag

variable {tag : Tag}

/-- Keys of the tags that are changed when attributes are read. -/
def changingKeys : List String :=
  "atm" :: "restaurant" :: "hotel" :: Attribute.plainKeys

theorem residue_of_key (unnamed : Names.languageOf? tag.key = none)
    (kept : tag.key ∉ changingKeys) : tag.residue = tag := by
  simp only [changingKeys, List.mem_cons, not_or] at kept
  obtain ⟨atm, restaurant, hotel, plain⟩ := kept
  simp [residue, unnamed, atm, restaurant, hotel, plain]

theorem GivesLayer.residue_eq (gives : tag.GivesLayer) : tag.residue = tag := by
  apply residue_of_key <;> rw [gives.2] <;> decide

theorem Crosses.residue_eq (crosses : tag.Crosses) : tag.residue = tag := by
  obtain ⟨_, bridge | tunnel, _⟩ := crosses
  · apply residue_of_key <;> rw [bridge] <;> decide
  · apply residue_of_key <;> rw [tunnel] <;> decide

/-- A tag that is changed is used up or spelled out. -/
theorem residue_cases (tag : Tag) :
    tag.residue = tag ∨ tag.residue = tag.consume ∨ tag.residue.key ∈ ["amenity", "tourism"] := by
  rw [residue]
  split_ifs <;> simp

/-- What is left of a tag is left as it is by any later classification. -/
theorem residue_residue (tag : Tag) : tag.residue.residue = tag.residue := by
  rcases tag.residue_cases with kept | used | spelledOut
  · rw [kept, kept]
  · rw [used, residue_of_dead tag.isLive_consume]
  · simp only [List.mem_cons, List.not_mem_nil, or_false] at spelledOut
    rcases spelledOut with amenity | tourism
    · apply residue_of_key <;> rw [amenity] <;> decide
    · apply residue_of_key <;> rw [tourism] <;> decide

end Tag

namespace Classify

/-- Preparation reads names from the tags, then attributes from what names leave of them. -/
theorem prepare_eq (tags : List Tag) :
    prepare tags =
      (((Layer.complete tags).map Names.residue).foldl
          (fun feature tag => (Attribute.extractBy Attribute.table feature tag).1)
          ((Layer.complete tags).foldl (fun feature tag => (Names.extract feature tag).1)
            Feature.empty),
        (Layer.complete tags).map Tag.residue) := by
  have passes : Attribute.residue ∘ Names.residue = Tag.residue :=
    funext fun tag => tag.residue_eq.symm
  rw [prepare, Names.extractAll, sweep_eq Names.extract_residue, Attribute.extractAll,
    sweep_eq Attribute.extractBy_residue, List.map_map, passes]

theorem residue_of_added? {tags : List Tag} {tag : Tag} (added : Layer.added? tags = some tag) :
    tag.residue = tag := by
  obtain ⟨layer, _, rfl⟩ := Option.map_eq_some_iff.mp added
  exact Tag.GivesLayer.residue_eq ⟨rfl, rfl⟩

/-- Prepared tags are what is left of the tags, and the layer that is added. -/
theorem prepare_tags (tags : List Tag) :
    (prepare tags).2 = tags.map Tag.residue ++ (Layer.added? tags).toList := by
  have left : (prepare tags).2 = (Layer.complete tags).map Tag.residue := by rw [prepare_eq]
  rw [left, Layer.complete_eq, List.map_append]
  cases added : Layer.added? tags with
  | none => rfl
  | some tag => rw [Option.toList_some, List.map_singleton, residue_of_added? added]

/-- Classification has one effect on the tags of an element, whatever the taxonomy and the options:
each tag gives way to its residue, in its place, and a layer follows at the end where none is given
and something crosses. It is that of the last crossing. -/
theorem tags_after_classify (element : Element) :
    ∃ added : Option Tag,
      (added.isSome = true ↔
        (¬ ∃ tag ∈ element.tags, tag.GivesLayer) ∧ ∃ tag ∈ element.tags, tag.Crosses) ∧
      (∀ tag, added = some tag → ∃ before crossing after,
        element.tags = before ++ crossing :: after ∧ crossing.Crosses ∧
        (∀ other ∈ after, ¬ other.Crosses) ∧
        tag = ⟨"layer", if crossing.key = "bridge" then "1" else "-1", false⟩) ∧
      ∀ entries options, ∃ outcome,
        element.classify (Draft.empty.addAccepted entries).freeze options =
          .ok (outcome, { element with
            tags := element.tags.map Tag.residue ++ added.toList }) := by
  refine ⟨Layer.added? element.tags, ?_, ?_, ?_⟩
  · rw [Layer.added?, Option.isSome_map, Layer.isSome_implied?_iff]
  · intro tag added
    obtain ⟨layer, found, rfl⟩ := Option.map_eq_some_iff.mp added
    obtain ⟨before, crossing, after, parts, crosses, others, rfl⟩ :=
      Layer.exists_last_of_implied? found
    exact ⟨before, crossing, after, parts, crosses, others, rfl⟩
  · intro entries options
    have sound := Taxonomy.sound_freeze entries
    obtain ⟨landmarks, found, hasEntrance, hasAddress, _⟩ := Landmarks.exists_find sound
    obtain ⟨discoveries, walked⟩ := Walk.exists_discover sound (prepare element.tags).2
    obtain ⟨outcome, concluded, left, _⟩ :=
      @conclude_spec _ options _ sound hasEntrance hasAddress (prepare element.tags)
        (types_prepare element.tags) discoveries
    refine ⟨outcome, ?_⟩
    rw [Element.classify_of_stages found walked concluded, left, prepare_tags]

end Classify

end MapTypes
