import MapTypes.Proofs.OutcomeAccount
import MapTypes.Proofs.TagResidue

/-!
What the rounds conclude from the tags. The rules for roads all count, so a flag is raised when some
live tag raises it (`Tag.Raises`), wherever the tag stands and however often. Of the tables of metro
systems the first live tag counts whose key and value are listed
(`Rule.IsListing.firstHit?_eq_some_iff`), since these tables list single values, each with one city.
Nothing is concluded in a round that is not called for (`Qualifiers.told_ofTags`).
-/

namespace MapTypes

/-! ## Tables that list values -/

namespace Rule

variable {α : Type} {table : List (Rule α)} {tag : Tag} {tags : List Tag} {conclusion : α}

/-- A table that lists keys with single values, and the same conclusion wherever it lists the same
again. -/
structure IsListing (table : List (Rule α)) : Prop where
  exact : ∀ rule ∈ table, ∃ text, rule.value = .exactly text
  single : ∀ rule ∈ table, ∀ other ∈ table, other.key = rule.key → other.value = rule.value →
    other.conclusion = rule.conclusion

/-- A live tag has a key and a value that a table lists with a conclusion. -/
def Lists (table : List (Rule α)) (tag : Tag) (conclusion : α) : Prop :=
  tag.isLive = true ∧ ⟨tag.key, .exactly tag.value, conclusion⟩ ∈ table

namespace IsListing

theorem lists_iff (listing : IsListing table) :
    Lists table tag conclusion ↔
      ∃ rule ∈ table, rule.applies tag = true ∧ rule.conclusion = conclusion := by
  constructor
  · rintro ⟨live, listed⟩
    exact ⟨_, listed, applies_iff.mpr ⟨live, rfl, beq_self_eq_true _⟩, rfl⟩
  · rintro ⟨⟨key, value, _⟩, listed, applies, rfl⟩
    obtain ⟨text, rfl⟩ := listing.exact _ listed
    obtain ⟨live, same, accepted⟩ := applies_iff.mp applies
    refine ⟨live, ?_⟩
    rw [same, eq_of_beq accepted]
    exact listed

/-- The rule that is found first is as good as any that applies. -/
theorem find?_eq_some_iff (listing : IsListing table) :
    (table.find? (·.applies tag)).map Rule.conclusion = some conclusion ↔
      Lists table tag conclusion := by
  rw [listing.lists_iff, Option.map_eq_some_iff]
  constructor
  · rintro ⟨rule, found, same⟩
    have applies := List.find?_some found
    exact ⟨rule, List.mem_of_find?_eq_some found, applies, same⟩
  · rintro ⟨rule, listed, applies, same⟩
    obtain ⟨first, listedFirst, appliesFirst, found⟩ := exists_first listed applies
    obtain ⟨_, key, value⟩ := applies_iff.mp applies
    obtain ⟨_, keyFirst, valueFirst⟩ := applies_iff.mp appliesFirst
    obtain ⟨text, exact⟩ := listing.exact rule listed
    obtain ⟨textFirst, exactFirst⟩ := listing.exact first listedFirst
    have sameValue : first.value = rule.value := by
      rw [exact] at value
      rw [exactFirst] at valueFirst
      rw [exact, exactFirst, ← eq_of_beq value, eq_of_beq valueFirst]
    exact ⟨first, found,
      (listing.single rule listed first listedFirst (keyFirst.symm.trans key) sameValue).trans same⟩

/-- The first tag that is listed decides, whatever comes after it. -/
theorem firstHit?_eq_some_iff (listing : IsListing table) :
    firstHit? table tags = some conclusion ↔
      ∃ before tag after, tags = before ++ tag :: after ∧ Lists table tag conclusion ∧
        ∀ earlier ∈ before, ∀ other, ¬ Lists table earlier other := by
  simp only [firstHit?, List.findSome?_eq_some_iff, listing.find?_eq_some_iff,
    Option.eq_none_iff_forall_ne_some, ne_eq]

theorem firstHit?_eq_none_iff (listing : IsListing table) :
    firstHit? table tags = none ↔ ∀ tag ∈ tags, ∀ conclusion, ¬ Lists table tag conclusion := by
  rw [firstHit?, List.findSome?_eq_none_iff]
  simp only [Option.eq_none_iff_forall_ne_some, ne_eq, listing.find?_eq_some_iff]

end IsListing

end Rule

namespace Qualifier

theorem isListing_subwayTable : Rule.IsListing subwayTable := by
  refine ⟨?_, by decide⟩
  simp [subwayTable]

theorem isListing_stationTable : Rule.IsListing stationTable := by
  refine ⟨?_, by decide⟩
  simp [stationTable]

end Qualifier

/-! ## Rules for roads -/

namespace Tag

/-- A live tag that raises a flag of a road. -/
def Raises (tag : Tag) (flag : RoadFlag) : Prop :=
  tag.isLive = true ∧
    match flag with
    | .oneway => tag.key = "oneway" ∧ (tag.value = "yes" ∨ tag.value = "1" ∨ tag.value = "-1")
    | .privateAccess => tag.key = "access" ∧ tag.value = "private"
    | .lit => tag.key = "lit" ∧ tag.value ∉ ["no", "none", "false"]
    | .noFoot => tag.key = "foot" ∧ tag.value ∈ ["no", "none", "false"]
    | .yesFoot =>
      (tag.key = "foot" ∨ tag.key = "sidewalk") ∧ tag.value ∉ ["no", "none", "false"]

/-- A live tag of a road that is travelled against the order of its nodes. -/
def Reverses (tag : Tag) : Prop :=
  tag.isLive = true ∧ tag.key = "oneway" ∧ tag.value = "-1"

variable {tag : Tag}

theorem raises_iff {flag : RoadFlag} :
    tag.Raises flag ↔
      ∃ rule ∈ Qualifier.roadTable, rule.applies tag = true ∧ rule.conclusion.flag = flag := by
  cases flag <;>
    simp [Raises, Qualifier.roadTable, Rule.applies_iff, ValuePattern.accepts, negativeValues]
  -- Two flags have more than one rule.
  case oneway => tauto
  case yesFoot => tauto

theorem reverses_iff :
    tag.Reverses ↔
      ∃ rule ∈ Qualifier.roadTable, rule.applies tag = true ∧ rule.conclusion.reversed = true := by
  simp [Reverses, Qualifier.roadTable, Rule.applies_iff, ValuePattern.accepts]

/-- No tag speaks for pedestrians and against them. -/
theorem Raises.not_yesFoot (against : tag.Raises .noFoot) : ¬ tag.Raises .yesFoot :=
  fun speaksFor => speaksFor.2.2 against.2.2

end Tag

/-! ## Conclusions -/

/-- What is found with a table of metro systems: the city of the first listed tag, whatever tags
come after it, or none where no tag is listed. -/
structure Rule.FirstListed {α : Type} (table : List (Rule α)) (tags : List Tag)
    (found : Option α) : Prop where
  some_iff : ∀ conclusion, found = some conclusion ↔
    ∃ before tag after, tags = before ++ tag :: after ∧ Lists table tag conclusion ∧
      ∀ earlier ∈ before, ∀ other, ¬ Lists table earlier other
  none_iff : found = none ↔ ∀ tag ∈ tags, ∀ conclusion, ¬ Lists table tag conclusion

theorem Rule.IsListing.firstListed {α : Type} {table : List (Rule α)} (listing : IsListing table)
    (tags : List Tag) : FirstListed table tags (firstHit? table tags) where
  some_iff _ := listing.firstHit?_eq_some_iff
  none_iff := listing.firstHit?_eq_none_iff

namespace Qualifiers

/-- What the rounds are to conclude from the tags. -/
structure Told (rounds : Rounds) (tags : List Tag) (conclusions : Qualifiers) : Prop where
  raised : rounds.highway = true →
    ∀ flag, flag ∈ conclusions.flags ↔ ∃ tag ∈ tags, tag.Raises flag
  reversed : rounds.highway = true →
    (conclusions.reversed = true ↔ ∃ tag ∈ tags, tag.Reverses)
  no_road : rounds.highway = false → conclusions.flags = [] ∧ conclusions.reversed = false
  subway : rounds.subway = true →
    Rule.FirstListed Qualifier.subwayTable tags conclusions.city
  station : rounds.station = true →
    Rule.FirstListed Qualifier.stationTable tags conclusions.city
  no_city : rounds.subway = false → rounds.station = false → conclusions.city = none

variable {rounds : Rounds} {tags others : List Tag} {flag : RoadFlag}

/-- What the rules for roads conclude is told tag by tag. -/
theorem any_roadMarks_iff (road : rounds.highway = true) {passes : RoadMark → Bool} :
    (roadMarks rounds tags).any passes = true ↔
      ∃ tag ∈ tags, ∃ rule ∈ Qualifier.roadTable,
        rule.applies tag = true ∧ passes rule.conclusion = true := by
  rw [roadMarks, if_pos road, List.any_eq_true]
  simp only [Rule.mem_hits]
  constructor
  · rintro ⟨_, ⟨tag, member, rule, listed, applies, rfl⟩, passed⟩
    exact ⟨tag, member, rule, listed, applies, passed⟩
  · rintro ⟨tag, member, rule, listed, applies, passed⟩
    exact ⟨_, ⟨tag, member, rule, listed, applies, rfl⟩, passed⟩

theorem mem_flags_ofTags (road : rounds.highway = true) :
    flag ∈ (ofTags rounds tags).flags ↔ ∃ tag ∈ tags, tag.Raises flag := by
  rw [← List.contains_iff_mem, ofTags, contains_filter_all, any_roadMarks_iff road]
  simp only [Tag.raises_iff, beq_iff_eq]

theorem reversed_ofTags (road : rounds.highway = true) :
    (ofTags rounds tags).reversed = true ↔ ∃ tag ∈ tags, tag.Reverses := by
  rw [ofTags, any_roadMarks_iff road]
  simp only [Tag.reverses_iff]

/-- The rounds conclude what they are to. -/
theorem told_ofTags (alone : ¬ (rounds.subway = true ∧ rounds.station = true)) :
    Told rounds tags (ofTags rounds tags) where
  raised road _ := mem_flags_ofTags road
  reversed road := reversed_ofTags road
  no_road noRoad := by simp [ofTags, roadMarks, noRoad]
  subway ran := by
    have found : (ofTags rounds tags).city = Rule.firstHit? Qualifier.subwayTable tags := if_pos ran
    rw [found]
    exact Qualifier.isListing_subwayTable.firstListed tags
  station ran := by
    have noSubway : ¬ rounds.subway = true := fun subway => alone ⟨subway, ran⟩
    have found : (ofTags rounds tags).city = Rule.firstHit? Qualifier.stationTable tags :=
      (if_neg noSubway).trans (if_pos ran)
    rw [found]
    exact Qualifier.isListing_stationTable.firstListed tags
  no_city noSubway noStation := cityOf?_eq_none noSubway noStation

/-- What is concluded of a road is told by which tags there are: neither their order nor how often
they occur has a part in it. -/
theorem ofTags_congr (same : ∀ tag, tag ∈ tags ↔ tag ∈ others) :
    (ofTags rounds tags).flags = (ofTags rounds others).flags ∧
      (ofTags rounds tags).reversed = (ofTags rounds others).reversed := by
  have marks (passes : RoadMark → Bool) :
      (roadMarks rounds tags).any passes = (roadMarks rounds others).any passes := by
    cases road : rounds.highway with
    | true =>
      rw [Bool.eq_iff_iff, any_roadMarks_iff road, any_roadMarks_iff road]
      simp only [same]
    | false => simp [roadMarks, road]
  simp only [ofTags, marks, and_self]

/-- One tag does not raise both flags of pedestrians. -/
theorem not_both_feet (rounds : Rounds) (tag : Tag) :
    ¬ (.noFoot ∈ (ofTags rounds [tag]).flags ∧ .yesFoot ∈ (ofTags rounds [tag]).flags) := by
  rintro ⟨against, speaksFor⟩
  cases road : rounds.highway with
  | true =>
    simp only [mem_flags_ofTags road, List.mem_singleton, exists_eq_left] at against speaksFor
    exact against.not_yesFoot speaksFor
  | false => simp [ofTags, roadMarks, road] at against

end Qualifiers

namespace Classify

/-- What an outcome has of the conclusions: the direction, the label of the city, and a type for
every category of theirs that the taxonomy has and admission lets through. -/
structure Records (taxonomy : Taxonomy) (options : Options) (settled : Feature)
    (conclusions : Qualifiers) (outcome : Outcome) : Prop where
  reversed : outcome.feature.reversed = conclusions.reversed
  city : outcome.feature.city = conclusions.city.map City.label
  types : ∀ code, code ∈ outcome.feature.types ↔
    code ∈ settled.types ∨
      (∃ path ∈ conclusions.paths, taxonomy.codeOf? path = .ok (some code)) ∧
        admits taxonomy options code = true

/-- The stages after the walk record what the rounds conclude. -/
theorem exists_records {taxonomy : Taxonomy} (sound : taxonomy.Sound) (options : Options)
    (landmarks : Landmarks) (prepared : Feature × List Tag)
    (discoveries : List Walk.Discovery) :
    let settled := settle taxonomy options landmarks prepared.1 discoveries
    let rounds := Rounds.ofTypes landmarks settled.types
    ∃ outcome, conclude taxonomy options landmarks prepared discoveries = .ok outcome ∧
      outcome.tags = prepared.2 ∧ outcome.rounds = rounds ∧
      Records taxonomy options settled (.ofTags rounds prepared.2) outcome := by
  intro settled rounds
  obtain ⟨codes, looked, known⟩ := sound.exists_codesOf (Qualifiers.ofTags rounds prepared.2).paths
  rw [conclude_eq, goRounds, Qualifiers.gather_eq]
  dsimp only
  rw [looked]
  refine ⟨_, rfl, rfl, rfl, rfl, rfl, fun code => ?_⟩
  rw [← known, ← mem_addAdmitted]
  exact Feature.mem_sortCodes

/-- What the rounds conclude from the tags that they are given, whichever tags these are. With the
round for roads, a flag is raised when some live tag raises it, and the geometry is reversed when a
live tag says that the road is travelled against the order of its nodes; without it, neither. With a
round for stations the city is that of the first live tag that its table lists, whatever tags come
after it, and none if no tag is listed; without such a round there is none. Both are recorded, and
the flags and the city as types. For roads only the set of the tags counts, not their order or how
often they occur, and one tag does not raise both flags of pedestrians. -/
theorem rounds_conclude (entries : List Entry) (options : Options) (landmarks : Landmarks)
    (prepared : Feature × List Tag) (discoveries : List Walk.Discovery) :
    let taxonomy := (Draft.empty.addAccepted entries).freeze
    let settled := settle taxonomy options landmarks prepared.1 discoveries
    ∃ outcome conclusions, conclude taxonomy options landmarks prepared discoveries = .ok outcome ∧
      outcome.tags = prepared.2 ∧
      conclusions = Qualifiers.ofTags outcome.rounds prepared.2 ∧
      conclusions.Told outcome.rounds prepared.2 ∧
      Records taxonomy options settled conclusions outcome ∧
      (∀ tags : List Tag, (∀ tag, tag ∈ tags ↔ tag ∈ prepared.2) →
        ∃ other others, conclude taxonomy options landmarks (prepared.1, tags) discoveries =
            .ok other ∧
          other.rounds = outcome.rounds ∧
          others = Qualifiers.ofTags other.rounds tags ∧
          Records taxonomy options settled others other ∧
          others.flags = conclusions.flags ∧ others.reversed = conclusions.reversed) ∧
      ∀ rounds tag, ¬ (.noFoot ∈ (Qualifiers.ofTags rounds [tag]).flags ∧
        .yesFoot ∈ (Qualifiers.ofTags rounds [tag]).flags) := by
  intro taxonomy settled
  have sound : taxonomy.Sound := Taxonomy.sound_freeze entries
  have alone := Rounds.not_subway_and_station landmarks settled.types
  obtain ⟨outcome, concluded, left, called, records⟩ :=
    exists_records sound options landmarks prepared discoveries
  refine ⟨outcome, _, concluded, left, rfl, ?_, ?_, fun tags same => ?_, Qualifiers.not_both_feet⟩
  · rw [called]
    exact Qualifiers.told_ofTags alone
  · rwa [called]
  · obtain ⟨other, concludedOther, _, calledOther, recordsOther⟩ :=
      exists_records sound options landmarks (prepared.1, tags) discoveries
    refine ⟨other, _, concludedOther, calledOther.trans called.symm, rfl, ?_, ?_⟩
    · rwa [calledOther]
    · rw [calledOther, called]
      exact Qualifiers.ofTags_congr same

end Classify

end MapTypes
