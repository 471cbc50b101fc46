import MapTypes.Proofs.QualifierRounds
import MapTypes.Proofs.TypeSets
import MapTypes.Proofs.WalkSoundness

/-!
Which elements go through which rounds. Every type that a record has before the rounds is the code
of a path, so a test on truncated codes is a question about prefixes of paths: roads are what is at
or below `highway`, subway stations what is at or below their place. No path is of both kinds, so
the rounds are told by the tests alone, and neither they nor what they conclude and add depends on
the order in which the types were found.
-/

namespace MapTypes

/-! ## Places of landmarks -/

/-- A code belongs to a path or to one that goes on from it. -/
def Taxonomy.AtOrBelow (taxonomy : Taxonomy) (path : List String) (code : TypeCode) : Prop :=
  ∃ further, taxonomy.codeOf? (path ++ further) = .ok (some code)

section Places

variable {taxonomy : Taxonomy} {landmarks : Landmarks} {path landmark : List String}
variable {code : TypeCode}

theorem Taxonomy.Numbered.atOrBelow_iff_prefix (numbered : taxonomy.Numbered)
    (placed : taxonomy.codeOf? path = .ok (some code)) :
    taxonomy.AtOrBelow landmark code ↔ landmark <+: path := by
  constructor
  · rintro ⟨further, found⟩
    exact ⟨further, numbered.path_eq_of_code found placed⟩
  · rintro ⟨further, rfl⟩
    exact ⟨further, placed⟩

/-- To compare a truncated code with that of a landmark is to ask whether the code is at or below
the landmark. A landmark that is missing has nothing below it. -/
theorem Taxonomy.Numbered.beq_truncate_iff (numbered : taxonomy.Numbered) {found : Option TypeCode}
    (resolves : taxonomy.codeOf? landmark = .ok found) (nonempty : landmark ≠ [])
    (placed : taxonomy.codeOf? path = .ok (some code)) :
    (found == some (code.truncate landmark.length)) = true ↔ taxonomy.AtOrBelow landmark code := by
  rw [beq_iff_eq, numbered.atOrBelow_iff_prefix placed]
  cases found with
  | some top => rw [Option.some.injEq, eq_comm, numbered.truncate_eq_iff resolves placed]
  | none =>
    constructor
    · intro same
      cases same
    · rintro ⟨further, rfl⟩
      have above := numbered.codeOf?_take placed (List.length_pos_iff.mpr nonempty)
      rw [List.take_left, resolves] at above
      cases above

namespace Landmarks

theorem isStation_iff (resolves : taxonomy.codeOf? stationPath = .ok landmarks.station) :
    landmarks.isStation code = true ↔ taxonomy.codeOf? stationPath = .ok (some code) := by
  rw [isStation, beq_iff_eq, resolves, Except.ok.injEq]

/-- No road is a station of any kind. -/
theorem apart_of_placed (numbered : taxonomy.Numbered)
    (hasHighway : taxonomy.codeOf? highwayPath = .ok landmarks.highway)
    (hasStation : taxonomy.codeOf? stationPath = .ok landmarks.station)
    (hasSubway : taxonomy.codeOf? subwayPath = .ok landmarks.subway)
    (placed : taxonomy.codeOf? path = .ok (some code)) : landmarks.Apart code := by
  intro road
  obtain ⟨below, isRoad⟩ :=
    (numbered.beq_truncate_iff hasHighway (List.cons_ne_nil _ _) placed).mp road
  have different : ∀ further : List String, highwayPath ++ below ≠ "railway" :: further := by
    intro further same
    exact absurd (List.head_eq_of_cons_eq same) (by decide)
  constructor
  · have beneath := numbered.beq_truncate_iff hasSubway (List.cons_ne_nil _ _) placed
    refine Bool.eq_false_iff.mpr (mt beneath.mp ?_)
    rintro ⟨further, isSubway⟩
    exact different _ (numbered.path_eq_of_code isRoad isSubway)
  · rw [← Bool.not_eq_true, isStation_iff hasStation]
    intro isStation
    exact different _ (numbered.path_eq_of_code isRoad isStation)

end Landmarks

end Places

/-! ## The stages around the rounds -/

namespace Classify

variable {taxonomy : Taxonomy} {options : Options} {landmarks : Landmarks}

/-- The record before the rounds: types are assigned and an addressed entrance is corrected. -/
def settle (taxonomy : Taxonomy) (options : Options) (landmarks : Landmarks) (feature : Feature)
    (discoveries : List Walk.Discovery) : Feature :=
  let assigned := assign taxonomy options feature discoveries
  if options.addressFixup && isAddressedEntrance landmarks assigned then
    toAddress taxonomy options landmarks assigned
  else assigned

/-- The rounds, each with its table as soon as a type calls for it, and the record with what they
conclude. -/
def goRounds (taxonomy : Taxonomy) (options : Options) (landmarks : Landmarks) (tags : List Tag)
    (settled : Feature) : Except TypeCode.Fault (Rounds × Feature) := do
  let (rounds, conclusions) := Qualifiers.gather landmarks tags settled.types
  let codes ← taxonomy.codesOf conclusions.paths
  return (rounds, qualify taxonomy options conclusions codes settled)

/-- After the walk a record is settled, goes the rounds and is sorted. -/
theorem conclude_eq (taxonomy : Taxonomy) (options : Options) (landmarks : Landmarks)
    (prepared : Feature × List Tag) (discoveries : List Walk.Discovery) :
    conclude taxonomy options landmarks prepared discoveries =
      (goRounds taxonomy options landmarks prepared.2
        (settle taxonomy options landmarks prepared.1 discoveries)).map fun gone =>
          ⟨gone.2.sortTypes, prepared.2, discoveries, gone.1, options.addressFixup &&
            isAddressedEntrance landmarks (assign taxonomy options prepared.1 discoveries)⟩ := by
  rw [goRounds, Qualifiers.gather_eq, settle, conclude]
  dsimp only
  cases taxonomy.codesOf _ with
  | error fault => rfl
  | ok codes => rfl

/-- Every type of a settled record is the code of a path. -/
theorem placed_of_settled (numbered : taxonomy.Numbered)
    (hasAddress : taxonomy.codeOf? Landmarks.addressPath = .ok landmarks.address)
    {prepared : Feature × List Tag} (untyped : prepared.1.types = [])
    {discoveries : List Walk.Discovery}
    (walked : Walk.discover taxonomy prepared.2 = .ok discoveries) {code : TypeCode}
    (member : code ∈ (settle taxonomy options landmarks prepared.1 discoveries).types) :
    ∃ path, taxonomy.codeOf? path = .ok (some code) := by
  rw [settle, mem_settled, mem_assign discoveries untyped] at member
  rcases member with ⟨⟨found, _⟩, _⟩ | ⟨_, isAddress, _⟩
  · exact Walk.placed_of_discover numbered walked found
  · exact ⟨Landmarks.addressPath, by rw [hasAddress, isAddress]⟩

/-- Rounds, conclusions and what is added are the same for every order of the types. -/
theorem exists_goRounds (sound : taxonomy.Sound) (options : Options) (tags : List Tag)
    (settled : Feature) (apart : ∀ code ∈ settled.types, landmarks.Apart code) :
    ∃ (added : List TypeCode) (record : Feature), ∀ types, types.Perm settled.types →
      goRounds taxonomy options landmarks tags { settled with types := types } =
        .ok (Rounds.ofTypes landmarks settled.types, { record with types := types ++ added }) := by
  let rounds := Rounds.ofTypes landmarks settled.types
  let conclusions := Qualifiers.ofTags rounds tags
  obtain ⟨codes, looked, _⟩ := sound.exists_codesOf conclusions.paths
  obtain ⟨added, grows⟩ := exists_added taxonomy options settled codes
  let record : Feature :=
    { settled with reversed := conclusions.reversed, city := conclusions.city.map City.label }
  refine ⟨added, record, fun types same => ?_⟩
  rw [goRounds, Qualifiers.gather_eq, Rounds.ofTypes_perm apart same]
  dsimp only
  rw [looked]
  change Except.ok (rounds, qualify taxonomy options conclusions codes _) = _
  rw [qualify, grows types fun code => same.mem_iff]

/-- Codes of paths pass a test of places when one of them has its place there. -/
theorem any_iff_atOrBelow {types : List TypeCode} {test : TypeCode → Bool} {landmark : List String}
    (placed : ∀ code ∈ types, ∃ path, taxonomy.codeOf? path = .ok (some code))
    (test_iff : ∀ {code path}, taxonomy.codeOf? path = .ok (some code) →
      (test code = true ↔ taxonomy.AtOrBelow landmark code)) :
    types.any test = true ↔ ∃ code ∈ types, taxonomy.AtOrBelow landmark code := by
  rw [List.any_eq_true]
  refine exists_congr fun code => and_congr_right fun member => ?_
  obtain ⟨path, here⟩ := placed code member
  exact test_iff here

/-- The tests that the types of a settled record pass decide on its rounds. -/
theorem rounds_iff (numbered : taxonomy.Numbered)
    (hasHighway : taxonomy.codeOf? Landmarks.highwayPath = .ok landmarks.highway)
    (hasStation : taxonomy.codeOf? Landmarks.stationPath = .ok landmarks.station)
    (hasSubway : taxonomy.codeOf? Landmarks.subwayPath = .ok landmarks.subway)
    {types : List TypeCode}
    (placed : ∀ code ∈ types, ∃ path, taxonomy.codeOf? path = .ok (some code))
    (apart : ∀ code ∈ types, landmarks.Apart code) :
    let rounds := Rounds.ofTypes landmarks types
    (rounds.highway = true ↔
      ∃ code ∈ types, taxonomy.AtOrBelow Landmarks.highwayPath code) ∧
    (rounds.subway = true ↔ ∃ code ∈ types, taxonomy.AtOrBelow Landmarks.subwayPath code) ∧
    (rounds.station = true ↔
      (∃ code ∈ types, taxonomy.codeOf? Landmarks.stationPath = .ok (some code)) ∧
        ¬ ∃ code ∈ types, taxonomy.AtOrBelow Landmarks.subwayPath code) := by
  have roads : types.any landmarks.isHighway = true ↔
      ∃ code ∈ types, taxonomy.AtOrBelow Landmarks.highwayPath code :=
    any_iff_atOrBelow placed (numbered.beq_truncate_iff hasHighway (List.cons_ne_nil _ _))
  have subways : types.any landmarks.isSubway = true ↔
      ∃ code ∈ types, taxonomy.AtOrBelow Landmarks.subwayPath code :=
    any_iff_atOrBelow placed (numbered.beq_truncate_iff hasSubway (List.cons_ne_nil _ _))
  have stations : types.any landmarks.isStation = true ↔
      ∃ code ∈ types, taxonomy.codeOf? Landmarks.stationPath = .ok (some code) := by
    simp only [List.any_eq_true, Landmarks.isStation_iff hasStation]
  intro rounds
  simp only [rounds, Rounds.ofTypes_eq apart]
  refine ⟨roads, subways, ?_⟩
  rw [Bool.and_eq_true, Bool.not_eq_true', ← Bool.not_eq_true, subways, stations]
  exact and_comm

/-- The rounds of an element follow from its types once addressed entrances are corrected: the round
for roads is gone through when any of these is at or below `highway`, that for subways when any is
at or below their place, that for stations when theirs is among them and no subway station is. Were
the types in another order, the rounds would be the same, the same types would be added, and the
record would come out the same. -/
theorem rounds_follow_types (entries : List Entry) (options : Options) (element : Element) :
    let taxonomy := (Draft.empty.addAccepted entries).freeze
    let prepared := Classify.prepare element.tags
    ∃ landmarks discoveries outcome,
      Landmarks.find taxonomy = .ok landmarks ∧
      Walk.discover taxonomy prepared.2 = .ok discoveries ∧
      element.classify taxonomy options = .ok (outcome, { element with tags := prepared.2 }) ∧
      let settled := settle taxonomy options landmarks prepared.1 discoveries
      (outcome.rounds.highway = true ↔
        ∃ code ∈ settled.types, taxonomy.AtOrBelow Landmarks.highwayPath code) ∧
      (outcome.rounds.subway = true ↔
        ∃ code ∈ settled.types, taxonomy.AtOrBelow Landmarks.subwayPath code) ∧
      (outcome.rounds.station = true ↔
        (∃ code ∈ settled.types, taxonomy.codeOf? Landmarks.stationPath = .ok (some code)) ∧
          ¬ ∃ code ∈ settled.types, taxonomy.AtOrBelow Landmarks.subwayPath code) ∧
      ¬ (outcome.rounds.subway = true ∧ outcome.rounds.station = true) ∧
      ∃ added, ∀ types, types.Perm settled.types → ∃ record,
        goRounds taxonomy options landmarks prepared.2 { settled with types := types } =
          .ok (outcome.rounds, record) ∧
        record.types = types ++ added ∧
        record.reversed = outcome.feature.reversed ∧
        record.city = outcome.feature.city ∧
        record.sortTypes = outcome.feature := by
  intro taxonomy prepared
  have numbered : taxonomy.Numbered := Taxonomy.numbered_freeze entries
  obtain ⟨landmarks, found, _, hasAddress, hasHighway, hasStation, hasSubway⟩ :=
    Landmarks.exists_find numbered.toSound
  obtain ⟨discoveries, walked⟩ := Walk.exists_discover numbered.toSound prepared.2
  let settled := settle taxonomy options landmarks prepared.1 discoveries
  have placed : ∀ code ∈ settled.types, ∃ path, taxonomy.codeOf? path = .ok (some code) :=
    fun code member => placed_of_settled numbered hasAddress
      (types_prepare element.tags) walked member
  have apart : ∀ code ∈ settled.types, landmarks.Apart code := by
    intro code member
    obtain ⟨path, here⟩ := placed code member
    exact Landmarks.apart_of_placed numbered hasHighway hasStation hasSubway here
  obtain ⟨added, record, gone⟩ := exists_goRounds numbered.toSound options prepared.2 settled apart
  have concluded := conclude_eq taxonomy options landmarks prepared discoveries
  rw [gone settled.types (.refl _)] at concluded
  have ran := Element.classify_of_stages found walked concluded
  obtain ⟨highway, subway, station⟩ := rounds_iff numbered hasHighway hasStation hasSubway
    placed apart
  refine ⟨landmarks, discoveries, _, found, walked, ran, highway, subway, station,
    Rounds.not_subway_and_station landmarks settled.types, added, fun types same =>
      ⟨_, gone types same, rfl, rfl, rfl, ?_⟩⟩
  exact Feature.sortTypes_congr record fun code => (same.append_right added).mem_iff

end Classify

end MapTypes
