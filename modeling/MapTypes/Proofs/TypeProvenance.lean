import MapTypes.Classify
import MapTypes.Proofs.PathLookup
import MapTypes.Proofs.WalkSteps

/-!
Where the types of a record come from. Types are added by the walk, by the correction of addressed
entrances and by the rounds of qualifiers, and taken away by the correction alone. `Provenance`
lists the sources; over a frozen draft a record has exactly the codes that may become types and have
one of them.
-/

namespace MapTypes

/-! ## Sets of types -/

namespace Feature

variable {feature : Feature} {code other : TypeCode} {codes : List TypeCode}

theorem mem_addType :
    other ∈ (feature.addType code).1.types ↔ other ∈ feature.types ∨ other = code := by
  rw [addType]
  split
  · rename_i present
    have member : code ∈ feature.types := by simpa [hasType] using present
    constructor
    · exact .inl
    · rintro (kept | rfl)
      · exact kept
      · exact member
  · simp

theorem mem_insertCode : other ∈ insertCode code codes ↔ other = code ∨ other ∈ codes := by
  induction codes with
  | nil => simp [insertCode]
  | cons head rest ih =>
    rw [insertCode]
    split
    · rename_i same
      simp [same]
    · split
      · simp
      · simp only [List.mem_cons, ih]
        exact or_left_comm

/-- Sorting keeps the codes. -/
theorem mem_sortCodes : other ∈ sortCodes codes ↔ other ∈ codes := by
  induction codes with
  | nil => rfl
  | cons code rest ih =>
    rw [sortCodes, List.foldr_cons, mem_insertCode, ← sortCodes, ih, List.mem_cons]

end Feature

/-! ## Preparation -/

/-- What every step of a pass keeps, the pass keeps. -/
theorem sweep_keeps {α : Type} {step : α → Tag → α × Tag} (holds : α → Prop)
    (kept : ∀ record tag, holds record → holds (step record tag).1) {record : α}
    (before : holds record) (tags : List Tag) : holds (sweep step record tags).1 := by
  induction tags generalizing record with
  | nil => exact before
  | cons tag rest ih => exact ih (kept record tag before)

/-- Names and house names each have a field of their own. -/
theorem Feature.addName_eq (feature : Feature) (language name : String) :
    ∃ names, (feature.addName language name).1 = { feature with names := names } := by
  rw [addName]
  split <;> exact ⟨_, rfl⟩

theorem Feature.addHouseName_eq (feature : Feature) (name : String) :
    ∃ houseName, feature.addHouseName name = { feature with houseName := houseName } := by
  rw [addHouseName]
  split <;> exact ⟨_, rfl⟩

/-- Reading a name touches no field but the names. -/
theorem Names.extract_eq (feature : Feature) (tag : Tag) :
    ∃ names, (extract feature tag).1 = { feature with names := names } := by
  rw [extract]
  split
  · exact feature.addName_eq _ _
  · exact ⟨_, rfl⟩

theorem Names.foldl_extract_eq (feature : Feature) (tags : List Tag) :
    ∃ names, tags.foldl (fun feature tag => (extract feature tag).1) feature =
      { feature with names := names } := by
  refine List.foldlRecOn tags _
    (motive := fun grown : Feature => ∃ names, grown = { feature with names := names })
    ⟨_, rfl⟩ ?_
  rintro _ ⟨names, rfl⟩ tag _
  exact extract_eq { feature with names := names } tag

/-- What each attribute does to a record. Every one has a field of its own, but what is not a house
number is a house name. -/
theorem Attribute.take_eq (feature : Feature) (tag : Tag) (held : Attribute) :
    (held.take feature tag).1 =
      { feature with
        houseName :=
          if held = .houseName ∨ held = .houseNumber ∧ HouseNumber.isValid tag.value = false then
            (feature.addHouseName tag.value).houseName
          else feature.houseName
        houseNumber :=
          if held = .houseNumber ∧ HouseNumber.isValid tag.value = true then
            some (Text.trim tag.value)
          else feature.houseNumber
        street := if held = .street then some tag.value else feature.street
        flats := if held = .flats then some tag.value else feature.flats
        reference := if held = .reference then some tag.value else feature.reference
        rank :=
          if held = .population then (Population.rankOfText? tag.value).getD feature.rank
          else feature.rank
        layer :=
          if held = .layer ∧ feature.layer = 0 then Layer.ofText tag.value
          else feature.layer } := by
  obtain ⟨houseName, named⟩ := feature.addHouseName_eq tag.value
  cases held with
  | houseNumber =>
    by_cases valid : HouseNumber.isValid tag.value = true
    · simp [take, Feature.addHouseNumber, valid]
    · simp [take, Feature.addHouseNumber, valid, named]
  | layer =>
    simp only [take]
    split <;> simp_all
  | _ => simp [take, named]

/-- Taking an attribute touches neither the types nor the names. -/
theorem Attribute.take_keeps (feature : Feature) (tag : Tag) (held : Attribute) :
    (held.take feature tag).1.types = feature.types ∧
      (held.take feature tag).1.names = feature.names := by
  rw [take_eq]
  exact ⟨rfl, rfl⟩

theorem Attribute.extractBy_keeps (rules : List (Rule Attribute)) (feature : Feature) (tag : Tag) :
    (extractBy rules feature tag).1.types = feature.types ∧
      (extractBy rules feature tag).1.names = feature.names := by
  refine List.foldlRecOn rules _
    (motive := fun state : Feature × Tag =>
      state.1.types = feature.types ∧ state.1.names = feature.names) ⟨rfl, rfl⟩ ?_
  intro state kept rule _
  split
  · obtain ⟨types, names⟩ := rule.conclusion.take_keeps state.1 state.2
    rwa [types, names]
  · exact kept

/-- Before the walk a record has no type. -/
theorem Classify.types_prepare (tags : List Tag) : (prepare tags).1.types = [] := by
  have named : (Names.extractAll Feature.empty (Layer.complete tags)).1.types = [] :=
    sweep_keeps (fun feature : Feature => feature.types = [])
      (fun feature tag none => by
        obtain ⟨names, same⟩ := Names.extract_eq feature tag
        rw [same, none]) rfl _
  exact sweep_keeps (fun feature : Feature => feature.types = [])
    (fun feature tag none => by
      rw [(Attribute.extractBy_keeps Attribute.table feature tag).1, none]) named _

/-! ## Rounds and what they conclude -/

/-- The round of stations is for elements without a subway type, that of subways for elements with
one. -/
structure Rounds.Allowed (hasSubway : Bool) (rounds : Rounds) : Prop where
  subway : rounds.subway = true → hasSubway = true
  station : rounds.station = true → hasSubway = false

theorem Rounds.Allowed.call {landmarks : Landmarks} {hasSubway : Bool} {rounds : Rounds}
    {code : TypeCode} (allowed : rounds.Allowed hasSubway)
    (known : landmarks.isSubway code = true → hasSubway = true) :
    (Rounds.call landmarks hasSubway rounds code).Allowed hasSubway := by
  rw [Rounds.call]
  split
  · exact ⟨allowed.subway, allowed.station⟩
  · split
    · rename_i calls
      rw [Bool.and_eq_true] at calls
      exact ⟨fun _ => known calls.2, allowed.station⟩
    · split
      · rename_i calls
        simp only [Bool.and_eq_true, Bool.not_eq_true'] at calls
        exact ⟨allowed.subway, fun _ => calls.1.1⟩
      · exact allowed

theorem Rounds.allowed_ofTypes (landmarks : Landmarks) (types : List TypeCode) :
    (ofTypes landmarks types).Allowed (types.any landmarks.isSubway) := by
  refine List.foldlRecOn types _ (motive := Allowed (types.any landmarks.isSubway))
    ⟨by simp, by simp⟩ ?_
  intro rounds allowed code member
  exact allowed.call fun subway => List.any_eq_true.mpr ⟨code, member, subway⟩

theorem Rounds.not_subway_and_station (landmarks : Landmarks) (types : List TypeCode) :
    ¬ ((ofTypes landmarks types).subway = true ∧ (ofTypes landmarks types).station = true) := by
  rintro ⟨subway, station⟩
  have some := (allowed_ofTypes landmarks types).subway subway
  rw [(allowed_ofTypes landmarks types).station station] at some
  cases some

theorem RoadFlag.mem_all (flag : RoadFlag) : flag ∈ all := by
  cases flag <;> decide

namespace Qualifiers

variable {rounds : Rounds} {tags : List Tag} {path : List String}

/-- Of the two rounds that look for a city, the one that ran picked it. -/
def Picks (rounds : Rounds) (tags : List Tag) (city : City) : Prop :=
  rounds.subway = true ∧ Rule.firstHit? Qualifier.subwayTable tags = some city ∨
    rounds.station = true ∧ Rule.firstHit? Qualifier.stationTable tags = some city

theorem cityOf?_eq_some_iff (alone : ¬ (rounds.subway = true ∧ rounds.station = true))
    {city : City} : cityOf? rounds tags = some city ↔ Picks rounds tags city := by
  rw [cityOf?, Picks]
  split
  · rename_i subway
    simp only [subway, true_and] at alone ⊢
    simp [alone]
  · rename_i subway
    split
    · rename_i station
      simp [subway, station]
    · rename_i station
      simp [subway, station]

/-- The paths of the conclusions: one for every flag that a rule raised, and that of the city. -/
theorem mem_paths_ofTags (alone : ¬ (rounds.subway = true ∧ rounds.station = true)) :
    path ∈ (ofTags rounds tags).paths ↔
      (rounds.highway = true ∧ ∃ mark ∈ Rule.hits Qualifier.roadTable tags, path = mark.flag.path) ∨
        ∃ city, Picks rounds tags city ∧ path = cityPath city := by
  simp only [paths, ofTags, List.mem_append, List.mem_map, List.mem_filter, RoadFlag.mem_all,
    true_and, List.any_eq_true, beq_iff_eq, Option.mem_toList, cityOf?_eq_some_iff alone]
  refine or_congr ?_ (exists_congr fun city => and_congr_right fun _ => eq_comm)
  rw [roadMarks]
  split
  · rename_i ran
    simp only [ran, true_and]
    constructor
    · rintro ⟨flag, ⟨mark, hit, rfl⟩, rfl⟩
      exact ⟨mark, hit, rfl⟩
    · rintro ⟨mark, hit, rfl⟩
      exact ⟨mark.flag, ⟨mark, hit, rfl⟩, rfl⟩
  · rename_i ran
    simp [ran]

end Qualifiers

/-! ## Stages -/

namespace Classify

variable {taxonomy : Taxonomy} {options : Options} {feature : Feature} {code : TypeCode}

theorem mem_addAdmitted {codes : List TypeCode} :
    code ∈ (addAdmitted taxonomy options feature codes).types ↔
      code ∈ feature.types ∨ code ∈ codes ∧ admits taxonomy options code = true := by
  rw [addAdmitted, ← List.mem_filter]
  generalize codes.filter (admits taxonomy options) = admitted
  induction admitted generalizing feature with
  | nil => simp
  | cons first rest ih =>
    rw [List.foldl_cons, ih, Feature.mem_addType, List.mem_cons, or_assoc]

/-- Types apart, a record stays as it is when types are added. -/
theorem hasHouse_addAdmitted (codes : List TypeCode) :
    (addAdmitted taxonomy options feature codes).hasHouse = feature.hasHouse := by
  refine List.foldlRecOn _ _ (motive := fun grown : Feature => grown.hasHouse = feature.hasHouse)
    rfl ?_
  intro grown same code _
  rw [Feature.addType]
  split
  · exact same
  · exact same

theorem mem_assign (discoveries : List Walk.Discovery) (untyped : feature.types = []) :
    code ∈ (assign taxonomy options feature discoveries).types ↔
      code ∈ discoveries.map Walk.Discovery.code ∧ admits taxonomy options code = true := by
  rw [assign, mem_addAdmitted, untyped]
  simp

theorem mem_toAddress {landmarks : Landmarks} :
    code ∈ (toAddress taxonomy options landmarks feature).types ↔
      code ∈ feature.types ∧ landmarks.entrance ≠ some code ∨
        landmarks.address = some code ∧ admits taxonomy options code = true := by
  rw [toAddress, mem_addAdmitted, List.mem_filter, decide_eq_true_eq, ne_comm, Option.mem_toList]

theorem isAddressedEntrance_iff {landmarks : Landmarks} :
    isAddressedEntrance landmarks feature = true ↔
      feature.hasHouse = true ∧ ∃ code ∈ feature.types, landmarks.entrance = some code := by
  rw [isAddressedEntrance, Bool.and_eq_true]
  cases landmarks.entrance <;> simp [Feature.hasType]

end Classify

/-! ## Sources -/

/-- The sources of a type, as the account of a classification names them. -/
inductive Provenance (taxonomy : Taxonomy) (outcome : Outcome) (code : TypeCode) : Prop where
  /-- The walk found the category; an entrance that became an address does not count. -/
  | walked (found : code ∈ outcome.discoveries.map Walk.Discovery.code)
      (kept : ¬ (outcome.addressFixup = true ∧
        taxonomy.codeOf? Landmarks.entrancePath = .ok (some code)))
  /-- An entrance became an address. -/
  | address (turned : outcome.addressFixup = true)
      (known : taxonomy.codeOf? Landmarks.addressPath = .ok (some code))
  /-- A rule for roads raised the flag of the category. -/
  | flag {mark : RoadMark} (ran : outcome.rounds.highway = true)
      (hit : mark ∈ Rule.hits Qualifier.roadTable outcome.tags)
      (known : taxonomy.codeOf? mark.flag.path = .ok (some code))
  /-- A round picked the city of the category. -/
  | city {city : City} (picked : Qualifiers.Picks outcome.rounds outcome.tags city)
      (known : taxonomy.codeOf? (Qualifiers.cityPath city) = .ok (some code))

/-- The sources in the terms in which the stages speak of them: with the landmarks looked up, and
the conclusions of the rounds gathered to paths. -/
theorem Provenance.iff_of_landmarks {taxonomy : Taxonomy} {landmarks : Landmarks}
    {outcome : Outcome} {code : TypeCode}
    (hasEntrance : taxonomy.codeOf? Landmarks.entrancePath = .ok landmarks.entrance)
    (hasAddress : taxonomy.codeOf? Landmarks.addressPath = .ok landmarks.address)
    (alone : ¬ (outcome.rounds.subway = true ∧ outcome.rounds.station = true)) :
    Provenance taxonomy outcome code ↔
      code ∈ outcome.discoveries.map Walk.Discovery.code ∧
        ¬ (outcome.addressFixup = true ∧ landmarks.entrance = some code) ∨
      outcome.addressFixup = true ∧ landmarks.address = some code ∨
      ∃ path ∈ (Qualifiers.ofTags outcome.rounds outcome.tags).paths,
        taxonomy.codeOf? path = .ok (some code) := by
  have isEntrance : taxonomy.codeOf? Landmarks.entrancePath = .ok (some code) ↔
      landmarks.entrance = some code := by
    rw [hasEntrance, Except.ok.injEq]
  have isAddress : taxonomy.codeOf? Landmarks.addressPath = .ok (some code) ↔
      landmarks.address = some code := by
    rw [hasAddress, Except.ok.injEq]
  simp only [Qualifiers.mem_paths_ofTags alone]
  constructor
  · rintro (⟨found, kept⟩ | ⟨turned, known⟩ | ⟨ran, hit, known⟩ | ⟨picked, known⟩)
    · exact .inl ⟨found, by rwa [← isEntrance]⟩
    · exact .inr (.inl ⟨turned, isAddress.mp known⟩)
    · exact .inr (.inr ⟨_, .inl ⟨ran, _, hit, rfl⟩, known⟩)
    · exact .inr (.inr ⟨_, .inr ⟨_, picked, rfl⟩, known⟩)
  · rintro (⟨found, kept⟩ | ⟨turned, known⟩ |
      ⟨path, ⟨ran, mark, hit, rfl⟩ | ⟨city, picked, rfl⟩, known⟩)
    · exact .walked found (by rwa [isEntrance])
    · exact .address turned (isAddress.mpr known)
    · exact .flag ran hit known
    · exact .city picked known

namespace Classify

variable {taxonomy : Taxonomy} {options : Options} {landmarks : Landmarks}

/-- The types once addressed entrances are corrected. -/
theorem mem_settled (fixup : Bool) (feature : Feature) (code : TypeCode) :
    code ∈ (if fixup then toAddress taxonomy options landmarks feature else feature).types ↔
      code ∈ feature.types ∧ ¬ (fixup = true ∧ landmarks.entrance = some code) ∨
        fixup = true ∧ landmarks.address = some code ∧ admits taxonomy options code = true := by
  cases fixup with
  | false => simp
  | true => simp [mem_toAddress]

/-- The stages after the walk never fault over a sound taxonomy, and give every type from its
sources. -/
theorem conclude_spec (sound : taxonomy.Sound)
    (hasEntrance : taxonomy.codeOf? Landmarks.entrancePath = .ok landmarks.entrance)
    (hasAddress : taxonomy.codeOf? Landmarks.addressPath = .ok landmarks.address)
    (prepared : Feature × List Tag) (untyped : prepared.1.types = [])
    (discoveries : List Walk.Discovery) :
    ∃ outcome, conclude taxonomy options landmarks prepared discoveries = .ok outcome ∧
      outcome.tags = prepared.2 ∧ outcome.discoveries = discoveries ∧
      (outcome.addressFixup = true ↔ options.addressFixup = true ∧ prepared.1.hasHouse = true ∧
        ∃ code ∈ discoveries.map Walk.Discovery.code, admits taxonomy options code = true ∧
          taxonomy.codeOf? Landmarks.entrancePath = .ok (some code)) ∧
      ∀ code, code ∈ outcome.feature.types ↔
        admits taxonomy options code = true ∧ Provenance taxonomy outcome code := by
  let assigned := assign taxonomy options prepared.1 discoveries
  let fixup := options.addressFixup && isAddressedEntrance landmarks assigned
  let settled := if fixup then toAddress taxonomy options landmarks assigned else assigned
  let rounds := Rounds.ofTypes landmarks settled.types
  obtain ⟨codes, looked, known⟩ := sound.exists_codesOf (Qualifiers.ofTags rounds prepared.2).paths
  have alone := Rounds.not_subway_and_station landmarks settled.types
  have isEntrance : ∀ code, taxonomy.codeOf? Landmarks.entrancePath = .ok (some code) ↔
      landmarks.entrance = some code := by
    intro code
    rw [hasEntrance, Except.ok.injEq]
  let qualified := qualify taxonomy options (Qualifiers.ofTags rounds prepared.2) codes settled
  refine ⟨⟨qualified.sortTypes, prepared.2, discoveries, rounds, fixup⟩, ?_, rfl, rfl, ?_, ?_⟩
  · rw [conclude]
    change (do let codes ← taxonomy.codesOf (Qualifiers.ofTags rounds prepared.2).paths; _) = _
    rw [looked]
    rfl
  · simp only [fixup, Bool.and_eq_true, isAddressedEntrance_iff, isEntrance, assigned,
      mem_assign discoveries untyped, and_assoc]
    rw [assign, hasHouse_addAdmitted]
  · intro code
    have typed : code ∈ qualified.sortTypes.types ↔
        code ∈ settled.types ∨ code ∈ codes ∧ admits taxonomy options code = true := by
      rw [Feature.sortTypes, Feature.mem_sortCodes]
      exact mem_addAdmitted
    rw [typed, mem_settled, mem_assign discoveries untyped, known,
      Provenance.iff_of_landmarks hasEntrance hasAddress alone]
    constructor
    · rintro ((⟨⟨found, admitted⟩, kept⟩ | ⟨turned, isAddress, admitted⟩) | ⟨called, admitted⟩)
      · exact ⟨admitted, .inl ⟨found, kept⟩⟩
      · exact ⟨admitted, .inr (.inl ⟨turned, isAddress⟩)⟩
      · exact ⟨admitted, .inr (.inr called)⟩
    · rintro ⟨admitted, ⟨found, kept⟩ | ⟨turned, isAddress⟩ | called⟩
      · exact .inl (.inl ⟨⟨found, admitted⟩, kept⟩)
      · exact .inl (.inr ⟨turned, isAddress, admitted⟩)
      · exact .inr ⟨called, admitted⟩

end Classify

/-- Classification from its stages. -/
theorem Element.classify_of_stages {taxonomy : Taxonomy} {options : Options} {element : Element}
    {landmarks : Landmarks} {discoveries : List Walk.Discovery} {outcome : Outcome}
    (found : Landmarks.find taxonomy = .ok landmarks)
    (walked : Walk.discover taxonomy (Classify.prepare element.tags).2 = .ok discoveries)
    (concluded : Classify.conclude taxonomy options landmarks (Classify.prepare element.tags)
      discoveries = .ok outcome) :
    element.classify taxonomy options = .ok (outcome, { element with tags := outcome.tags }) := by
  have classified : MapTypes.classify taxonomy options element.tags = .ok outcome := by
    rw [MapTypes.classify, found]
    change (do let discoveries ← Walk.discover taxonomy _; _) = _
    rw [walked]
    exact concluded
  rw [Element.classify, classified]
  rfl

/-- The types of an element are exactly the codes that may become types and have a source. Over a
frozen draft classification always gives a record; with it comes what the walk found among the
prepared tags, and an entrance is said to have become an address just when that was asked for, a
house is known and entrances are among what the walk found and admission let through. -/
theorem classify_types_iff (entries : List Entry) (options : Options) (element : Element) :
    let taxonomy := (Draft.empty.addAccepted entries).freeze
    let prepared := Classify.prepare element.tags
    ∃ outcome, element.classify taxonomy options =
        .ok (outcome, { element with tags := prepared.2 }) ∧
      outcome.tags = prepared.2 ∧
      Walk.discover taxonomy prepared.2 = .ok outcome.discoveries ∧
      (outcome.addressFixup = true ↔ options.addressFixup = true ∧ prepared.1.hasHouse = true ∧
        ∃ code ∈ outcome.discoveries.map Walk.Discovery.code,
          Classify.admits taxonomy options code = true ∧
            taxonomy.codeOf? Landmarks.entrancePath = .ok (some code)) ∧
      ∀ code, code ∈ outcome.feature.types ↔
        Classify.admits taxonomy options code = true ∧ Provenance taxonomy outcome code := by
  intro taxonomy prepared
  have sound : taxonomy.Sound := Taxonomy.sound_freeze entries
  obtain ⟨landmarks, found, hasEntrance, hasAddress, _⟩ := Landmarks.exists_find sound
  obtain ⟨discoveries, walked⟩ := Walk.exists_discover sound prepared.2
  obtain ⟨outcome, ran, left, same, turned, types⟩ :=
    Classify.conclude_spec sound hasEntrance hasAddress prepared
      (Classify.types_prepare element.tags) discoveries
  have classified : classify taxonomy options element.tags = .ok outcome := by
    rw [classify, found]
    change (do let discoveries ← Walk.discover taxonomy prepared.2; _) = _
    rw [walked]
    exact ran
  refine ⟨outcome, ?_, left, by rw [same, walked], by rw [same]; exact turned, types⟩
  rw [Element.classify, classified, ← left]
  rfl

end MapTypes
