import MapTypes.Proofs.RoundGates

/-!
One account of every outcome. After the walk a record is settled, goes its rounds and is sorted;
what comes of it can be told by the prepared tags and what was found among them. Of the fields only
types, names, direction and city are touched (`conclude_record`). The correction of entrances has no
part in the rounds, since neither an entrance nor an address calls for one (`ofTypes_settle`).
-/

namespace MapTypes

/-! ## Rounds -/

namespace Landmarks

/-- A code that calls for no round. -/
structure Silent (landmarks : Landmarks) (code : TypeCode) : Prop where
  highway : landmarks.isHighway code = false
  subway : landmarks.isSubway code = false
  station : landmarks.isStation code = false

/-- A category away from roads and stations calls for no round. -/
theorem silent_of_placed {taxonomy : Taxonomy} {landmarks : Landmarks}
    (numbered : taxonomy.Numbered)
    (hasHighway : taxonomy.codeOf? highwayPath = .ok landmarks.highway)
    (hasStation : taxonomy.codeOf? stationPath = .ok landmarks.station)
    (hasSubway : taxonomy.codeOf? subwayPath = .ok landmarks.subway)
    {path : List String} {code : TypeCode} (placed : taxonomy.codeOf? path = .ok (some code))
    (noRoad : ¬ highwayPath <+: path) (noStation : ¬ stationPath <+: path) :
    landmarks.Silent code := by
  have stationAbove : stationPath <+: subwayPath := ⟨["subway"], rfl⟩
  constructor
  case highway =>
    have beneath := numbered.beq_truncate_iff hasHighway (List.cons_ne_nil _ _) placed
    rw [numbered.atOrBelow_iff_prefix placed] at beneath
    exact Bool.eq_false_iff.mpr (mt beneath.mp noRoad)
  case subway =>
    have beneath := numbered.beq_truncate_iff hasSubway (List.cons_ne_nil _ _) placed
    rw [numbered.atOrBelow_iff_prefix placed] at beneath
    exact Bool.eq_false_iff.mpr fun below => noStation (stationAbove.trans (beneath.mp below))
  case station =>
    rw [← Bool.not_eq_true, isStation_iff hasStation]
    intro isStation
    rw [numbered.path_eq_of_code placed isStation] at noStation
    exact noStation (List.prefix_refl _)

end Landmarks

namespace Rounds

variable {landmarks : Landmarks} {types others : List TypeCode}

/-- Lists of types that differ in silent codes only call for the same rounds. -/
theorem ofTypes_congr (apart : ∀ code ∈ types, landmarks.Apart code)
    (apartOther : ∀ code ∈ others, landmarks.Apart code)
    (same : ∀ code, ¬ landmarks.Silent code → (code ∈ types ↔ code ∈ others)) :
    ofTypes landmarks types = ofTypes landmarks others := by
  have tests (test : TypeCode → Bool)
      (heard : ∀ code, test code = true → ¬ landmarks.Silent code) :
      types.any test = others.any test := by
    rw [Bool.eq_iff_iff, List.any_eq_true, List.any_eq_true]
    refine exists_congr fun code => and_congr_left fun passed => same code (heard code passed)
  rw [ofTypes_eq apart, ofTypes_eq apartOther,
    tests landmarks.isHighway fun code passed silent => by simp [silent.highway] at passed,
    tests landmarks.isSubway fun code passed silent => by simp [silent.subway] at passed,
    tests landmarks.isStation fun code passed silent => by simp [silent.station] at passed]

end Rounds

namespace Classify

variable {taxonomy : Taxonomy} {options : Options} {landmarks : Landmarks}

/-- The codes of the walk that may become types. -/
def admitted (taxonomy : Taxonomy) (options : Options) (discoveries : List Walk.Discovery) :
    List TypeCode :=
  (discoveries.map Walk.Discovery.code).filter (admits taxonomy options)

theorem placed_of_admitted (numbered : taxonomy.Numbered) {tags : List Tag}
    {discoveries : List Walk.Discovery}
    (walked : Walk.discover taxonomy tags = .ok discoveries) {code : TypeCode}
    (member : code ∈ admitted taxonomy options discoveries) :
    ∃ path, taxonomy.codeOf? path = .ok (some code) :=
  Walk.placed_of_discover numbered walked (List.mem_filter.mp member).1

/-- The correction of entrances has no part in the rounds. -/
theorem ofTypes_settle (numbered : taxonomy.Numbered)
    (hasEntrance : taxonomy.codeOf? Landmarks.entrancePath = .ok landmarks.entrance)
    (hasAddress : taxonomy.codeOf? Landmarks.addressPath = .ok landmarks.address)
    (hasHighway : taxonomy.codeOf? Landmarks.highwayPath = .ok landmarks.highway)
    (hasStation : taxonomy.codeOf? Landmarks.stationPath = .ok landmarks.station)
    (hasSubway : taxonomy.codeOf? Landmarks.subwayPath = .ok landmarks.subway)
    {prepared : Feature × List Tag} (untyped : prepared.1.types = [])
    {discoveries : List Walk.Discovery}
    (walked : Walk.discover taxonomy prepared.2 = .ok discoveries) :
    Rounds.ofTypes landmarks (settle taxonomy options landmarks prepared.1 discoveries).types =
      Rounds.ofTypes landmarks (admitted taxonomy options discoveries) := by
  have apart {path : List String} {code : TypeCode}
      (placed : taxonomy.codeOf? path = .ok (some code)) : landmarks.Apart code :=
    Landmarks.apart_of_placed numbered hasHighway hasStation hasSubway placed
  apply Rounds.ofTypes_congr
  · intro code member
    obtain ⟨path, placed⟩ := placed_of_settled numbered hasAddress untyped walked member
    exact apart placed
  · intro code member
    obtain ⟨path, placed⟩ := placed_of_admitted numbered walked member
    exact apart placed
  · -- All that the correction takes away or adds is silent.
    intro code heard
    have noEntrance : landmarks.entrance ≠ some code := by
      intro same
      rw [same] at hasEntrance
      exact heard (Landmarks.silent_of_placed numbered hasHighway hasStation hasSubway hasEntrance
        (by decide) (by decide))
    have noAddress : landmarks.address ≠ some code := by
      intro same
      rw [same] at hasAddress
      exact heard (Landmarks.silent_of_placed numbered hasHighway hasStation hasSubway hasAddress
        (by decide) (by decide))
    rw [settle, mem_settled, mem_assign discoveries untyped, admitted, List.mem_filter]
    simp only [noEntrance, noAddress, and_false, false_and, not_false_eq_true, and_true, or_false]

/-! ## Records -/

/-- Adding types leaves all other fields. -/
theorem addAdmitted_eq (taxonomy : Taxonomy) (options : Options) (feature : Feature)
    (codes : List TypeCode) :
    ∃ types, addAdmitted taxonomy options feature codes = { feature with types := types } := by
  obtain ⟨added, grows⟩ := exists_added taxonomy options feature codes
  exact ⟨_, grows feature.types fun _ => Iff.rfl⟩

/-- A settled record has other types than the prepared one, and no names if an entrance became an
address. -/
theorem settle_eq (taxonomy : Taxonomy) (options : Options) (landmarks : Landmarks)
    (feature : Feature) (discoveries : List Walk.Discovery) :
    ∃ types, settle taxonomy options landmarks feature discoveries =
      { feature with
        types := types
        names := if options.addressFixup &&
            isAddressedEntrance landmarks (assign taxonomy options feature discoveries)
          then [] else feature.names } := by
  obtain ⟨assigned, isAssigned⟩ : ∃ types, assign taxonomy options feature discoveries =
      { feature with types := types } := addAdmitted_eq ..
  rw [settle]
  split
  · obtain ⟨types, grown⟩ := addAdmitted_eq taxonomy options
      { assign taxonomy options feature discoveries with
        types := (assign taxonomy options feature discoveries).types.filter
          fun code => some code ≠ landmarks.entrance
        names := [] } landmarks.address.toList
    refine ⟨types, ?_⟩
    rw [toAddress, grown, isAssigned]
  · exact ⟨assigned, isAssigned⟩

/-- What the stages after the walk do to a record: they settle its types and put them in order, an
entrance that becomes an address loses its names, and the conclusions of the rounds set the
direction and the city. -/
theorem conclude_record {prepared : Feature × List Tag} {discoveries : List Walk.Discovery}
    {outcome : Outcome}
    (concluded : conclude taxonomy options landmarks prepared discoveries = .ok outcome) :
    outcome.rounds =
        Rounds.ofTypes landmarks (settle taxonomy options landmarks prepared.1 discoveries).types ∧
      outcome.feature.types.Pairwise (· < ·) ∧
      outcome.feature =
        { prepared.1 with
          types := outcome.feature.types
          names := if outcome.addressFixup then [] else prepared.1.names
          reversed := (Qualifiers.ofTags outcome.rounds prepared.2).reversed
          city := (Qualifiers.ofTags outcome.rounds prepared.2).city.map City.label } := by
  obtain ⟨types, settled⟩ := settle_eq taxonomy options landmarks prepared.1 discoveries
  rw [conclude_eq, goRounds, Qualifiers.gather_eq] at concluded
  dsimp only at concluded
  cases looked : taxonomy.codesOf (Qualifiers.ofTags (Rounds.ofTypes landmarks
      (settle taxonomy options landmarks prepared.1 discoveries).types) prepared.2).paths with
  | error fault =>
    rw [looked] at concluded
    cases concluded
  | ok codes =>
    rw [looked] at concluded
    cases concluded
    obtain ⟨qualified, grown⟩ := addAdmitted_eq taxonomy options
      (settle taxonomy options landmarks prepared.1 discoveries) codes
    refine ⟨rfl, Feature.pairwise_sortCodes _, ?_⟩
    rw [qualify, grown, settled]
    rfl

end Classify

/-! ## Sources of types -/

namespace Provenance

variable {taxonomy : Taxonomy} {outcome : Outcome} {code : TypeCode}

/-- Whatever a type stems from is the category of a path. -/
theorem exists_path (numbered : taxonomy.Numbered)
    (ran : Walk.discover taxonomy outcome.tags = .ok outcome.discoveries)
    (source : Provenance taxonomy outcome code) :
    ∃ path, taxonomy.codeOf? path = .ok (some code) := by
  cases source with
  | walked found _ => exact Walk.placed_of_discover numbered ran found
  | address _ known => exact ⟨_, known⟩
  | flag _ _ known => exact ⟨_, known⟩
  | city _ known => exact ⟨_, known⟩

/-- Entrances stem from the walk alone, and only where none was corrected. -/
theorem of_entrance (numbered : taxonomy.Numbered)
    (isEntrance : taxonomy.codeOf? Landmarks.entrancePath = .ok (some code))
    (source : Provenance taxonomy outcome code) :
    code ∈ outcome.discoveries.map Walk.Discovery.code ∧ outcome.addressFixup = false := by
  cases source with
  | walked found kept =>
    refine ⟨found, ?_⟩
    rw [← Bool.not_eq_true]
    exact fun turned => kept ⟨turned, isEntrance⟩
  | address _ known => exact absurd (numbered.path_eq_of_code known isEntrance) (by decide)
  | flag _ _ known =>
    exact absurd (List.head_eq_of_cons_eq (numbered.path_eq_of_code known isEntrance)) (by decide)
  | city _ known =>
    exact absurd (List.head_eq_of_cons_eq (numbered.path_eq_of_code known isEntrance)) (by decide)

/-- Where an entrance became an address, nothing else brings entrances back. -/
theorem ne_entrance (numbered : taxonomy.Numbered) (turned : outcome.addressFixup = true)
    (source : Provenance taxonomy outcome code) :
    taxonomy.codeOf? Landmarks.entrancePath ≠ .ok (some code) := by
  intro isEntrance
  have unturned := (source.of_entrance numbered isEntrance).2
  rw [turned] at unturned
  cases unturned

/-- All sources but the rules for roads are told by the tags, what was found, the correction and
the rounds for stations. -/
theorem congr_or_flag {other : Outcome} (source : Provenance taxonomy outcome code)
    (tags : outcome.tags = other.tags)
    (discoveries : outcome.discoveries = other.discoveries)
    (addressFixup : outcome.addressFixup = other.addressFixup)
    (subway : outcome.rounds.subway = other.rounds.subway)
    (station : outcome.rounds.station = other.rounds.station) :
    Provenance taxonomy other code ∨
      outcome.rounds.highway = true ∧ ∃ mark ∈ Rule.hits Qualifier.roadTable other.tags,
        taxonomy.codeOf? mark.flag.path = .ok (some code) := by
  cases source with
  | walked found kept => exact .inl (.walked (discoveries ▸ found) (addressFixup ▸ kept))
  | address turned known => exact .inl (.address (addressFixup ▸ turned) known)
  | flag ran hit known => exact .inr ⟨ran, _, tags ▸ hit, known⟩
  | city picked known =>
    rw [Qualifiers.Picks, tags, subway, station] at picked
    exact .inl (.city picked known)

/-- The sources of types are told by the tags, what was found, the rounds and the correction. -/
theorem congr {other : Outcome} (source : Provenance taxonomy outcome code)
    (tags : outcome.tags = other.tags)
    (discoveries : outcome.discoveries = other.discoveries)
    (rounds : outcome.rounds = other.rounds)
    (addressFixup : outcome.addressFixup = other.addressFixup) :
    Provenance taxonomy other code := by
  obtain same | ⟨ran, _, hit, known⟩ := source.congr_or_flag tags discoveries addressFixup
    (by rw [rounds]) (by rw [rounds])
  · exact same
  · exact .flag (rounds ▸ ran) hit known

end Provenance

/-! ## Accounts -/

namespace Classify

/-- The account of an outcome, in terms of the prepared tags and of what was found among them. -/
structure Account (taxonomy : Taxonomy) (landmarks : Landmarks) (options : Options)
    (prepared : Feature × List Tag) (outcome : Outcome) : Prop where
  tags : outcome.tags = prepared.2
  walked : Walk.discover taxonomy prepared.2 = .ok outcome.discoveries
  rounds : outcome.rounds =
    Rounds.ofTypes landmarks (admitted taxonomy options outcome.discoveries)
  addressFixup : outcome.addressFixup = true ↔
    options.addressFixup = true ∧ prepared.1.hasHouse = true ∧
      ∃ code ∈ admitted taxonomy options outcome.discoveries,
        taxonomy.codeOf? Landmarks.entrancePath = .ok (some code)
  increasing : outcome.feature.types.Pairwise (· < ·)
  types : ∀ code, code ∈ outcome.feature.types ↔
    admits taxonomy options code = true ∧ Provenance taxonomy outcome code
  feature : outcome.feature =
    { prepared.1 with
      types := outcome.feature.types
      names := if outcome.addressFixup then [] else prepared.1.names
      reversed := (Qualifiers.ofTags outcome.rounds prepared.2).reversed
      city := (Qualifiers.ofTags outcome.rounds prepared.2).city.map City.label }

/-- Over a frozen draft every element has an outcome, and with the landmarks looked up an account of
it. -/
theorem account_of_find {entries : List Entry} {landmarks : Landmarks}
    (found : Landmarks.find (Draft.empty.addAccepted entries).freeze = .ok landmarks)
    (options : Options) (element : Element) :
    let taxonomy := (Draft.empty.addAccepted entries).freeze
    ∃ outcome, element.classify taxonomy options =
        .ok (outcome, { element with tags := outcome.tags }) ∧
      Account taxonomy landmarks options (prepare element.tags) outcome := by
  intro taxonomy
  have numbered : taxonomy.Numbered := Taxonomy.numbered_freeze entries
  obtain ⟨hasEntrance, hasAddress, hasHighway, hasStation, hasSubway⟩ :=
    Landmarks.codeOf?_of_find numbered.toSound found
  have untyped := types_prepare element.tags
  obtain ⟨discoveries, walked⟩ := Walk.exists_discover numbered.toSound (prepare element.tags).2
  obtain ⟨outcome, concluded, left, same, turned, types⟩ :=
    @conclude_spec taxonomy options landmarks numbered.toSound hasEntrance hasAddress
      (prepare element.tags) untyped discoveries
  obtain ⟨rounds, increasing, feature⟩ := conclude_record concluded
  rw [ofTypes_settle numbered hasEntrance hasAddress hasHighway hasStation hasSubway untyped walked]
    at rounds
  refine ⟨outcome, Element.classify_of_stages found walked concluded, ?_⟩
  constructor
  case tags => exact left
  case walked => rw [walked, same]
  case rounds => rw [rounds, same]
  case addressFixup =>
    simp only [admitted, List.mem_filter, and_assoc, same]
    exact turned
  case increasing => exact increasing
  case types => exact types
  case feature => exact feature

/-- Over a frozen draft every element has an outcome, with the same account of it. -/
theorem exists_account (entries : List Entry) :
    let taxonomy := (Draft.empty.addAccepted entries).freeze
    ∃ landmarks, ∀ (options : Options) (element : Element), ∃ outcome,
      element.classify taxonomy options =
        .ok (outcome, { element with tags := outcome.tags }) ∧
      Account taxonomy landmarks options (prepare element.tags) outcome := by
  intro taxonomy
  obtain ⟨landmarks, found, _⟩ := Landmarks.exists_find (Taxonomy.sound_freeze entries)
  exact ⟨landmarks, account_of_find found⟩

theorem admits_congr {taxonomy : Taxonomy} {options others : Options}
    (sameFilter : options.visibilityFilter = others.visibilityFilter) :
    admits taxonomy options = admits taxonomy others := by
  funext code
  rw [admits, admits, sameFilter]

namespace Account

variable {taxonomy : Taxonomy} {landmarks : Landmarks} {options others : Options}
variable {prepared further : Feature × List Tag} {outcome other : Outcome}

/-- Entrances are left alone unless their correction is asked for. -/
theorem unfixed (account : Account taxonomy landmarks options prepared outcome)
    (unasked : options.addressFixup = false) : outcome.addressFixup = false := by
  rw [← Bool.not_eq_true, account.addressFixup, unasked]
  rintro ⟨asked, _⟩
  cases asked

/-- A house is known after classification just when it was before. -/
theorem hasHouse_eq (account : Account taxonomy landmarks options prepared outcome) :
    outcome.feature.hasHouse = prepared.1.hasHouse := by
  rw [account.feature]
  rfl

theorem tags_eq (account : Account taxonomy landmarks options prepared outcome)
    (accountOther : Account taxonomy landmarks others further other)
    (sameTags : prepared.2 = further.2) : outcome.tags = other.tags := by
  rw [account.tags, accountOther.tags, sameTags]

theorem discoveries_eq (account : Account taxonomy landmarks options prepared outcome)
    (accountOther : Account taxonomy landmarks others further other)
    (sameTags : prepared.2 = further.2) : outcome.discoveries = other.discoveries := by
  have walked := account.walked
  rw [sameTags, accountOther.walked, Except.ok.injEq] at walked
  exact walked.symm

theorem rounds_eq (account : Account taxonomy landmarks options prepared outcome)
    (accountOther : Account taxonomy landmarks others further other)
    (sameTags : prepared.2 = further.2)
    (sameFilter : options.visibilityFilter = others.visibilityFilter) :
    outcome.rounds = other.rounds := by
  rw [account.rounds, accountOther.rounds, account.discoveries_eq accountOther sameTags, admitted,
    admitted, admits_congr sameFilter]

/-- Two outcomes from the same tags have the same types if both corrected an entrance or neither
did. -/
theorem types_eq (account : Account taxonomy landmarks options prepared outcome)
    (accountOther : Account taxonomy landmarks others further other)
    (sameTags : prepared.2 = further.2)
    (sameFilter : options.visibilityFilter = others.visibilityFilter)
    (sameFixup : outcome.addressFixup = other.addressFixup) :
    outcome.feature.types = other.feature.types := by
  have tags := account.tags_eq accountOther sameTags
  have discoveries := account.discoveries_eq accountOther sameTags
  have rounds := account.rounds_eq accountOther sameTags sameFilter
  apply account.increasing.eq_of_mem_iff accountOther.increasing
  intro code
  rw [account.types, accountOther.types, admits_congr sameFilter]
  refine and_congr_right fun _ => ⟨fun source => ?_, fun source => ?_⟩
  · exact source.congr tags discoveries rounds sameFixup
  · exact source.congr tags.symm discoveries.symm rounds.symm sameFixup.symm

/-- The rounds of an outcome are told by what was found and may become a type. -/
theorem rounds_iff (account : Account taxonomy landmarks options prepared outcome)
    (numbered : taxonomy.Numbered) (found : Landmarks.find taxonomy = .ok landmarks) :
    let types := admitted taxonomy options outcome.discoveries
    (outcome.rounds.highway = true ↔
      ∃ code ∈ types, taxonomy.AtOrBelow Landmarks.highwayPath code) ∧
    (outcome.rounds.subway = true ↔ ∃ code ∈ types, taxonomy.AtOrBelow Landmarks.subwayPath code) ∧
    (outcome.rounds.station = true ↔
      (∃ code ∈ types, taxonomy.codeOf? Landmarks.stationPath = .ok (some code)) ∧
        ¬ ∃ code ∈ types, taxonomy.AtOrBelow Landmarks.subwayPath code) := by
  intro types
  obtain ⟨_, _, hasHighway, hasStation, hasSubway⟩ :=
    Landmarks.codeOf?_of_find numbered.toSound found
  have placed : ∀ code ∈ types, ∃ path, taxonomy.codeOf? path = .ok (some code) :=
    fun code member => placed_of_admitted numbered account.walked member
  have apart : ∀ code ∈ types, landmarks.Apart code := by
    intro code member
    obtain ⟨path, here⟩ := placed code member
    exact Landmarks.apart_of_placed numbered hasHighway hasStation hasSubway here
  rw [account.rounds]
  exact Classify.rounds_iff numbered hasHighway hasStation hasSubway placed apart

end Account

end Classify

end MapTypes
