import Mathlib.Data.List.Infix
import MapTypes.Proofs.DraftContents
import MapTypes.Proofs.OutcomeAccount
import MapTypes.Taxonomy.BuiltIn

/-!
Two classifications of one element, of which only one leaves out categories that are not drawn. The
other does more than to add hidden types: any type may call for a round, and what the round
concludes may be drawn. Where entrances and stations are drawn this can happen with roads only, so
the two outcomes differ by hidden types, or else by the round for roads, its flags and its
direction.
-/

namespace MapTypes

/-! ## Landmarks that are drawn -/

/-- A taxonomy draws entrances, railway stations and all that is at or below subway stations, as far
as it has them. -/
structure Taxonomy.DrawsLandmarks (taxonomy : Taxonomy) : Prop where
  entrance : ∀ code, taxonomy.codeOf? Landmarks.entrancePath = .ok (some code) →
    taxonomy.isVisible code = true
  station : ∀ code, taxonomy.codeOf? Landmarks.stationPath = .ok (some code) →
    taxonomy.isVisible code = true
  subway : ∀ code, taxonomy.AtOrBelow Landmarks.subwayPath code → taxonomy.isVisible code = true

namespace Taxonomy

/-- None of the built-in paths is refused. -/
theorem BuiltIn.accepted_entries : Draft.empty.accepted entries = entries := by
  decide +kernel

/-- The built-in taxonomy draws its landmarks. -/
theorem drawsLandmarks_builtIn : builtIn.DrawsLandmarks := by
  have drawn {path : List String} {code : TypeCode}
      (found : builtIn.codeOf? path = .ok (some code))
      (listed : ⟨path, true⟩ ∈ BuiltIn.entries) : builtIn.isVisible code = true := by
    rw [← BuiltIn.accepted_entries] at listed
    exact (Draft.accepted_of_codeOf? found).2.mpr listed
  constructor
  case entrance => exact fun code found => drawn found (by decide +kernel)
  case station => exact fun code found => drawn found (by decide +kernel)
  case subway =>
    rintro code ⟨further, found⟩
    obtain ⟨entry, accepted, above⟩ := (Draft.accepted_of_codeOf? found).1
    rw [BuiltIn.accepted_entries] at accepted
    have subways : ∀ entry ∈ BuiltIn.entries, ∀ path ∈ entry.path.inits,
        Landmarks.subwayPath <+: path → ⟨path, true⟩ ∈ BuiltIn.entries := by
      decide +kernel
    exact drawn found (subways entry accepted _ ((List.mem_inits _ _).mpr above) ⟨further, rfl⟩)

end Taxonomy

/-! ## Rounds -/

/-- The city is told by the rounds for stations. -/
theorem Qualifiers.city_congr {rounds others : Rounds} (subway : rounds.subway = others.subway)
    (station : rounds.station = others.station) (tags : List Tag) :
    (ofTags rounds tags).city = (ofTags others tags).city := by
  change cityOf? rounds tags = cityOf? others tags
  rw [cityOf?, cityOf?, subway, station]

namespace Classify

variable {taxonomy : Taxonomy} {fixup : Bool} {discoveries : List Walk.Discovery} {code : TypeCode}

/-- With the filter just those may become types that may without it and are drawn. -/
theorem mem_admitted_iff :
    code ∈ admitted taxonomy ⟨fixup, true⟩ discoveries ↔
      code ∈ admitted taxonomy ⟨fixup, false⟩ discoveries ∧ taxonomy.isVisible code = true := by
  simp [admitted, admits]

/-- Whether categories are found that are drawn does not depend on the filter. -/
theorem exists_admitted_iff {there : TypeCode → Prop}
    (drawn : ∀ code, there code → taxonomy.isVisible code = true) :
    (∃ code ∈ admitted taxonomy ⟨fixup, true⟩ discoveries, there code) ↔
      ∃ code ∈ admitted taxonomy ⟨fixup, false⟩ discoveries, there code := by
  refine exists_congr fun code => and_congr_left fun isThere => ?_
  rw [mem_admitted_iff, and_iff_left (drawn code isThere)]

end Classify

/-! ## Outcomes -/

/-- An outcome in which categories that are not drawn are left out, beside that of all categories.
The records differ in types and direction only. They have the same direction and the same drawn
types if the round for roads was gone through for both or for neither. If it took all categories to
call for it, no road that was found is drawn, and what is missing of the drawn types are flags of
roads. -/
structure Outcome.LeavesOutHidden (taxonomy : Taxonomy) (shown all : Outcome) : Prop where
  tags : shown.tags = all.tags
  discoveries : shown.discoveries = all.discoveries
  addressFixup : shown.addressFixup = all.addressFixup
  subway : shown.rounds.subway = all.rounds.subway
  station : shown.rounds.station = all.rounds.station
  highway : shown.rounds.highway = true → all.rounds.highway = true
  feature : shown.feature =
    { all.feature with types := shown.feature.types, reversed := shown.feature.reversed }
  types : shown.feature.types ⊆ all.feature.types
  agreed : shown.rounds.highway = all.rounds.highway →
    shown.feature.types = all.feature.types.filter taxonomy.isVisible ∧
      shown.feature.reversed = all.feature.reversed
  apart : shown.rounds.highway = false → all.rounds.highway = true →
    (∀ discovery ∈ all.discoveries, Landmarks.highwayPath <+: discovery.labels →
      discovery.visible = false) ∧
    ∀ code ∈ all.feature.types, taxonomy.isVisible code = true → code ∉ shown.feature.types →
      ∃ flag : RoadFlag, taxonomy.codeOf? flag.path = .ok (some code)

namespace Classify

variable {taxonomy : Taxonomy} {landmarks : Landmarks} {fixup : Bool}
variable {prepared : Feature × List Tag} {shown all : Outcome} {code : TypeCode}

/-- What has a source is a type if it is drawn. -/
theorem Account.mem_shown (account : Account taxonomy landmarks ⟨fixup, true⟩ prepared shown) :
    code ∈ shown.feature.types ↔
      taxonomy.isVisible code = true ∧ Provenance taxonomy shown code :=
  account.types code

/-- What has a source is a type, drawn or not, if nothing is left out. -/
theorem Account.mem_all (account : Account taxonomy landmarks ⟨fixup, false⟩ prepared all) :
    code ∈ all.feature.types ↔ Provenance taxonomy all code := by
  rw [account.types]
  exact and_iff_right rfl

/-- Where the landmarks are drawn, entrances are corrected and stations go through their rounds with
the filter just when they do without. -/
theorem Account.agree_of_drawn (account : Account taxonomy landmarks ⟨fixup, true⟩ prepared shown)
    (accountAll : Account taxonomy landmarks ⟨fixup, false⟩ prepared all)
    (numbered : taxonomy.Numbered) (found : Landmarks.find taxonomy = .ok landmarks)
    (drawn : taxonomy.DrawsLandmarks) :
    shown.addressFixup = all.addressFixup ∧ shown.rounds.subway = all.rounds.subway ∧
      shown.rounds.station = all.rounds.station := by
  have discoveries := account.discoveries_eq accountAll rfl
  obtain ⟨_, subway, station⟩ := account.rounds_iff numbered found
  obtain ⟨_, subwayAll, stationAll⟩ := accountAll.rounds_iff numbered found
  refine ⟨?_, ?_, ?_⟩
  · rw [Bool.eq_iff_iff, account.addressFixup, accountAll.addressFixup, discoveries,
      exists_admitted_iff drawn.entrance]
  · rw [Bool.eq_iff_iff, subway, subwayAll, discoveries, exists_admitted_iff drawn.subway]
  · rw [Bool.eq_iff_iff, station, stationAll, discoveries, exists_admitted_iff drawn.station,
      exists_admitted_iff drawn.subway]

/-- The round for roads that is gone through with the filter is gone through without. -/
theorem Account.highway_of_shown
    (account : Account taxonomy landmarks ⟨fixup, true⟩ prepared shown)
    (accountAll : Account taxonomy landmarks ⟨fixup, false⟩ prepared all)
    (numbered : taxonomy.Numbered) (found : Landmarks.find taxonomy = .ok landmarks)
    (ran : shown.rounds.highway = true) : all.rounds.highway = true := by
  obtain ⟨code, member, isRoad⟩ := (account.rounds_iff numbered found).1.mp ran
  rw [account.discoveries_eq accountAll rfl, mem_admitted_iff] at member
  exact (accountAll.rounds_iff numbered found).1.mpr ⟨code, member.1, isRoad⟩

/-- With the filter the round for roads is left out only where no road that was found is drawn. -/
theorem Account.hidden_of_no_round
    (account : Account taxonomy landmarks ⟨fixup, true⟩ prepared shown)
    (numbered : taxonomy.Numbered) (found : Landmarks.find taxonomy = .ok landmarks)
    (never : shown.rounds.highway = false) {discovery : Walk.Discovery}
    (listed : discovery ∈ shown.discoveries)
    (isRoad : Landmarks.highwayPath <+: discovery.labels) : discovery.visible = false := by
  obtain ⟨path, stands⟩ := Walk.standsFor_of_discover numbered account.walked listed
  rw [stands.labels, ← numbered.atOrBelow_iff_prefix stands.codeOf?] at isRoad
  rw [stands.visible, ← Bool.not_eq_true]
  intro isDrawn
  have member : discovery.code ∈ admitted taxonomy ⟨fixup, true⟩ shown.discoveries :=
    List.mem_filter.mpr ⟨List.mem_map_of_mem listed, isDrawn⟩
  rw [(account.rounds_iff numbered found).1.mpr ⟨_, member, isRoad⟩] at never
  cases never

/-- Where the landmarks are drawn, one outcome is the other with hidden categories left out. -/
theorem Account.leavesOutHidden (account : Account taxonomy landmarks ⟨fixup, true⟩ prepared shown)
    (accountAll : Account taxonomy landmarks ⟨fixup, false⟩ prepared all)
    (numbered : taxonomy.Numbered) (found : Landmarks.find taxonomy = .ok landmarks)
    (drawn : taxonomy.DrawsLandmarks) : shown.LeavesOutHidden taxonomy all := by
  have tags := account.tags_eq accountAll rfl
  have discoveries := account.discoveries_eq accountAll rfl
  obtain ⟨addressFixup, subway, station⟩ := account.agree_of_drawn accountAll numbered found drawn
  have grows := account.highway_of_shown accountAll numbered found
  constructor
  case tags => exact tags
  case discoveries => exact discoveries
  case addressFixup => exact addressFixup
  case subway => exact subway
  case station => exact station
  case highway => exact grows
  case feature =>
    rw [account.feature, accountAll.feature, addressFixup, Qualifiers.city_congr subway station]
  case types =>
    intro code member
    rw [account.mem_shown] at member
    rw [accountAll.mem_all]
    obtain same | ⟨ran, _, hit, known⟩ :=
      member.2.congr_or_flag tags discoveries addressFixup subway station
    · exact same
    · exact .flag (grows ran) hit known
  case agreed =>
    intro highway
    have rounds : shown.rounds = all.rounds := by
      rw [Rounds.mk.injEq]
      exact ⟨highway, subway, station⟩
    constructor
    · apply account.increasing.eq_of_mem_iff (accountAll.increasing.filter _)
      intro code
      rw [account.mem_shown, List.mem_filter, accountAll.mem_all, and_comm]
      refine and_congr_left fun _ => ⟨fun source => ?_, fun source => ?_⟩
      · exact source.congr tags discoveries rounds addressFixup
      · exact source.congr tags.symm discoveries.symm rounds.symm addressFixup.symm
    · rw [account.feature, accountAll.feature, rounds]
  case apart =>
    intro never _
    rw [← discoveries]
    refine ⟨fun discovery => account.hidden_of_no_round numbered found never, ?_⟩
    intro code member isDrawn missing
    rw [accountAll.mem_all] at member
    obtain same | ⟨_, mark, _, known⟩ := member.congr_or_flag tags.symm discoveries.symm
      addressFixup.symm subway.symm station.symm
    · exact absurd (account.mem_shown.mpr ⟨isDrawn, same⟩) missing
    · exact ⟨mark.flag, known⟩

/-- Over a taxonomy that draws entrances and stations, what a classification gives when hidden
categories are left out is what it gives otherwise, less hidden types and, where no road that was
found is drawn, less what is concluded about roads. Addresses and the flags of roads need not be
drawn for this. -/
theorem visibilityFilter_leaves_out_hidden (entries : List Entry)
    (drawn : (Draft.empty.addAccepted entries).freeze.DrawsLandmarks) (fixup : Bool)
    (element : Element) :
    let taxonomy := (Draft.empty.addAccepted entries).freeze
    ∃ shown all left,
      element.classify taxonomy ⟨fixup, true⟩ = .ok (shown, left) ∧
      element.classify taxonomy ⟨fixup, false⟩ = .ok (all, left) ∧
      left = { element with tags := shown.tags } ∧
      shown.LeavesOutHidden taxonomy all := by
  intro taxonomy
  have numbered : taxonomy.Numbered := Taxonomy.numbered_freeze entries
  obtain ⟨landmarks, found, _⟩ := Landmarks.exists_find numbered.toSound
  obtain ⟨shown, ran, account⟩ := account_of_find found ⟨fixup, true⟩ element
  obtain ⟨all, ranAll, accountAll⟩ := account_of_find found ⟨fixup, false⟩ element
  have leaves := account.leavesOutHidden accountAll numbered found drawn
  rw [← leaves.tags] at ranAll
  exact ⟨shown, all, _, ran, ranAll, rfl, leaves⟩

/-- The built-in taxonomy knows roads under construction but hides them, so that the flags and the
direction of such a road are looked at without the filter only. -/
theorem visibilityFilter_leaves_out_construction :
    let element := Element.ofPairs 7 [("highway", "construction"), ("oneway", "-1")]
    ∃ shown all left,
      element.classify Taxonomy.builtIn ⟨true, true⟩ = .ok (shown, left) ∧
      element.classify Taxonomy.builtIn ⟨true, false⟩ = .ok (all, left) ∧
      left = { element with tags := shown.tags } ∧
      shown.LeavesOutHidden Taxonomy.builtIn all ∧
      shown.rounds.highway = false ∧ all.rounds.highway = true := by
  intro element
  obtain ⟨shown, all, left, ran, ranAll, same, leaves⟩ := visibilityFilter_leaves_out_hidden
    Taxonomy.BuiltIn.entries Taxonomy.drawsLandmarks_builtIn true element
  have highway : (element.classify Taxonomy.builtIn ⟨true, true⟩).map (·.1.rounds.highway) =
      .ok false := by decide +kernel
  have highwayAll : (element.classify Taxonomy.builtIn ⟨true, false⟩).map (·.1.rounds.highway) =
      .ok true := by decide +kernel
  rw [show element.classify Taxonomy.builtIn ⟨true, true⟩ = _ from ran, Except.map,
    Except.ok.injEq] at highway
  rw [show element.classify Taxonomy.builtIn ⟨true, false⟩ = _ from ranAll, Except.map,
    Except.ok.injEq] at highwayAll
  exact ⟨shown, all, left, ran, ranAll, same, leaves, highway, highwayAll⟩

end Classify

end MapTypes
