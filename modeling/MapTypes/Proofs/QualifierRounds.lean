import MapTypes.Proofs.TypeProvenance

/-!
Rounds, called for type by type. Each type calls for at most one round, in a fixed order of
precedence and each round once; what comes of it is nevertheless told by three plain tests of all
types (`ofTypes_eq`), as long as no type passes two of them. Whether the tables are consulted while
the types are gone through or afterwards makes no difference (`gather_eq`), since the rounds draw
conclusions of different kinds.
-/

namespace MapTypes

/-! ## Calling for rounds -/

/-- A code that passes the test of roads passes no other. -/
def Landmarks.Apart (landmarks : Landmarks) (code : TypeCode) : Prop :=
  landmarks.isHighway code = true →
    landmarks.isSubway code = false ∧ landmarks.isStation code = false

namespace Rounds

variable {landmarks : Landmarks} {hasSubway : Bool} {rounds : Rounds} {code : TypeCode}
variable {types : List TypeCode}

/-- A type calls for the round that it passes the test of, also if it is not the first to do so. -/
theorem call_eq (apart : landmarks.Apart code)
    (known : landmarks.isSubway code = true → hasSubway = true) :
    call landmarks hasSubway rounds code =
      ⟨rounds.highway || landmarks.isHighway code, rounds.subway || landmarks.isSubway code,
        rounds.station || (!hasSubway && landmarks.isStation code)⟩ := by
  obtain ⟨highway, subway, station⟩ := rounds
  rw [call]
  cases isHighway : landmarks.isHighway code with
  | true =>
    obtain ⟨notSubway, notStation⟩ := apart isHighway
    cases highway <;> simp [notSubway, notStation]
  | false =>
    cases isSubway : landmarks.isSubway code with
    | true => cases subway <;> simp [known isSubway]
    | false => cases hasSubway <;> cases station <;> cases landmarks.isStation code <;> simp

theorem foldl_call_eq (apart : ∀ code ∈ types, landmarks.Apart code)
    (known : ∀ code ∈ types, landmarks.isSubway code = true → hasSubway = true) :
    types.foldl (call landmarks hasSubway) rounds =
      ⟨rounds.highway || types.any landmarks.isHighway,
        rounds.subway || types.any landmarks.isSubway,
        rounds.station || (!hasSubway && types.any landmarks.isStation)⟩ := by
  induction types generalizing rounds with
  | nil => simp
  | cons code rest ih =>
    rw [List.forall_mem_cons] at apart known
    rw [List.foldl_cons, call_eq apart.1 known.1, ih apart.2 known.2]
    simp only [List.any_cons, Bool.or_assoc, Bool.and_or_distrib_left]

/-- The rounds that a list of types calls for. -/
theorem ofTypes_eq (apart : ∀ code ∈ types, landmarks.Apart code) :
    ofTypes landmarks types =
      ⟨types.any landmarks.isHighway, types.any landmarks.isSubway,
        !types.any landmarks.isSubway && types.any landmarks.isStation⟩ := by
  rw [ofTypes, foldl_call_eq apart fun code member subway =>
    List.any_eq_true.mpr ⟨code, member, subway⟩]
  simp only [Bool.false_or]

/-- The order of the types has no part in the rounds. -/
theorem ofTypes_perm {others : List TypeCode} (apart : ∀ code ∈ types, landmarks.Apart code)
    (same : others.Perm types) : ofTypes landmarks others = ofTypes landmarks types := by
  rw [ofTypes_eq apart, ofTypes_eq fun code member => apart code (same.subset member)]
  simp only [same.any_eq]

end Rounds

/-! ## Consulting the tables -/

namespace Qualifiers

/-- The conclusions before any round. -/
def blank : Qualifiers :=
  ⟨[], false, none⟩

/-- Adds what one rule for roads concludes. -/
def addMark (conclusions : Qualifiers) (mark : RoadMark) : Qualifiers :=
  { conclusions with
    flags := RoadFlag.all.filter fun flag => conclusions.flags.contains flag || mark.flag == flag
    reversed := conclusions.reversed || mark.reversed }

/-- Consults the rules for roads. -/
def consultRoads (tags : List Tag) (conclusions : Qualifiers) : Qualifiers :=
  (Rule.hits Qualifier.roadTable tags).foldl addMark conclusions

/-- Consults a table of metro systems. -/
def consultCities (table : List (Rule City)) (tags : List Tag) (conclusions : Qualifiers) :
    Qualifiers :=
  match Rule.firstHit? table tags with
  | some city => { conclusions with city := some city }
  | none => conclusions

/-- Calls for the round of one type and goes through it at once. -/
def consult (landmarks : Landmarks) (hasSubway : Bool) (tags : List Tag)
    (state : Rounds × Qualifiers) (code : TypeCode) : Rounds × Qualifiers :=
  if !state.1.highway && landmarks.isHighway code then
    ({ state.1 with highway := true }, state.2.consultRoads tags)
  else if !state.1.subway && landmarks.isSubway code then
    ({ state.1 with subway := true }, state.2.consultCities Qualifier.subwayTable tags)
  else if !hasSubway && !state.1.station && landmarks.isStation code then
    ({ state.1 with station := true }, state.2.consultCities Qualifier.stationTable tags)
  else state

/-- The rounds and their conclusions, type by type. -/
def gather (landmarks : Landmarks) (tags : List Tag) (types : List TypeCode) :
    Rounds × Qualifiers :=
  types.foldl (consult landmarks (types.any landmarks.isSubway) tags) ({}, blank)

variable {landmarks : Landmarks} {hasSubway : Bool} {rounds : Rounds} {tags : List Tag}

theorem contains_filter_all (holds : RoadFlag → Bool) (flag : RoadFlag) :
    (RoadFlag.all.filter holds).contains flag = holds flag := by
  rw [Bool.eq_iff_iff, List.contains_iff_mem, List.mem_filter, and_iff_right flag.mem_all]

/-- The round of roads adds the flags of all rules that apply. -/
theorem foldl_addMark (marks : List RoadMark) (holds : RoadFlag → Bool) (reversed : Bool)
    (city : Option City) :
    marks.foldl addMark ⟨RoadFlag.all.filter holds, reversed, city⟩ =
      ⟨RoadFlag.all.filter fun flag => holds flag || marks.any (·.flag == flag),
        reversed || marks.any RoadMark.reversed, city⟩ := by
  induction marks generalizing holds reversed with
  | nil => simp
  | cons mark rest ih =>
    simp only [List.foldl_cons, addMark, contains_filter_all, ih, List.any_cons, Bool.or_assoc]

theorem ofTags_highway (fresh : rounds.highway = false) :
    ofTags { rounds with highway := true } tags = (ofTags rounds tags).consultRoads tags := by
  have before : roadMarks rounds tags = [] := by simp [roadMarks, fresh]
  rw [ofTags, ofTags, before, consultRoads, foldl_addMark]
  simp [roadMarks, cityOf?]

/-- Where no city was looked for, the conclusions are those of the round for roads alone. -/
theorem cityOf?_eq_none (noSubway : rounds.subway = false) (noStation : rounds.station = false) :
    cityOf? rounds tags = none := by
  simp [cityOf?, noSubway, noStation]

theorem ofTags_subway (noSubway : rounds.subway = false) (noStation : rounds.station = false) :
    ofTags { rounds with subway := true } tags =
      (ofTags rounds tags).consultCities Qualifier.subwayTable tags := by
  rw [ofTags, ofTags, cityOf?_eq_none noSubway noStation, consultCities]
  cases hit : Rule.firstHit? Qualifier.subwayTable tags <;> simp [cityOf?, roadMarks, hit]

theorem ofTags_station (noSubway : rounds.subway = false) (noStation : rounds.station = false) :
    ofTags { rounds with station := true } tags =
      (ofTags rounds tags).consultCities Qualifier.stationTable tags := by
  rw [ofTags, ofTags, cityOf?_eq_none noSubway noStation, consultCities]
  cases hit : Rule.firstHit? Qualifier.stationTable tags <;>
    simp [cityOf?, roadMarks, hit, noSubway]

/-- A type does to the rounds what it does without the tables, and its conclusions are those that
the new round adds: while one of the two rounds for stations is called for, the other has not
been. -/
theorem consult_eq (allowed : rounds.Allowed hasSubway) {code : TypeCode}
    (known : landmarks.isSubway code = true → hasSubway = true) :
    consult landmarks hasSubway tags (rounds, ofTags rounds tags) code =
      (Rounds.call landmarks hasSubway rounds code,
        ofTags (Rounds.call landmarks hasSubway rounds code) tags) := by
  rw [consult, Rounds.call]
  dsimp only
  split
  · rename_i calls
    rw [Bool.and_eq_true, Bool.not_eq_true'] at calls
    rw [ofTags_highway calls.1]
  · split
    · rename_i calls
      rw [Bool.and_eq_true, Bool.not_eq_true'] at calls
      have noStation : rounds.station = false := by
        rw [← Bool.not_eq_true]
        intro station
        rw [allowed.station station] at known
        cases known calls.2
      rw [ofTags_subway calls.1 noStation]
    · split
      · rename_i calls
        simp only [Bool.and_eq_true, Bool.not_eq_true'] at calls
        have noSubway : rounds.subway = false := by
          rw [← Bool.not_eq_true]
          intro subway
          have some := allowed.subway subway
          rw [calls.1.1] at some
          cases some
        rw [ofTags_station noSubway calls.1.2]
      · rfl

theorem foldl_consult_eq {types : List TypeCode} (allowed : rounds.Allowed hasSubway)
    (known : ∀ code ∈ types, landmarks.isSubway code = true → hasSubway = true) :
    types.foldl (consult landmarks hasSubway tags) (rounds, ofTags rounds tags) =
      (types.foldl (Rounds.call landmarks hasSubway) rounds,
        ofTags (types.foldl (Rounds.call landmarks hasSubway) rounds) tags) := by
  induction types generalizing rounds with
  | nil => rfl
  | cons code rest ih =>
    rw [List.forall_mem_cons] at known
    rw [List.foldl_cons, consult_eq allowed known.1, List.foldl_cons]
    exact ih (allowed.call known.1) known.2

/-- Consulting each table when it is called for gives the same as calling for all rounds first. -/
theorem gather_eq (types : List TypeCode) :
    gather landmarks tags types =
      (Rounds.ofTypes landmarks types, ofTags (Rounds.ofTypes landmarks types) tags) := by
  have before : blank = ofTags {} tags := rfl
  rw [gather, before]
  exact foldl_consult_eq ⟨by simp, by simp⟩ fun code member subway =>
    List.any_eq_true.mpr ⟨code, member, subway⟩

end Qualifiers

end MapTypes
