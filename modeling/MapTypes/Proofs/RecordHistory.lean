import Mathlib.Data.List.DropRight
import MapTypes.Proofs.FirstNames
import MapTypes.Proofs.TypeSets

/-!
Records and their history. `Feature.Effect` says what an operation on a record may answer and what
it leaves, one constructor for each way it can go. As long as the types are told apart, which every
operation keeps, operations have such an effect (`Feature.effect_edit`). Over a whole history a
record is therefore a set of types of which the last operation on each decides, a name for each
language which is the first since the names were cleared, the first house name, and the last house
number that was one (`Feature.Recalls`).
-/

namespace MapTypes

/-! ## Effects -/

/-- The shape of a house number. Without the white space around it, it is a digit and then at most
23 letters, numbers and separators. -/
def HouseNumber.Shaped (number : String) : Prop :=
  ∃ first parts, (Text.trim number).toList = first :: parts ∧
    Unicode.isDecimalDigit first = true ∧ parts.length ≤ 23 ∧
    ∀ c ∈ parts, Unicode.isLetter c = true ∨ Unicode.isNumber c = true ∨
      c ∈ [' ', '/', '.', ',', ';', '-']

theorem HouseNumber.isValid_iff {number : String} : isValid number = true ↔ Shaped number := by
  rw [isValid, Shaped]
  cases (Text.trim number).toList with
  | nil => simp
  | cons first parts =>
    simp only [isPart, Bool.and_eq_true, Bool.or_eq_true, List.all_eq_true, List.contains_iff_mem,
      decide_eq_true_eq, and_assoc, or_assoc, List.cons.injEq, ↓existsAndEq, true_and]
    exact Iff.rfl

instance (number : String) : Decidable (HouseNumber.Shaped number) :=
  decidable_of_iff _ HouseNumber.isValid_iff

namespace Feature

/-- What an operation may answer and leave of a record. What a constructor does not name stays. -/
inductive Effect (feature : Feature) : Edit → Reply → Feature → Prop
  | typeAdded {code : TypeCode} : code ∉ feature.types →
      Effect feature (.addType code) (.truth true)
        { feature with types := feature.types ++ [code] }
  | typeKnown {code : TypeCode} : code ∈ feature.types →
      Effect feature (.addType code) (.truth false) feature
  | typeRemoved {code : TypeCode} {before after : List TypeCode} :
      feature.types = before ++ code :: after → code ∉ before ++ after →
      Effect feature (.removeType code) (.truth true) { feature with types := before ++ after }
  | typeMissing {code : TypeCode} : code ∉ feature.types →
      Effect feature (.removeType code) (.truth false) feature
  | typeAsked {code : TypeCode} :
      Effect feature (.hasType code) (.truth (decide (code ∈ feature.types))) feature
  | typesSorted {types : List TypeCode} : types.Perm feature.types → types.Pairwise (· < ·) →
      Effect feature .sortTypes .done { feature with types := types }
  | nameAdded {language name : String} {names : List (String × String)} :
      feature.name? language = none →
      (∀ other, names.lookup other =
        if other = language then some name else feature.name? other) →
      Effect feature (.addName language name) (.truth true) { feature with names := names }
  | nameKnown {language name kept : String} : feature.name? language = some kept →
      Effect feature (.addName language name) (.truth false) feature
  | nameAsked {language : String} :
      Effect feature (.name language) (.text (feature.name? language)) feature
  | namesCleared : Effect feature .clearNames .done { feature with names := [] }
  | houseNamed {name : String} : feature.houseName = none → name ≠ "" →
      Effect feature (.addHouseName name) .done { feature with houseName := some name }
  | houseNameKept {name : String} : feature.houseName ≠ none ∨ name = "" →
      Effect feature (.addHouseName name) .done feature
  | houseNumbered {number : String} : HouseNumber.Shaped number →
      Effect feature (.addHouseNumber number) (.truth true)
        { feature with houseNumber := some (Text.trim number) }
  | houseNumberRefused {number : String} : ¬ HouseNumber.Shaped number →
      Effect feature (.addHouseNumber number) (.truth false) feature

variable {feature : Feature}

theorem perm_sortCodes {codes : List TypeCode} (distinct : codes.Nodup) :
    (sortCodes codes).Perm codes := by
  have distinctSorted : (sortCodes codes).Nodup := by
    refine List.Pairwise.imp ?_ (pairwise_sortCodes codes)
    rintro code _ less rfl
    exact UInt32.lt_irrefl code.raw less
  exact (List.perm_ext_iff_of_nodup distinctSorted distinct).mpr fun _ => mem_sortCodes

theorem filter_of_not_mem {code : TypeCode} {codes : List TypeCode} (absent : code ∉ codes) :
    codes.filter (· ≠ code) = codes := by
  rw [List.filter_eq_self]
  intro other member
  exact decide_eq_true fun same => absent (same ▸ member)

/-- Where the types are told apart, every operation has one of the effects. -/
theorem effect_edit (distinct : feature.types.Nodup) (edit : Edit) :
    feature.Effect edit (feature.edit edit).2 (feature.edit edit).1 := by
  cases edit with
  | addType code =>
    by_cases present : code ∈ feature.types
    · simp only [Feature.edit, addType, if_pos (hasType_iff.mpr present)]
      exact .typeKnown present
    · simp only [Feature.edit, addType, if_neg (mt hasType_iff.mp present)]
      exact .typeAdded present
  | removeType code =>
    by_cases present : code ∈ feature.types
    · obtain ⟨before, after, parts⟩ := List.append_of_mem present
      have alone : code ∉ before ++ after := by
        rw [parts, List.nodup_middle, List.nodup_cons] at distinct
        exact distinct.1
      have left : feature.types.filter (· ≠ code) = before ++ after := by
        rw [← filter_of_not_mem alone, parts, List.filter_append, List.filter_append,
          List.filter_cons_of_neg (by simp)]
      simp only [Feature.edit, removeType, hasType_iff.mpr present, left]
      exact .typeRemoved parts alone
    · have missing : feature.hasType code = false := by
        rw [← Bool.not_eq_true, hasType_iff]
        exact present
      simp only [Feature.edit, removeType, missing, filter_of_not_mem present]
      exact .typeMissing present
  | hasType code =>
    have asked : feature.hasType code = decide (code ∈ feature.types) := by
      rw [Bool.eq_iff_iff, hasType_iff, decide_eq_true_eq]
    rw [Feature.edit, asked]
    exact .typeAsked
  | sortTypes => exact .typesSorted (perm_sortCodes distinct) (pairwise_sortCodes feature.types)
  | addName language name =>
    cases known : feature.name? language with
    | some kept =>
      simp only [Feature.edit, addName, known, Option.isSome_some, if_true]
      exact .nameKnown known
    | none =>
      simp only [Feature.edit, addName, known]
      exact .nameAdded known fun other => lookup_insertName known
  | name language => exact .nameAsked
  | clearNames => exact .namesCleared
  | addHouseName name =>
    by_cases first : feature.houseName = none ∧ name ≠ ""
    · have taken : (feature.houseName.isNone && name != "") = true := by simp [first]
      rw [Feature.edit, addHouseName, if_pos taken]
      exact .houseNamed first.1 first.2
    · have kept : ¬ (feature.houseName.isNone && name != "") = true := by simpa using first
      rw [Feature.edit, addHouseName, if_neg kept]
      exact .houseNameKept (by simpa [or_iff_not_imp_left] using first)
  | addHouseNumber number =>
    by_cases shaped : HouseNumber.Shaped number
    · simp only [Feature.edit, addHouseNumber, HouseNumber.isValid_iff.mpr shaped]
      exact .houseNumbered shaped
    · simp only [Feature.edit, addHouseNumber, if_neg (mt HouseNumber.isValid_iff.mp shaped)]
      exact .houseNumberRefused shaped

end Feature

/-! ## Histories -/

namespace Edit

/-- Whether an operation decides on the presence of a type. -/
def decidesOn (code : TypeCode) : Edit → Bool
  | .addType other => other == code
  | .removeType other => other == code
  | _ => false

/-- The name that an operation adds in a language. -/
def nameIn? (language : String) : Edit → Option String
  | .addName other text => if other = language then some text else none
  | _ => none

/-- The house name that an operation gives. -/
def houseName? : Edit → Option String
  | .addHouseName text => if text = "" then none else some text
  | _ => none

/-- The house number that an operation gives. -/
def houseNumber? : Edit → Option String
  | .addHouseNumber text => if HouseNumber.Shaped text then some (Text.trim text) else none
  | _ => none

/-- The operations after the last that cleared the names. -/
def sinceCleared (edits : List Edit) : List Edit :=
  edits.rtakeWhile (· ≠ .clearNames)

end Edit

namespace Feature

/-- A record is what its history makes of it. -/
structure Recalls (feature : Feature) (edits : List Edit) : Prop where
  distinct : feature.types.Nodup
  /-- The last operation that decided on a type added it. -/
  types : ∀ code, feature.hasType code = true ↔
    edits.reverse.find? (·.decidesOn code) = some (.addType code)
  /-- Since the names were cleared the first of a language counts. -/
  names : ∀ language, feature.name? language =
    (Edit.sinceCleared edits).findSome? (·.nameIn? language)
  houseName : feature.houseName = edits.findSome? Edit.houseName?
  houseNumber : feature.houseNumber = edits.reverse.findSome? Edit.houseNumber?

namespace Effect

variable {feature after : Feature} {edit : Edit} {reply : Reply}

theorem nodup (effect : feature.Effect edit reply after) (distinct : feature.types.Nodup) :
    after.types.Nodup := by
  cases effect with
  | typeAdded absent =>
    dsimp only
    rw [← List.concat_eq_append]
    exact distinct.concat absent
  | typeRemoved parts =>
    rw [parts, List.nodup_middle, List.nodup_cons] at distinct
    exact distinct.2
  | typesSorted sorts => exact sorts.nodup_iff.mpr distinct
  | _ => exact distinct

theorem mem_types_iff (effect : feature.Effect edit reply after) (code : TypeCode) :
    code ∈ after.types ↔
      if edit.decidesOn code then edit = .addType code else code ∈ feature.types := by
  cases effect with
  | @typeAdded other absent =>
    by_cases same : other = code
    · simp [Edit.decidesOn, same]
    · simp [Edit.decidesOn, same, Ne.symm same]
  | @typeKnown other present =>
    by_cases same : other = code
    · simp [Edit.decidesOn, same, same ▸ present]
    · simp [Edit.decidesOn, same]
  | @typeRemoved other _ _ parts alone =>
    by_cases same : other = code
    · subst same
      simpa [Edit.decidesOn] using alone
    · simp [Edit.decidesOn, same, Ne.symm same, parts]
  | @typeMissing other absent =>
    by_cases same : other = code
    · subst same
      simpa [Edit.decidesOn] using absent
    · simp [Edit.decidesOn, same]
  | typesSorted sorts => exact sorts.mem_iff
  | _ => exact Iff.rfl

theorem name?_eq (effect : feature.Effect edit reply after) (language : String) :
    after.name? language =
      if edit = .clearNames then none else (feature.name? language).or (edit.nameIn? language) := by
  cases effect with
  | @nameAdded other _ _ new added =>
    rw [if_neg (by simp), name?, added, Edit.nameIn?]
    by_cases same : language = other
    · rw [if_pos same, if_pos same.symm, same, new, Option.none_or]
    · rw [if_neg same, if_neg (Ne.symm same), Option.or_none]
  | @nameKnown other _ kept known =>
    rw [if_neg (by simp), Edit.nameIn?]
    by_cases same : other = language
    · rw [← same, known, Option.some_or]
    · rw [if_neg same, Option.or_none]
  | namesCleared => rfl
  | _ => simp [Edit.nameIn?, name?]

theorem houseName_eq (effect : feature.Effect edit reply after) :
    after.houseName = feature.houseName.or edit.houseName? := by
  cases effect with
  | houseNamed new nonempty => rw [Edit.houseName?, if_neg nonempty, new, Option.none_or]
  | houseNameKept kept =>
    rcases kept with known | empty
    · obtain ⟨name, known⟩ := Option.ne_none_iff_exists'.mp known
      rw [known, Option.some_or]
    · rw [Edit.houseName?, if_pos empty, Option.or_none]
  | _ => simp [Edit.houseName?]

theorem houseNumber_eq (effect : feature.Effect edit reply after) :
    after.houseNumber = edit.houseNumber?.or feature.houseNumber := by
  cases effect with
  | houseNumbered shaped => rw [Edit.houseNumber?, if_pos shaped, Option.some_or]
  | houseNumberRefused refused => rw [Edit.houseNumber?, if_neg refused, Option.none_or]
  | _ => rfl

/-- What a record recalls, together with an effect, is recalled by what the effect leaves. -/
theorem recalls {edits : List Edit} (effect : feature.Effect edit reply after)
    (before : feature.Recalls edits) : after.Recalls (edits ++ [edit]) where
  distinct := effect.nodup before.distinct
  types code := by
    rw [hasType_iff, effect.mem_types_iff, ← hasType_iff, before.types, List.reverse_append,
      List.reverse_singleton, List.singleton_append, List.find?_cons]
    cases edit.decidesOn code <;> simp
  names language := by
    rw [effect.name?_eq, before.names, Edit.sinceCleared, Edit.sinceCleared,
      List.rtakeWhile_concat]
    by_cases clears : edit = .clearNames
    · simp [clears]
    · simp [clears, List.findSome?_append]
  houseName := by
    rw [effect.houseName_eq, before.houseName, List.findSome?_append]
    simp
  houseNumber := by
    rw [effect.houseNumber_eq, before.houseNumber, List.reverse_append, List.reverse_singleton,
      List.findSome?_append]
    simp

end Effect

theorem run_concat (feature : Feature) (edits : List Edit) (edit : Edit) :
    feature.run (edits ++ [edit]) = ((feature.run edits).edit edit).1 := by
  rw [run, run, List.foldl_append, List.foldl_cons, List.foldl_nil]

/-- A record is what its history makes of it, from the start on. -/
theorem recalls_run (edits : List Edit) : (empty.run edits).Recalls edits := by
  induction edits using List.reverseRecOn with
  | nil =>
    constructor <;> simp [run, empty, hasType, name?, Edit.sinceCleared]
  | append_singleton edits edit ih =>
    rw [run_concat]
    exact (effect_edit ih.distinct edit).recalls ih

/-- A house number that a record has is one, without white space around it. -/
theorem Recalls.houseNumber_shaped {feature : Feature} {edits : List Edit} {number : String}
    (recalls : feature.Recalls edits) (known : feature.houseNumber = some number) :
    Text.trim number = number ∧ HouseNumber.isValid number = true := by
  rw [recalls.houseNumber, List.findSome?_eq_some_iff] at known
  obtain ⟨_, edit, _, _, given, _⟩ := known
  cases edit with
  | addHouseNumber text =>
    rw [Edit.houseNumber?, Option.ite_none_right_eq_some] at given
    obtain ⟨shaped, same⟩ := given
    cases same
    exact ⟨Text.trim_trim text, by
      rw [HouseNumber.isValid_trim, HouseNumber.isValid_iff]
      exact shaped⟩
  | _ => cases given

/-- Whatever operations a record has gone through, its types are told apart and are those whose last
addition or removal was an addition; in each language it has the first name that was added since the
names were cleared; it has the first house name that was given and not empty, and the last house
number that was given and is one. Whatever operation comes next, it answers and leaves what its
effects allow. And the house number of a record is trimmed, and to give it again is accepted and
changes nothing. -/
theorem record_of_history (edits : List Edit) :
    let feature := empty.run edits
    feature.Recalls edits ∧
    (∀ edit, feature.Effect edit (feature.edit edit).2 (feature.edit edit).1) ∧
    ∀ number, feature.houseNumber = some number →
      Text.trim number = number ∧
        feature.edit (.addHouseNumber number) = (feature, .truth true) := by
  intro feature
  have recalls : feature.Recalls edits := recalls_run edits
  refine ⟨recalls, effect_edit recalls.distinct, fun number known => ?_⟩
  obtain ⟨trimmed, valid⟩ := recalls.houseNumber_shaped known
  have unchanged : { feature with houseNumber := some (Text.trim number) } = feature := by
    rw [trimmed, ← known]
  refine ⟨trimmed, ?_⟩
  rw [Feature.edit, addHouseNumber, if_pos valid, unchanged]
  rfl

end Feature

end MapTypes
