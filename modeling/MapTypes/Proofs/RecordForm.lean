import Mathlib.Data.List.DropRight
import MapTypes.Proofs.OutcomeAccount

/-!
The form of every record. The plain fields of a record are in form from the start, whatever is read
from a tag keeps them so, and after the walk only the names are touched, when they are dropped
(`Feature.Tidy`). The types increase and each is the code of a path, for so is everything that a
type can stem from; where an entrance became an address, entrances have no source left.
-/

namespace MapTypes

/-! ## Plain fields -/

namespace Text

/-- A trimmed text is left as it is by trimming. -/
theorem trim_trim (text : String) : trim (trim text) = trim text := by
  have trimmed (chars : List Char) : trim (String.ofList chars) =
      String.ofList ((chars.dropWhile Unicode.isWhiteSpace).rdropWhile Unicode.isWhiteSpace) := by
    rw [trim, String.toList_ofList]
    rfl
  let opened := text.toList.dropWhile Unicode.isWhiteSpace
  have start : (opened.rdropWhile Unicode.isWhiteSpace).dropWhile Unicode.isWhiteSpace =
      opened.rdropWhile Unicode.isWhiteSpace := by
    rw [List.dropWhile_eq_self_iff]
    intro nonempty
    have inside := (opened.rdropWhile_prefix Unicode.isWhiteSpace).length_le
    rw [(opened.rdropWhile_prefix Unicode.isWhiteSpace).getElem nonempty]
    exact List.dropWhile_eq_self_iff.mp (List.dropWhile_idempotent _ _)
      (Nat.lt_of_lt_of_le nonempty inside)
  have closed : trim text = String.ofList (opened.rdropWhile Unicode.isWhiteSpace) := rfl
  rw [closed, trimmed, start, List.rdropWhile_idempotent]

end Text

/-- Trimming has no part in the shape of a house number. -/
theorem HouseNumber.isValid_trim (text : String) : isValid (Text.trim text) = isValid text := by
  rw [isValid, isValid, Text.trim_trim]

namespace Layer

theorem magnitude_le (digits : List Char) : magnitude digits ≤ bound := by
  rw [magnitude]
  split
  · exact Nat.min_le_right _ _
  · exact Nat.le_refl _

theorem ofDigits_bounds (negative : Bool) (text : List Char) :
    -10 ≤ ofDigits negative text ∧ ofDigits negative text ≤ 10 := by
  have small := magnitude_le (text.takeWhile Unicode.isDecimalDigit)
  rw [bound] at small
  simp only [ofDigits]
  split_ifs <;> omega

theorem ofText_bounds (text : String) : -10 ≤ ofText text ∧ ofText text ≤ 10 := by
  rw [ofText]
  split <;> exact ofDigits_bounds _ _

end Layer

namespace Names

/-- A text that a name can be filed under: it is one part of a key, and the variant of Arabic is
filed as Arabic. -/
structure IsLanguage (language : String) : Prop where
  nonempty : language ≠ ""
  unbroken : ∀ c ∈ language.toList, c ≠ '\t' ∧ c ≠ ' ' ∧ c ≠ ':'
  folded : language ≠ "ar1"

theorem forall_of_mem_splitOnP {α : Type} {breaks : α → Bool} {xs part : List α}
    (member : part ∈ xs.splitOnP breaks) : ∀ x ∈ part, breaks x = false := by
  induction xs generalizing part with
  | nil =>
    rw [List.splitOnP_nil, List.mem_singleton] at member
    simp [member]
  | cons first rest ih =>
    rw [List.splitOnP_cons_eq_if_modifyHead] at member
    split at member
    · rcases List.mem_cons.mp member with rfl | later
      · simp
      · exact ih later
    · rename_i joins
      cases parts : rest.splitOnP breaks with
      | nil =>
        rw [parts] at member
        cases member
      | cons head later =>
        rw [parts] at ih member
        rw [List.modifyHead_cons, List.mem_cons] at member
        rcases member with rfl | other
        · rw [List.forall_mem_cons]
          exact ⟨by simpa using joins, ih List.mem_cons_self⟩
        · exact ih (List.mem_cons_of_mem head other)

theorem part_of_key {key part : String} (member : part ∈ keyParts key) :
    part ≠ "" ∧ ∀ c ∈ part.toList, c ≠ '\t' ∧ c ≠ ' ' ∧ c ≠ ':' := by
  obtain ⟨chars, kept, rfl⟩ := List.mem_map.mp member
  obtain ⟨listed, nonempty⟩ := List.mem_filter.mp kept
  constructor
  · simpa using nonempty
  · intro c inside
    rw [String.toList_ofList] at inside
    simpa [separators] using forall_of_mem_splitOnP listed c inside

theorem isLanguage_of_languageOf? {key language : String}
    (filed : languageOf? key = some language) : IsLanguage language := by
  rw [languageOf?] at filed
  split at filed
  · cases filed
    constructor <;> simp
  · cases filed
    constructor <;> simp
  · cases filed
    constructor <;> simp
  · rename_i other parts
    cases filed
    obtain ⟨nonempty, unbroken⟩ : language ≠ "" ∧ ∀ c ∈ language.toList, _ :=
      part_of_key (by rw [parts]; simp)
    exact ⟨nonempty, unbroken, other⟩
  · cases filed

end Names

namespace Feature

theorem mem_insertName {language name : String} {names : List (String × String)}
    {entry : String × String} (member : entry ∈ insertName language name names) :
    entry = (language, name) ∨ entry ∈ names := by
  induction names with
  | nil => exact .inl (List.mem_singleton.mp member)
  | cons first rest ih =>
    obtain ⟨other, kept⟩ := first
    rw [insertName] at member
    split at member
    · exact .inr member
    · split at member
      · exact List.mem_cons.mp member
      · rcases List.mem_cons.mp member with rfl | later
        · exact .inr List.mem_cons_self
        · exact (ih later).imp_right (List.mem_cons_of_mem _)

/-- The plain fields of a record are in form. -/
structure Tidy (feature : Feature) : Prop where
  languages : ∀ entry ∈ feature.names, Names.IsLanguage entry.1
  houseName : ∀ name, feature.houseName = some name → name ≠ ""
  houseNumber : ∀ number, feature.houseNumber = some number →
    Text.trim number = number ∧ HouseNumber.isValid number = true
  layer : -10 ≤ feature.layer ∧ feature.layer ≤ 10

theorem tidy_empty : empty.Tidy where
  languages := by simp [empty]
  houseName := by simp [empty]
  houseNumber := by simp [empty]
  layer := by decide

namespace Tidy

variable {feature : Feature}

theorem addName (tidy : feature.Tidy) {language : String} (filed : Names.IsLanguage language)
    (name : String) : (feature.addName language name).1.Tidy := by
  rw [Feature.addName]
  split
  · exact tidy
  · refine { tidy with languages := fun entry member => ?_ }
    rcases mem_insertName member with rfl | kept
    · exact filed
    · exact tidy.languages entry kept

theorem addHouseName (tidy : feature.Tidy) (name : String) : (feature.addHouseName name).Tidy := by
  rw [Feature.addHouseName]
  split
  · rename_i taken
    rw [Bool.and_eq_true, bne_iff_ne] at taken
    refine { tidy with houseName := fun other same => ?_ }
    cases same
    exact taken.2
  · exact tidy

theorem addHouseNumber (tidy : feature.Tidy) (number : String) :
    (feature.addHouseNumber number).1.Tidy := by
  rw [Feature.addHouseNumber]
  split
  · rename_i valid
    refine { tidy with houseNumber := fun other same => ?_ }
    cases same
    exact ⟨Text.trim_trim number, by rw [HouseNumber.isValid_trim, valid]⟩
  · exact tidy

theorem extract (tidy : feature.Tidy) (tag : Tag) : (Names.extract feature tag).1.Tidy := by
  rw [Names.extract]
  split
  · rename_i language named
    rw [Names.languageOfTag?] at named
    split at named
    · cases named
    · exact tidy.addName (Names.isLanguage_of_languageOf? named) _
  · exact tidy

theorem take (tidy : feature.Tidy) (tag : Tag) (held : Attribute) :
    (held.take feature tag).1.Tidy := by
  cases held with
  | houseName => exact tidy.addHouseName tag.value
  | houseNumber =>
    simp only [Attribute.take]
    split
    · exact tidy.addHouseNumber tag.value
    · exact tidy.addHouseName tag.value
  | layer =>
    simp only [Attribute.take]
    split
    · exact { tidy with layer := Layer.ofText_bounds tag.value }
    · exact tidy
  | _ =>
    simp only [Attribute.take]
    exact ⟨tidy.languages, tidy.houseName, tidy.houseNumber, tidy.layer⟩

theorem extractBy (tidy : feature.Tidy) (rules : List (Rule Attribute)) (tag : Tag) :
    (Attribute.extractBy rules feature tag).1.Tidy := by
  refine List.foldlRecOn rules _ (motive := fun state : Feature × Tag => state.1.Tidy) tidy ?_
  intro state kept rule _
  split
  · exact kept.take state.2 rule.conclusion
  · exact kept

end Tidy

end Feature

namespace Classify

/-- Before the walk a record is in form. -/
theorem tidy_prepare (tags : List Tag) : (prepare tags).1.Tidy := by
  have named : (Names.extractAll Feature.empty (Layer.complete tags)).1.Tidy :=
    sweep_keeps Feature.Tidy (fun _ tag tidy => tidy.extract tag) Feature.tidy_empty _
  exact sweep_keeps Feature.Tidy (fun _ tag tidy => tidy.extractBy _ tag) named _

end Classify

/-! ## Records -/

/-- The form of what classification gives. -/
structure Outcome.WellFormed (taxonomy : Taxonomy) (options : Options) (outcome : Outcome) :
    Prop where
  increasing : outcome.feature.types.Pairwise fun first second => first.raw < second.raw
  /-- Each type has labels and is the code of their path. -/
  placed : ∀ code ∈ outcome.feature.types, code.Gapless ∧
    ∃ path, taxonomy.labelsOf? code = some path ∧ taxonomy.codeOf? path = .ok (some code)
  visible : options.visibilityFilter = true →
    ∀ code ∈ outcome.feature.types, taxonomy.isVisible code = true
  tidy : outcome.feature.Tidy
  /-- An entrance that became an address left nothing but its house. -/
  corrected : outcome.addressFixup = true →
    (∃ entrance, taxonomy.codeOf? Landmarks.entrancePath = .ok (some entrance) ∧
      entrance ∉ outcome.feature.types) ∧
    outcome.feature.names = [] ∧ outcome.feature.hasHouse = true

/-- Every element has a record, and every record is well formed. -/
theorem Classify.record_wellFormed (entries : List Entry) (options : Options) (element : Element) :
    let taxonomy := (Draft.empty.addAccepted entries).freeze
    ∃ outcome, element.classify taxonomy options =
        .ok (outcome, { element with tags := outcome.tags }) ∧
      outcome.WellFormed taxonomy options := by
  intro taxonomy
  have numbered : taxonomy.Numbered := Taxonomy.numbered_freeze entries
  obtain ⟨landmarks, each⟩ := exists_account entries
  obtain ⟨outcome, ran, account⟩ := each options element
  have tidy := tidy_prepare element.tags
  have walked := account.walked
  rw [← account.tags] at walked
  refine ⟨outcome, ran, ?_⟩
  constructor
  case increasing => exact account.increasing
  case placed =>
    intro code member
    obtain ⟨path, placed⟩ := ((account.types code).mp member).2.exists_path numbered walked
    have labelled := numbered.labelsOf?_of_codeOf? placed
    exact ⟨(numbered.codeOf?_labelsOf?_iff labelled).mp placed, path, labelled, placed⟩
  case visible =>
    intro filtered code member
    have admitted := ((account.types code).mp member).1
    rwa [admits, filtered, Bool.not_true, Bool.false_or] at admitted
  case tidy =>
    rw [account.feature]
    refine ⟨fun entry member => ?_, tidy.houseName, tidy.houseNumber, tidy.layer⟩
    dsimp only at member
    split at member
    · cases member
    · exact tidy.languages entry member
  case corrected =>
    intro fixed
    obtain ⟨_, housed, entrance, _, isEntrance⟩ := account.addressFixup.mp fixed
    refine ⟨⟨entrance, isEntrance, fun member => ?_⟩, ?_, ?_⟩
    · exact ((account.types entrance).mp member).2.ne_entrance numbered fixed isEntrance
    · rw [account.feature, fixed]
      rfl
    · rw [account.feature]
      exact housed

end MapTypes
