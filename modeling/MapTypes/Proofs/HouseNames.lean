import MapTypes.Proofs.AttributeValues

/-!
Names of houses. Two keys lead to them: a house name is given as such (`Tag.NamesHouse`), or a house
number is given that is none and has to do as a name (`Tag.MisnumbersHouse`). Both go to one field,
and the field keeps what it is given first. So the first tag of either kind counts
(`Classify.houseName_prepare`), and a number that is none takes the place of a name that comes after
it.
-/

namespace MapTypes

namespace Tag

/-- A live tag that gives a house name. -/
def NamesHouse (tag : Tag) : Prop :=
  tag.isLive = true ∧ tag.key = "addr:housename" ∧ tag.value ≠ ""

/-- A live tag that gives a house number that is none. -/
def MisnumbersHouse (tag : Tag) : Prop :=
  tag.isLive = true ∧ tag.key = "addr:housenumber" ∧ tag.value ≠ "" ∧
    HouseNumber.isValid tag.value = false

instance (tag : Tag) : Decidable tag.NamesHouse :=
  inferInstanceAs (Decidable (_ ∧ _ ∧ _))

instance (tag : Tag) : Decidable tag.MisnumbersHouse :=
  inferInstanceAs (Decidable (_ ∧ _ ∧ _ ∧ _))

/-- The house name that a tag brings along. -/
def houseName? (tag : Tag) : Option String :=
  if tag.NamesHouse ∨ tag.MisnumbersHouse then some tag.value else none

variable {tag : Tag}

theorem houseName?_of_key (name : tag.key ≠ "addr:housename")
    (number : tag.key ≠ "addr:housenumber") : tag.houseName? = none :=
  if_neg fun brings => brings.elim (fun names => name names.2.1) fun misnumbers =>
    number misnumbers.2.1

/-- Reading names leaves the house names. -/
theorem houseName?_names_residue (tag : Tag) : (Names.residue tag).houseName? = tag.houseName? := by
  rw [Names.residue]
  split
  · rename_i named
    have key : (Names.languageOf? tag.key).isSome = true :=
      (Names.isSome_languageOfTag?_iff.mp named).2.2
    have used : tag.consume.houseName? = none :=
      houseName?_of_key (by simp [consume]) (by simp [consume])
    rw [used, houseName?_of_key]
    · rintro name
      rw [name] at key
      exact absurd key (by decide)
    · rintro number
      rw [number] at key
      exact absurd key (by decide)
  · rfl

end Tag

namespace Feature

/-- A house keeps the name it has; else it is given the new one, if that is not empty. -/
theorem houseName_addHouseName (feature : Feature) (name : String) :
    (feature.addHouseName name).houseName =
      feature.houseName.or (if name = "" then none else some name) := by
  rw [addHouseName]
  cases known : feature.houseName with
  | some kept => simp [known]
  | none => by_cases empty : name = "" <;> simp [empty, known]

end Feature

namespace Attribute

variable {tag : Tag}

theorem namesHouse_iff : tag.NamesHouse ↔ heldBy? tag = some .houseName ∧ tag.value ≠ "" := by
  have listed : (⟨"addr:housename", .any, .houseName⟩ : Rule Attribute) ∈ table := by simp [table]
  have held := heldBy?_eq_some_iff listed rfl tag
  dsimp only at held
  rw [held, Tag.NamesHouse, and_assoc]

theorem misnumbersHouse_iff :
    tag.MisnumbersHouse ↔ heldBy? tag = some .houseNumber ∧ tag.value ≠ "" ∧
      HouseNumber.isValid tag.value = false := by
  have listed : (⟨"addr:housenumber", .any, .houseNumber⟩ : Rule Attribute) ∈ table := by
    simp [table]
  have held := heldBy?_eq_some_iff listed rfl tag
  dsimp only at held
  rw [held, Tag.MisnumbersHouse, and_assoc]

/-- Reading the attributes of a tag gives the house the name that the tag brings along, unless it
has one. -/
theorem houseName_extractBy (feature : Feature) (tag : Tag) :
    (extractBy table feature tag).1.houseName = feature.houseName.or tag.houseName? := by
  rw [extractBy_table, Tag.houseName?]
  simp only [namesHouse_iff, misnumbersHouse_iff]
  cases heldBy? tag with
  | none => simp
  | some held =>
    simp only [take_eq, Feature.houseName_addHouseName, Option.some.injEq]
    by_cases empty : tag.value = ""
    · simp [empty]
    · by_cases names : held = .houseName ∨
          held = .houseNumber ∧ HouseNumber.isValid tag.value = false
      · simp [empty, names]
      · simp [empty, names]

/-- Of the house names that tags bring along the first counts, unless there is one before. -/
theorem houseName_foldl (feature : Feature) (tags : List Tag) :
    (tags.foldl (fun feature tag => (extractBy table feature tag).1) feature).houseName =
      feature.houseName.or (tags.findSome? Tag.houseName?) := by
  induction tags generalizing feature with
  | nil => exact (Option.or_none).symm
  | cons tag rest ih =>
    rw [List.foldl_cons, ih, houseName_extractBy, Option.or_assoc, List.findSome?_cons]
    cases tag.houseName? <;> rfl

end Attribute

namespace Tag

/-- Where no house name is given as such, the first number that is none has to do. -/
theorem findSome?_houseName?_of_unnamed {tags : List Tag}
    (unnamed : ∀ tag ∈ tags, ¬ tag.NamesHouse) :
    tags.findSome? houseName? = (tags.find? fun tag => tag.MisnumbersHouse).map Tag.value := by
  induction tags with
  | nil => rfl
  | cons tag rest ih =>
    rw [List.forall_mem_cons] at unnamed
    rw [List.findSome?_cons, List.find?_cons, ih unnamed.2, houseName?]
    by_cases misnumbers : tag.MisnumbersHouse <;> simp [unnamed.1, misnumbers]

end Tag

namespace Classify

/-- The house name is the first that the tags bring along. -/
theorem houseName_prepare (tags : List Tag) :
    (prepare tags).1.houseName = tags.findSome? Tag.houseName? := by
  obtain ⟨names, named⟩ := Names.foldl_extract_eq Feature.empty (Layer.complete tags)
  have unnamed : Feature.empty.houseName = none := rfl
  have layer : (Layer.added? tags).toList.findSome? Tag.houseName? = none := by
    rw [List.findSome?_eq_none_iff]
    intro tag added
    obtain ⟨layer, _, rfl⟩ := Option.map_eq_some_iff.mp (Option.mem_toList.mp added)
    exact Tag.houseName?_of_key (by simp) (by simp)
  have residues : Tag.houseName? ∘ Names.residue = Tag.houseName? :=
    funext Tag.houseName?_names_residue
  rw [prepare_eq]
  dsimp only
  rw [Attribute.houseName_foldl, named, unnamed, Option.none_or, List.findSome?_map, residues,
    Layer.complete_eq, List.findSome?_append, layer, Option.or_none]

/-- The house name of an element. Where house names are given, the first of them counts, unless
house numbers that are none stand before it: then the first of these does. Where no house name is
given, the first house number that is none has to do, if there is one. -/
theorem first_house_name_wins (entries : List Entry) (options : Options) (element : Element) :
    let taxonomy := (Draft.empty.addAccepted entries).freeze
    ∃ outcome, element.classify taxonomy options =
        .ok (outcome, { element with tags := outcome.tags }) ∧
      (∀ before tag after, element.tags = before ++ tag :: after → tag.NamesHouse →
        (∀ earlier ∈ before, ¬ earlier.NamesHouse) →
        outcome.feature.houseName =
          some (((before.find? fun earlier => earlier.MisnumbersHouse).map Tag.value).getD
            tag.value)) ∧
      ((∀ tag ∈ element.tags, ¬ tag.NamesHouse) →
        outcome.feature.houseName =
          (element.tags.find? fun tag => tag.MisnumbersHouse).map Tag.value) := by
  intro taxonomy
  obtain ⟨landmarks, each⟩ := exists_account entries
  obtain ⟨outcome, ran, account⟩ := each options element
  have name : outcome.feature.houseName = element.tags.findSome? Tag.houseName? := by
    rw [account.feature, ← houseName_prepare]
  refine ⟨outcome, ran, fun before tag after parts names others => ?_, fun unnamed => ?_⟩
  · have brings : tag.houseName? = some tag.value := if_pos (.inl names)
    rw [name, parts, List.findSome?_append, List.findSome?_cons, brings,
      Tag.findSome?_houseName?_of_unnamed others, Option.or_some]
  · rw [name, Tag.findSome?_houseName?_of_unnamed unnamed]

/-- A house whose name comes after a number that is none is called by the number. -/
theorem misnumber_before_name_wins :
    let number : Tag := ⟨"addr:housenumber", "n/a", false⟩
    let name : Tag := ⟨"addr:housename", "Ivy Lodge", false⟩
    let element : Element := ⟨1, [number, name]⟩
    number.MisnumbersHouse ∧ name.NamesHouse ∧
      ∃ outcome, element.classify (Draft.empty.addAccepted []).freeze {} =
          .ok (outcome, { element with tags := outcome.tags }) ∧
        outcome.feature.houseName = some "n/a" := by
  intro number name element
  have misnumbers : number.MisnumbersHouse := by decide
  refine ⟨misnumbers, by decide, ?_⟩
  obtain ⟨landmarks, each⟩ := exists_account []
  obtain ⟨outcome, ran, account⟩ := each {} element
  refine ⟨outcome, ran, ?_⟩
  have brings : number.houseName? = some "n/a" := if_pos (.inr misnumbers)
  rw [account.feature]
  change (prepare element.tags).1.houseName = some "n/a"
  rw [houseName_prepare, List.findSome?_cons, brings]

end Classify

end MapTypes
