import Mathlib.Data.List.Forall2
import MapTypes.Proofs.OutcomeAccount
import MapTypes.Proofs.TagResidue

/-!
Shorthands and implied layers. A shorthand is spelled out in the midst of preparation: the rules for
layers and names that come before see the shorthand, all that comes after sees what it stands for.
Neither of the two is of any interest to the rules before, so the record and the tags after
preparation are the same as if it had been written out from the start. In the same way the layer
that a crossing implies stands with the tags before the first rule looks at them.
-/

namespace MapTypes

/-! ## Shorthands -/

/-- A tag stands for itself, and a live shorthand for the tag that spells it out. -/
inductive Tag.ShortFor : Tag → Tag → Prop
  | itself (tag : Tag) : ShortFor tag tag
  | atm : ShortFor ⟨"atm", "yes", false⟩ ⟨"amenity", "atm", false⟩
  | restaurant : ShortFor ⟨"restaurant", "yes", false⟩ ⟨"amenity", "restaurant", false⟩
  | hotel : ShortFor ⟨"hotel", "yes", false⟩ ⟨"tourism", "hotel", false⟩

namespace Tag.ShortFor

variable {tag full : Tag}

/-- Neither a shorthand nor what it stands for tells about layers. -/
theorem filter_hints (short : tag.ShortFor full) :
    Layer.hints.filter (·.applies tag) = Layer.hints.filter (·.applies full) := by
  cases short <;> rfl

/-- Neither a shorthand nor what it stands for is a name. -/
theorem extract_names (short : tag.ShortFor full) (feature : Feature) :
    (Names.extract feature tag).1 = (Names.extract feature full).1 ∧
      (Names.extract feature tag).2.ShortFor (Names.extract feature full).2 := by
  have unnamed {other : Tag} (none : Names.languageOfTag? other = none) :
      Names.extract feature other = (feature, other) := by
    rw [Names.extract, none]
  cases short with
  | itself => exact ⟨rfl, .itself _⟩
  | atm =>
    rw [unnamed (by decide), unnamed (by decide)]
    exact ⟨rfl, .atm⟩
  | restaurant =>
    rw [unnamed (by decide), unnamed (by decide)]
    exact ⟨rfl, .restaurant⟩
  | hotel =>
    rw [unnamed (by decide), unnamed (by decide)]
    exact ⟨rfl, .hotel⟩

/-- Reading attributes spells a shorthand out, and leaves what is spelled out as it is. -/
theorem extract_attributes (short : tag.ShortFor full) (feature : Feature) :
    Attribute.extractBy Attribute.table feature tag =
      Attribute.extractBy Attribute.table feature full := by
  cases short <;> rfl

end Tag.ShortFor

section Passes

variable {tags others : List Tag}

/-- The same names are read whether shorthands are spelled out or not. -/
theorem Names.extractAll_of_shorthands (related : List.Forall₂ Tag.ShortFor tags others)
    (feature : Feature) :
    (extractAll feature tags).1 = (extractAll feature others).1 ∧
      List.Forall₂ Tag.ShortFor (extractAll feature tags).2 (extractAll feature others).2 := by
  induction related generalizing feature with
  | nil => exact ⟨rfl, .nil⟩
  | cons here _ ih =>
    obtain ⟨read, left⟩ := here.extract_names feature
    obtain ⟨readRest, leftRest⟩ := ih (extract feature _).1
    rw [extractAll, extractAll, sweep, sweep, ← read]
    exact ⟨readRest, .cons left leftRest⟩

/-- Where attributes were read, shorthands are spelled out. -/
theorem Attribute.extractAll_of_shorthands (related : List.Forall₂ Tag.ShortFor tags others)
    (feature : Feature) : extractAll feature tags = extractAll feature others := by
  induction related generalizing feature with
  | nil => rfl
  | cons here _ ih =>
    simp only [extractAll] at ih ⊢
    rw [sweep, sweep, here.extract_attributes, ih]

end Passes

namespace Layer

variable {tags others : List Tag}

theorem added?_of_shorthands (related : List.Forall₂ Tag.ShortFor tags others) :
    added? tags = added? others := by
  have hits : Rule.hits hints tags = Rule.hits hints others := by
    induction related with
    | nil => rfl
    | cons here _ ih =>
      simp only [Rule.hits, List.flatMap_cons] at ih ⊢
      rw [here.filter_hints, ih]
  rw [added?, added?, implied?, implied?, hits]

/-- A layer is added to both or to neither. -/
theorem complete_of_shorthands (related : List.Forall₂ Tag.ShortFor tags others) :
    List.Forall₂ Tag.ShortFor (complete tags) (complete others) := by
  rw [complete_eq, complete_eq, added?_of_shorthands related]
  exact List.rel_append related (List.forall₂_same.mpr fun tag _ => .itself tag)

/-- Where none is given, the layer that is implied is that of the last crossing. -/
theorem implied?_of_last {before after : List Tag} {crossing : Tag}
    (notGiven : ¬ ∃ tag ∈ before ++ crossing :: after, tag.GivesLayer)
    (crosses : crossing.Crosses) (last : ∀ other ∈ after, ¬ other.Crosses) :
    implied? (before ++ crossing :: after) = some crossing.crossingLayer := by
  have nothing : (after.filterMap fun tag =>
      if tag.Crosses then some tag.crossingLayer else none) = [] := by
    rw [List.filterMap_eq_nil_iff]
    exact fun other member => if_neg (last other member)
  rw [← explicit_mem_hits_iff, ← List.contains_iff_mem] at notGiven
  rw [implied?, if_neg notGiven, filterMap_hits, List.filterMap_append, List.filterMap_cons,
    if_pos crosses, nothing]
  exact List.getLast?_concat

/-- Tags with the layer that they imply at the end are complete. -/
theorem complete_concat {layer : String} (implied : implied? tags = some layer) :
    complete (tags ++ [⟨"layer", layer, false⟩]) = complete tags := by
  have given : implied? (tags ++ [⟨"layer", layer, false⟩]) = none := by
    rw [← Option.not_isSome_iff_eq_none, isSome_implied?_iff]
    rintro ⟨notGiven, _⟩
    exact notGiven ⟨⟨"layer", layer, false⟩, List.mem_append_right _ List.mem_cons_self, rfl, rfl⟩
  rw [complete, complete, implied, given]

end Layer

/-! ## Classification -/

namespace Classify

variable {tags others : List Tag}

/-- Preparation makes the same of shorthands and of what they stand for. -/
theorem prepare_of_shorthands (related : List.Forall₂ Tag.ShortFor tags others) :
    prepare tags = prepare others := by
  obtain ⟨read, left⟩ :=
    Names.extractAll_of_shorthands (Layer.complete_of_shorthands related) Feature.empty
  rw [prepare, prepare, read]
  exact Attribute.extractAll_of_shorthands left _

/-- Preparation makes the same of tags when the layer that they imply is written out behind them. -/
theorem prepare_concat {layer : String} (implied : Layer.implied? tags = some layer) :
    prepare (tags ++ [⟨"layer", layer, false⟩]) = prepare tags := by
  rw [prepare, prepare, Layer.complete_concat implied]

/-- Of its tags, the classification of an element sees what preparation makes of them. -/
theorem classify_of_prepare_eq {element : Element} {tags : List Tag}
    (same : prepare tags = prepare element.tags) (taxonomy : Taxonomy) (options : Options) :
    { element with tags := tags }.classify taxonomy options =
      element.classify taxonomy options := by
  rw [Element.classify, Element.classify, classify, classify, same]

/-- Tags that are short for others mean the same. To spell out live shorthands for cash machines,
restaurants and hotels, wherever they stand and however many, gives the same outcome and leaves the
same tags. So does writing out the layer of the last bridge or tunnel at the end, where no layer is
given. -/
theorem shorthands_mean_the_same (entries : List Entry) (options : Options) (element : Element) :
    let taxonomy := (Draft.empty.addAccepted entries).freeze
    ∃ outcome left, element.classify taxonomy options = .ok (outcome, left) ∧
      (∀ full, List.Forall₂ Tag.ShortFor element.tags full →
        { element with tags := full }.classify taxonomy options = .ok (outcome, left)) ∧
      ∀ before crossing after, element.tags = before ++ crossing :: after → crossing.Crosses →
        (∀ other ∈ after, ¬ other.Crosses) → (¬ ∃ tag ∈ element.tags, tag.GivesLayer) →
        (element.addTag "layer" (if crossing.key = "bridge" then "1" else "-1")).classify
          taxonomy options = .ok (outcome, left) := by
  intro taxonomy
  obtain ⟨landmarks, each⟩ := exists_account entries
  obtain ⟨outcome, ran, _⟩ := each options element
  refine ⟨outcome, _, ran, fun full related => ?_, ?_⟩
  · rw [← ran]
    exact classify_of_prepare_eq (prepare_of_shorthands related).symm taxonomy options
  · intro before crossing after parts crosses last notGiven
    rw [parts] at notGiven
    have implied := Layer.implied?_of_last notGiven crosses last
    rw [← parts] at implied
    rw [← ran]
    exact classify_of_prepare_eq (prepare_concat implied) taxonomy options

/-- A cash machine on a bridge. -/
example :
    prepare [⟨"atm", "yes", false⟩, ⟨"tunnel", "yes", false⟩, ⟨"bridge", "yes", false⟩] =
      prepare [⟨"amenity", "atm", false⟩, ⟨"tunnel", "yes", false⟩, ⟨"bridge", "yes", false⟩,
        ⟨"layer", "1", false⟩] := by
  decide

end Classify

end MapTypes
