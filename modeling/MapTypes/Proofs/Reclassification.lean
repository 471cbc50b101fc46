import MapTypes.Proofs.RecordForm
import MapTypes.Proofs.TagResidue

/-!
Classification of an element that was classified before. What the first classification leaves of
the tags no later one changes (`Classify.prepare_prepare`); of what it read from them only the layer
can be read again. The walk and the rules of the rounds see the same tags as before. So does the
choice of the rounds, whether or not an entrance became an address the first time: neither an
entrance nor an address calls for a round (`Rounds.ofTypes_settle`).
-/

namespace MapTypes

/-! ## Layers -/

instance (tag : Tag) : Decidable tag.GivesLayer :=
  inferInstanceAs (Decidable (_ ∧ _))

namespace Tag

variable {tag : Tag}

/-- A live residue is the tag itself, unless it spells a shorthand out. -/
theorem residue_eq_of_live (live : tag.residue.isLive = true)
    (other : tag.residue.key ∉ ["amenity", "tourism"]) : tag.residue = tag := by
  rcases tag.residue_cases with kept | used | spelledOut
  · exact kept
  · rw [used] at live
    cases live
  · exact absurd spelledOut other

theorem givesLayer_residue_iff : tag.residue.GivesLayer ↔ tag.GivesLayer := by
  constructor
  · rintro ⟨live, key⟩
    have kept := residue_eq_of_live live (by rw [key]; decide)
    rw [kept] at live key
    exact ⟨live, key⟩
  · intro gives
    rwa [gives.residue_eq]

theorem crosses_residue_iff : tag.residue.Crosses ↔ tag.Crosses := by
  constructor
  · rintro ⟨live, key, yes⟩
    have kept := residue_eq_of_live live (by rcases key with key | key <;> rw [key] <;> decide)
    rw [kept] at live key yes
    exact ⟨live, key, yes⟩
  · intro crosses
    rwa [crosses.residue_eq]

end Tag

namespace Layer

/-- The layer after a tag: the first layer other than zero counts. -/
def read (layer : Int) (tag : Tag) : Int :=
  if tag.GivesLayer ∧ layer = 0 then ofText tag.value else layer

theorem read_of_not_gives {tag : Tag} (other : ¬ tag.GivesLayer) (layer : Int) :
    read layer tag = layer := by
  rw [read, if_neg fun both => other both.1]

theorem read_residue (layer : Int) (tag : Tag) : read layer tag.residue = read layer tag := by
  by_cases gives : tag.GivesLayer
  · rw [gives.residue_eq]
  · rw [read_of_not_gives gives, read_of_not_gives (mt Tag.givesLayer_residue_iff.mp gives)]

/-- A layer is no name. -/
theorem read_names_residue (layer : Int) (tag : Tag) :
    read layer (Names.residue tag) = read layer tag := by
  rw [Names.residue]
  split
  · rename_i named
    have different : ¬ tag.GivesLayer := by
      rintro ⟨_, key⟩
      have filed := (Names.isSome_languageOfTag?_iff.mp named).2.2
      rw [key] at filed
      exact absurd filed (by decide)
    have used : ¬ tag.consume.GivesLayer := by
      rintro ⟨live, _⟩
      cases live
    rw [read_of_not_gives different, read_of_not_gives used]
  · rfl

/-- Where a layer was added, a layer is given. -/
theorem added?_residue (tags : List Tag) :
    added? (tags.map Tag.residue ++ (added? tags).toList) = none := by
  rw [added?, Option.map_eq_none_iff, ← Option.not_isSome_iff_eq_none, isSome_implied?_iff]
  rintro ⟨notGiven, crossing, member, crosses⟩
  cases added : added? tags with
  | some tag =>
    obtain ⟨layer, _, rfl⟩ := Option.map_eq_some_iff.mp added
    refine notGiven ⟨⟨"layer", layer, false⟩, ?_, rfl, rfl⟩
    rw [added]
    exact List.mem_append_right _ List.mem_cons_self
  | none =>
    rw [added, Option.toList_none, List.append_nil] at notGiven member
    have implied : (implied? tags).isSome = true := by
      rw [isSome_implied?_iff]
      constructor
      · rintro ⟨tag, listed, gives⟩
        exact notGiven ⟨_, List.mem_map_of_mem listed, Tag.givesLayer_residue_iff.mpr gives⟩
      · obtain ⟨tag, listed, rfl⟩ := List.mem_map.mp member
        exact ⟨tag, listed, Tag.crosses_residue_iff.mp crosses⟩
    rw [← Option.isSome_map, ← added?, added] at implied
    cases implied

end Layer

/-! ## Attributes -/

namespace Attribute

theorem heldBy?_eq_some {tag : Tag} {held : Attribute} (found : heldBy? tag = some held) :
    ∃ rule ∈ table, rule.applies tag = true ∧ rule.conclusion = held := by
  obtain ⟨rule, first, same⟩ := Option.map_eq_some_iff.mp found
  have applies := List.find?_some first
  exact ⟨rule, List.mem_of_find?_eq_some first, applies, same⟩

theorem heldBy?_eq_layer_iff {tag : Tag} : heldBy? tag = some layer ↔ tag.GivesLayer := by
  have only : ∀ rule ∈ table, rule.conclusion = layer → rule.key = "layer" := by decide
  constructor
  · intro found
    obtain ⟨rule, member, applies, same⟩ := heldBy?_eq_some found
    obtain ⟨live, key, _⟩ := Rule.applies_iff.mp applies
    exact ⟨live, key.trans (only rule member same)⟩
  · rintro ⟨live, key⟩
    simp [heldBy?, table, Rule.applies, live, key, ValuePattern.accepts]

/-- The layer apart, what an attribute leaves of its tag does not hold it again. -/
theorem not_applies_leave : ∀ rule ∈ table, rule.conclusion ≠ layer →
    ∀ tag, rule.applies (rule.conclusion.leave tag) = false := by
  simp [table, leave, Rule.applies]

theorem layer_take (feature : Feature) (tag : Tag) {held : Attribute} (other : held ≠ layer) :
    (held.take feature tag).1.layer = feature.layer := by
  rw [take_eq]
  exact if_neg fun both => other both.1

theorem take_layer (feature : Feature) {tag : Tag} (gives : tag.GivesLayer) :
    (layer.take feature tag).1 = { feature with layer := Layer.read feature.layer tag } := by
  simp only [take, Layer.read, gives, true_and]
  split <;> rfl

/-- Of the attributes only the layer has a part in the layer. -/
theorem layer_extractBy (feature : Feature) (tag : Tag) :
    (extractBy table feature tag).1.layer = Layer.read feature.layer tag := by
  rw [extractBy_table]
  by_cases gives : tag.GivesLayer
  · rw [heldBy?_eq_layer_iff.mpr gives]
    exact congrArg Feature.layer (take_layer feature gives)
  · rw [Layer.read_of_not_gives gives]
    cases found : heldBy? tag with
    | none => rfl
    | some held =>
      apply layer_take
      rintro rfl
      exact gives (heldBy?_eq_layer_iff.mp found)

end Attribute

/-! ## Preparation -/

/-- A pass that leaves every tag as it is only reads. -/
theorem sweep_of_kept {α : Type} {step : α → Tag → α × Tag} (read : α → Tag → α)
    {tags : List Tag} (kept : ∀ tag ∈ tags, ∀ record, step record tag = (read record tag, tag))
    (record : α) : sweep step record tags = (tags.foldl read record, tags) := by
  induction tags generalizing record with
  | nil => rfl
  | cons tag rest ih =>
    rw [List.forall_mem_cons] at kept
    rw [sweep, kept.1, ih kept.2, List.foldl_cons]

namespace Tag

variable {tag : Tag}

/-- A tag that classification leaves as it is, is not a name. -/
theorem languageOfTag?_of_residue_eq (kept : tag.residue = tag) :
    Names.languageOfTag? tag = none := by
  rw [← Option.not_isSome_iff_eq_none]
  intro named
  have live : tag.isLive = true := by
    rw [← Bool.not_eq_false]
    intro dead
    rw [Names.isSome_languageOfTag?_iff, isIgnored_of_dead dead] at named
    cases named.1
  rw [residue_eq, Names.residue, if_pos named, Attribute.residue_of_dead tag.isLive_consume] at kept
  rw [← kept] at live
  cases live

/-- If such a tag holds an attribute, it is a layer. -/
theorem heldBy?_of_residue_eq (kept : tag.residue = tag) {held : Attribute}
    (found : Attribute.heldBy? tag = some held) : held = .layer := by
  have unnamed := languageOfTag?_of_residue_eq kept
  rw [residue_eq, Names.residue, unnamed, Option.isSome_none, if_neg Bool.false_ne_true,
    Attribute.residue, found] at kept
  obtain ⟨rule, member, applies, rfl⟩ := Attribute.heldBy?_eq_some found
  by_contra other
  have never := Attribute.not_applies_leave rule member other tag
  dsimp only at kept
  rw [kept, applies] at never
  cases never

end Tag

theorem Names.extract_of_residue_eq {tag : Tag} (kept : tag.residue = tag) (feature : Feature) :
    extract feature tag = (feature, tag) := by
  rw [extract, Tag.languageOfTag?_of_residue_eq kept]

theorem Attribute.extractBy_of_residue_eq {tag : Tag} (kept : tag.residue = tag)
    (feature : Feature) :
    extractBy table feature tag =
      ({ feature with layer := Layer.read feature.layer tag }, tag) := by
  rw [extractBy_table]
  cases found : heldBy? tag with
  | none =>
    have different : ¬ tag.GivesLayer := by
      rw [← heldBy?_eq_layer_iff, found]
      simp
    rw [Layer.read_of_not_gives different]
  | some held =>
    obtain rfl := Tag.heldBy?_of_residue_eq kept found
    exact Prod.ext (take_layer feature (heldBy?_eq_layer_iff.mp found)) rfl

namespace Classify

/-- The layer that is read from the tags. -/
theorem layer_prepare (tags : List Tag) :
    (prepare tags).1.layer = (Layer.complete tags).foldl Layer.read 0 := by
  have named (feature : Feature) (tags : List Tag) :
      (tags.foldl (fun feature tag => (Names.extract feature tag).1) feature).layer =
        feature.layer := by
    refine List.foldlRecOn tags _ (motive := fun grown : Feature => grown.layer = feature.layer)
      rfl ?_
    intro grown same tag _
    obtain ⟨names, read⟩ := Names.extract_eq grown tag
    rw [read, same]
  rw [prepare_eq]
  dsimp only
  rw [← List.foldl_hom Feature.layer fun feature tag =>
      (Attribute.layer_extractBy feature tag).symm, named, List.foldl_map]
  simp only [Layer.read_names_residue]
  rfl

/-- From tags that classification leaves as they are, a layer is read and nothing else. -/
theorem prepare_of_residue_eq {tags : List Tag} (kept : ∀ tag ∈ tags, tag.residue = tag)
    (complete : Layer.added? tags = none) :
    prepare tags = ({ Feature.empty with layer := tags.foldl Layer.read 0 }, tags) := by
  have unnamed : Names.extractAll Feature.empty tags = (Feature.empty, tags) := by
    rw [Names.extractAll, sweep_of_kept (fun feature _ => feature) fun tag member feature =>
      Names.extract_of_residue_eq (kept tag member) feature, List.foldl_fixed]
  have layers : tags.foldl (fun feature tag =>
        { feature with layer := Layer.read feature.layer tag }) Feature.empty =
      { Feature.empty with layer := tags.foldl Layer.read 0 } :=
    List.foldl_hom (fun layer => { Feature.empty with layer := layer }) fun _ _ => rfl
  rw [prepare, Layer.complete_eq, complete, Option.toList_none, List.append_nil, unnamed,
    Attribute.extractAll, sweep_of_kept _ fun tag member feature =>
      Attribute.extractBy_of_residue_eq (kept tag member) feature, layers]

/-- What preparation leaves of the tags it leaves as they are. -/
theorem prepare_prepare (tags : List Tag) :
    prepare (prepare tags).2 =
      ({ Feature.empty with layer := (prepare tags).1.layer }, (prepare tags).2) := by
  have complete : Layer.added? (prepare tags).2 = none := by
    rw [prepare_tags, Layer.added?_residue]
  have kept : ∀ tag ∈ (prepare tags).2, tag.residue = tag := by
    intro tag member
    rw [prepare_eq] at member
    obtain ⟨before, _, rfl⟩ := List.mem_map.mp member
    exact before.residue_residue
  have layers : (prepare tags).2.foldl Layer.read 0 = (prepare tags).1.layer := by
    rw [layer_prepare, prepare_eq, List.foldl_map]
    simp only [Layer.read_residue]
  rw [prepare_of_residue_eq kept complete, layers]

end Classify

/-! ## Outcomes -/

/-- What becomes of an element that was classified before, given what the first classification gave
and what it would have given had it left entrances alone. -/
structure Outcome.Repeats (first plain again : Outcome) : Prop where
  tags : again.tags = first.tags
  discoveries : again.discoveries = first.discoveries
  rounds : again.rounds = first.rounds
  addressFixup : again.addressFixup = false
  /-- The house, the names and whatever else was read from consumed tags is gone. -/
  feature : again.feature =
    { Feature.empty with
      types := plain.feature.types
      layer := first.feature.layer
      reversed := first.feature.reversed
      city := first.feature.city }

/-- Classifies an element again and again, each time with other options. -/
def Element.classifyEach (element : Element) (taxonomy : Taxonomy) :
    List Options → Except TypeCode.Fault (List Outcome × Element)
  | [] => return ([], element)
  | options :: further => do
    let (outcome, left) ← element.classify taxonomy options
    let (outcomes, last) ← left.classifyEach taxonomy further
    return (outcome :: outcomes, last)

namespace Classify

variable {taxonomy : Taxonomy} {landmarks : Landmarks} {options : Options}
variable {prepared : Feature × List Tag} {first plain again : Outcome}

/-- Without a house no entrance becomes an address, so the types are those of the plain outcome. -/
theorem Account.repeats {fixup : Bool}
    (account : Account taxonomy landmarks options prepared first)
    (accountPlain : Account taxonomy landmarks { options with addressFixup := false } prepared
      plain)
    (accountAgain : Account taxonomy landmarks { options with addressFixup := fixup }
      ({ Feature.empty with layer := prepared.1.layer }, prepared.2) again) :
    first.Repeats plain again := by
  have unfixed : again.addressFixup = false := by
    rw [← Bool.not_eq_true, accountAgain.addressFixup]
    rintro ⟨_, housed, _⟩
    cases housed
  have unfixedPlain : plain.addressFixup = false := accountPlain.unfixed rfl
  have rounds : again.rounds = first.rounds := accountAgain.rounds_eq account rfl rfl
  constructor
  case tags => rw [accountAgain.tags, account.tags]
  case discoveries => exact accountAgain.discoveries_eq account rfl
  case rounds => exact rounds
  case addressFixup => exact unfixed
  case feature =>
    rw [accountAgain.feature, account.feature, unfixed, rounds,
      accountAgain.types_eq accountPlain rfl rfl (unfixed.trans unfixedPlain.symm)]
    rfl

/-- An element that was classified is left as it is by every later classification over the same
taxonomy that filters in the same way, and each of them gives the same: the paths and rounds of the
first classification, its layer, direction and city, and the types that the first would have given
had it left entrances alone. -/
theorem classify_again (entries : List Entry) (options : Options) (element : Element) :
    let taxonomy := (Draft.empty.addAccepted entries).freeze
    ∃ first plain left,
      element.classify taxonomy options = .ok (first, left) ∧
      element.classify taxonomy { options with addressFixup := false } = .ok (plain, left) ∧
      left = { element with tags := first.tags } ∧
      ∀ fixups : List Bool, ∃ outcomes,
        left.classifyEach taxonomy
            (fixups.map fun fixup => { options with addressFixup := fixup }) =
          .ok (outcomes, left) ∧
        outcomes.length = fixups.length ∧ ∀ again ∈ outcomes, first.Repeats plain again := by
  intro taxonomy
  obtain ⟨landmarks, each⟩ := exists_account entries
  obtain ⟨first, ran, account⟩ := each options element
  obtain ⟨plain, ranPlain, accountPlain⟩ := each { options with addressFixup := false } element
  rw [accountPlain.tags, ← account.tags] at ranPlain
  let left := { element with tags := first.tags }
  have once (fixup : Bool) : ∃ again,
      left.classify taxonomy { options with addressFixup := fixup } = .ok (again, left) ∧
        first.Repeats plain again := by
    obtain ⟨again, ranAgain, accountAgain⟩ := each { options with addressFixup := fixup } left
    have prepared : prepare left.tags = _ :=
      (congrArg prepare account.tags).trans (prepare_prepare element.tags)
    rw [prepared] at accountAgain
    have repeats := account.repeats accountPlain accountAgain
    rw [repeats.tags] at ranAgain
    exact ⟨again, ranAgain, repeats⟩
  refine ⟨first, plain, left, ran, ranPlain, rfl, fun fixups => ?_⟩
  -- Each time leaves the element as it was left before, so what holds once holds every time.
  induction fixups with
  | nil => exact ⟨[], rfl, rfl, by simp⟩
  | cons fixup rest ih =>
    obtain ⟨again, ranAgain, repeats⟩ := once fixup
    obtain ⟨outcomes, ranRest, length, repeatsRest⟩ := ih
    refine ⟨again :: outcomes, ?_, by rw [List.length_cons, length, List.length_cons], ?_⟩
    · rw [List.map_cons, Element.classifyEach, ranAgain]
      change (do let (outcomes, last) ← left.classifyEach taxonomy _; _) = _
      rw [ranRest]
      rfl
    · rw [List.forall_mem_cons]
      exact ⟨repeats, repeatsRest⟩

end Classify

end MapTypes
