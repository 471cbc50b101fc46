import MapTypes.Proofs.Reclassification

/-!
Attributes as functions of the values under their keys. Preparation takes attributes tag by tag, and
most fields are overwritten whenever a value is accepted (`Attribute.SetBy`), so in the end such a
field has what the last accepted value under its key stands for (`SetBy.prepare`). The layer is the
first other than zero. A value that is not accepted leaves no trace. Names that are consumed before,
and the layer that may be added, are under none of these keys.
-/

namespace MapTypes

/-! ## Values under a key -/

namespace Tag

variable {key : String} {tags : List Tag}

/-- The values of the live tags with a key, in the order of the tags. -/
def valuesUnder (key : String) (tags : List Tag) : List String :=
  (tags.filter fun tag => tag.isLive && tag.key == key).map Tag.value

theorem valuesUnder_cons (key : String) (tag : Tag) (rest : List Tag) :
    valuesUnder key (tag :: rest) =
      (if tag.isLive = true ∧ tag.key = key then [tag.value] else []) ++ valuesUnder key rest := by
  rw [valuesUnder, List.filter_cons]
  by_cases here : tag.isLive = true ∧ tag.key = key
  · simp [here, valuesUnder]
  · rw [if_neg (by simpa using here), if_neg here]
    rfl

theorem valuesUnder_append (key : String) (tags others : List Tag) :
    valuesUnder key (tags ++ others) = valuesUnder key tags ++ valuesUnder key others := by
  rw [valuesUnder, List.filter_append, List.map_append]
  rfl

/-- A tag that gives no accepted value may as well be left out. -/
theorem filterMap_valuesUnder_without {β : Type} {accepts : String → Option β} {refused : Tag}
    (refuses : refused.isLive = true ∧ refused.key = key → accepts refused.value = none)
    (before after : List Tag) :
    (valuesUnder key (before ++ refused :: after)).filterMap accepts =
      (valuesUnder key (before ++ after)).filterMap accepts := by
  rw [valuesUnder_append, valuesUnder_append, valuesUnder_cons, List.filterMap_append,
    List.filterMap_append, List.filterMap_append]
  by_cases here : refused.isLive = true ∧ refused.key = key
  · rw [if_pos here, List.filterMap_cons_none (refuses here), List.filterMap_nil, List.nil_append]
  · rw [if_neg here, List.filterMap_nil, List.nil_append]

theorem filter_valuesUnder_without {accepts : String → Bool} {refused : Tag}
    (refuses : refused.isLive = true ∧ refused.key = key → accepts refused.value = false)
    (before after : List Tag) :
    (valuesUnder key (before ++ refused :: after)).filter accepts =
      (valuesUnder key (before ++ after)).filter accepts := by
  rw [← List.filterMap_eq_filter]
  exact filterMap_valuesUnder_without (fun here => by simp [refuses here]) before after

/-- Reading names consumes no tag under a key that is not the key of a name. -/
theorem valuesUnder_names_residue (unnamed : Names.languageOf? key = none) (tags : List Tag) :
    valuesUnder key (tags.map Names.residue) = valuesUnder key tags := by
  induction tags with
  | nil => rfl
  | cons tag rest ih =>
    rw [List.map_cons, valuesUnder_cons, valuesUnder_cons, ih]
    congr 1
    rw [Names.residue]
    split
    · rename_i named
      have other : tag.key ≠ key := by
        rintro rfl
        rw [Names.isSome_languageOfTag?_iff, unnamed] at named
        cases named.2.2
      simp [other]
    · rfl

theorem valuesUnder_complete (other : key ≠ "layer") (tags : List Tag) :
    valuesUnder key (Layer.complete tags) = valuesUnder key tags := by
  rw [Layer.complete]
  cases Layer.implied? tags with
  | none => rfl
  | some layer => simp [valuesUnder, Ne.symm other]

theorem valuesUnder_layer_eq_nil_iff :
    valuesUnder "layer" tags = [] ↔ ¬ ∃ tag ∈ tags, tag.GivesLayer := by
  simp [valuesUnder, GivesLayer]

end Tag

/-! ## The last accepted value -/

namespace Attribute

variable {β : Type} {field : Feature → β} {held : Attribute} {accepts : String → Option β}

/-- The value after a tag: what the value of the tag stands for, if the tag is live and under the
key and the value is accepted, else the one before. -/
def overwrite (key : String) (accepts : String → Option β) (kept : β) (tag : Tag) : β :=
  if tag.isLive = true ∧ tag.key = key then (accepts tag.value).getD kept else kept

/-- Where every accepted value overwrites the ones before, the last of them counts. -/
theorem foldl_overwrite (key : String) (accepts : String → Option β) (tags : List Tag) (start : β) :
    tags.foldl (overwrite key accepts) start =
      (((Tag.valuesUnder key tags).filterMap accepts).getLast?).getD start := by
  induction tags generalizing start with
  | nil => rfl
  | cons tag rest ih =>
    rw [List.foldl_cons, ih, Tag.valuesUnder_cons, overwrite]
    by_cases here : tag.isLive = true ∧ tag.key = key
    · rw [if_pos here, if_pos here, List.singleton_append]
      cases read : accepts tag.value with
      | none => rw [List.filterMap_cons_none read, Option.getD_none]
      | some value =>
        rw [List.filterMap_cons_some read, List.getLast?_cons, Option.getD_some, Option.getD_some]
    · rw [if_neg here, if_neg here, List.nil_append]

/-- Rules that take every value of their key are told apart by the keys, and by what they hold. -/
theorem heldBy?_eq_some_iff {rule : Rule Attribute} (member : rule ∈ table)
    (all : rule.value = .any) (tag : Tag) :
    heldBy? tag = some rule.conclusion ↔ tag.isLive = true ∧ tag.key = rule.key := by
  have byHeld : ∀ rule ∈ table, rule.value = .any → ∀ other ∈ table,
      other.conclusion = rule.conclusion → other.key = rule.key := by decide
  have byKey : ∀ rule ∈ table, ∀ other ∈ table,
      other.key = rule.key → other.conclusion = rule.conclusion := by decide
  constructor
  · intro found
    obtain ⟨other, listed, applies, same⟩ := heldBy?_eq_some found
    obtain ⟨live, key, _⟩ := Rule.applies_iff.mp applies
    exact ⟨live, key.trans (byHeld rule member all other listed same)⟩
  · rintro ⟨live, key⟩
    have applies : rule.applies tag = true :=
      Rule.applies_iff.mpr ⟨live, key, by rw [all]; rfl⟩
    obtain ⟨other, listed, appliesFirst, found⟩ := Rule.exists_first member applies
    have same := (Rule.applies_iff.mp appliesFirst).2.1
    rw [heldBy?, found, Option.map_some, byKey rule member other listed (same.symm.trans key)]

/-- A field that one attribute alone sets, whenever it accepts a value. -/
structure SetBy (field : Feature → β) (held : Attribute) (accepts : String → Option β) : Prop where
  take : ∀ (other : Attribute) (feature : Feature) (tag : Tag),
    field (other.take feature tag).1 =
      if other = held then (accepts tag.value).getD (field feature) else field feature
  names : ∀ (feature : Feature) (names : List (String × String)),
    field { feature with names := names } = field feature

/-- The field that has the values of an attribute as they are. -/
def textField? : Attribute → Option (Feature → Option String)
  | street => some Feature.street
  | flats => some Feature.flats
  | reference => some Feature.reference
  | _ => none

/-- Such a field is set by every value of its attribute, and by nothing else. -/
theorem setBy_text {text : Feature → Option String} (kept : textField? held = some text) :
    SetBy text held fun value => some (some value) := by
  cases held <;> cases kept
  -- What is left is one goal for each of the fields, and `take_eq` has what is done to it.
  all_goals
    exact ⟨fun other feature tag => congrArg _ (take_eq feature tag other), fun _ _ => rfl⟩

theorem setBy_rank : SetBy Feature.rank population Population.rankOfText? where
  take other feature tag := congrArg Feature.rank (take_eq feature tag other)
  names _ _ := rfl

/-- A house number is accepted if it has the shape of one. -/
def houseNumberOf? (value : String) : Option (Option String) :=
  if HouseNumber.isValid value then some (some (Text.trim value)) else none

theorem filterMap_houseNumberOf? (values : List String) :
    values.filterMap houseNumberOf? =
      ((values.filter HouseNumber.isValid).map Text.trim).map some := by
  induction values with
  | nil => rfl
  | cons value rest ih =>
    by_cases valid : HouseNumber.isValid value = true <;> simp [houseNumberOf?, valid, ih]

theorem setBy_houseNumber : SetBy Feature.houseNumber houseNumber houseNumberOf? where
  take other feature tag := by
    rw [take_eq, houseNumberOf?]
    by_cases same : other = houseNumber
    · by_cases valid : HouseNumber.isValid tag.value = true <;> simp [same, valid]
    · simp [same]
  names _ _ := rfl

variable {rule : Rule Attribute}

/-- Reading the attributes of a tag sets the field if the tag is under the key. -/
theorem SetBy.extractBy (set : SetBy field rule.conclusion accepts) (member : rule ∈ table)
    (all : rule.value = .any) (feature : Feature) (tag : Tag) :
    field (extractBy table feature tag).1 = overwrite rule.key accepts (field feature) tag := by
  have taken := heldBy?_eq_some_iff member all tag
  rw [extractBy_table, overwrite]
  by_cases here : tag.isLive = true ∧ tag.key = rule.key
  · rw [if_pos here, taken.mpr here]
    dsimp only
    rw [set.take, if_pos rfl]
  · rw [if_neg here]
    cases found : heldBy? tag with
    | none => rfl
    | some other =>
      have different : other ≠ rule.conclusion := by
        rintro rfl
        exact here (taken.mp found)
      dsimp only
      rw [set.take, if_neg different]

/-- After preparation the field has what the last accepted value under the key stands for. -/
theorem SetBy.prepare (set : SetBy field rule.conclusion accepts) (member : rule ∈ table)
    (all : rule.value = .any) (other : rule.conclusion ≠ layer) (tags : List Tag) :
    field (Classify.prepare tags).1 =
      (((Tag.valuesUnder rule.key tags).filterMap accepts).getLast?).getD
        (field Feature.empty) := by
  have apart : ∀ rule ∈ table, rule.value = .any → rule.conclusion ≠ layer →
      Names.languageOf? rule.key = none ∧ rule.key ≠ "layer" := by decide
  obtain ⟨unnamed, noLayer⟩ := apart rule member all other
  obtain ⟨names, named⟩ := Names.foldl_extract_eq Feature.empty (Layer.complete tags)
  rw [Classify.prepare_eq]
  dsimp only
  rw [← List.foldl_hom field fun feature tag => (set.extractBy member all feature tag).symm,
    foldl_overwrite, named, set.names, Tag.valuesUnder_names_residue unnamed,
    Tag.valuesUnder_complete noLayer]

/-- The last of texts that are all kept. -/
theorem getD_getLast?_map_some (values : List String) :
    ((values.map some).getLast?).getD none = values.getLast? := by
  rw [List.getLast?_map]
  cases values.getLast? <;> rfl

/-- Where every value is kept as it is, the field has the last one. -/
theorem text_prepare (held : Attribute) {key : String} {text : Feature → Option String}
    (listed : (⟨key, .any, held⟩ : Rule Attribute) ∈ table) (kept : textField? held = some text)
    (tags : List Tag) :
    text (Classify.prepare tags).1 = (Tag.valuesUnder key tags).getLast? := by
  have other : held ≠ layer := by
    rintro rfl
    cases kept
  have absent : text Feature.empty = none := by cases held <;> cases kept <;> rfl
  rw [(setBy_text kept).prepare listed rfl other, absent, List.filterMap_eq_map']
  exact getD_getLast?_map_some _

end Attribute

/-! ## The layer -/

namespace Layer

variable {tags : List Tag}

/-- Of the layers that are given the first other than zero counts. -/
theorem foldl_read_eq (tags : List Tag) :
    tags.foldl read 0 =
      (((Tag.valuesUnder "layer" tags).map ofText).find? (· ≠ 0)).getD 0 := by
  have kept (tags : List Tag) {layer : Int} (other : layer ≠ 0) :
      tags.foldl read layer = layer := by
    refine List.foldlRecOn tags _ (motive := fun after : Int => after = layer) rfl ?_
    rintro _ rfl tag _
    rw [read, if_neg fun both => other both.2]
  induction tags with
  | nil => rfl
  | cons tag rest ih =>
    rw [List.foldl_cons, Tag.valuesUnder_cons]
    by_cases gives : tag.isLive = true ∧ tag.key = "layer"
    · rw [if_pos gives, read, if_pos ⟨gives, rfl⟩, List.singleton_append, List.map_cons]
      by_cases ground : ofText tag.value = 0
      · rw [ground, ih, List.find?_cons_of_neg (by simp)]
      · rw [kept rest ground, List.find?_cons_of_pos (by simpa using ground), Option.getD_some]
    · rw [if_neg gives, read_of_not_gives gives, ih, List.nil_append]

/-- Where no layer is given, the one that is added is that of the last crossing. -/
theorem implied?_eq_of_not_given (notGiven : ¬ ∃ tag ∈ tags, tag.GivesLayer) :
    implied? tags = ((tags.filter fun tag => tag.Crosses).getLast?).map Tag.crossingLayer := by
  have crossings (tags : List Tag) :
      (tags.filterMap fun tag => if tag.Crosses then some tag.crossingLayer else none) =
        (tags.filter fun tag => tag.Crosses).map Tag.crossingLayer := by
    induction tags with
    | nil => rfl
    | cons tag rest ih => by_cases crosses : tag.Crosses <;> simp [crosses, ih]
  rw [← explicit_mem_hits_iff, ← List.contains_iff_mem] at notGiven
  rw [implied?, if_neg notGiven, filterMap_hits, crossings, List.getLast?_map]

/-- The layer of a crossing as a number. -/
def ofCrossing (crossing : Tag) : Int :=
  if crossing.key = "bridge" then 1 else -1

theorem ofText_crossingLayer (crossing : Tag) :
    ofText crossing.crossingLayer = ofCrossing crossing := by
  rw [Tag.crossingLayer, ofCrossing]
  split <;> decide

end Layer

/-! ## Records -/

/-- What a record has of the attributes among the tags of an element. -/
structure Attribute.ReadOff (tags : List Tag) (feature : Feature) : Prop where
  street : feature.street = (Tag.valuesUnder "addr:street" tags).getLast?
  flats : feature.flats = (Tag.valuesUnder "addr:flats" tags).getLast?
  reference : feature.reference = (Tag.valuesUnder "ref" tags).getLast?
  rank : feature.rank =
    (((Tag.valuesUnder "population" tags).filterMap Population.rankOfText?).getLast?).getD 0
  houseNumber : feature.houseNumber =
    (((Tag.valuesUnder "addr:housenumber" tags).filter HouseNumber.isValid).getLast?).map Text.trim
  /-- Of given layers the first other than zero counts. -/
  layer_given : Tag.valuesUnder "layer" tags ≠ [] →
    feature.layer = (((Tag.valuesUnder "layer" tags).map Layer.ofText).find? (· ≠ 0)).getD 0
  /-- Where none is given, the last crossing tells the layer. -/
  layer_implied : Tag.valuesUnder "layer" tags = [] →
    feature.layer =
      (((tags.filter fun tag => tag.Crosses).getLast?).map Layer.ofCrossing).getD 0

namespace Classify

open Attribute

variable {tags : List Tag}

theorem layer_of_given (given : Tag.valuesUnder "layer" tags ≠ []) :
    (prepare tags).1.layer =
      (((Tag.valuesUnder "layer" tags).map Layer.ofText).find? (· ≠ 0)).getD 0 := by
  have nothing : Layer.implied? tags = none := by
    rw [← Option.not_isSome_iff_eq_none, Layer.isSome_implied?_iff,
      ← Tag.valuesUnder_layer_eq_nil_iff]
    exact fun implied => given implied.1
  rw [layer_prepare, Layer.complete, nothing]
  exact Layer.foldl_read_eq tags

theorem layer_of_not_given (notGiven : Tag.valuesUnder "layer" tags = []) :
    (prepare tags).1.layer =
      (((tags.filter fun tag => tag.Crosses).getLast?).map Layer.ofCrossing).getD 0 := by
  have implied := Layer.implied?_eq_of_not_given (Tag.valuesUnder_layer_eq_nil_iff.mp notGiven)
  rw [layer_prepare, Layer.foldl_read_eq, Layer.complete, implied]
  cases (tags.filter fun tag => tag.Crosses).getLast? with
  | none =>
    dsimp only [Option.map_none]
    rw [notGiven]
    rfl
  | some crossing =>
    dsimp only [Option.map_some]
    rw [Tag.valuesUnder_append, notGiven]
    have only : Tag.valuesUnder "layer" [⟨"layer", crossing.crossingLayer, false⟩] =
      [crossing.crossingLayer] := rfl
    rw [only, List.nil_append, List.map_singleton, Layer.ofText_crossingLayer, Layer.ofCrossing]
    split <;> rfl

/-- Preparation reads the attributes off the tags. -/
theorem readOff_prepare (tags : List Tag) : ReadOff tags (prepare tags).1 where
  street := text_prepare .street (by simp [table]) rfl tags
  flats := text_prepare .flats (by simp [table]) rfl tags
  reference := text_prepare .reference (by simp [table]) rfl tags
  rank := by
    have listed : (⟨"population", .any, .population⟩ : Rule Attribute) ∈ table := by simp [table]
    exact setBy_rank.prepare listed rfl (by decide) tags
  houseNumber := by
    have listed : (⟨"addr:housenumber", .any, .houseNumber⟩ : Rule Attribute) ∈ table := by
      simp [table]
    rw [setBy_houseNumber.prepare listed rfl (by decide) tags, filterMap_houseNumberOf?,
      ← List.getLast?_map]
    exact getD_getLast?_map_some _
  layer_given := layer_of_given
  layer_implied := layer_of_not_given

/-- What a classification reads from the tags it does not change after the walk. -/
theorem Account.readOff {taxonomy : Taxonomy} {landmarks : Landmarks} {options : Options}
    {outcome : Outcome} (account : Account taxonomy landmarks options (prepare tags) outcome) :
    ReadOff tags outcome.feature := by
  have read := readOff_prepare tags
  rw [account.feature]
  exact ⟨read.street, read.flats, read.reference, read.rank, read.houseNumber, read.layer_given,
    read.layer_implied⟩

/-- A classification reads the attributes off the live tags, in whatever order they are and whatever
tags are among them. Of streets, flats and references the last counts, of populations the last that
has a rank, of house numbers the last that looks like one, of layers the first other than zero, and
where no layer is given the last crossing tells it. A tag with a house number that is refused leaves
the house number as it is, and one with a population that is refused the rank: without that tag they
would be the same. -/
theorem attributes_read_off_tags (entries : List Entry) (options : Options) (element : Element) :
    let taxonomy := (Draft.empty.addAccepted entries).freeze
    ∃ outcome, element.classify taxonomy options =
        .ok (outcome, { element with tags := outcome.tags }) ∧
      ReadOff element.tags outcome.feature ∧
      ∀ before refused after, element.tags = before ++ refused :: after →
        ∃ other, { element with tags := before ++ after }.classify taxonomy options =
            .ok (other, { element with tags := other.tags }) ∧
          ((refused.isLive = true ∧ refused.key = "addr:housenumber" →
              HouseNumber.isValid refused.value = false) →
            other.feature.houseNumber = outcome.feature.houseNumber) ∧
          ((refused.isLive = true ∧ refused.key = "population" →
              Population.rankOfText? refused.value = none) →
            other.feature.rank = outcome.feature.rank) := by
  intro taxonomy
  obtain ⟨landmarks, each⟩ := exists_account entries
  obtain ⟨outcome, ran, account⟩ := each options element
  have read := account.readOff
  refine ⟨outcome, ran, read, fun before refused after parts => ?_⟩
  obtain ⟨other, ranOther, accountOther⟩ := each options { element with tags := before ++ after }
  have readOther := accountOther.readOff
  refine ⟨other, ranOther, fun refuses => ?_, fun refuses => ?_⟩
  · rw [read.houseNumber, readOther.houseNumber, parts, Tag.filter_valuesUnder_without refuses]
  · rw [read.rank, readOther.rank, parts, Tag.filterMap_valuesUnder_without refuses]

end Classify

end MapTypes
