import MapTypes.Proofs.Numerals
import MapTypes.Proofs.WalkSteps

/-!
Bare integers and the walk. The walk looks at a tag in three ways only: whether it is a candidate,
where its key leads and where its value does. A change of tags that it does not notice in any of
them (`Walk.Unnoticed`) changes no trail. So a tag with a value that may not stand for a category is
as good as any other such tag with its key, and among bare integers these are the values that fit a
signed word of 64 bits. A longer integer is text to the walk and is looked up like other text.
-/

namespace MapTypes

/-! ## Changes that the walk does not notice -/

namespace Walk

/-- A change of tags that leaves what the walk looks at: which tags are candidates, and where they
lead by their keys and by their values. -/
structure Unnoticed (taxonomy : Taxonomy) (change : Tag → Tag) : Prop where
  candidate : ∀ tag, (change tag).isCandidate = tag.isCandidate
  byKey : ∀ node tag,
    descentByKey? taxonomy node (change tag) = descentByKey? taxonomy node tag
  byValue : ∀ node tag,
    descentByValue? taxonomy node (change tag) = descentByValue? taxonomy node tag

/-- Changes the tag of a slot. -/
def Slot.change (change : Tag → Tag) (slot : Slot) : Slot :=
  { slot with tag := change slot.tag }

/-- Changes the tags that are left after a claim. -/
def Claim.change (change : Tag → Tag) (claim : Claim) : Claim :=
  { claim with slots := claim.slots.map (Slot.change change) }

theorem slotsOf_map (change : Tag → Tag) (tags : List Tag) :
    slotsOf (tags.map change) = (slotsOf tags).map (Slot.change change) := by
  rw [slotsOf, slotsOf, List.map_map, List.map_map]
  rfl

variable {taxonomy : Taxonomy} {change : Tag → Tag}

namespace Unnoticed

theorem claim? (unnoticed : Unnoticed taxonomy change) {leads : Tag → Option Descent}
    (same : ∀ tag, leads (change tag) = leads tag) (slots : List Slot) :
    Walk.claim? leads (slots.map (Slot.change change)) =
      (Walk.claim? leads slots).map (Claim.change change) := by
  induction slots with
  | nil => rfl
  | cons slot rest ih =>
    have isOpen : (slot.change change).isOpen = slot.isOpen := by
      rw [Slot.isOpen, Slot.isOpen]
      exact congrArg _ (unnoticed.candidate slot.tag)
    have led : leads (slot.change change).tag = leads slot.tag := same slot.tag
    rw [List.map_cons, Walk.claim?, Walk.claim?, isOpen, led, ih]
    split
    · rfl
    · rw [Option.map_map, Option.map_map]
      rfl

theorem step? (unnoticed : Unnoticed taxonomy change) (node : Node) (slots : List Slot) :
    Walk.step? taxonomy node (slots.map (Slot.change change)) =
      (Walk.step? taxonomy node slots).map (Claim.change change) := by
  rw [Walk.step?, Walk.step?, unnoticed.claim? (unnoticed.byValue node),
    unnoticed.claim? (unnoticed.byKey node), Option.map_or]

/-- A trail goes on in the same way. -/
theorem extend (unnoticed : Unnoticed taxonomy change) (node : Node) (slots : List Slot) :
    Walk.extend taxonomy node (slots.map (Slot.change change)) =
      ((Walk.extend taxonomy node slots).1,
        (Walk.extend taxonomy node slots).2.map (Slot.change change)) := by
  fun_induction Walk.extend taxonomy node slots with
  | case1 node slots claim found after ih =>
    have step := unnoticed.step? node slots
    rw [found, Option.map_some] at step
    rw [Walk.extend]
    split
    · rename_i next again
      rw [step] at again
      cases again
      rw [Claim.change, ih]
    · rename_i stuck
      rw [step] at stuck
      cases stuck
  | case2 node slots stuck =>
    have step := unnoticed.step? node slots
    rw [stuck, Option.map_none] at step
    rw [Walk.extend]
    split
    · rename_i next found
      rw [step] at found
      cases found
    · rfl

theorem trailsFrom (unnoticed : Unnoticed taxonomy change) (slots : List Slot) :
    Walk.trailsFrom taxonomy (slots.map (Slot.change change)) = Walk.trailsFrom taxonomy slots := by
  have start := unnoticed.claim? (unnoticed.byKey taxonomy.root)
  fun_induction Walk.trailsFrom taxonomy slots with
  | case1 slots nothing =>
    have start := start slots
    rw [nothing, Option.map_none] at start
    rw [Walk.trailsFrom]
    split
    · rfl
    · rename_i claim found
      rw [start] at found
      cases found
  | case2 slots claim found after ih =>
    have start := start slots
    rw [found, Option.map_some] at start
    rw [Walk.trailsFrom]
    split
    · rename_i nothing
      rw [start] at nothing
      cases nothing
    · rename_i next again
      rw [start] at again
      cases again
      rw [Claim.change, unnoticed.extend]
      exact congrArg _ ih

/-- The same trails are found, with the same steps at the same positions. -/
theorem discover (unnoticed : Unnoticed taxonomy change) (tags : List Tag) :
    Walk.discover taxonomy (tags.map change) = Walk.discover taxonomy tags := by
  rw [Walk.discover, Walk.discover, trails, trails, slotsOf_map, unnoticed.trailsFrom]

end Unnoticed

end Walk

/-! ## Values without a part in the walk -/

namespace Tag

variable {tag : Tag}

theorem valueClassifies_eq_false_iff :
    tag.valueClassifies = false ↔
      tag.key ∉ levelKeys ∧ ∃ number, Text.BareInteger tag.value number ∧ Text.FitsWord number := by
  rw [valueClassifies, Bool.or_eq_false_iff, Option.isNone_eq_false_iff, Option.isSome_iff_exists,
    and_comm]
  simp only [Text.signed64?_eq_some_iff, List.contains_eq_mem, decide_eq_false_iff_not]

/-- Of the values that deny their keys one is a bare integer. -/
theorem eq_of_denies {value : String} {number : Int} (bare : Text.BareInteger value number)
    (denies : value ∈ denials) : value = "-1" := by
  have notBare {word : String} (none : Text.digits? (Text.Sign.split word.toList).2 = none) :
      ¬ Text.BareInteger word number := by
    rw [Text.bareInteger_iff, none]
    simp
  simp only [denials, List.mem_cons, List.not_mem_nil, or_false] at denies
  rcases denies with rfl | rfl | rfl
  · exact absurd bare (notBare (by decide))
  · exact absurd bare (notBare (by decide))
  · rfl

/-- Puts nought for a value that may not stand for a category and denies nothing. -/
def blank (tag : Tag) : Tag :=
  if tag.valueClassifies = false ∧ tag.value ∉ denials then { tag with value := "0" } else tag

theorem blank_of_bareInteger {number : Int} (noLevel : tag.key ∉ levelKeys)
    (bare : Text.BareInteger tag.value number) (fits : Text.FitsWord number)
    (affirms : tag.value ≠ "-1") : tag.blank = { tag with value := "0" } :=
  if_pos ⟨valueClassifies_eq_false_iff.mpr ⟨noLevel, number, bare, fits⟩,
    mt (eq_of_denies bare) affirms⟩

end Tag

namespace Walk

variable {taxonomy : Taxonomy}

/-- A tag whose value may not stand for a category leads nowhere by it, neither alone nor behind its
key. -/
theorem leads_of_not_valueClassifies {tag : Tag} (silent : tag.valueClassifies = false)
    (node : Node) :
    descentByValue? taxonomy node tag = none ∧
      descentByKey? taxonomy node tag = (taxonomy.child? node tag.key).map (⟨·, none⟩) := by
  simp only [descentByValue?, descentByKey?, silent, Bool.false_eq_true, if_false, and_self]

theorem unnoticed_blank (taxonomy : Taxonomy) : Unnoticed taxonomy Tag.blank := by
  have cases (tag : Tag) : tag.blank = tag ∨
      tag.valueClassifies = false ∧ tag.value ∉ Tag.denials ∧
        tag.blank = { tag with value := "0" } := by
    rw [Tag.blank]
    split
    · rename_i blanked
      exact .inr ⟨blanked.1, blanked.2, rfl⟩
    · exact .inl rfl
  have silent {tag : Tag} (none : tag.valueClassifies = false) :
      ({ tag with value := "0" } : Tag).valueClassifies = false := by
    rw [Tag.valueClassifies, Bool.or_eq_false_iff] at none ⊢
    exact ⟨show (Text.signed64? "0").isNone = false by decide, none.2⟩
  constructor
  case candidate =>
    intro tag
    obtain same | ⟨_, affirms, blanked⟩ := cases tag
    · rw [same]
    · have denies : Tag.denials.contains tag.value = Tag.denials.contains "0" := by
        rw [List.contains_eq_mem, decide_eq_false affirms]
        rfl
      rw [blanked, Tag.isCandidate, Tag.isCandidate, Tag.isIgnored, Tag.isIgnored, denies]
      rfl
  case byKey =>
    intro node tag
    obtain same | ⟨none, _, blanked⟩ := cases tag
    · rw [same]
    · rw [blanked, (leads_of_not_valueClassifies none node).2,
        (leads_of_not_valueClassifies (silent none) node).2]
  case byValue =>
    intro node tag
    obtain same | ⟨none, _, blanked⟩ := cases tag
    · rw [same]
    · rw [blanked, (leads_of_not_valueClassifies none node).1,
        (leads_of_not_valueClassifies (silent none) node).1]

/-- A bare integer under a key that is not the key of a level may stand for a category just where it
does not fit a signed word of 64 bits. One that fits is never looked up, and the walk finds the same
with any other in its place, `-1` apart, which denies the key. -/
theorem word_sized_integers_never_looked_up (entries : List Entry) {tag : Tag} {number : Int}
    (noLevel : tag.key ∉ Tag.levelKeys) (bare : Text.BareInteger tag.value number) :
    let taxonomy := (Draft.empty.addAccepted entries).freeze
    (tag.valueClassifies = true ↔ ¬ Text.FitsWord number) ∧
    (Text.FitsWord number →
      (∀ node, descentByValue? taxonomy node tag = none ∧
        ∀ descent, descentByKey? taxonomy node tag = some descent → descent.second = none) ∧
      ∀ other otherNumber, Text.BareInteger other otherNumber → Text.FitsWord otherNumber →
        tag.value ≠ "-1" → other ≠ "-1" → ∀ before after, ∃ discoveries,
          discover taxonomy (before ++ tag :: after) = .ok discoveries ∧
          discover taxonomy (before ++ { tag with value := other } :: after) =
            .ok discoveries) := by
  intro taxonomy
  have silent_iff : tag.valueClassifies = false ↔ Text.FitsWord number := by
    rw [Tag.valueClassifies_eq_false_iff, and_iff_right noLevel]
    constructor
    · rintro ⟨_, again, fits⟩
      rwa [bare.unique again]
    · exact fun fits => ⟨number, bare, fits⟩
  refine ⟨by rw [← silent_iff, Bool.not_eq_false], fun fits => ⟨fun node => ?_, ?_⟩⟩
  · obtain ⟨byValue, byKey⟩ := leads_of_not_valueClassifies (silent_iff.mpr fits) node
    refine ⟨byValue, fun descent led => ?_⟩
    rw [byKey, Option.map_eq_some_iff] at led
    obtain ⟨_, _, rfl⟩ := led
    rfl
  · intro other otherNumber bareOther fitsOther affirms affirmsOther before after
    obtain ⟨discoveries, ran⟩ :=
      exists_discover (Taxonomy.sound_freeze entries) (before ++ tag :: after)
    refine ⟨discoveries, ran, ?_⟩
    -- With nought for both values the two lists are the same.
    have blanked : (before ++ { tag with value := other } :: after).map Tag.blank =
        (before ++ tag :: after).map Tag.blank := by
      rw [List.map_append, List.map_append, List.map_cons, List.map_cons,
        Tag.blank_of_bareInteger noLevel bare fits affirms,
        @Tag.blank_of_bareInteger { tag with value := other } _ noLevel bareOther fitsOther
          affirmsOther]
    rw [← (unnoticed_blank taxonomy).discover, blanked, (unnoticed_blank taxonomy).discover, ran]

/-- A building is no more found by its number than by another, though the number is a label. -/
theorem twelve_never_looked_up :
    let taxonomy := (Draft.empty.addAccepted
      [⟨["building"], true⟩, ⟨["building", "12"], true⟩]).freeze
    let tag : Tag := ⟨"building", "12", false⟩
    tag.key ∉ Tag.levelKeys ∧ Text.BareInteger tag.value 12 ∧ tag.valueClassifies = false ∧
    ∃ discoveries, discover taxonomy [tag, ⟨"area", "yes", false⟩] = .ok discoveries ∧
      discover taxonomy [⟨"building", "-7", false⟩, ⟨"area", "yes", false⟩] = .ok discoveries := by
  intro taxonomy tag
  have noLevel : tag.key ∉ Tag.levelKeys := by decide
  have bare : Text.BareInteger tag.value 12 := Text.bareInteger_iff.mpr (by decide)
  have bareOther : Text.BareInteger "-7" (-7) := Text.bareInteger_iff.mpr (by decide)
  obtain ⟨_, same⟩ := word_sized_integers_never_looked_up
    [⟨["building"], true⟩, ⟨["building", "12"], true⟩] noLevel bare
  refine ⟨noLevel, bare, by decide, ?_⟩
  exact (same (by decide)).2 "-7" (-7) bareOther (by decide) (by decide) (by decide) []
    [⟨"area", "yes", false⟩]

/-- An integer beyond the word is looked up: the building is found by its number, and with another
number it is not. -/
theorem long_integer_looked_up :
    let taxonomy := (Draft.empty.addAccepted
      [⟨["building"], true⟩, ⟨["building", "99999999999999999999"], true⟩]).freeze
    "building" ∉ Tag.levelKeys ∧
    Text.BareInteger "99999999999999999999" 99999999999999999999 ∧ Text.BareInteger "5" 5 ∧
    ∃ long short, discover taxonomy [⟨"building", "99999999999999999999", false⟩] = .ok [long] ∧
      discover taxonomy [⟨"building", "5", false⟩] = .ok [short] ∧
      long.labels = ["building", "99999999999999999999"] ∧ short.labels = ["building"] := by
  intro taxonomy
  refine ⟨by decide, Text.bareInteger_iff.mpr (by decide), Text.bareInteger_iff.mpr (by decide),
    ⟨⟨0x01010000⟩, ["building", "99999999999999999999"], true⟩,
    ⟨⟨0x01000000⟩, ["building"], true⟩, ?_, ?_, rfl, rfl⟩
  · decide +kernel
  · decide +kernel

end Walk

end MapTypes
