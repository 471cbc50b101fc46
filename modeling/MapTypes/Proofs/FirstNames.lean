import MapTypes.Proofs.RecordForm
import MapTypes.Proofs.TagResidue

/-!
Names by language. The language of a key is told by its parts, the longest runs of characters
without a separator (`Names.Parted`). Of the tags that name an element in one language the first
gives the name. As names are kept in the order of their languages, the names of a record are told by
these first tags alone (`Feature.names_congr`), and how tags of different languages stand to one
another has no part in them.
-/

namespace MapTypes

/-! ## Keys -/

namespace Names

/-- A text and its parts. -/
inductive Parted : List Char → List String → Prop
  | nil : Parted [] []
  | separator {c : Char} {text : List Char} {parts : List String} :
      c ∈ separators → Parted text parts → Parted (c :: text) parts
  | last {word : List Char} : word ≠ [] → (∀ c ∈ word, c ∉ separators) →
      Parted word [String.ofList word]
  | part {word text : List Char} {c : Char} {parts : List String} :
      word ≠ [] → (∀ c ∈ word, c ∉ separators) → c ∈ separators → Parted text parts →
      Parted (word ++ c :: text) (String.ofList word :: parts)

/-- The language that the parts of a key stand for. -/
inductive SpeaksOf : List String → String → Prop
  | international {more : List String} : SpeaksOf ("int_name" :: more) "int_name"
  | unmarked : SpeaksOf ["name"] "default"
  | arabic {more : List String} : SpeaksOf ("name" :: "ar1" :: more) "ar"
  | marked {language : String} {more : List String} : language ≠ "ar1" →
      SpeaksOf ("name" :: language :: more) language

/-- A key files names under a language. -/
def FilesUnder (key language : String) : Prop :=
  ∃ parts, Parted key.toList parts ∧ SpeaksOf parts language

variable {key language : String} {text word : List Char} {parts : List String} {tag : Tag}

/-- Every text has parts. -/
theorem exists_parted (text : List Char) : ∃ parts, Parted text parts := by
  induction text with
  | nil => exact ⟨[], .nil⟩
  | cons c rest ih =>
    obtain ⟨parts, parted⟩ := ih
    by_cases breaks : c ∈ separators
    · exact ⟨parts, .separator breaks parted⟩
    · -- The character begins a part, or goes in front of the one that begins the rest.
      have longer {word : List Char} (unbroken : ∀ c ∈ word, c ∉ separators) :
          ∀ other ∈ c :: word, other ∉ separators := List.forall_mem_cons.mpr ⟨breaks, unbroken⟩
      have alone : ∀ other ∈ [c], other ∉ separators := longer (List.forall_mem_nil _)
      cases parted with
      | nil => exact ⟨_, .last (List.cons_ne_nil c []) alone⟩
      | separator breaksNext onward =>
        exact ⟨_, .part (List.cons_ne_nil c []) alone breaksNext onward⟩
      | last _ unbroken => exact ⟨_, .last (List.cons_ne_nil c _) (longer unbroken)⟩
      | part _ unbroken breaksNext onward =>
        exact ⟨_, .part (List.cons_ne_nil c _) (longer unbroken) breaksNext onward⟩

/-- A text has the parts that splitting at the separators gives, less the empty ones. -/
theorem keyParts_of_parted (parted : Parted text parts) :
    keyParts (String.ofList text) = parts := by
  have silent {word : List Char} (unbroken : ∀ c ∈ word, c ∉ separators) :
      ∀ c ∈ word, separators.contains c = false := by
    intro c inside
    rw [← Bool.not_eq_true, List.contains_iff_mem]
    exact unbroken c inside
  rw [keyParts, String.toList_ofList]
  induction parted with
  | nil => simp
  | separator breaks _ ih =>
    rw [List.splitOnP_cons_eq_if_modifyHead, if_pos (List.contains_iff_mem.mpr breaks)]
    simpa using ih
  | last nonempty unbroken =>
    rw [List.splitOnP_eq_singleton (silent unbroken)]
    simp [nonempty]
  | part nonempty unbroken breaks _ ih =>
    rw [List.splitOnP_append_cons_of_forall_mem (silent unbroken) _
      (List.contains_iff_mem.mpr breaks)]
    simpa [nonempty] using ih

theorem parted_iff : Parted key.toList parts ↔ keyParts key = parts := by
  constructor
  · intro parted
    rw [← keyParts_of_parted parted, String.ofList_toList]
  · rintro rfl
    obtain ⟨parts, parted⟩ := exists_parted key.toList
    have same := keyParts_of_parted parted
    rw [String.ofList_toList] at same
    rwa [same]

/-- The language that is read from a key is the one its parts stand for. -/
theorem languageOf?_eq_some_iff : languageOf? key = some language ↔ FilesUnder key language := by
  have read : FilesUnder key language ↔ SpeaksOf (keyParts key) language := by
    simp [FilesUnder, parted_iff]
  rw [read, languageOf?]
  constructor
  · intro filed
    split at filed
    · rename_i parts
      cases filed
      rw [parts]
      exact .international
    · rename_i parts
      cases filed
      rw [parts]
      exact .unmarked
    · rename_i parts
      cases filed
      rw [parts]
      exact .arabic
    · rename_i other parts
      cases filed
      rw [parts]
      exact .marked other
    · cases filed
  · intro speaks
    generalize keyParts key = parts at speaks
    cases speaks with
    | international => rfl
    | unmarked => rfl
    | arabic => rfl
    | marked => simp

end Names

/-- A tag names the element in a language: it is live and not ignored, its value is not empty, and
its key files the value under the language. -/
structure Tag.NamesIn (language : String) (tag : Tag) : Prop where
  live : tag.isLive = true
  heeded : tag.isIgnored = false
  nonempty : tag.value ≠ ""
  filed : Names.FilesUnder tag.key language

namespace Names

variable {language : String} {tag : Tag} {tags : List Tag}

theorem languageOfTag?_eq_some_iff :
    languageOfTag? tag = some language ↔ tag.NamesIn language := by
  rw [languageOfTag?]
  constructor
  · intro found
    split at found
    · cases found
    · rename_i heeded
      rw [Bool.or_eq_true, not_or, Bool.not_eq_true, beq_iff_eq] at heeded
      refine ⟨?_, heeded.1, heeded.2, languageOf?_eq_some_iff.mp found⟩
      by_contra dead
      rw [Tag.isIgnored_of_dead (Bool.not_eq_true _ ▸ dead)] at heeded
      cases heeded.1
  · intro names
    rw [if_neg, languageOf?_eq_some_iff]
    · exact names.filed
    · simp [names.heeded, names.nonempty]

end Names

instance (language : String) (tag : Tag) : Decidable (tag.NamesIn language) :=
  decidable_of_iff _ Names.languageOfTag?_eq_some_iff

/-! ## Records -/

namespace Feature

variable {names others : List (String × String)} {language other name : String}

/-- Names in the order of their languages, each language once. -/
def Ordered (names : List (String × String)) : Prop :=
  names.Pairwise fun first second => first.1 < second.1

theorem ordered_insertName (ordered : Ordered names) (language name : String) :
    Ordered (insertName language name names) := by
  induction names with
  | nil => exact List.pairwise_singleton _ _
  | cons entry rest ih =>
    obtain ⟨other, kept⟩ := entry
    obtain ⟨first, orderedRest⟩ := List.pairwise_cons.mp ordered
    rw [insertName]
    split
    · exact ordered
    · rename_i different
      split
      · rename_i before
        refine List.pairwise_cons.mpr ⟨?_, ordered⟩
        intro entry member
        rcases List.mem_cons.mp member with rfl | later
        · exact before
        · exact lt_trans before (first entry later)
      · rename_i notBefore
        refine List.pairwise_cons.mpr ⟨?_, ih orderedRest⟩
        intro entry member
        rcases mem_insertName member with rfl | later
        · exact lt_of_le_of_ne (not_lt.mp notBefore) (Ne.symm different)
        · exact first entry later

theorem lookup_cons_of_ne {here kept : String} (different : other ≠ here) :
    ((here, kept) :: names).lookup other = names.lookup other := by
  rw [List.lookup_cons, beq_false_of_ne different]

theorem lookup_insertName (new : names.lookup language = none) :
    (insertName language name names).lookup other =
      if other = language then some name else names.lookup other := by
  induction names with
  | nil =>
    rw [insertName]
    by_cases same : other = language
    · rw [same, List.lookup_cons_self, if_pos rfl]
    · rw [lookup_cons_of_ne same, if_neg same]
  | cons entry rest ih =>
    obtain ⟨here, kept⟩ := entry
    have different : language ≠ here := by
      rintro rfl
      rw [List.lookup_cons_self] at new
      cases new
    rw [lookup_cons_of_ne different] at new
    rw [insertName, if_neg different]
    split
    · by_cases same : other = language
      · rw [same, List.lookup_cons_self, if_pos rfl]
      · rw [lookup_cons_of_ne same, if_neg same]
    · by_cases top : other = here
      · rw [top, List.lookup_cons_self, List.lookup_cons_self, if_neg (Ne.symm different)]
      · rw [lookup_cons_of_ne top, lookup_cons_of_ne top, ih new]

/-- A language keeps the name it has; else the new name is given if it is in that language. -/
theorem name?_addName (feature : Feature) (language name other : String) :
    (feature.addName language name).1.name? other =
      (feature.name? other).or (if other = language then some name else none) := by
  rw [addName]
  cases known : feature.name? language with
  | some kept =>
    rw [if_pos (Option.isSome_some)]
    by_cases same : other = language
    · rw [same, known, Option.some_or]
    · rw [if_neg same, Option.or_none]
  | none =>
    rw [if_neg (by simp)]
    have inserted : (insertName language name feature.names).lookup other = _ :=
      lookup_insertName known
    rw [name?, inserted]
    by_cases same : other = language
    · rw [if_pos same, if_pos same, same, known, Option.none_or]
    · rw [if_neg same, if_neg same, Option.or_none, name?]

theorem mem_iff_lookup (ordered : Ordered names) :
    (language, name) ∈ names ↔ names.lookup language = some name := by
  induction names with
  | nil => simp
  | cons entry rest ih =>
    obtain ⟨here, kept⟩ := entry
    obtain ⟨first, orderedRest⟩ := List.pairwise_cons.mp ordered
    rw [List.mem_cons, Prod.mk.injEq]
    by_cases same : language = here
    · subst same
      have absent : (language, name) ∉ rest := fun later => lt_irrefl language (first _ later)
      simp [absent, eq_comm]
    · rw [lookup_cons_of_ne same, ← ih orderedRest]
      simp [same]

instance : Std.Irrefl fun first second : String × String => first.1 < second.1 :=
  ⟨fun entry => lt_irrefl entry.1⟩

instance : Std.Antisymm fun first second : String × String => first.1 < second.1 :=
  ⟨fun _ _ less greater => absurd greater (lt_asymm less)⟩

/-- Names in order are told by the name in each language. -/
theorem names_congr (ordered : Ordered names) (orderedOthers : Ordered others)
    (same : ∀ language, names.lookup language = others.lookup language) : names = others := by
  apply List.Pairwise.eq_of_mem_iff ordered orderedOthers
  rintro ⟨language, name⟩
  rw [mem_iff_lookup ordered, mem_iff_lookup orderedOthers, same]

end Feature

/-! ## Preparation -/

namespace Names

variable {language : String} {tags : List Tag}

theorem name?_extract (feature : Feature) (tag : Tag) (language : String) :
    (extract feature tag).1.name? language =
      (feature.name? language).or
        (if tag.NamesIn language then some (Unicode.normalizeKC tag.value) else none) := by
  simp only [← languageOfTag?_eq_some_iff]
  rw [extract]
  cases languageOfTag? tag with
  | none => simp
  | some other => simp [Feature.name?_addName, eq_comm]

/-- Of the tags that name the element in a language the first counts, unless the language has a name
already. -/
theorem name?_foldl_extract (feature : Feature) (tags : List Tag) (language : String) :
    (tags.foldl (fun feature tag => (extract feature tag).1) feature).name? language =
      (feature.name? language).or
        ((tags.find? fun tag => tag.NamesIn language).map fun tag =>
          Unicode.normalizeKC tag.value) := by
  induction tags generalizing feature with
  | nil => simp
  | cons tag rest ih =>
    rw [List.foldl_cons, ih, name?_extract, Option.or_assoc, List.find?_cons]
    by_cases names : tag.NamesIn language <;> simp [names]

theorem ordered_foldl_extract {feature : Feature} (ordered : Feature.Ordered feature.names)
    (tags : List Tag) :
    Feature.Ordered (tags.foldl (fun feature tag => (extract feature tag).1) feature).names := by
  refine List.foldlRecOn tags _ (motive := fun grown : Feature => Feature.Ordered grown.names)
    ordered ?_
  intro grown kept tag _
  rw [extract]
  split
  · rw [Feature.addName]
    split
    · exact kept
    · exact Feature.ordered_insertName kept _ _
  · exact kept

end Names

namespace Classify

/-- Attributes have no part in the names. -/
theorem names_prepare (tags : List Tag) :
    (prepare tags).1.names =
      ((Layer.complete tags).foldl (fun feature tag => (Names.extract feature tag).1)
        Feature.empty).names := by
  rw [prepare_eq]
  refine List.foldlRecOn _ _ (motive := fun grown : Feature => grown.names = _) rfl ?_
  intro grown kept tag _
  rw [(Attribute.extractBy_keeps Attribute.table grown tag).2, kept]

theorem ordered_prepare (tags : List Tag) : Feature.Ordered (prepare tags).1.names := by
  have before : Feature.Ordered Feature.empty.names := List.Pairwise.nil
  rw [names_prepare]
  exact Names.ordered_foldl_extract before _

/-- The layer that is added names nothing. -/
theorem not_namesIn_of_added? {tags : List Tag} {tag : Tag} (added : Layer.added? tags = some tag)
    (language : String) : ¬ tag.NamesIn language := by
  obtain ⟨layer, _, rfl⟩ := Option.map_eq_some_iff.mp added
  intro names
  have filed : Names.languageOf? "layer" = some language :=
    Names.languageOf?_eq_some_iff.mpr names.filed
  exact absurd filed (by rw [show Names.languageOf? "layer" = none by decide]; simp)

/-- The name in a language is read from the first tag that names the element in it. -/
theorem name?_prepare (tags : List Tag) (language : String) :
    (prepare tags).1.name? language =
      (tags.find? fun tag => tag.NamesIn language).map fun tag =>
        Unicode.normalizeKC tag.value := by
  have read : (prepare tags).1.name? language = _ :=
    (congrArg (List.lookup language) (names_prepare tags)).trans
      (Names.name?_foldl_extract Feature.empty (Layer.complete tags) language)
  have silent : ((Layer.added? tags).toList.find? fun tag => tag.NamesIn language) = none := by
    simp only [List.find?_eq_none, Option.mem_toList, decide_eq_true_eq]
    exact fun tag added => not_namesIn_of_added? added language
  rw [read, Layer.complete_eq, List.find?_append, silent, Option.or_none]
  exact Option.none_or

/-- Tags that agree for each language on which tags name the element in it, and in which order,
give the same names. -/
theorem names_prepare_congr {tags others : List Tag}
    (alike : ∀ language, (tags.filter fun tag => tag.NamesIn language) =
      others.filter fun tag => tag.NamesIn language) :
    (prepare tags).1.names = (prepare others).1.names := by
  refine Feature.names_congr (ordered_prepare tags) (ordered_prepare others) fun language => ?_
  change (prepare tags).1.name? language = (prepare others).1.name? language
  rw [name?_prepare, name?_prepare, ← List.head?_filter, alike, List.head?_filter]

/-- The first name of a language wins. Unless an entrance became an address, the record has in each
language the name in normal form that the first tag gives which is live and not ignored, has a value
and has a key of that language, and no name where there is no such tag. The language is told by the
parts of the key. To put the tags in another order, in which those of one language stay in theirs,
leaves the names as they are. -/
theorem first_name_of_language_wins (entries : List Entry) (options : Options)
    (element : Element) :
    let taxonomy := (Draft.empty.addAccepted entries).freeze
    ∃ outcome, element.classify taxonomy options =
        .ok (outcome, { element with tags := outcome.tags }) ∧
      (∀ key language, Names.languageOf? key = some language ↔ Names.FilesUnder key language) ∧
      (outcome.addressFixup = false → ∀ language,
        (∀ name, outcome.feature.name? language = some name ↔
          ∃ before tag after, element.tags = before ++ tag :: after ∧ tag.NamesIn language ∧
            (∀ earlier ∈ before, ¬ earlier.NamesIn language) ∧
            name = Unicode.normalizeKC tag.value) ∧
        (outcome.feature.name? language = none ↔
          ∀ tag ∈ element.tags, ¬ tag.NamesIn language)) ∧
      ∀ tags : List Tag,
        (∀ language, (tags.filter fun tag => tag.NamesIn language) =
          element.tags.filter fun tag => tag.NamesIn language) →
        ∃ other, { element with tags := tags }.classify taxonomy options =
            .ok (other, { element with tags := other.tags }) ∧
          (other.addressFixup = outcome.addressFixup →
            other.feature.names = outcome.feature.names) := by
  intro taxonomy
  obtain ⟨landmarks, each⟩ := exists_account entries
  obtain ⟨outcome, ran, account⟩ := each options element
  have names : outcome.feature.names =
      if outcome.addressFixup then [] else (prepare element.tags).1.names := by
    rw [account.feature]
  refine ⟨outcome, ran, fun key language => Names.languageOf?_eq_some_iff, ?_, ?_⟩
  · intro unfixed language
    have read : outcome.feature.name? language = _ :=
      (congrArg (List.lookup language) (names.trans (by rw [unfixed]; rfl))).trans
        (name?_prepare element.tags language)
    rw [read]
    constructor
    · intro name
      simp only [Option.map_eq_some_iff, List.find?_eq_some_iff_append]
      constructor
      · rintro ⟨tag, ⟨names, before, after, parts, others⟩, rfl⟩
        exact ⟨before, tag, after, parts, of_decide_eq_true names, by simpa using others, rfl⟩
      · rintro ⟨before, tag, after, parts, names, others, rfl⟩
        exact ⟨tag, ⟨decide_eq_true names, before, after, parts, by simpa using others⟩, rfl⟩
    · simp [List.find?_eq_none]
  · intro tags alike
    obtain ⟨other, ranOther, accountOther⟩ := each options { element with tags := tags }
    refine ⟨other, ranOther, fun sameFixup => ?_⟩
    rw [names, accountOther.feature, sameFixup]
    dsimp only
    rw [names_prepare_congr alike]

end Classify

end MapTypes
