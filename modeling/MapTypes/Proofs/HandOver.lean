import MapTypes.Metadata
import MapTypes.Proofs.FirstNames
import MapTypes.Proofs.InertTags

/-!
Hand-over to processors. A processor that also writes down its calls is a processor itself
(`Processor.recorded`), and what it does otherwise is the same. Its calls show how tags are handed
over (`Handed`): they are the tags that are not ignored, one by one up to the first that is claimed,
and each call is given the record and the state that the call before it left. For a processor that
stores names it follows which names the record has at the end: those that classification gave it,
and for every other key that of the first tag handed over.
-/

namespace MapTypes

/-- A call of a processor: the tag that is handed over, and the record and the state of the
processor before it. -/
structure Call (σ : Type) where
  tag : Tag
  feature : Feature
  state : σ

variable {σ : Type}

/-- Whether a processor claims the tag of a call. -/
def Call.claimedBy (call : Call σ) (process : Processor σ) : Bool :=
  (process call.tag call.feature call.state).1

/-- The record and the state that a call leaves. -/
def Call.leaves (call : Call σ) (process : Processor σ) : Feature × σ :=
  (process call.tag call.feature call.state).2

/-- A processor together with a list of its calls. -/
def Processor.recorded (process : Processor σ) : Processor (σ × List (Call σ)) :=
  fun tag feature state =>
    let answer := process tag feature state.1
    (answer.1, answer.2.1, answer.2.2, state.2 ++ [⟨tag, feature, state.1⟩])

/-- What some calls leave of the record and the state that were there before them. -/
def leftBy (process : Processor σ) (start : Feature × σ) (calls : List (Call σ)) : Feature × σ :=
  (calls.getLast?.map (·.leaves process)).getD start

theorem leftBy_cons (process : Processor σ) (start : Feature × σ) (call : Call σ)
    (calls : List (Call σ)) :
    leftBy process start (call :: calls) = leftBy process (call.leaves process) calls := by
  cases calls with
  | nil => rfl
  | cons next rest =>
    rw [leftBy, leftBy, List.getLast?_cons_cons, List.getLast?_cons]
    rfl

/-- How tags are handed over to a processor. -/
structure Handed (process : Processor σ) (tags : List Tag) (start final : Feature × σ)
    (calls : List (Call σ)) : Prop where
  /-- The tags are handed over in their order, and some are left only where the last was claimed. -/
  tags : ∃ rest, tags = calls.map Call.tag ++ rest ∧
    (rest ≠ [] → ∃ last ∈ calls.getLast?, last.claimedBy process = true)
  /-- After a claim there is no call. -/
  claimed : ∀ before call after, calls = before ++ call :: after →
    call.claimedBy process = true → after = []
  /-- A call is given what the calls before it left, the first what was there at the start. -/
  given : ∀ before call after, calls = before ++ call :: after →
    (call.feature, call.state) = leftBy process start before
  final : final = leftBy process start calls

namespace Handed

variable {process : Processor σ} {start final : Feature × σ} {tag : Tag} {tags : List Tag}
variable {calls : List (Call σ)}

theorem nil : Handed process [] start start [] where
  tags := ⟨[], rfl, fun some => absurd rfl some⟩
  claimed before call after parts := by simp at parts
  given before call after parts := by simp at parts
  final := rfl

theorem stop (claims : (process tag start.1 start.2).1 = true) :
    Handed process (tag :: tags) start (process tag start.1 start.2).2
      [⟨tag, start.1, start.2⟩] where
  tags := ⟨tags, rfl, fun _ => ⟨_, rfl, claims⟩⟩
  claimed before call after parts _ := by
    rcases List.cons_eq_append_iff.mp parts with ⟨_, parts⟩ | ⟨_, _, parts⟩
    · exact (List.cons.inj parts).2
    · simp at parts
  given before call after parts := by
    rcases List.cons_eq_append_iff.mp parts with ⟨first, parts⟩ | ⟨_, _, parts⟩
    · rw [first, (List.cons.inj parts).1]
      rfl
    · simp at parts
  final := rfl

theorem cons (passes : (process tag start.1 start.2).1 = false)
    (onward : Handed process tags (process tag start.1 start.2).2 final calls) :
    Handed process (tag :: tags) start final (⟨tag, start.1, start.2⟩ :: calls) where
  tags := by
    obtain ⟨rest, split, claims⟩ := onward.tags
    refine ⟨rest, by rw [split]; rfl, fun some => ?_⟩
    obtain ⟨last, isLast, claims⟩ := claims some
    exact ⟨last, by rw [List.getLast?_cons, isLast]; rfl, claims⟩
  claimed before call after parts claims := by
    rcases List.cons_eq_append_iff.mp parts with ⟨_, parts⟩ | ⟨later, _, parts⟩
    · rw [(List.cons.inj parts).1, Call.claimedBy, passes] at claims
      cases claims
    · exact onward.claimed later call after parts claims
  given before call after parts := by
    rcases List.cons_eq_append_iff.mp parts with ⟨first, parts⟩ | ⟨later, first, parts⟩
    · rw [first, (List.cons.inj parts).1]
      rfl
    · rw [first, leftBy_cons]
      exact onward.given later call after parts
  final := by
    rw [leftBy_cons]
    exact onward.final

end Handed

/-- To write down its calls changes nothing else about a processor, and the calls are those of a
hand-over of the tags that are not ignored. -/
theorem handOver_recorded (process : Processor σ) (feature : Feature) (state : σ)
    (tags : List Tag) :
    ∃ calls, (∀ before, handOver process.recorded feature (state, before) tags =
        ((handOver process feature state tags).1, (handOver process feature state tags).2,
          before ++ calls)) ∧
      Handed process (tags.filter (!·.isIgnored)) (feature, state)
        (handOver process feature state tags) calls := by
  induction tags generalizing feature state with
  | nil => exact ⟨[], fun before => by rw [List.append_nil]; rfl, .nil⟩
  | cons tag rest ih =>
    cases ignored : tag.isIgnored with
    | true =>
      obtain ⟨calls, records, handed⟩ := ih feature state
      refine ⟨calls, fun before => ?_, ?_⟩
      · rw [handOver, if_pos ignored, records, handOver, if_pos ignored]
      · rw [List.filter_cons_of_neg (by simp [ignored]), handOver, if_pos ignored]
        exact handed
    | false =>
      have heeded : ¬ tag.isIgnored = true := by simp [ignored]
      rw [List.filter_cons_of_pos (by simp [ignored]), handOver, if_neg heeded]
      cases claims : (process tag feature state).1 with
      | true =>
        refine ⟨[⟨tag, feature, state⟩], fun before => ?_, ?_⟩
        · simp [handOver, heeded, Processor.recorded, claims]
        · simp only [claims, if_true]
          exact .stop claims
      | false =>
        obtain ⟨calls, records, handed⟩ := ih (process tag feature state).2.1
          (process tag feature state).2.2
        refine ⟨⟨tag, feature, state⟩ :: calls, fun before => ?_, ?_⟩
        · simp [handOver, heeded, Processor.recorded, claims, records]
        · simp only [claims]
          exact .cons claims handed

/-! ## Collectors -/

theorem Feature.addName_snd (feature : Feature) (language name : String) :
    (feature.addName language name).2 = (feature.name? language).isNone := by
  rw [addName]
  cases feature.name? language <;> rfl

/-- What is written down of a call by a collector that stores: the name is stored just when the key
has none before the call. -/
def Sighting.ofCall (typeCount : Nat) (call : Call σ) : Sighting :=
  ⟨call.tag.key, call.tag.value, typeCount, some (call.feature.name? call.tag.key).isNone⟩

/-- The members of a list up to the first that stops it, with that one. -/
def upToFirst {α : Type} (stops : α → Bool) (xs : List α) : List α :=
  xs.takeWhile (!stops ·) ++ (xs.dropWhile (!stops ·)).take 1

namespace Handed

variable {process : Processor σ} {start final : Feature × σ} {tags : List Tag}
variable {calls : List (Call σ)}

/-- Where it is the tag that tells whether it is claimed, the tags are handed over up to the first
of those. -/
theorem map_tag_eq (handed : Handed process tags start final calls) {stops : Tag → Bool}
    (claims : ∀ call : Call σ, call.claimedBy process = stops call.tag) :
    calls.map Call.tag = upToFirst stops tags := by
  obtain ⟨rest, split, stopped⟩ := handed.tags
  rcases List.eq_nil_or_concat calls with rfl | ⟨before, last, parts⟩
  · have done : rest = [] := by
      by_contra some
      obtain ⟨last, isLast, _⟩ := stopped some
      cases isLast
    rw [split, done]
    rfl
  · rw [List.concat_eq_append] at parts
    have passed : ∀ tag ∈ before.map Call.tag, (!stops tag) = true := by
      intro tag member
      obtain ⟨call, listed, rfl⟩ := List.mem_map.mp member
      obtain ⟨earlier, later, here⟩ := List.append_of_mem listed
      rw [Bool.not_eq_true', ← claims, ← Bool.not_eq_true]
      intro claimed
      have after := handed.claimed earlier call (later ++ [last])
        (by rw [parts, here, List.append_assoc, List.cons_append]) claimed
      simp at after
    rw [split, parts, upToFirst, List.map_append, List.map_singleton, List.append_assoc,
      List.singleton_append, List.takeWhile_append_of_pos passed,
      List.dropWhile_append_of_pos passed]
    cases stop : stops last.tag with
    | true => simp [stop]
    | false =>
      have done : rest = [] := by
        by_contra some
        obtain ⟨other, isLast, claimed⟩ := stopped some
        rw [parts, List.getLast?_concat, Option.mem_some_iff] at isLast
        rw [← isLast, claims, stop] at claimed
        cases claimed
      simp [stop, done]

end Handed

theorem leftBy_concat (process : Processor σ) (start : Feature × σ) (calls : List (Call σ))
    (call : Call σ) : leftBy process start (calls ++ [call]) = call.leaves process := by
  rw [leftBy, List.getLast?_concat]
  rfl

/-- A collector that stores leaves everything of the record but the names, adds to these what it is
handed unless the key has a name, and writes down what it does. -/
theorem leftBy_collector {stopAt : List String} {tags : List Tag} {feature : Feature}
    {final : Feature × List Sighting} {calls : List (Call (List Sighting))}
    (handed : Handed (Collector.process ⟨stopAt, true⟩) tags (feature, []) final calls)
    {before after : List (Call (List Sighting))} (parts : calls = before ++ after) :
    ∃ names, leftBy (Collector.process ⟨stopAt, true⟩) (feature, []) before =
        ({ feature with names := names },
          before.map (Sighting.ofCall feature.types.length)) ∧
      ∀ language, names.lookup language = (feature.name? language).or
        ((before.find? (·.tag.key = language)).map (·.tag.value)) := by
  induction before using List.reverseRecOn generalizing after with
  | nil => exact ⟨feature.names, rfl, fun language => (Option.or_none).symm⟩
  | append_singleton before call ih =>
    rw [List.append_assoc, List.singleton_append] at parts
    obtain ⟨names, left, known⟩ := ih parts
    have given := handed.given before call after parts
    rw [left, Prod.mk.injEq] at given
    obtain ⟨record, seen⟩ := given
    obtain ⟨grown, named⟩ := call.feature.addName_eq call.tag.key call.tag.value
    have added : (call.feature.addName call.tag.key call.tag.value).1 =
        { feature with names := grown } := by
      rw [named, record]
    have counted : call.feature.types = feature.types := by rw [record]
    refine ⟨grown, ?_, fun language => ?_⟩
    · rw [leftBy_concat, Call.leaves, List.map_append, List.map_singleton, ← seen]
      simp only [Collector.process, if_true, added, Feature.addName_snd, Sighting.ofCall, counted]
    · have here : ([call].find? (·.tag.key = language)).map (·.tag.value) =
          if language = call.tag.key then some call.tag.value else none := by
        by_cases same : language = call.tag.key
        · simp [same]
        · simp [same, Ne.symm same]
      have earlier : call.feature.name? language = names.lookup language := by
        rw [record]
        rfl
      calc grown.lookup language
          = (call.feature.addName call.tag.key call.tag.value).1.name? language := by
            rw [added]
            rfl
        _ = (names.lookup language).or
              (if language = call.tag.key then some call.tag.value else none) := by
            rw [Feature.name?_addName, earlier]
        _ = _ := by
            rw [known, ← here, List.find?_append, Option.map_or, Option.or_assoc]

namespace Classify

/-- Hand-over of what classification leaves. The tags handed to a processor, whatever it keeps for a
state, are those of the element after classification that are not ignored, in their order, up to the
first that it claims. It is first given the record that classification makes and then at each call
what it left at the one before; and it has no part in the tags of the element. A processor that
stores each value under its key, and claims the tags of some keys, changes of the record the names
alone: these are the names that classification found, and for any other key the value of the first
tag handed over with it. Each time it learns whether the key had no name before. -/
theorem leftovers_handed_over (entries : List Entry) (options : Options) (element : Element) :
    let taxonomy := (Draft.empty.addAccepted entries).freeze
    ∃ outcome,
      let left : Element := { element with tags := outcome.tags }
      let leftovers := outcome.tags.filter (!·.isIgnored)
      element.classify taxonomy options = .ok (outcome, left) ∧
      (∀ (σ : Type) (process : Processor σ) (state : σ), ∃ feature final calls,
        element.classifyWith taxonomy options process state =
          .ok ({ outcome with feature := feature }, left, final) ∧
        element.classifyWith taxonomy options process.recorded (state, []) =
          .ok ({ outcome with feature := feature }, left, final, calls) ∧
        Handed process leftovers (outcome.feature, state) (feature, final) calls) ∧
      ∀ stopAt : List String, ∃ names seen calls,
        element.classifyWith taxonomy options
            (Collector.process ⟨stopAt, true⟩).recorded ([], []) =
          .ok ({ outcome with feature := { outcome.feature with names := names } }, left,
            seen, calls) ∧
        calls.map Call.tag = upToFirst (stopAt.contains ·.key) leftovers ∧
        (∀ language, names.lookup language = (outcome.feature.name? language).or
          ((calls.find? (·.tag.key = language)).map (·.tag.value))) ∧
        seen = calls.map (Sighting.ofCall outcome.feature.types.length) := by
  intro taxonomy
  obtain ⟨landmarks, each⟩ := exists_account entries
  obtain ⟨outcome, ran, account⟩ := each options element
  have classified := classify_of_element ran
  have runs {σ : Type} (process : Processor σ) (state : σ) :
      element.classifyWith taxonomy options process state =
        .ok ({ outcome with feature := (handOver process outcome.feature state outcome.tags).1 },
          { element with tags := outcome.tags },
          (handOver process outcome.feature state outcome.tags).2) := by
    rw [Element.classifyWith, classifyWith_of_classify process state classified]
    rfl
  refine ⟨outcome, ran, fun σ process state => ?_, fun stopAt => ?_⟩
  · obtain ⟨calls, records, handed⟩ :=
      handOver_recorded process outcome.feature state outcome.tags
    refine ⟨_, _, calls, runs process state, ?_, handed⟩
    rw [runs, records, List.nil_append]
  · obtain ⟨calls, records, handed⟩ :=
      handOver_recorded (Collector.process ⟨stopAt, true⟩) outcome.feature [] outcome.tags
    obtain ⟨names, left, known⟩ := leftBy_collector handed (List.append_nil calls).symm
    refine ⟨names, _, calls, ?_, handed.map_tag_eq fun call => rfl, known, rfl⟩
    rw [runs, records, List.nil_append, handed.final, left]

end Classify

end MapTypes
