import MapTypes.Classify

/-!
Hand-over of the tags that classification leaves. A processor of the caller's choice sees them one
after the other, may change the record, and ends the hand-over by claiming a tag.
-/

namespace MapTypes

/-- What a processor does with a tag: whether it claims it, the record, and its own state. -/
abbrev Processor (σ : Type) := Tag → Feature → σ → Bool × Feature × σ

/-- Hands tags over until one is claimed. Ignored tags are passed by. -/
def handOver {σ : Type} (process : Processor σ) (feature : Feature) (state : σ) :
    List Tag → Feature × σ
  | [] => (feature, state)
  | tag :: rest =>
    if tag.isIgnored then handOver process feature state rest
    else
      let answer := process tag feature state
      if answer.1 then answer.2 else handOver process answer.2.1 answer.2.2 rest

/-- Classifies a list of tags and hands over what is left. -/
def classifyWith {σ : Type} (taxonomy : Taxonomy) (options : Options) (process : Processor σ)
    (state : σ) (tags : List Tag) : Except TypeCode.Fault (Outcome × σ) := do
  let outcome ← classify taxonomy options tags
  let handed := handOver process outcome.feature state outcome.tags
  return ({ outcome with feature := handed.1 }, handed.2)

/-- Classifies an element and hands over what is left. The element keeps the tags that
classification leaves. -/
def Element.classifyWith {σ : Type} (element : Element) (taxonomy : Taxonomy) (options : Options)
    (process : Processor σ) (state : σ) : Except TypeCode.Fault (Outcome × Element × σ) := do
  let (outcome, final) ← MapTypes.classifyWith taxonomy options process state element.tags
  return (outcome, { element with tags := outcome.tags }, final)

/-- A tag that a collector has seen. -/
structure Sighting where
  key : String
  value : String
  /-- The number of types in the record at that time. -/
  typeCount : Nat
  /-- Whether the value was stored as a name; nothing when the collector does not store. -/
  stored : Option Bool
  deriving DecidableEq, Repr

/-- A processor that writes down what it sees. It claims the tags of certain keys, and it may store
each value as the name in the language of the key. -/
structure Collector where
  stopAt : List String
  store : Bool := false
  deriving DecidableEq, Repr

/-- The processor of a collector; its state is what it has seen. -/
def Collector.process (collector : Collector) : Processor (List Sighting) :=
  fun tag feature seen =>
    let named := feature.addName tag.key tag.value
    let stored := if collector.store then some named.2 else none
    (collector.stopAt.contains tag.key, if collector.store then named.1 else feature,
      seen ++ [⟨tag.key, tag.value, feature.types.length, stored⟩])

end MapTypes
