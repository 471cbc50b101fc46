import MapTypes.Tag

/-!
Tag rules. A rule waits for a tag with a certain key and a value that fits a pattern, and carries
what is to be concluded from it. Tables of rules are read in two ways: `hits` collects every
conclusion, `firstHit?` stops at the first tag that a rule of the table matches.
-/

namespace MapTypes

/-- The values a rule accepts. -/
inductive ValuePattern where
  /-- Every value. -/
  | any
  /-- The values `no`, `none` and `false`. -/
  | negative
  /-- Every value but the negative ones. -/
  | positive
  /-- One text, letter by letter. -/
  | exactly (text : String)
  deriving DecidableEq, Repr

/-- The values that explicitly say no. -/
def negativeValues : List String :=
  ["no", "none", "false"]

/-- Whether a value fits a pattern. -/
def ValuePattern.accepts : ValuePattern → String → Bool
  | any, _ => true
  | negative, value => negativeValues.contains value
  | positive, value => !negativeValues.contains value
  | exactly text, value => value == text

/-- A rule with its conclusion. -/
structure Rule (α : Type) where
  key : String
  value : ValuePattern
  conclusion : α
  deriving Repr

namespace Rule

/-- A rule speaks of live tags only. -/
def applies {α : Type} (rule : Rule α) (tag : Tag) : Bool :=
  tag.isLive && tag.key == rule.key && rule.value.accepts tag.value

/-- Everything a table concludes from a list of tags: tag by tag, and for one tag in the order of
the table. -/
def hits {α : Type} (table : List (Rule α)) (tags : List Tag) : List α :=
  tags.flatMap fun tag => (table.filter (·.applies tag)).map conclusion

/-- What a table concludes from the first tag that one of its rules matches. -/
def firstHit? {α : Type} (table : List (Rule α)) (tags : List Tag) : Option α :=
  tags.findSome? fun tag => (table.find? (·.applies tag)).map conclusion

end Rule

end MapTypes
