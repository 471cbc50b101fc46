import MapTypes.Unicode.CombiningClass
import MapTypes.Unicode.Composition
import MapTypes.Unicode.Decomposition
import MapTypes.Unicode.Hangul

/-!
Normalization form KC: texts that differ only in how their characters are encoded get one spelling.
A text is taken apart by `decompose`, its combining marks are put into class order by `reorder`, and
`compose` joins again every pair that has a composite and stands together.
-/

namespace MapTypes.Unicode

/-- The compatibility decomposition of a text, character by character. -/
def decompose (text : List Char) : List Char :=
  text.flatMap fun c => (Hangul.decompose? c).getD (decomposition c)

/-- Puts a mark before marks already in order: it passes those of a smaller class, and stops at a
starter and at marks of its own class. -/
def insertMark (mark : Char) : List Char → List Char
  | [] => [mark]
  | c :: rest =>
    if 0 < combiningClass c ∧ combiningClass c < combiningClass mark then
      c :: insertMark mark rest
    else mark :: c :: rest

/-- Canonical ordering: the marks between two starters are sorted by class, and marks of one class
keep their order. -/
def reorder : List Char → List Char
  | [] => []
  | c :: rest => if combiningClass c = 0 then c :: reorder rest else insertMark c (reorder rest)

/-- The composite of a pair of characters, by table or by the rule for Hangul. -/
def compose? (first second : Char) : Option Char :=
  (Hangul.compose? first second).or (composite? first second)

/-- A character is blocked from a starter by a mark between them of its own class or a larger one;
a starter is blocked by any mark. -/
def isBlocked (marks : List Char) (c : Char) : Bool :=
  match marks.getLast? with
  | none => false
  | some mark => combiningClass c ≤ combiningClass mark

/-- Composition after a starter and the marks behind it that did not join it. -/
def composeAfter (starter : Char) (marks : List Char) : List Char → List Char
  | [] => starter :: marks
  | c :: rest =>
    match if isBlocked marks c then none else compose? starter c with
    | some joined => composeAfter joined marks rest
    | none =>
      if combiningClass c = 0 then starter :: (marks ++ composeAfter c [] rest)
      else composeAfter starter (marks ++ [c]) rest

/-- Canonical composition. Marks before the first starter have nothing to join. -/
def compose : List Char → List Char
  | [] => []
  | c :: rest => if combiningClass c = 0 then composeAfter c [] rest else c :: compose rest

/-- Normalization form KC of a text. -/
def normalizeKC (text : String) : String :=
  String.ofList (compose (reorder (decompose text.toList)))

end MapTypes.Unicode
