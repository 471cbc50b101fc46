import Mathlib.Data.List.TakeWhile
import MapTypes.Command.Arguments
import MapTypes.Proofs.CodeDigits

/-!
Tags as text. A key and a value are joined by an equals sign, and reading a tag undoes just this
(`readTag_eq_ok_iff`); what has no equals sign, or starts with one, is not a tag. On the standard
input tags stand one a line among blank lines, and the lines are the same whether a line feed ends
them or a carriage return and a line feed (`readInput_written`).
-/

namespace MapTypes

namespace Command

/-! ## Keys and values -/

/-- A key and a value with an equals sign between them. -/
def tagText (tag : String × String) : String :=
  tag.1 ++ "=" ++ tag.2

/-- A key that a tag can have as text: it is not empty and has no equals sign. -/
def IsKey (key : String) : Prop :=
  key ≠ "" ∧ '=' ∉ key.toList

/-- A text can be read as a tag: it has an equals sign, and not at its start. -/
def IsTag (text : String) : Prop :=
  '=' ∈ text.toList ∧ text.toList.head? ≠ some '='

instance (text : String) : Decidable (IsTag text) :=
  inferInstanceAs (Decidable (_ ∧ _))

theorem not_isTag_iff {text : String} :
    ¬ IsTag text ↔ '=' ∉ text.toList ∨ text.toList.head? = some '=' := by
  rw [IsTag, not_and_or, not_not]

theorem toList_tagText (tag : String × String) :
    (tagText tag).toList = tag.1.toList ++ '=' :: tag.2.toList := by
  simp [tagText]

/-- A text is a tag just when it is made up of a key, an equals sign and a value. -/
theorem isTag_iff {text : String} : IsTag text ↔ ∃ tag, text = tagText tag ∧ IsKey tag.1 := by
  constructor
  · rintro ⟨member, head⟩
    obtain ⟨key, value, parts, silent⟩ := List.eq_append_cons_of_mem member
    have some : key ≠ [] := by
      rintro rfl
      exact head (by rw [parts]; rfl)
    refine ⟨(String.ofList key, String.ofList value), ?_, ?_, ?_⟩
    · rw [← String.toList_inj, toList_tagText, parts, String.toList_ofList, String.toList_ofList]
    · simpa using some
    · simpa using silent
  · rintro ⟨tag, rfl, some, silent⟩
    rw [IsTag, toList_tagText]
    refine ⟨by simp, ?_⟩
    cases key : tag.1.toList with
    | nil => exact absurd (String.toList_eq_nil_iff.mp key) some
    | cons c rest =>
      rw [key] at silent
      simpa using fun same : c = '=' => silent (same ▸ List.mem_cons_self)

theorem readTag_tagText {tag : String × String} (isKey : IsKey tag.1) :
    readTag (tagText tag) = .ok tag := by
  obtain ⟨some, silent⟩ := isKey
  have before : ∀ c ∈ tag.1.toList, decide (c ≠ '=') = true := by
    intro c member
    exact decide_eq_true fun same => silent (same ▸ member)
  have key : (tagText tag).toList.takeWhile (· ≠ '=') = tag.1.toList := by
    rw [toList_tagText, List.takeWhile_append_of_pos before, List.takeWhile_cons_of_neg (by simp),
      List.append_nil]
  have rest : (tagText tag).toList.dropWhile (· ≠ '=') = '=' :: tag.2.toList := by
    rw [toList_tagText, List.dropWhile_append_of_pos before, List.dropWhile_cons_of_neg (by simp)]
  have nonempty : tag.1.toList ≠ [] := by simpa using some
  simp only [readTag, key, rest, if_neg nonempty, String.ofList_toList]

theorem readTag_of_not_isTag {text : String} (refused : ¬ IsTag text) :
    readTag text = .error (.invalidTag text) := by
  rw [readTag]
  rcases not_isTag_iff.mp refused with absent | first
  · have nothing : text.toList.dropWhile (· ≠ '=') = [] := by
      rw [List.dropWhile_eq_nil_iff]
      intro c member
      exact decide_eq_true fun same => absent (same ▸ member)
    simp only [nothing]
  · obtain ⟨rest, starts⟩ := List.head?_eq_some_iff.mp first
    simp [starts]

/-- Reading a tag undoes the joining of a key and a value. -/
theorem readTag_eq_ok_iff {text : String} {tag : String × String} :
    readTag text = .ok tag ↔ text = tagText tag ∧ IsKey tag.1 := by
  constructor
  · intro read
    by_cases isTag : IsTag text
    · obtain ⟨other, rfl, isKey⟩ := isTag_iff.mp isTag
      rw [readTag_tagText isKey] at read
      cases read
      exact ⟨rfl, isKey⟩
    · rw [readTag_of_not_isTag isTag] at read
      cases read
  · rintro ⟨rfl, isKey⟩
    exact readTag_tagText isKey

end Command

/-! ## Lines -/

namespace Text

/-- How a line ends. -/
inductive LineEnd where
  | feed
  | returnAndFeed
  deriving DecidableEq, Repr

/-- The characters at the end of a line. -/
def LineEnd.chars : LineEnd → List Char
  | feed => ['\n']
  | returnAndFeed => ['\r', '\n']

/-- Lines with their ends, one after the other. -/
def written (rows : List (String × LineEnd)) : String :=
  String.ofList (rows.flatMap fun (line, ending) => line.toList ++ ending.chars)

/-- The first line of a text reaches up to the first line feed. -/
theorem lines_of_feed {line : List Char} (unbroken : '\n' ∉ line) (rest : List Char) :
    lines (String.ofList (line ++ '\n' :: rest)) =
      String.ofList (dropReturn line) :: lines (String.ofList rest) := by
  have silent : ∀ c ∈ line, (c == '\n') = false := by
    intro c member
    exact beq_eq_false_iff_ne.mpr fun same => unbroken (same ▸ member)
  have some : rest.splitOnP (· == '\n') ≠ [] := List.splitOnP_ne_nil _ _
  simp only [lines, String.toList_ofList]
  rw [List.splitOnP_append_cons_of_forall_mem silent '\n' (by simp),
    List.dropLast_cons_of_ne_nil some, List.getLast?_cons_of_ne_nil some]
  simp

theorem dropReturn_of_return (line : List Char) : dropReturn (line ++ ['\r']) = line := by
  simp [dropReturn]

theorem dropReturn_of_not_return {line : List Char} (whole : line.getLast? ≠ some '\r') :
    dropReturn line = line := by
  rw [dropReturn, if_neg whole]

/-- A line that is blank stays so without a carriage return. -/
theorem isBlank_dropReturn {line : String} (blank : isBlank line = true) :
    isBlank (String.ofList (dropReturn line.toList)) = true := by
  rw [isBlank, List.all_eq_true] at blank ⊢
  rw [String.toList_ofList, dropReturn]
  split
  · exact fun c member => blank c ((List.dropLast_sublist _).subset member)
  · exact blank

theorem written_cons (line : String) (ending : LineEnd) (rows : List (String × LineEnd)) :
    written ((line, ending) :: rows) =
      String.ofList (line.toList ++ (ending.chars ++ (written rows).toList)) := by
  simp [written]

theorem lines_feed {line : String} (unbroken : '\n' ∉ line.toList)
    (rows : List (String × LineEnd)) :
    lines (written ((line, .feed) :: rows)) =
      String.ofList (dropReturn line.toList) :: lines (written rows) := by
  have first := lines_of_feed unbroken (written rows).toList
  rw [String.ofList_toList] at first
  rw [written_cons]
  exact first

theorem lines_returnAndFeed {line : String} (unbroken : '\n' ∉ line.toList)
    (rows : List (String × LineEnd)) :
    lines (written ((line, .returnAndFeed) :: rows)) = line :: lines (written rows) := by
  have returned : '\n' ∉ line.toList ++ ['\r'] := by simpa using unbroken
  have first := lines_of_feed returned (written rows).toList
  rw [dropReturn_of_return, String.ofList_toList, String.ofList_toList, List.append_assoc] at first
  rw [written_cons]
  exact first

/-- Lines are read as they were written, whatever ends them; only a blank one may lose a carriage
return. -/
theorem filter_lines_written {rows : List (String × LineEnd)}
    (unbroken : ∀ row ∈ rows, '\n' ∉ row.1.toList)
    (whole : ∀ row ∈ rows, isBlank row.1 = false → row.1.toList.getLast? ≠ some '\r') :
    (lines (written rows)).filter (!isBlank ·) = (rows.map Prod.fst).filter (!isBlank ·) := by
  induction rows with
  | nil => simp [written, lines]
  | cons row rows ih =>
    obtain ⟨unbrokenHere, unbrokenRest⟩ := List.forall_mem_cons.mp unbroken
    obtain ⟨wholeHere, wholeRest⟩ := List.forall_mem_cons.mp whole
    obtain ⟨line, ending⟩ := row
    rw [List.map_cons, List.filter_cons, ← ih unbrokenRest wholeRest]
    cases ending with
    | feed =>
      rw [lines_feed unbrokenHere, List.filter_cons]
      cases visible : isBlank line with
      | true => simp [isBlank_dropReturn visible]
      | false => simp [dropReturn_of_not_return (wholeHere visible), visible]
    | returnAndFeed => rw [lines_returnAndFeed unbrokenHere, List.filter_cons]

end Text

namespace Command

open Text (LineEnd written isBlank)

/-- Text on the standard input is read as such. -/
theorem readInput_toUTF8 (text : String) :
    readInput text.toUTF8 = ((Text.lines text).filter (!isBlank ·)).mapM readTag := by
  have decoded : String.fromUTF8? text.toUTF8 = some text := by
    rw [String.toUTF8_eq_toByteArray, String.fromUTF8?, dif_pos text.isValidUTF8]
    rfl
  rw [readInput, decoded]

/-- A tag can stand on a line: its key can be told from its value, nothing in it ends the line, and
it does not end with what might be taken for a part of the end. -/
structure FitsLine (tag : String × String) : Prop where
  isKey : IsKey tag.1
  key_unbroken : '\n' ∉ tag.1.toList
  value_unbroken : '\n' ∉ tag.2.toList
  value_whole : tag.2.toList.getLast? ≠ some '\r'

namespace FitsLine

variable {tag : String × String}

theorem text_unbroken (fits : FitsLine tag) : '\n' ∉ (tagText tag).toList := by
  simp [toList_tagText, fits.key_unbroken, fits.value_unbroken]

theorem text_whole (fits : FitsLine tag) : (tagText tag).toList.getLast? ≠ some '\r' := by
  have whole := fits.value_whole
  rw [toList_tagText, List.getLast?_append]
  cases value : tag.2.toList with
  | nil => simp
  | cons c rest =>
    rw [value] at whole
    simpa [List.getLast?_cons] using whole

end FitsLine

/-- Tags that stand one a line among blank lines are read as they are, in their order. -/
theorem readInput_written {tags : List (String × String)} (fits : ∀ tag ∈ tags, FitsLine tag)
    {rows : List (String × LineEnd)}
    (unbroken : ∀ row ∈ rows, isBlank row.1 = true → '\n' ∉ row.1.toList)
    (listed : (rows.map Prod.fst).filter (!isBlank ·) = tags.map tagText) :
    readInput (written rows).toUTF8 = .ok tags := by
  have shown {row : String × LineEnd} (member : row ∈ rows) (visible : isBlank row.1 = false) :
      ∃ tag, FitsLine tag ∧ row.1 = tagText tag := by
    have text : row.1 ∈ tags.map tagText := by
      rw [← listed, List.mem_filter, visible]
      exact ⟨List.mem_map_of_mem member, rfl⟩
    obtain ⟨tag, isTag, same⟩ := List.mem_map.mp text
    exact ⟨tag, fits tag isTag, same.symm⟩
  rw [readInput_toUTF8, Text.filter_lines_written _ _, listed]
  · exact mapM_eq_ok_iff.mpr (List.forall₂_map_left_iff.mpr
      (List.forall₂_same.mpr fun tag member => readTag_tagText (fits tag member).isKey))
  · intro row member
    cases visible : isBlank row.1 with
    | true => exact unbroken row member visible
    | false =>
      obtain ⟨tag, fitsHere, same⟩ := shown member visible
      exact same ▸ fitsHere.text_unbroken
  · intro row member visible
    obtain ⟨tag, fitsHere, same⟩ := shown member visible
    exact same ▸ fitsHere.text_whole

end Command

end MapTypes
