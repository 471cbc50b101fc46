import MapTypes.Proofs.CommandOutcomes

/-!
The two sources of tags. Behind `--` all arguments are tags, and on the standard input each line
that is not blank is one; the same texts give the same tags in the same order, so the command does
the same with them. What is refused as a tag is refused from either source, and of several such
texts the first is named.
-/

namespace MapTypes.Command

open Text (LineEnd written isBlank)

/-! ## Refused texts -/

/-- The first text that is no tag. -/
def firstRefused? (texts : List String) : Option String :=
  texts.find? (¬ IsTag ·)

/-- Tags that are read one by one are read up to the first that is refused. -/
theorem mapM_readTag_of_refused {texts : List String} {refused : String}
    (first : firstRefused? texts = some refused) :
    texts.mapM readTag = .error (.invalidTag refused) := by
  induction texts with
  | nil => cases first
  | cons text rest ih =>
    rw [firstRefused?, List.find?_cons] at first
    rw [List.mapM_cons]
    by_cases isTag : IsTag text
    · obtain ⟨tag, rfl, isKey⟩ := isTag_iff.mp isTag
      simp only [isTag, not_true, decide_false] at first
      rw [readTag_tagText isKey, ih first]
      rfl
    · simp only [isTag, not_false_eq_true, decide_true] at first
      cases first
      rw [readTag_of_not_isTag isTag]
      rfl

/-- Of tags that a scan finds the first that is refused ends the reading. -/
theorem findSome?_stop?_map_tag (texts : List String) :
    (texts.map .tag).findSome? Argument.stop? =
      (firstRefused? texts).map fun text => .fault (.invalidTag text) := by
  induction texts with
  | nil => rfl
  | cons text rest ih =>
    rw [List.map_cons, List.findSome?_cons, ih]
    by_cases isTag : IsTag text <;> simp [isTag, firstRefused?]

theorem firstRefused?_map_tagText {tags : List (String × String)}
    (keys : ∀ tag ∈ tags, IsKey tag.1) : firstRefused? (tags.map tagText) = none := by
  rw [firstRefused?, List.find?_eq_none]
  intro text member
  obtain ⟨tag, listed, rfl⟩ := List.mem_map.mp member
  simpa using isTag_iff.mpr ⟨tag, rfl, keys tag listed⟩

/-! ## Arguments -/

section

variable {options : List String} {settings : Settings} (reached : LeavesOpen options)
  (read : Settings.read {} options = .ok settings)

include reached read

/-- Behind `--` all arguments are tags. -/
theorem read_behind (texts : List String) :
    Settings.read {} (options ++ "--" :: texts) = settings.takeAll (texts.map .tag) := by
  rw [Settings.read_append reached, read]
  change settings.read _ = _
  rw [Settings.read_eq, scan_of_tagsFollow (Argument.ofText_eq_tagsFollow_iff.mpr rfl)]

/-- Tags behind `--` are read as they are, in their order. -/
theorem read_listed (untagged : settings.tags = []) {tags : List (String × String)}
    (keys : ∀ tag ∈ tags, IsKey tag.1) :
    Settings.read {} (options ++ "--" :: tags.map tagText) = .ok { settings with tags } := by
  have given : tags.filterMap (fun tag => (readTag (tagText tag)).toOption) = tags := by
    refine (List.filterMap_congr fun tag member => ?_).trans List.filterMap_some
    rw [readTag_tagText (keys tag member)]
    rfl
  rw [read_behind reached read, Settings.takeAll, findSome?_stop?_map_tag,
    firstRefused?_map_tagText keys, Option.map_none]
  simpa [Settings.after, untagged, List.filterMap_map, Function.comp_def] using given

/-- Tags behind `--` are refused for the first text that is none. -/
theorem run_listed_of_refused {texts : List String} {refused : String}
    (first : firstRefused? texts = some refused) (terminal : Bool) (timings : Timings)
    (input : ByteArray) :
    run terminal timings (options ++ "--" :: texts) input =
      (Stop.fault (.invalidTag refused)).output := by
  apply run_of_stop
  rw [read_behind reached read, Settings.takeAll, findSome?_stop?_map_tag, first, Option.map_some]

end

/-- Tags on the input are refused for the first line that is none, but not for a blank one. -/
theorem readInput_of_refused {text refused : String}
    (first : firstRefused? ((Text.lines text).filter (!isBlank ·)) = some refused) :
    readInput text.toUTF8 = .error (.invalidTag refused) := by
  rw [readInput_toUTF8, mapM_readTag_of_refused first]

/-- Behind options, tags are read in the same way from the arguments behind `--` and from the lines
of the input, whatever ends the lines and whatever blank ones stand among them; so the command does
the same with them. A text is read as a tag just when a key without an equals sign, an equals sign
and a value make it up, and the two are what is read. Any other text is refused from either source,
the first one by its name, except for a blank line. -/
theorem tags_agree_from_either_source {options : List String} {settings : Settings}
    (reached : LeavesOpen options) (read : Settings.read {} options = .ok settings)
    (untagged : settings.tags = []) :
    (∀ tags : List (String × String), tags ≠ [] → (∀ tag ∈ tags, FitsLine tag) →
      ∀ rows : List (String × LineEnd),
        (∀ row ∈ rows, isBlank row.1 = true → '\n' ∉ row.1.toList) →
        (rows.map Prod.fst).filter (!isBlank ·) = tags.map tagText →
        Settings.read {} (options ++ "--" :: tags.map tagText) = .ok { settings with tags } ∧
        readInput (written rows).toUTF8 = .ok tags ∧
        ∀ terminal timings input,
          run terminal timings (options ++ "--" :: tags.map tagText) input =
            run terminal timings options (written rows).toUTF8) ∧
    (∀ text tag, readTag text = .ok tag ↔ text = tagText tag ∧ IsKey tag.1) ∧
    (∀ text, readTag text = .error (.invalidTag text) ↔
      '=' ∉ text.toList ∨ text.toList.head? = some '=') ∧
    (∀ texts refused, firstRefused? texts = some refused → ∀ terminal timings input,
      run terminal timings (options ++ "--" :: texts) input =
        (Stop.fault (.invalidTag refused)).output) ∧
    ∀ text refused, firstRefused? ((Text.lines text).filter (!isBlank ·)) = some refused →
      ∀ terminal timings, run terminal timings options text.toUTF8 =
        (Stop.fault (.invalidTag refused)).output := by
  refine ⟨?_, fun _ _ => readTag_eq_ok_iff, fun _ => ?_, ?_, ?_⟩
  · intro tags some fits rows unbroken listed
    have behind := read_listed reached read untagged fun tag member => (fits tag member).isKey
    have lines := readInput_written fits unbroken listed
    refine ⟨behind, lines, fun terminal timings input => ?_⟩
    rw [run_of_tagged behind some, run_of_untagged read untagged, lines]
    cases tags with
    | nil => exact absurd rfl some
    | cons tag rest => rfl
  · rw [← not_isTag_iff]
    refine ⟨?_, readTag_of_not_isTag⟩
    intro refused isTag
    obtain ⟨tag, rfl, isKey⟩ := isTag_iff.mp isTag
    rw [readTag_tagText isKey] at refused
    cases refused
  · intro texts refused first
    exact run_listed_of_refused reached read first
  · intro text refused first terminal timings
    rw [run_of_untagged read untagged, readInput_of_refused first]

/-- A value may have an equals sign in it, and look like an option. -/
theorem tags_agree_from_either_source_behind_an_id :
    LeavesOpen ["--id", "7"] ∧
      Settings.read {} ["--id", "7"] = .ok { id := 7 } ∧
      (∀ tag ∈ [("highway", "residential"), ("--name", "a=b")], FitsLine tag) ∧
      ∀ terminal timings input,
        run terminal timings
            (["--id", "7"] ++ ["--", "highway=residential", "--name=a=b"]) input =
          run terminal timings ["--id", "7"]
            "\t\nhighway=residential\r\n\n--name=a=b\n".toUTF8 := by
  have reached : LeavesOpen ["--id", "7"] := .id "7" .nil
  have read : Settings.read {} ["--id", "7"] = .ok { id := 7 } := rfl
  have fits : ∀ tag ∈ [("highway", "residential"), ("--name", "a=b")], FitsLine tag := by
    simp only [List.forall_mem_cons]
    refine ⟨⟨?_, ?_, ?_, ?_⟩, ⟨?_, ?_, ?_, ?_⟩, ?_⟩ <;> simp [IsKey]
  have agree := (tags_agree_from_either_source reached read rfl).1 _ (List.cons_ne_nil _ _) fits
    [("\t", .feed), ("highway=residential", .returnAndFeed), ("", .feed), ("--name=a=b", .feed)]
    (by decide) (by decide)
  exact ⟨reached, read, fits, agree.2.2⟩

end MapTypes.Command
