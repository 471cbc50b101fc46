import MapTypes.Proofs.TagTexts

/-!
The arguments of a command line as a scan from left to right finds them. The scan only tells them
apart; what they come to is told by the arguments that it finds, with no regard to the state of a
reader: the first that ends the reading, else the last id, the last word on colors and the tags in
their order. Reading comes to the same (`Settings.read_eq`), and where the next argument stands open
it can be read apart from those before it (`Settings.read_append`).
-/

namespace MapTypes.Command

/-! ## Single arguments -/

namespace Argument

theorem dropIdMarkers_of_unmarked {text : List Char} (unmarked : ¬ idMarker <+: text) :
    dropIdMarkers text = text := by
  rw [dropIdMarkers]
  rintro rest rfl
  exact unmarked ⟨rest, rfl⟩

/-- The arguments that are options by themselves. -/
def plainOptions : List String :=
  ["-h", "--help", "-V", "--version", "--color", "--no-color", "--all-paths", "--no-address-fixup",
    "--id", "--"]

/-- The id in an argument is what is left when the markers at its start are taken away. -/
theorem ofText_idMarker (value : String) :
    ofText ("--id=" ++ value) = .id (String.ofList (dropIdMarkers value.toList)) := by
  have apart : ∀ text ∈ plainOptions, "--id=" ++ value ≠ text := by
    have unmarked : ∀ text ∈ plainOptions, ¬ idMarker <+: text.toList := by decide
    rintro text member rfl
    exact unmarked _ member ⟨value.toList, by simp [idMarker]⟩
  simp only [plainOptions, List.forall_mem_cons] at apart
  obtain ⟨h, help, V, version, color, noColor, allPaths, noFixup, id, tags, -⟩ := apart
  have chars : ("--id=" ++ value).toList = '-' :: '-' :: 'i' :: 'd' :: '=' :: value.toList := by
    simp
  simp [ofText, h, help, V, version, color, noColor, allPaths, noFixup, id, tags, chars,
    idMarker, dropIdMarkers]

theorem ofText_eq_idFollows_iff {text : String} : ofText text = .idFollows ↔ text = "--id" := by
  constructor
  · fun_cases ofText text <;> simp [*]
  · rintro rfl
    decide

theorem ofText_eq_tagsFollow_iff {text : String} : ofText text = .tagsFollow ↔ text = "--" := by
  constructor
  · fun_cases ofText text <;> simp [*]
  · rintro rfl
    decide

end Argument

/-! ## Scans -/

/-- What a scan of the arguments from left to right finds. An id that is an argument by itself is
taken together with the option, so an `idFollows` that is found is the last argument, and behind
`tagsFollow`, which is not found either, all are tags. -/
def scan : List String → List Argument
  | [] => []
  | text :: rest =>
    match Argument.ofText text with
    | .tagsFollow => rest.map .tag
    | .idFollows =>
      match rest with
      | [] => [.idFollows]
      | value :: others => .id value :: scan others
    | argument => argument :: scan rest

theorem scan_of_alone {text : String} (noId : Argument.ofText text ≠ .idFollows)
    (noTags : Argument.ofText text ≠ .tagsFollow) (rest : List String) :
    scan (text :: rest) = Argument.ofText text :: scan rest := by
  rw [scan.eq_def]
  dsimp only
  split <;> trivial

theorem scan_of_idFollows {text : String} (found : Argument.ofText text = .idFollows)
    (value : String) (rest : List String) :
    scan (text :: value :: rest) = .id value :: scan rest := by
  rw [scan.eq_def]
  dsimp only
  rw [found]

theorem scan_of_tagsFollow {text : String} (found : Argument.ofText text = .tagsFollow)
    (rest : List String) : scan (text :: rest) = rest.map .tag := by
  rw [scan.eq_def]
  dsimp only
  rw [found]

/-- Arguments that leave the next one to be read by itself: no id waits for its value, and not all
further arguments are tags by then. -/
inductive LeavesOpen : List String → Prop
  | nil : LeavesOpen []
  | id {rest : List String} (value : String) : LeavesOpen rest →
      LeavesOpen ("--id" :: value :: rest)
  | alone {text : String} {rest : List String} : text ≠ "--id" → text ≠ "--" → LeavesOpen rest →
      LeavesOpen (text :: rest)

theorem LeavesOpen.scan_append {before : List String} (reached : LeavesOpen before)
    (after : List String) : scan (before ++ after) = scan before ++ scan after := by
  induction reached with
  | nil => rfl
  | id value _ ih =>
    have found := Argument.ofText_eq_idFollows_iff.mpr rfl
    rw [List.cons_append, List.cons_append, scan_of_idFollows found, scan_of_idFollows found, ih,
      List.cons_append]
  | alone noId noTags _ ih =>
    have alone := scan_of_alone (mt Argument.ofText_eq_idFollows_iff.mp noId)
      (mt Argument.ofText_eq_tagsFollow_iff.mp noTags)
    rw [List.cons_append, alone, alone, ih, List.cons_append]

/-! ## What arguments come to -/

namespace Argument

/-- How an argument ends the reading, if it does: it asks for help or the version, or it is at
fault. -/
@[simp] def stop? : Argument → Option Stop
  | help => some .help
  | version => some .version
  | idFollows => some (.fault .missingId)
  | id value => if (Text.unsigned64? value).isNone then some (.fault (.invalidId value)) else none
  | unknown text => some (.fault (.unknownOption text))
  | tag text => if IsTag text then none else some (.fault (.invalidTag text))
  | _ => none

/-- The tag that an argument gives. -/
@[simp] def tag? : Argument → Option (String × String)
  | tag text => (readTag text).toOption
  | _ => none

/-- The id that an argument gives. -/
@[simp] def id? : Argument → Option Nat
  | id value => Text.unsigned64? value
  | _ => none

/-- What an argument says about colors. -/
@[simp] def color? : Argument → Option Bool
  | color on => some on
  | _ => none

end Argument

/-- How the leftmost argument that ends the reading does so. -/
def firstStop? (arguments : List String) : Option Stop :=
  (scan arguments).findSome? Argument.stop?

/-- Once an argument has ended the reading, what follows does not count. Only a value that was
missing may follow. -/
theorem firstStop?_append {before : List String} {stop : Stop}
    (stops : firstStop? before = some stop) (valued : stop ≠ .fault .missingId)
    (after : List String) : firstStop? (before ++ after) = some stop := by
  rw [firstStop?] at stops ⊢
  fun_induction scan before with
  | case1 => cases stops
  | case2 text rest found =>
    rw [List.cons_append, scan_of_tagsFollow found, List.map_append, List.findSome?_append, stops]
    rfl
  | case3 text found =>
    cases stops
    exact absurd rfl valued
  | case4 text found value others ih =>
    rw [List.cons_append, List.cons_append, scan_of_idFollows found]
    rw [List.findSome?_cons] at stops ⊢
    cases here : (Argument.id value).stop? with
    | some first => rwa [here] at stops
    | none =>
      rw [here] at stops
      exact ih stops
  | case5 text rest noTags noId ih =>
    rw [List.cons_append, scan_of_alone noId noTags]
    rw [List.findSome?_cons] at stops ⊢
    cases here : (Argument.ofText text).stop? with
    | some first => rwa [here] at stops
    | none =>
      rw [here] at stops
      exact ih stops

namespace Settings

/-- What is set after further arguments: the last id and the last word on colors count, an option
counts wherever it stands, and the tags keep their order. -/
def after (settings : Settings) (arguments : List Argument) : Settings where
  id := ((arguments.filterMap Argument.id?).getLast?).getD settings.id
  tags := settings.tags ++ arguments.filterMap Argument.tag?
  options :=
    { addressFixup := settings.options.addressFixup && !arguments.contains .keepEntrance
      visibilityFilter := settings.options.visibilityFilter && !arguments.contains .allPaths }
  color := ((arguments.filterMap Argument.color?).getLast?).or settings.color

/-- What further arguments come to: the first of them that ends the reading, else what is set. -/
def takeAll (settings : Settings) (arguments : List Argument) : Except Stop Settings :=
  match arguments.findSome? Argument.stop? with
  | some stop => .error stop
  | none => .ok (settings.after arguments)

variable {settings : Settings}

theorem after_append (first second : List Argument) :
    settings.after (first ++ second) = (settings.after first).after second := by
  simp only [after, List.filterMap_append, List.getLast?_append, Option.getD_or, Option.or_assoc,
    List.append_assoc, List.contains_append, Bool.not_or, Bool.and_assoc]

theorem takeAll_append (first second : List Argument) :
    settings.takeAll (first ++ second) = settings.takeAll first >>= (·.takeAll second) := by
  simp only [takeAll, List.findSome?_append, after_append]
  cases first.findSome? Argument.stop? <;> rfl

theorem takeAll_cons (argument : Argument) (rest : List Argument) :
    settings.takeAll (argument :: rest) = settings.takeAll [argument] >>= (·.takeAll rest) :=
  takeAll_append [argument] rest

theorem takeAll_color (on : Bool) :
    settings.takeAll [.color on] = .ok { settings with color := some on } := by
  simp [takeAll, after]

theorem takeAll_allPaths :
    settings.takeAll [.allPaths] = .ok { settings with options.visibilityFilter := false } := by
  simp [takeAll, after]

theorem takeAll_keepEntrance :
    settings.takeAll [.keepEntrance] = .ok { settings with options.addressFixup := false } := by
  simp [takeAll, after]

theorem setId_eq (value : String) : settings.setId value = settings.takeAll [.id value] := by
  rw [setId, readId]
  cases read : Text.unsigned64? value <;> simp [takeAll, after, read]

theorem addTag_eq (text : String) : settings.addTag text = settings.takeAll [.tag text] := by
  by_cases isTag : IsTag text
  · obtain ⟨tag, rfl, isKey⟩ := isTag_iff.mp isTag
    simp [addTag, takeAll, after, readTag_tagText isKey, isTag, Except.toOption]
  · simp [addTag, takeAll, readTag_of_not_isTag isTag, isTag]

theorem foldlM_addTag (texts : List String) :
    texts.foldlM addTag settings = settings.takeAll (texts.map .tag) := by
  induction texts generalizing settings with
  | nil => simp [takeAll, after, pure, Except.pure]
  | cons text rest ih =>
    rw [List.map_cons, takeAll_cons, List.foldlM_cons, addTag_eq]
    simp only [ih]

/-- Reading comes to what the scan finds. -/
theorem read_eq (settings : Settings) (arguments : List String) :
    settings.read arguments = settings.takeAll (scan arguments) := by
  fun_induction Settings.read settings arguments with
  | case1 settings => simp [scan, takeAll, after]
  | case2 settings text rest found | case3 settings text rest found
  | case11 settings text rest _ found =>
    rw [scan_of_alone (by simp [found]) (by simp [found]), found, takeAll_cons]
    rfl
  | case4 settings text rest on found ih =>
    rw [ih, scan_of_alone (by simp [found]) (by simp [found]), found, takeAll_cons, takeAll_color]
    rfl
  | case5 settings text rest found ih =>
    rw [ih, scan_of_alone (by simp [found]) (by simp [found]), found, takeAll_cons,
      takeAll_allPaths]
    rfl
  | case6 settings text rest found ih =>
    rw [ih, scan_of_alone (by simp [found]) (by simp [found]), found, takeAll_cons,
      takeAll_keepEntrance]
    rfl
  | case7 settings text found => simp [scan, found, takeAll]
  | case8 settings text found value others ih =>
    simp only [ih]
    rw [scan_of_idFollows found, takeAll_cons, setId_eq]
  | case9 settings text rest value found ih =>
    simp only [ih]
    rw [scan_of_alone (by simp [found]) (by simp [found]), found, takeAll_cons, setId_eq]
  | case10 settings text rest found => rw [scan_of_tagsFollow found, foldlM_addTag]
  | case12 settings text rest tag found ih =>
    simp only [ih]
    rw [scan_of_alone (by simp [found]) (by simp [found]), found, takeAll_cons, addTag_eq]

/-- Arguments that leave the next one open can be read apart from it. -/
theorem read_append {before : List String} (reached : LeavesOpen before) (after : List String) :
    settings.read (before ++ after) = settings.read before >>= (·.read after) := by
  simp only [read_eq, reached.scan_append, takeAll_append]

end Settings

end MapTypes.Command
