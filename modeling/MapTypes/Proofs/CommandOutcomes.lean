import MapTypes.Command.Run
import MapTypes.Proofs.ArgumentScan
import MapTypes.Proofs.VisibilityFilter

/-!
What the command leaves behind. Its output is told by what the scan of the arguments finds: the
output of the argument that ends the reading (`run_of_stop`), else the report on the tags among the
arguments (`run_of_tagged`) or, when there is none among them, on those of the input
(`run_of_untagged`). No report fails, since every element is classified over the built-in taxonomy.
-/

namespace MapTypes

/-! ## The built-in taxonomy -/

namespace Draft

theorem length_accepted_le (draft : Draft) (entries : List Entry) :
    (draft.accepted entries).length ≤ entries.length := by
  fun_induction accepted draft entries with
  | case1 => exact le_rfl
  | case2 _ _ _ _ _ ih => exact Nat.le_succ_of_le ih
  | case3 _ _ _ _ _ ih => exact Nat.succ_le_succ ih

/-- Entries that are all accepted are added without a refusal. -/
theorem addAll_of_accepted {draft : Draft} {entries : List Entry}
    (all : draft.accepted entries = entries) :
    draft.addAll entries = .ok (draft.addAccepted entries) := by
  induction entries generalizing draft with
  | nil => rfl
  | cons entry rest ih =>
    rw [accepted] at all
    rw [addAll, List.foldlM_cons, addAccepted, List.foldl_cons]
    cases added : draft.add entry with
    | error refusal =>
      simp only [added] at all
      have shorter := length_accepted_le draft rest
      rw [all, List.length_cons] at shorter
      omega
    | ok grown =>
      rw [added] at all
      exact ih (List.tail_eq_of_cons_eq all)

end Draft

/-- Over the built-in taxonomy every element is classified. -/
theorem exists_classify_builtIn (options : Options) (element : Element) :
    ∃ outcome, classify Taxonomy.builtIn options element.tags = .ok outcome := by
  obtain ⟨landmarks, each⟩ := Classify.exists_account Taxonomy.BuiltIn.entries
  obtain ⟨outcome, ran, -⟩ := each options element
  cases result : classify Taxonomy.builtIn options element.tags with
  | ok outcome => exact ⟨outcome, rfl⟩
  | error fault =>
    change (classify Taxonomy.builtIn options element.tags >>= _) = _ at ran
    rw [result] at ran
    cases ran

namespace Command

/-! ## Outputs -/

/-- What is left behind when the reading is ended. -/
def Stop.output : Stop → Output
  | .help => ⟨0, helpText ++ "\n", ""⟩
  | .version => ⟨0, versionText ++ "\n", ""⟩
  | .fault cause => ⟨2, "", cause.message ++ "\n"⟩

/-- The report on the element that tags describe, under settings. -/
def Settings.report (settings : Settings) (terminal : Bool) (timings : Timings)
    (tags : List (String × String)) : Output :=
  (Request.classify (Element.ofPairs settings.id tags) settings.options settings.color).output
    terminal timings

section

variable {arguments : List String} {settings : Settings} {terminal : Bool} {timings : Timings}

theorem read_of_stop {stop : Stop} (stops : firstStop? arguments = some stop) :
    Settings.read {} arguments = .error stop := by
  rw [Settings.read_eq, Settings.takeAll, ← firstStop?, stops]

theorem read_of_no_stop (goes : firstStop? arguments = none) :
    Settings.read {} arguments = .ok (Settings.after {} (scan arguments)) := by
  rw [Settings.read_eq, Settings.takeAll, ← firstStop?, goes]

theorem run_of_stop {stop : Stop} (read : Settings.read {} arguments = .error stop)
    (input : ByteArray) : run terminal timings arguments input = stop.output := by
  cases stop <;>
    simp [run, Request.ofArguments, read, Request.output, Stop.output, Output.success,
      Output.failure, String.join]

/-- Tags among the arguments leave no part to the input. -/
theorem run_of_tagged (read : Settings.read {} arguments = .ok settings)
    (tagged : settings.tags ≠ []) (input : ByteArray) :
    run terminal timings arguments input = settings.report terminal timings settings.tags := by
  simp [run, Request.ofArguments, read, Request.ofTags, tagged, Settings.report]

/-- Without a tag among the arguments the input has its part. -/
theorem run_of_untagged (read : Settings.read {} arguments = .ok settings)
    (untagged : settings.tags = []) (input : ByteArray) :
    run terminal timings arguments input =
      match readInput input with
      | .error fault => (Stop.fault fault).output
      | .ok [] => (Stop.fault .noTags).output
      | .ok tags => settings.report terminal timings tags := by
  simp only [run, Request.ofArguments, read, untagged, ne_eq, not_true, if_false]
  cases readInput input with
  | error fault => rfl
  | ok tags => cases tags <;> rfl

theorem needsInput_iff (read : Settings.read {} arguments = .ok settings) :
    needsInput arguments = true ↔ settings.tags = [] := by
  rw [needsInput, read, List.isEmpty_iff]

/-- A report is all that is left behind. -/
theorem exists_report (settings : Settings) (terminal : Bool) (timings : Timings)
    (tags : List (String × String)) :
    ∃ text, settings.report terminal timings tags = ⟨0, text, ""⟩ := by
  obtain ⟨outcome, classified⟩ :=
    exists_classify_builtIn settings.options (Element.ofPairs settings.id tags)
  rw [Settings.report, Request.output, classified]
  exact ⟨_, rfl⟩

theorem exitCode_report (settings : Settings) (terminal : Bool) (timings : Timings)
    (tags : List (String × String)) :
    (settings.report terminal timings tags).exitCode = 0 := by
  obtain ⟨text, reported⟩ := exists_report settings terminal timings tags
  rw [reported]

/-- Every run ends with the output of a stop or with a report. -/
theorem run_cases (terminal : Bool) (timings : Timings) (arguments : List String)
    (input : ByteArray) :
    (∃ stop : Stop, run terminal timings arguments input = stop.output) ∨
      ∃ (settings : Settings) (tags : List (String × String)),
        run terminal timings arguments input = settings.report terminal timings tags := by
  cases read : Settings.read {} arguments with
  | error stop => exact .inl ⟨stop, run_of_stop read input⟩
  | ok settings =>
    by_cases untagged : settings.tags = []
    · rw [run_of_untagged read untagged]
      cases readInput input with
      | error fault => exact .inl ⟨.fault fault, rfl⟩
      | ok tags =>
        cases tags with
        | nil => exact .inl ⟨.fault .noTags, rfl⟩
        | cons tag rest => exact .inr ⟨settings, tag :: rest, rfl⟩
    · exact .inr ⟨settings, settings.tags, run_of_tagged read untagged input⟩

theorem exitCode_run (terminal : Bool) (timings : Timings) (arguments : List String)
    (input : ByteArray) :
    (run terminal timings arguments input).exitCode = 0 ∨
      (run terminal timings arguments input).exitCode = 2 := by
  obtain ⟨stop, stopped⟩ | ⟨settings, tags, reported⟩ := run_cases terminal timings arguments input
  · rw [stopped]
    cases stop <;> simp [Stop.output]
  · rw [reported]
    exact .inl (exitCode_report ..)

/-- The leftmost argument decides that asks for help or the version, or that is at fault: the output
is its own, whatever follows and whatever the input is, which is not even read. If there is none,
the input is read just when no argument is a tag, and the output depends on nothing but the tags in
their order, the last id, the last word on colors and whether the two other options occur, wherever
they stand. An id within its option counts as it is, unless it starts like such an option itself.
The exit code is zero or two, as neither the built-in taxonomy is refused nor an element. -/
theorem leftmost_argument_decides (terminal : Bool) (timings : Timings) :
    (∀ arguments stop, firstStop? arguments = some stop →
      needsInput arguments = false ∧
      (∀ input, run terminal timings arguments input = stop.output) ∧
      (stop ≠ .fault .missingId → ∀ after input,
        run terminal timings (arguments ++ after) input = stop.output)) ∧
    (∀ arguments, firstStop? arguments = none →
      let settings := Settings.after {} (scan arguments)
      (needsInput arguments = true ↔ settings.tags = []) ∧
      ∀ input, run terminal timings arguments input =
        match (if settings.tags = [] then readInput input else .ok settings.tags) with
        | .error fault => (Stop.fault fault).output
        | .ok [] => (Stop.fault .noTags).output
        | .ok tags => settings.report terminal timings tags) ∧
    (∀ value, ¬ idMarker <+: value.toList → Argument.ofText ("--id=" ++ value) = .id value) ∧
    Draft.empty.addAll Taxonomy.BuiltIn.entries = .ok Taxonomy.BuiltIn.draft ∧
    ∀ arguments input,
      (run terminal timings arguments input).exitCode = 0 ∨
        (run terminal timings arguments input).exitCode = 2 := by
  refine ⟨?_, ?_, ?_, Draft.addAll_of_accepted Taxonomy.BuiltIn.accepted_entries,
    exitCode_run terminal timings⟩
  · intro arguments stop stops
    refine ⟨?_, run_of_stop (read_of_stop stops), ?_⟩
    · rw [needsInput, read_of_stop stops]
    · intro valued after
      exact run_of_stop (read_of_stop (firstStop?_append stops valued after))
  · intro arguments goes settings
    have read := read_of_no_stop goes
    refine ⟨needsInput_iff read, fun input => ?_⟩
    by_cases untagged : settings.tags = []
    · rw [if_pos untagged]
      exact run_of_untagged read untagged input
    · rw [if_neg untagged, run_of_tagged read untagged]
      cases tags : settings.tags with
      | nil => exact absurd tags untagged
      | cons tag rest => rfl
  · intro value unmarked
    rw [Argument.ofText_idMarker, Argument.dropIdMarkers_of_unmarked unmarked, String.ofList_toList]

/-- An id that starts like an id option is no number, yet within an option the arguments go
through. -/
theorem marked_id_goes_through :
    Text.unsigned64? "--id=5" = none ∧
      (run false ⟨"", "", "", "", ""⟩ ["--id=" ++ "--id=5", "building=yes"]
        .empty).exitCode = 0 := by
  refine ⟨by decide, ?_⟩
  have read : Settings.read {} ["--id=" ++ "--id=5", "building=yes"] =
      .ok { id := 5, tags := [("building", "yes")] } := rfl
  rw [run_of_tagged read (by simp)]
  exact exitCode_report ..

end

end Command

end MapTypes
