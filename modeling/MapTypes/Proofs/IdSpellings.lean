import MapTypes.Proofs.CommandOutcomes
import MapTypes.Proofs.Numerals

/-!
The two ways to give an id, as an argument behind the option or within it. The scan finds the same
for both (`scan_idOption`), but for one thing: an id within the option loses all markers at its
start, so an id that looks like such an option is taken for the id in it, where behind the option it
is refused. Apart from these ids both ways come to the same, be it accepted or refused.
-/

namespace MapTypes.Command

open Text (WholeNumber)

/-- How an id is given. -/
inductive IdSpelling where
  /-- Within the option. -/
  | joined
  /-- As the argument behind the option. -/
  | split
  deriving DecidableEq, Repr

namespace IdSpelling

/-- The arguments that give an id. -/
def arguments (value : String) : IdSpelling → List String
  | joined => ["--id=" ++ value]
  | split => ["--id", value]

/-- What is taken for the id. -/
def taken (value : String) : IdSpelling → String
  | joined => String.ofList (dropIdMarkers value.toList)
  | split => value

theorem taken_of_unmarked {value : String} (unmarked : ¬ idMarker <+: value.toList)
    (spelling : IdSpelling) : spelling.taken value = value := by
  cases spelling with
  | joined => rw [taken, Argument.dropIdMarkers_of_unmarked unmarked, String.ofList_toList]
  | split => rfl

end IdSpelling

theorem scan_idOption (spelling : IdSpelling) (value : String) (after : List String) :
    scan (spelling.arguments value ++ after) = .id (spelling.taken value) :: scan after := by
  cases spelling with
  | joined =>
    have found := Argument.ofText_idMarker value
    rw [IdSpelling.arguments, List.singleton_append,
      scan_of_alone (by simp [found]) (by simp [found]), found]
    rfl
  | split => exact scan_of_idFollows (Argument.ofText_eq_idFollows_iff.mpr rfl) value after

section

variable {before : List String} {settings : Settings} {spelling : IdSpelling} {value : String}
  (reached : LeavesOpen before) (after : List String)

include reached

/-- What the command does depends on what the scan finds only. -/
theorem run_idOption {other : IdSpelling} {otherValue : String}
    (same : spelling.taken value = other.taken otherValue) (terminal : Bool) (timings : Timings)
    (input : ByteArray) :
    run terminal timings (before ++ (spelling.arguments value ++ after)) input =
      run terminal timings (before ++ (other.arguments otherValue ++ after)) input := by
  have alike : Settings.read {} (before ++ (spelling.arguments value ++ after)) =
      Settings.read {} (before ++ (other.arguments otherValue ++ after)) := by
    simp only [Settings.read_eq, reached.scan_append, scan_idOption, same]
  rw [run, run, Request.ofArguments, Request.ofArguments, alike]

variable (read : Settings.read {} before = .ok settings)

include read

/-- A number that fits a word is set as the id. -/
theorem read_idOption_of_number {id : Nat} (whole : WholeNumber (spelling.taken value).toList id)
    (fits : id < 2 ^ 64) :
    Settings.read {} (before ++ (spelling.arguments value ++ after)) =
      { settings with id }.read after := by
  have number : Text.unsigned64? (spelling.taken value) = some id :=
    Text.unsigned64?_eq_some_iff.mpr ⟨whole, fits⟩
  have set : settings.takeAll [.id (spelling.taken value)] = .ok { settings with id } := by
    simp [Settings.takeAll, Settings.after, number]
  rw [Settings.read_append reached, read, Settings.read_eq { settings with id }]
  change settings.read _ = _
  rw [Settings.read_eq, scan_idOption, Settings.takeAll_cons, set]
  rfl

/-- Whatever else is given as an id ends the reading. -/
theorem run_idOption_of_not_number
    (noNumber : ∀ id, WholeNumber (spelling.taken value).toList id → 2 ^ 64 ≤ id)
    (terminal : Bool) (timings : Timings) (input : ByteArray) :
    run terminal timings (before ++ (spelling.arguments value ++ after)) input =
      (Stop.fault (.invalidId (spelling.taken value))).output := by
  have nothing : Text.unsigned64? (spelling.taken value) = none :=
    Text.unsigned64?_eq_none_iff.mpr noNumber
  have stops : settings.takeAll [.id (spelling.taken value)] =
      .error (.fault (.invalidId (spelling.taken value))) := by
    simp [Settings.takeAll, nothing]
  apply run_of_stop
  rw [Settings.read_append reached, read]
  change settings.read _ = _
  rw [Settings.read_eq, scan_idOption, Settings.takeAll_cons, stops]
  rfl

end

/-- A text that starts like an id option is no number. -/
theorem not_wholeNumber_of_marked {text : List Char} (marked : idMarker <+: text) (id : Nat) :
    ¬ WholeNumber text id := by
  obtain ⟨rest, rfl⟩ := marked
  rw [Text.wholeNumber_iff]
  rintro ⟨unsigned, -⟩
  exact unsigned rfl

/-- Where the next argument is read by itself, the two ways to give an id come to the same unless
the id starts like an id option: a number that fits a word is set, in place of any set before, and
all else is refused with a message that quotes it. An id that starts like an id option is refused
behind the option only; within it, what counts is what is left without the markers. -/
theorem id_spellings_agree {before : List String} (reached : LeavesOpen before)
    (after : List String) :
    (∀ value, ¬ idMarker <+: value.toList →
      (∀ terminal timings input,
        run terminal timings (before ++ (IdSpelling.joined.arguments value ++ after)) input =
          run terminal timings (before ++ (IdSpelling.split.arguments value ++ after)) input) ∧
      ∀ settings, Settings.read {} before = .ok settings → ∀ spelling : IdSpelling,
        (∀ id, WholeNumber value.toList id → id < 2 ^ 64 →
          Settings.read {} (before ++ (spelling.arguments value ++ after)) =
            { settings with id }.read after) ∧
        ((∀ id, WholeNumber value.toList id → 2 ^ 64 ≤ id) → ∀ terminal timings input,
          run terminal timings (before ++ (spelling.arguments value ++ after)) input =
            ⟨2, "",
              "error: invalid --id '" ++ value ++ "' (expected an unsigned integer)" ++ "\n"⟩)) ∧
    (∀ value, idMarker <+: value.toList → ∀ terminal timings input,
      run terminal timings (before ++ (IdSpelling.joined.arguments value ++ after)) input =
        run terminal timings (before ++ (IdSpelling.split.arguments
          (String.ofList (dropIdMarkers value.toList)) ++ after)) input ∧
      ∀ settings, Settings.read {} before = .ok settings →
        run terminal timings (before ++ (IdSpelling.split.arguments value ++ after)) input =
          ⟨2, "",
            "error: invalid --id '" ++ value ++ "' (expected an unsigned integer)" ++ "\n"⟩) := by
  constructor
  · intro value unmarked
    have taken := IdSpelling.taken_of_unmarked unmarked
    refine ⟨run_idOption reached after (by rw [taken, taken]), ?_⟩
    intro settings read spelling
    constructor
    · intro id whole fits
      rw [← taken spelling] at whole
      exact read_idOption_of_number reached after read whole fits
    · intro noNumber terminal timings input
      rw [← taken spelling] at noNumber
      rw [run_idOption_of_not_number reached after read noNumber, taken]
      rfl
  · intro value marked terminal timings input
    have less : IdSpelling.joined.taken value =
        IdSpelling.split.taken (String.ofList (dropIdMarkers value.toList)) := rfl
    have noNumber : ∀ id, WholeNumber (IdSpelling.split.taken value).toList id → 2 ^ 64 ≤ id :=
      fun id whole => absurd whole (not_wholeNumber_of_marked marked id)
    exact ⟨run_idOption reached after less terminal timings input, fun settings read =>
      run_idOption_of_not_number reached after read noNumber terminal timings input⟩

/-- Behind other options and an id, which it replaces. -/
theorem id_spellings_agree_on_seven :
    LeavesOpen ["--color", "--id", "3"] ∧ ¬ idMarker <+: "+7".toList ∧
      (∀ spelling : IdSpelling,
        Settings.read {}
            (["--color", "--id", "3"] ++ (spelling.arguments "+7" ++ ["building=yes"])) =
          .ok { id := 7, tags := [("building", "yes")], color := some true }) ∧
      ∀ terminal timings input,
        run terminal timings
            (["--color", "--id", "3"] ++ (IdSpelling.joined.arguments "+7" ++ ["building=yes"]))
            input =
          run terminal timings
            (["--color", "--id", "3"] ++ (IdSpelling.split.arguments "+7" ++ ["building=yes"]))
            input := by
  have reached : LeavesOpen ["--color", "--id", "3"] :=
    .alone (by decide) (by decide) (.id "3" .nil)
  have unmarked : ¬ idMarker <+: "+7".toList := by decide
  have read : Settings.read {} ["--color", "--id", "3"] = .ok { id := 3, color := some true } := rfl
  have whole : WholeNumber "+7".toList 7 :=
    ⟨.plus, ['7'], by simp, by decide, by simp, by simp, by decide⟩
  obtain ⟨same, each⟩ := (id_spellings_agree reached ["building=yes"]).1 "+7" unmarked
  refine ⟨reached, unmarked, fun spelling => ?_, same⟩
  rw [(each _ read spelling).1 7 whole (by decide)]
  rfl

/-- An id that looks like an id option is accepted within an option and refused behind it. -/
theorem marked_id_spellings_differ :
    idMarker <+: "--id=5".toList ∧
      (run false ⟨"", "", "", "", ""⟩ (IdSpelling.joined.arguments "--id=5" ++ ["building=yes"])
        .empty).exitCode = 0 ∧
      (run false ⟨"", "", "", "", ""⟩ (IdSpelling.split.arguments "--id=5" ++ ["building=yes"])
        .empty).exitCode = 2 := by
  refine ⟨by decide, ?_, ?_⟩
  · have read : Settings.read {} (IdSpelling.joined.arguments "--id=5" ++ ["building=yes"]) =
        .ok { id := 5, tags := [("building", "yes")] } := rfl
    rw [run_of_tagged read (by simp)]
    exact exitCode_report ..
  · have read : Settings.read {} (IdSpelling.split.arguments "--id=5" ++ ["building=yes"]) =
        .error (.fault (.invalidId "--id=5")) := rfl
    rw [run_of_stop read]
    rfl

end MapTypes.Command
