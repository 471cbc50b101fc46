import MapTypes.Classify
import MapTypes.Text.Basic
import MapTypes.Text.Numeral

/-!
The arguments of the command line. They are read from left to right; the first one that asks for
help or the version, or that is at fault, decides, and nothing after it counts. Tags are given as
arguments or, when there is none among the arguments, one a line on the standard input.
-/

namespace MapTypes.Command

/-- What is wrong with the arguments or the input. -/
inductive Fault where
  /-- `--id` is the last argument. -/
  | missingId
  | invalidId (text : String)
  | unknownOption (text : String)
  | invalidTag (text : String)
  /-- The standard input is not text. -/
  | unreadableInput
  | noTags
  deriving DecidableEq, Repr

/-- One argument by itself. -/
inductive Argument where
  | help
  | version
  | color (on : Bool)
  | allPaths
  | keepEntrance
  /-- The id is the next argument. -/
  | idFollows
  /-- The id is part of the argument. -/
  | id (text : String)
  /-- All further arguments are tags. -/
  | tagsFollow
  | unknown (text : String)
  | tag (text : String)
  deriving DecidableEq, Repr

/-- The start of an argument that has the id in it. -/
def idMarker : List Char := "--id=".toList

/-- A text without the id markers at its start, however many there are. -/
def dropIdMarkers : List Char → List Char
  | '-' :: '-' :: 'i' :: 'd' :: '=' :: rest => dropIdMarkers rest
  | text => text

/-- Reads one argument. -/
def Argument.ofText (text : String) : Argument :=
  if text = "-h" ∨ text = "--help" then .help
  else if text = "-V" ∨ text = "--version" then .version
  else if text = "--color" then .color true
  else if text = "--no-color" then .color false
  else if text = "--all-paths" then .allPaths
  else if text = "--no-address-fixup" then .keepEntrance
  else if text = "--id" then .idFollows
  else if text = "--" then .tagsFollow
  else if idMarker.isPrefixOf text.toList then
    .id (String.ofList (dropIdMarkers text.toList))
  else if text.toList.head? = some '-' then .unknown text
  else .tag text

/-- Reads an element id. -/
def readId (text : String) : Except Fault Nat :=
  match Text.unsigned64? text with
  | some id => .ok id
  | none => .error (.invalidId text)

/-- Reads a tag: key and value are parted by the first equals sign, and the key is not empty. -/
def readTag (text : String) : Except Fault (String × String) :=
  let key := text.toList.takeWhile (· ≠ '=')
  match text.toList.dropWhile (· ≠ '=') with
  | _ :: value =>
    if key = [] then .error (.invalidTag text)
    else .ok (String.ofList key, String.ofList value)
  | [] => .error (.invalidTag text)

/-- What the arguments have set so far. -/
structure Settings where
  id : Nat := 0
  tags : List (String × String) := []
  options : Options := {}
  /-- Whether the report is colored; by default it depends on where it goes. -/
  color : Option Bool := none
  deriving DecidableEq, Repr

/-- Why the reading of arguments ends before the last. -/
inductive Stop where
  | help
  | version
  | fault (fault : Fault)
  deriving DecidableEq, Repr

/-- Adds a tag given as text. -/
def Settings.addTag (settings : Settings) (text : String) : Except Stop Settings :=
  match readTag text with
  | .ok tag => .ok { settings with tags := settings.tags ++ [tag] }
  | .error fault => .error (.fault fault)

/-- Sets the id given as text. -/
def Settings.setId (settings : Settings) (text : String) : Except Stop Settings :=
  match readId text with
  | .ok id => .ok { settings with id }
  | .error fault => .error (.fault fault)

/-- Reads the arguments from left to right. -/
def Settings.read (settings : Settings) : List String → Except Stop Settings
  | [] => .ok settings
  | text :: rest =>
    match Argument.ofText text with
    | .help => .error .help
    | .version => .error .version
    | .color on => { settings with color := some on }.read rest
    | .allPaths => { settings with options.visibilityFilter := false }.read rest
    | .keepEntrance => { settings with options.addressFixup := false }.read rest
    | .idFollows =>
      match rest with
      | [] => .error (.fault .missingId)
      | value :: others => do (← settings.setId value).read others
    | .id value => do (← settings.setId value).read rest
    | .tagsFollow => rest.foldlM addTag settings
    | .unknown option => .error (.fault (.unknownOption option))
    | .tag tag => do (← settings.addTag tag).read rest

/-- Reads the tags on the standard input, one a line. Blank lines do not count. -/
def readInput (input : ByteArray) : Except Fault (List (String × String)) :=
  match String.fromUTF8? input with
  | none => .error .unreadableInput
  | some text => ((Text.lines text).filter (!Text.isBlank ·)).mapM readTag

/-- What the command is asked to do. -/
inductive Request where
  | help
  | version
  | refuse (fault : Fault)
  | classify (element : Element) (options : Options) (color : Option Bool)
  deriving Repr

/-- The request to classify the element that tags describe; there must be one. -/
def Request.ofTags (settings : Settings) (tags : List (String × String)) : Request :=
  if tags = [] then .refuse .noTags
  else .classify (Element.ofPairs settings.id tags) settings.options settings.color

/-- Whether the arguments leave the tags to the standard input. -/
def needsInput (arguments : List String) : Bool :=
  match Settings.read {} arguments with
  | .ok settings => settings.tags.isEmpty
  | .error _ => false

/-- The request of a command line. The standard input counts only when no argument is a tag. -/
def Request.ofArguments (arguments : List String) (input : ByteArray) : Request :=
  match Settings.read {} arguments with
  | .error .help => .help
  | .error .version => .version
  | .error (.fault fault) => .refuse fault
  | .ok settings =>
    if settings.tags ≠ [] then .ofTags settings settings.tags
    else
      match readInput input with
      | .ok tags => .ofTags settings tags
      | .error fault => .refuse fault

end MapTypes.Command
