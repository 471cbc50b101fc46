import MapTypes.Command.Arguments
import MapTypes.Command.Report
import MapTypes.Taxonomy.BuiltIn

/-!
The command itself, from arguments to output. It classifies one element against the built-in
taxonomy and reports on it.
-/

namespace MapTypes.Command

/-- What the command leaves behind. -/
structure Output where
  exitCode : Nat
  stdout : String
  stderr : String
  deriving DecidableEq, Repr

/-- The name of the command and its version. -/
def versionText : String := "osmtype 0.1.0"

/-- The help text. -/
def helpText : String :=
  versionText ++ "

Classify one map element from its tags.

Usage:
  osmtype [OPTIONS] [--] <key=value...>
  echo 'highway=residential' | osmtype [OPTIONS]

Options:
  --id <n>                   Element id shown in the report. Default: 0
  --all-paths                Keep types the taxonomy does not draw.
  --no-address-fixup         Keep `entrance` on addressed elements.
  --color                    Force ANSI color output.
  --no-color                 Disable ANSI color output.
  -h, --help                 Show this help message.
  -V, --version              Print version information.

Tags are read from stdin, one key=value per line, when none are given as
arguments. Set OSMTYPE_LOG=osmtype=debug to trace the engine on stderr.

Exit codes:
  0  Success.
  1  Internal error.
  2  Invalid arguments or missing input.
"

/-- The text of a fault. -/
def Fault.message : Fault → String
  | missingId => "error: --id expects a value"
  | invalidId text => "error: invalid --id '" ++ text ++ "' (expected an unsigned integer)"
  | unknownOption text => "error: unknown option '" ++ text ++ "'"
  | invalidTag text => "error: invalid tag '" ++ text ++ "' (expected key=value)"
  | unreadableInput => "error: failed to read stdin: stream did not contain valid UTF-8"
  | noTags => "error: no tags provided\n\n" ++ helpText

namespace Output

/-- Lines on the standard output. -/
def success (lines : List String) : Output :=
  ⟨0, String.join (lines.map (· ++ "\n")), ""⟩

/-- A line on the standard error. -/
def failure (exitCode : Nat) (message : String) : Output :=
  ⟨exitCode, "", message ++ "\n"⟩

end Output

/-- The output for a request. Colors are used when the request says so or, if it says nothing, when
the output goes to a terminal. -/
def Request.output (terminal : Bool) (timings : Timings) : Request → Output
  | help => .success [helpText]
  | version => .success [versionText]
  | refuse fault => .failure 2 fault.message
  | classify element options color =>
    match MapTypes.classify Taxonomy.builtIn options element.tags with
    | .ok outcome =>
      .success (Report.lines (color.getD terminal) Taxonomy.builtIn element outcome timings)
    | .error fault => .failure 1 fault.message

/-- The output for a command line. -/
def run (terminal : Bool) (timings : Timings) (arguments : List String) (input : ByteArray) :
    Output :=
  (Request.ofArguments arguments input).output terminal timings

end MapTypes.Command
