import MapTypes.Command.Run
import MapTypes.Text.Numeral

/-!
The program: reads the arguments and, if they leave the tags to it, the standard input; times the
stages of classification; and prints what `Command.run` gives.
-/

namespace MapTypes.Command

/-- A value and the nanoseconds that its computation takes. -/
def timed {α : Type} (work : Unit → α) : IO (α × Nat) := do
  let start ← IO.monoNanosNow
  let value ← IO.lazyPure work
  return (value, (← IO.monoNanosNow) - start)

/-- The durations of the stages for a request. Only a classification takes any. -/
def Request.measure : Request → IO Timings
  | classify element options _ => do
    let start ← IO.monoNanosNow
    let taxonomy := Taxonomy.builtIn
    let (completed, completing) ← timed fun _ => Layer.complete element.tags
    let (named, naming) ← timed fun _ => Names.extractAll Feature.empty completed
    let (prepared, preparing) ← timed fun _ => Attribute.extractAll named.1 named.2
    let (discoveries, walking) ← timed fun _ => Walk.discover taxonomy prepared.2
    let (_, concluding) ← timed fun _ => do
      let landmarks ← Landmarks.find taxonomy
      MapTypes.Classify.conclude taxonomy options landmarks prepared (← discoveries)
    let total := (← IO.monoNanosNow) - start
    return ⟨Text.duration total, Text.duration naming, Text.duration walking,
      Text.duration concluding, Text.duration (completing + preparing)⟩
  | _ => return ⟨"", "", "", "", ""⟩

end MapTypes.Command

open MapTypes.Command in
/-- Runs the command; the result is its exit code. -/
def main (arguments : List String) : IO UInt32 := do
  let stdout ← IO.getStdout
  let input ← if needsInput arguments then (← IO.getStdin).readBinToEnd else pure ByteArray.empty
  let timings ← (Request.ofArguments arguments input).measure
  let output := run (← stdout.isTty) timings arguments input
  stdout.putStr output.stdout
  (← IO.getStderr).putStr output.stderr
  return UInt32.ofNat output.exitCode
