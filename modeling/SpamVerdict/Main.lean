import SpamVerdict.CommandLine.Run
import SpamVerdict.Dns.Live
set_option autoImplicit false

/-!
# The program (SPEC_FULL §10)

Collects what a run needs, prints what it says and ends as it says.  No peer, no name server and no
database server can be reached from here.

Everything that can be said about a run is said of `CommandLine.run`; this module only reads files,
the environment and the input for it.
-/

namespace SpamVerdict.Program

/-- The files of the given names that can be read, with their texts. -/
def readFiles (names : List String) : IO (List (String × String)) :=
  names.filterMapM fun (name : String) => do
    try
      let text ← IO.FS.readFile name
      return some (name, text)
    catch _ => return none

/-- The variables of the environment. -/
def readEnvironment : IO (List (String × String)) := do
  try
    let text ← IO.FS.readFile "/proc/self/environ"
    let entries := Text.split (· == '\x00') text.toList
    return entries.filterMap fun entry =>
      (Text.cut? '=' entry).map fun (name, value) => (String.ofList name, String.ofList value)
  catch _ => return []

/-- Everything that is left of the input. -/
def readInput : IO String := do
  (← IO.getStdin).readToEnd

/-- No exchange with a name server takes place. -/
def exchanges : Dns.Exchanges where
  txt _ := .failed "unreachable"
  address _ _ := .failed "unreachable"
  mx _ := .failed "unreachable"

/-- No body is ever read, so none of its characters is known. -/
def decoder : Http.Decoder := fun _ bytes => bytes.map fun _ => Text.Utf8.replacement

/-- What a run with the given arguments finds around it. -/
def surroundings (arguments : List String) : IO (CommandLine.Surroundings Empty) := do
  let files ← readFiles (CommandLine.filesOf arguments)
  let input ← if CommandLine.readsInput arguments then readInput else pure ""
  return {
    file? := fun name => files.lookup name
    input
    environment := ← readEnvironment
    peers := .unreachable
    decoder
    dns := exchanges.resolver
    reach := fun _ _ _ => .error "unreachable" }

end SpamVerdict.Program

/-- Runs the program. -/
def main (arguments : List String) : IO UInt32 := do
  let around ← SpamVerdict.Program.surroundings arguments
  let ending := SpamVerdict.CommandLine.run around arguments
  IO.print ending.output.render
  match ending.error with
  | some text => IO.eprintln ("Error: " ++ text)
  | none => pure ()
  return UInt32.ofNat ending.code
