import SpamVerdict.CommandLine.Help
import SpamVerdict.Json.Pretty
import SpamVerdict.Settings.Assembly
import SpamVerdict.Spf.Printing
set_option autoImplicit false

/-!
# Runs of the program (SPEC_FULL §10, §11, §13)

What the program prints and how it ends, as a function of its arguments and of what it finds
around it: files, the input, the environment, peers, name servers and a database server.

SPEC_FULL §10 lists what a run can be: `check` evaluates the message of one file, `spf` shows an
evaluation with its trace, and `serve` answers requests.  Of `serve` only the part before the
first request is here, which opens the audit store and assembles the checker; `Service.respond` is
the rest.  Whatever goes wrong (§11) ends the run with the text of the failure.
-/

namespace SpamVerdict.CommandLine

/-- What a run finds around it; the state of a database server has the type `σ`. -/
structure Surroundings (σ : Type) where
  /-- The text of a file, unless there is no file of this name. -/
  file? : String → Option String
  input : String
  environment : List (String × String)
  peers : Http.Peers
  /-- Reads the bodies of peers in the encodings of which no table is kept. -/
  decoder : Http.Decoder
  dns : Dns.Resolver
  reach : Audit.Connect σ

/-- What a run prints. -/
inductive Output where
  | nothing
  | text (s : String)
  | value (v : Json)

/-- The text of what a run prints; a value takes lines of its own. -/
def Output.render : Output → String
  | nothing => ""
  | text s => s
  | value v => v.pretty ++ "\n"

/-- How a run ends. -/
structure Ending where
  /-- The code that tells other programs how it went. -/
  code : Nat
  output : Output := .nothing
  /-- Why the run failed. -/
  error : Option String := none

/-- The version of the program. -/
def version : String := "spamblock 0.1.0\n"

/-- The files that settings are read from if none is named, the first one that exists. -/
def usualFiles : List String := ["spamblock.toml", "/etc/spamblock/config.toml"]

section Runs

variable {σ : Type}

/-- The file that settings are read from.  A named file may lack its extension. -/
def settingsFile (s : Surroundings σ) : Option String → Settings.File
  | some name =>
    match (s.file? name).or (s.file? (name ++ ".toml")) with
    | some text => .found text
    | none => .missing
  | none =>
    match usualFiles.findSome? s.file? with
    | some text => .found text
    | none => .none

/-- Prepares the service; listening itself is not what this program can do, so it ends there. -/
def serve [Audit.Server σ] (s : Surroundings σ) (settings : Settings) : Except String Output := do
  let _ ← (do
    let _ ← settings.openStore s.reach
    settings.checker s.decoder s.dns : Except Failure Checker).mapError Failure.message
  throw ("Failed to bind API server to " ++ settings.server.bindAddress)

/-- The text to check: that of a file, or the input. -/
def textToCheck (s : Surroundings σ) (file : String) : Except String String :=
  if file = "-" then .ok s.input
  else match s.file? file with
    | some text => .ok text
    | none => .error ("Failed to read " ++ file)

/-- Checks one message, with an audit store in memory; nothing is printed about one without a
header block. -/
def check (s : Surroundings σ) (settings : Settings) (file : String) : Except String Output := do
  let text ← textToCheck s file
  let vars ← match Json.readWhole? (Json.Reader.members Json.maxDepth) text with
    | some vars => .ok vars
    | none => .error "Input is not a JSON object"
  let c ← (settings.checker s.decoder s.dns).mapError Failure.message
  match ((settings.start (.empty : Audit.Store)).checkVars c 0 s.peers vars).1 with
  | some o => return .value o.toJson
  | none => return .nothing

/-- Carries out a command under its settings. -/
def perform [Audit.Server σ] (s : Surroundings σ) (settings : Settings) :
    Command → Except String Output
  | .serve => serve s settings
  | .check file => check s settings file
  | .spf domain ip => .ok (.value (Spf.evaluate s.dns domain ip).toJson)

/-- Loads the settings and carries out a command. -/
def carryOut [Audit.Server σ] (s : Surroundings σ) (file : Option String) (command : Command) :
    Except String Output := do
  let settings ← (Settings.load (settingsFile s file) s.environment).mapError Failure.message
  perform s settings command

/-- A run of the program. -/
def run [Audit.Server σ] (s : Surroundings σ) (arguments : List String) : Ending :=
  match parse arguments with
  | .misuse => { code := 2 }
  | .version => { code := 0, output := .text version }
  | .help topic => { code := 0, output := .text (help topic) }
  | .run file command =>
    match carryOut s file command with
    | .ok output => { code := 0, output }
    | .error error => { code := 1, error := some error }

end Runs

/-! ## What a run needs -/

/-- The files that a run may read. -/
def filesOf (arguments : List String) : List String :=
  match parse arguments with
  | .run file command =>
    let named := match file with
      | some name => [name, name ++ ".toml"]
      | none => usualFiles
    match command with
    | .check name => if name = "-" then named else name :: named
    | _ => named
  | _ => []

/-- A run reads the input. -/
def readsInput (arguments : List String) : Bool :=
  match parse arguments with
  | .run _ (.check name) => name = "-"
  | _ => false

end SpamVerdict.CommandLine
