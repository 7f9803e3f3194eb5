import SpamVerdict.Ip.Address
import SpamVerdict.Text.Blank
set_option autoImplicit false

/-!
# Arguments (SPEC_FULL §10, §13)

SPEC_FULL §10 gives the program three commands, `serve` (which is meant if none is given), `check`
and `spf`, and §13 an option for the file with the settings.

The arguments of the program are read from left to right, and the first that asks for help or for
the version, or that cannot be understood, decides.  An option has a short and a long name and its
value stands in the same argument or in the next one; behind two dashes nothing is an option.
-/

namespace SpamVerdict.CommandLine

/-- What the program is asked to do. -/
inductive Command where
  /-- Answer requests over the network. -/
  | serve
  /-- Check the message in a file, or in the input if the name is a dash. -/
  | check (file : String)
  /-- Evaluate the policy of a domain for a sending address. -/
  | spf (domain : String) (ip : Ip.Address)

/-- What help can be about. -/
inductive Topic where
  | program
  | serve
  | check
  | spf
  | help
  deriving DecidableEq, Repr

/-- What the arguments mean. -/
inductive Invocation where
  /-- Do something, with the settings of a file if one is named. -/
  | run (settings : Option String) (command : Command)
  | help (topic : Topic)
  | version
  /-- The arguments cannot be understood. -/
  | misuse

/-- What the arguments read so far say.  The option of the program and the one of a command are
counted apart, and each may be given once. -/
structure Progress where
  topic : Topic := .program
  settings : Option String := none
  ownSettings : Option String := none
  /-- The arguments of the command that are no options. -/
  operands : List String := []
  /-- Two dashes were read. -/
  isPlain : Bool := false

namespace Progress

/-- Takes the file with the settings, which must have a name. -/
def withSettings? (p : Progress) (file : String) : Option Progress :=
  if file.isEmpty then none
  else if p.topic = .program then
    if p.settings.isSome then none else some { p with settings := some file }
  else if p.ownSettings.isSome then none
  else some { p with ownSettings := some file }

/-- Takes an argument that is no option: a name of a command, or an operand of the command. -/
def withOperand? (p : Progress) (operand : String) : Option Progress :=
  match p.topic, p.operands with
  | .program, _ =>
    if p.isPlain then none
    else if operand = "serve" then some { p with topic := .serve }
    else if operand = "check" then some { p with topic := .check }
    else if operand = "spf" then some { p with topic := .spf }
    else none
  | .check, [] => if operand.isEmpty then none else some { p with operands := [operand] }
  | .spf, [] => some { p with operands := [operand] }
  | .spf, [domain] =>
    (Ip.Address.parse? operand).map fun _ => { p with operands := [domain, operand] }
  | _, _ => none

/-- What arguments mean that have been read to the end. -/
def finish (p : Progress) : Invocation :=
  let settings := p.ownSettings.or p.settings
  match p.topic, p.operands with
  | .program, _ => .run settings .serve
  | .serve, _ => .run settings .serve
  | .check, [file] => .run settings (.check file)
  | .spf, [domain, ip] =>
    match Ip.Address.parse? ip with
    | some ip => .run settings (.spf domain ip)
    | none => .misuse
  | _, _ => .misuse

end Progress

/-- An argument, as its first characters tell. -/
inductive Argument where
  /-- Two dashes alone. -/
  | escape
  /-- A long option, perhaps with its value. -/
  | long (name : String) (value : Option String)
  /-- Short options in one argument. -/
  | short (letters : List Char)
  | operand (text : String)

/-- The kind of an argument; a dash alone is an operand. -/
def Argument.ofText (text : String) : Argument :=
  match text.toList with
  | ['-', '-'] => escape
  | '-' :: '-' :: cs =>
    match Text.cut? '=' cs with
    | some (name, value) => long (String.ofList name) (some (String.ofList value))
    | none => long (String.ofList cs) none
  | '-' :: c :: cs => short (c :: cs)
  | _ => operand text

/-- The argument can be the value of an option. -/
def isValue (text : String) : Bool :=
  match Argument.ofText text with
  | .operand _ => true
  | _ => false

/-- What one argument does. -/
inductive Effect where
  | go (p : Progress)
  /-- The next argument is the file with the settings. -/
  | wait
  | stop (meaning : Invocation)

/-- The effect of what may be missing. -/
def Effect.ofOption : Option Progress → Effect
  | some p => go p
  | none => stop .misuse

/-- The effect of a long option. -/
def effectOfLong (p : Progress) (name : String) (value : Option String) : Effect :=
  if name = "config" then
    match value with
    | some file => .ofOption (p.withSettings? file)
    | none => .wait
  else if value.isSome then .stop .misuse
  else if name = "help" then .stop (.help p.topic)
  else if name = "version" && p.topic = .program then .stop .version
  else .stop .misuse

/-- The effect of short options in one argument, of which the first that takes a value takes the
rest of the argument. -/
def effectOfShort (p : Progress) : List Char → Effect
  | ['c'] => .wait
  | 'c' :: '=' :: file => .ofOption (p.withSettings? (String.ofList file))
  | 'c' :: file => .ofOption (p.withSettings? (String.ofList file))
  | 'h' :: _ => .stop (.help p.topic)
  | 'V' :: _ => .stop (if p.topic = .program then .version else .misuse)
  | _ => .stop .misuse

/-- The effect of one argument. -/
def effectOf (p : Progress) (text : String) : Effect :=
  if p.isPlain then .ofOption (p.withOperand? text)
  else match Argument.ofText text with
    | .escape => .go { p with isPlain := true }
    | .long name value => effectOfLong p name value
    | .short letters => effectOfShort p letters
    | .operand text => .ofOption (p.withOperand? text)

/-- The help that the arguments behind the command for help ask for. -/
def helpOn : List String → Invocation
  | [] => .help .program
  | ["serve"] => .help .serve
  | ["check"] => .help .check
  | ["spf"] => .help .spf
  | ["help"] => .help .help
  | _ => .misuse

/-- What arguments mean behind those read so far. -/
def parseFrom (p : Progress) : List String → Invocation
  | [] => p.finish
  | text :: rest =>
    if text = "help" && p.topic = .program && !p.isPlain then helpOn rest
    else match effectOf p text, rest with
      | .go p, rest => parseFrom p rest
      | .stop meaning, _ => meaning
      | .wait, [] => .misuse
      | .wait, value :: rest =>
        if isValue value then
          match p.withSettings? value with
          | some p => parseFrom p rest
          | none => .misuse
        else .misuse

/-- What arguments mean. -/
def parse (arguments : List String) : Invocation := parseFrom {} arguments

end SpamVerdict.CommandLine
