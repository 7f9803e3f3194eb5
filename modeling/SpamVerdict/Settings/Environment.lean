import SpamVerdict.Decimal.Reading
import SpamVerdict.Settings.Place
set_option autoImplicit false

/-!
# Settings in the environment (SPEC_FULL §13)

A variable of the environment is a setting if its name, in any case, starts with the name of the
service and two underscores.  Two underscores in the rest stand for a dot.  The value is the first
of these that its text spells: a truth value, an integer, a decimal, and else the text.

SPEC_FULL §13 writes such a name as `SPAMBLOCK__SECTION__KEY`.
-/

namespace SpamVerdict.Settings

/-- What the names of settings start with, in lower case. -/
def marker : List Char := "spamblock__".toList

/-- The text with a dot for every two underscores, taken from the left. -/
def dotted : List Char → List Char
  | '_' :: '_' :: cs => '.' :: dotted cs
  | c :: cs => c :: dotted cs
  | [] => []

/-- The key of the setting that a variable names. -/
def keyOfVariable? (name : String) : Option String :=
  let name := (Text.lower name).toList
  if marker.isPrefixOf name then some (String.ofList (dotted (name.drop marker.length))) else none

/-- The value that the text of a variable spells. -/
def valueOfVariable (text : String) : Value :=
  let cs := text.toList
  match Text.lower text with
  | "true" => .bool true
  | "false" => .bool false
  | _ =>
    match Decimal.int64? cs, Decimal.float? cs with
    | some n, _ => .int n
    | none, some x => .float x
    | none, none => .text text

/-- The settings among the variables of an environment. -/
def ofEnvironment (environment : List (String × String)) : List (String × Value) :=
  environment.filterMap fun (name, text) =>
    (keyOfVariable? name).map fun key => (key, valueOfVariable text)

end SpamVerdict.Settings
