import SpamVerdict.Json.Basic
import SpamVerdict.Decimal.Layout
set_option autoImplicit false

/-!
# JSON text (SPEC_FULL §14.1)

The compact text of a value: no blanks, members in the order of their keys, and in strings only
the quote, the backslash and the control characters escaped.

By SPEC_FULL §14.1 a variable that is no text becomes part of a message in this form.
-/

namespace SpamVerdict.Json

/-- A hexadecimal digit in lower case. -/
private def hexChar (n : Nat) : Char := Nat.digitChar (n % 16)

/-- A character as it stands in a string. -/
def escapeChar (c : Char) : List Char :=
  match c.toNat with
  | 0x22 => ['\x5c', '\x22']
  | 0x5C => ['\x5c', '\x5c']
  | 0x08 => ['\x5c', 'b']
  | 0x0C => ['\x5c', 'f']
  | 0x0A => ['\x5c', 'n']
  | 0x0D => ['\x5c', 'r']
  | 0x09 => ['\x5c', 't']
  | n => if n < 0x20 then ['\x5c', 'u', '0', '0', hexChar (n / 16), hexChar n] else [c]

/-- A text in quotes. -/
def quote (s : String) : String :=
  String.ofList ('\x22' :: s.toList.flatMap escapeChar ++ ['\x22'])

/-- The text of a number. -/
def Number.render : Number → String
  | int n => toString n
  | float x => Decimal.Layout.data.render x

mutual

/-- The compact text of a value. -/
def render : Json → String
  | null => "null"
  | bool b => if b then "true" else "false"
  | number n => n.render
  | string s => quote s
  | array items => "[" ++ renderItems items ++ "]"
  | object members => "\x7b" ++ renderMembers members ++ "\x7d"

/-- The texts of values with commas between them. -/
def renderItems : List Json → String
  | [] => ""
  | [x] => render x
  | x :: xs => render x ++ "," ++ renderItems xs

/-- The texts of members with commas between them. -/
def renderMembers : List (String × Json) → String
  | [] => ""
  | [(k, v)] => quote k ++ ":" ++ render v
  | (k, v) :: rest => quote k ++ ":" ++ render v ++ "," ++ renderMembers rest

end

end SpamVerdict.Json
