import SpamVerdict.Json.Printer
set_option autoImplicit false

/-!
# JSON text for people (SPEC_FULL §10)

The text of a value over several lines: each item and each member on a line of its own, two blanks
further in than the brackets around it.  The commands of SPEC_FULL §10 print their results so.
-/

namespace SpamVerdict.Json

/-- The start of a line at a level of brackets. -/
def lineStart (level : Nat) : String := "\n" ++ String.ofList (List.replicate (2 * level) ' ')

mutual

/-- The text of a value that stands at a level of brackets. -/
def renderAt (level : Nat) : Json → String
  | array [] => "[]"
  | array (x :: xs) =>
    "[" ++ lineStart (level + 1) ++ renderAt (level + 1) x ++ renderItemsAt (level + 1) xs ++
      lineStart level ++ "]"
  | object [] => "\x7b\x7d"
  | object ((k, v) :: ms) =>
    "\x7b" ++ lineStart (level + 1) ++ quote k ++ ": " ++ renderAt (level + 1) v ++
      renderMembersAt (level + 1) ms ++ lineStart level ++ "\x7d"
  | v => render v

/-- The texts of further values, each behind a comma. -/
def renderItemsAt (level : Nat) : List Json → String
  | [] => ""
  | x :: xs => "," ++ lineStart level ++ renderAt level x ++ renderItemsAt level xs

/-- The texts of further members, each behind a comma. -/
def renderMembersAt (level : Nat) : List (String × Json) → String
  | [] => ""
  | (k, v) :: ms =>
    "," ++ lineStart level ++ quote k ++ ": " ++ renderAt level v ++ renderMembersAt level ms

end

/-- The text of a value over several lines. -/
def pretty (v : Json) : String := renderAt 0 v

end SpamVerdict.Json
