set_option autoImplicit false

/-!
# Values of settings (SPEC_FULL §13)

What a file or the environment can say about a setting.  A table keeps its entries in the order in
which they were made, each key at most once.  A section of SPEC_FULL §13 is a table, and dates,
which no entry needs, are texts.
-/

namespace SpamVerdict.Settings

/-- A value as it was written, before it is read as the setting it stands for. -/
inductive Value where
  | null
  | bool (b : Bool)
  | int (n : Int)
  | float (x : Float)
  | text (s : String)
  | list (items : List Value)
  | table (entries : List (String × Value))
  deriving Inhabited

end SpamVerdict.Settings
