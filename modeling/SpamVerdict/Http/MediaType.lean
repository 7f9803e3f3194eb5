import SpamVerdict.Text.Blank
import SpamVerdict.Text.Case
set_option autoImplicit false

/-!
# Media types (SPEC_FULL §15)

A media type names the format of a body: a type, a subtype, an optional suffix behind the last
plus sign, and parameters.  `MediaType.parse?` reads the whole text, so a type with broken
parameters names no format.

Requests of SPEC_FULL §15 that carry data must say that it is JSON (`MediaType.isJson`), and the
replies of the content-score service may name their encoding in a parameter.
-/

namespace SpamVerdict.Http

/-- A media type; all names are in lower case. -/
structure MediaType where
  type : List Char
  subtype : List Char
  suffix : Option (List Char)
  parameters : List (List Char × List Char)
  deriving DecidableEq, Repr

namespace MediaType

/-- A character of the names in a media type. -/
def isTokenChar (c : Char) : Bool :=
  c.isAlphanum || "!#$%&\x27+-.^_\x60|~".toList.contains c

/-- A character that may stand between quotes. -/
def isQuotable (c : Char) : Bool := ' ' ≤ c && c ≠ '\x7f'

/-- Reads a quoted value behind its first quote, and passes over the spaces behind it; a value has
at least one character, which may itself be a quote. -/
def quotedValue? : List Char → Option (List Char × List Char)
  | [] => none
  | c :: cs =>
    let value := cs.takeWhile (· ≠ '\x22')
    if isQuotable c && value.all isQuotable then
      match cs.dropWhile (· ≠ '\x22') with
      | [] => none
      | _ :: rest => some (c :: value, rest.dropWhile (· = ' '))
    else none

/-- Reads the value of a parameter; only at the end of the text may it be missing. -/
def value? : List Char → Option (List Char × List Char)
  | '\x22' :: cs => quotedValue? cs
  | cs =>
    match cs.takeWhile isTokenChar, cs.dropWhile isTokenChar with
    | [], _ :: _ => none
    | value, rest => some (value, rest)

/-- Reads a parameter. -/
def parameter? (cs : List Char) : Option ((List Char × List Char) × List Char) :=
  match cs.takeWhile isTokenChar, cs.dropWhile isTokenChar with
  | c :: name, '=' :: rest => (value? rest).map fun (value, rest) =>
      (((c :: name).map Char.toLower, value), rest)
  | _, _ => none

/-- What follows a quoted value is shorter than the text that it was read from. -/
theorem length_lt_of_quotedValue? {cs value rest : List Char}
    (h : quotedValue? cs = some (value, rest)) : rest.length < cs.length := by
  cases cs with
  | nil => simp [quotedValue?] at h
  | cons c cs =>
    have hdrop := (List.dropWhile_sublist (p := (· ≠ '\x22')) (l := cs)).length_le
    simp only [quotedValue?] at h
    split at h
    · split at h
      · simp at h
      · next more heq =>
        have hmore := (List.dropWhile_sublist (p := (· = ' ')) (l := more)).length_le
        simp only [Option.some.injEq, Prod.mk.injEq] at h
        rw [heq] at hdrop
        grind
    · simp at h

/-- What follows a value is no longer than the text that it was read from. -/
theorem length_le_of_value? {cs value rest : List Char} (h : value? cs = some (value, rest)) :
    rest.length ≤ cs.length := by
  unfold value? at h
  split at h
  · next more => exact Nat.le_succ_of_le (Nat.le_of_lt (length_lt_of_quotedValue? h))
  · have hdrop := (List.dropWhile_sublist (p := isTokenChar) (l := cs)).length_le
    grind

/-- What follows a parameter is shorter than the text that it was read from. -/
theorem length_lt_of_parameter? {cs rest : List Char} {p : List Char × List Char}
    (h : parameter? cs = some (p, rest)) : rest.length < cs.length := by
  have hdrop := (List.dropWhile_sublist (p := isTokenChar) (l := cs)).length_le
  unfold parameter? at h
  split at h
  · next c name more _ heq =>
    obtain ⟨⟨value, last⟩, hvalue, hpair⟩ := Option.map_eq_some_iff.1 h
    have hlast := length_le_of_value? hvalue
    grind
  · simp at h

/-- Reads parameters, each with spaces before it and a semicolon behind it but for the last. -/
def parameters? (cs : List Char) : Option (List (List Char × List Char)) :=
  match _ : cs.dropWhile (· = ' ') with
  | [] => some []
  | c :: rest =>
    match _ : parameter? (c :: rest) with
    | some (p, []) => some [p]
    | some (p, ';' :: more) => (parameters? more).map (p :: ·)
    | _ => none
termination_by cs.length
decreasing_by
  have hshort := (List.dropWhile_sublist (p := (· = ' ')) (l := cs)).length_le
  have hless := length_lt_of_parameter? ‹_›
  grind

/-- The text in front of the last plus sign that has something before it, and what follows the
sign. -/
def cutSuffix (subtype : List Char) : List Char × Option (List Char) :=
  let suffix := (subtype.reverse.takeWhile (· ≠ '+')).reverse
  match subtype.take (subtype.length - suffix.length) with
  | [] => (subtype, none)
  | ['+'] => (subtype, none)
  | front => (front.dropLast, some suffix)

/-- The media type that a text spells. -/
def parse? (s : String) : Option MediaType :=
  let cs := s.toList
  let type := cs.takeWhile isTokenChar
  match type, cs.dropWhile isTokenChar with
  | _ :: _, '/' :: rest =>
    let (subtype, suffix) := cutSuffix ((rest.takeWhile isTokenChar).map Char.toLower)
    let parameters := match rest.dropWhile isTokenChar with
      | [] => some []
      | ';' :: more => if subtype.isEmpty then none else parameters? more
      | _ => none
    if cs.all (fun c => isQuotable c && c.toNat < 128) then
      parameters.map fun ps => ⟨type.map Char.toLower, subtype, suffix, ps⟩
    else none
  | _, _ => none

/-- The value of the first parameter with a name. -/
def parameter (m : MediaType) (name : String) : Option String :=
  (m.parameters.lookup name.toList).map String.ofList

/-- The type is `application`, and the subtype or its suffix is `json`. -/
def isJson (m : MediaType) : Bool :=
  m.type = "application".toList &&
    (m.subtype = "json".toList || m.suffix = some "json".toList)

end MediaType

end SpamVerdict.Http
