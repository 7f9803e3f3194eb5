import SpamVerdict.Mail.Header
import SpamVerdict.Proofs.Ip.LetterCase
set_option autoImplicit false

/-!
# Letter case in a header block (SPEC_FULL §4.1)

The names of headers, the phrase in front of an address, the keyword and the hexadecimal digits of
an address are all read in either case, and nothing else that is looked for is a letter.  So every
reader commutes with putting the ASCII letters of its text into lower case, and the addresses that
an unfolded block mentions do not depend on their case (`candidatesIn_map_toLower`).

For the search with a pattern this is a property of the pattern (`IsBlind`), shown once for each of
the two that there are.
-/

namespace SpamVerdict

namespace Text

@[simp] theorem isDigitOfAnyScript_toLower (c : Char) :
    isDigitOfAnyScript c.toLower = isDigitOfAnyScript c :=
  apply_toLower (by decide +kernel) c

@[simp] theorem isWordChar_toLower (c : Char) : isWordChar c.toLower = isWordChar c :=
  apply_toLower (by decide) c

theorem takeWhile_map_of_apply {f : Char → Char} {p : Char → Bool} (hp : ∀ c, p (f c) = p c)
    (cs : List Char) : (cs.map f).takeWhile p = (cs.takeWhile p).map f := by
  have hcomp : p ∘ f = p := funext hp
  rw [List.takeWhile_map, hcomp]

theorem getLast?_map_toLower_iff {d : Char} (hd : ∀ c : Char, c.toLower = d ↔ c = d)
    (cs : List Char) : (cs.map Char.toLower).getLast? = some d ↔ cs.getLast? = some d := by
  rw [List.getLast?_map, Option.map_eq_some_iff]
  simp only [hd, exists_eq_right]

theorem lines_map_toLower (cs : List Char) :
    lines (cs.map Char.toLower) = (lines cs).map (List.map Char.toLower) := by
  have hfeed : ∀ c : Char, (c.toLower == '\n') = (c == '\n') :=
    apply_toLower (f := (· == '\n')) (by decide)
  have hreturn : ∀ cs, dropReturn (cs.map Char.toLower) = (dropReturn cs).map Char.toLower := by
    intro cs
    simp only [dropReturn, getLast?_map_toLower_iff (d := '\r') (toLower_eq_iff (by decide)),
      ← List.map_dropLast, apply_ite (List.map Char.toLower)]
  rw [lines, lines, split_map hfeed]
  induction split (· == '\n') cs with
  | nil => rfl
  | cons piece pieces ih =>
    cases pieces with
    | nil => cases piece <;> rfl
    | cons next pieces =>
      rw [List.map_cons] at ih
      simp only [List.map_cons, linesOfPieces, hreturn, ih]

end Text

namespace Mail

open Text

/-! ## Loosely written addresses -/

@[simp] theorem isDecoration_toLower (c : Char) : isDecoration c.toLower = isDecoration c :=
  apply_toLower (by decide) c

theorem dropBracket_map_toLower (cs : List Char) :
    dropBracket (cs.map Char.toLower) = (dropBracket cs).map Char.toLower := by
  simp only [dropBracket, getLast?_map_toLower_iff (d := ']') (toLower_eq_iff (by decide)),
    ← List.map_dropLast, apply_ite (List.map Char.toLower)]

theorem quadWithPort?_map_toLower (cs : List Char) :
    quadWithPort? (cs.map Char.toLower) = quadWithPort? cs := by
  have hcolon : ∀ c : Char, c.toLower = ':' ↔ c = ':' := toLower_eq_iff (by decide)
  unfold quadWithPort?
  rw [cut?_map hcolon]
  cases cut? ':' cs with
  | none => rfl
  | some parts =>
    obtain ⟨quad, port⟩ := parts
    have hall : (port.map Char.toLower).all isDigitOfAnyScript = port.all isDigitOfAnyScript := by
      rw [List.all_map]
      exact congrArg port.all (funext isDigitOfAnyScript_toLower)
    simp only [Option.map_some, Prod.map, List.isEmpty_map, List.length_map, hall,
      dropBracket_map_toLower, Ip.V4.parse?_map_toLower]

theorem normalizeIpChars?_map_toLower (cs : List Char) :
    normalizeIpChars? (cs.map Char.toLower) = normalizeIpChars? cs := by
  unfold normalizeIpChars? undecorate
  simp only [trimOf_map isDecoration_toLower, quadWithPort?_map_toLower, afterFold?_map_toLower]
  cases quadWithPort? (trimOf isDecoration cs) with
  | some x => rfl
  | none =>
    cases afterFold? "ipv6:".toList (trimOf isDecoration cs) with
    | some rest =>
      simp only [Option.map_some, trimOf_map isDecoration_toLower, Ip.Address.ofChars?_map_toLower]
    | none => simp only [Option.map_none, Ip.Address.ofChars?_map_toLower]

/-! ## Headers that hold an address -/

theorem lowerAscii_ofList_map_toLower (cs : List Char) :
    lowerAscii (String.ofList (cs.map Char.toLower)) = lowerAscii (String.ofList cs) := by
  have hcomp : Char.toLower ∘ Char.toLower = Char.toLower := funext toLower_toLower
  simp only [lowerAscii, String.toList_ofList, List.map_map, hcomp]

theorem addressOfLine?_map_toLower (line : List Char) :
    addressOfLine? (line.map Char.toLower) = addressOfLine? line := by
  have hcolon : ∀ c : Char, c.toLower = ':' ↔ c = ':' := toLower_eq_iff (by decide)
  have hcomma : ∀ c : Char, decide (c.toLower ≠ ',') = decide (c ≠ ',') :=
    apply_toLower (f := fun c => decide (c ≠ ',')) (by decide)
  unfold addressOfLine?
  rw [cut?_map hcolon]
  cases cut? ':' line with
  | none => rfl
  | some parts =>
    obtain ⟨name, value⟩ := parts
    have hfirst : (value.map Char.toLower).takeWhile (· ≠ ',') =
        (value.takeWhile (· ≠ ',')).map Char.toLower :=
      takeWhile_map_of_apply (p := fun c => decide (c ≠ ',')) hcomma value
    simp only [Option.map_some, Prod.map, trimOf_map isBlank_toLower, lowerAscii_ofList_map_toLower,
      hfirst, normalizeIpChars?_map_toLower]

/-! ## Searching -/

/-- A pattern does not see the case of letters: it matches at the same places, and what it captures
differs in nothing else. -/
def Pattern.Blind (p : Pattern) : Prop :=
  ∀ before cs, p (before.map Char.toLower) (cs.map Char.toLower) =
    (p before cs).map (Prod.map (List.map Char.toLower) (List.map Char.toLower))

theorem captures_map_toLower {p : Pattern} (hp : p.Blind) (before : Option Char) (cs : List Char) :
    captures p (before.map Char.toLower) (cs.map Char.toLower) =
      (captures p before cs).map (List.map Char.toLower) := by
  fun_induction captures p before cs with
  | case1 before => rw [List.map_nil, captures, List.map_nil]
  | case2 before c rest hnone ih =>
    have hmiss := hp before (c :: rest)
    rw [hnone, List.map_cons, Option.map_none] at hmiss
    rw [List.map_cons, captures, hmiss]
    exact ih
  | case3 before c rest capture after hsome hshorter ih =>
    have hhit := hp before (c :: rest)
    rw [hsome, List.map_cons, Option.map_some] at hhit
    rw [List.map_cons, captures, hhit]
    simp only [Prod.map, List.length_map, hshorter, if_true, List.map_cons]
    rw [← ih, ← List.getElem?_map, List.map_cons]
  | case4 before c rest capture after hsome hlonger =>
    have hhit := hp before (c :: rest)
    rw [hsome, List.map_cons, Option.map_some] at hhit
    rw [List.map_cons, captures, hhit]
    simp only [Prod.map, List.length_map, hlonger, if_false, List.map_cons, List.map_nil]

/-! ### The phrase -/

theorem matchesLetter_toLower (letter c : Char) :
    matchesLetter letter c.toLower = matchesLetter letter c := by
  have hlong : (c.toLower == 'ſ') = (c == 'ſ') := apply_toLower (f := (· == 'ſ')) (by decide) c
  rw [matchesLetter, toLower_toLower, hlong, matchesLetter]

theorem afterWord?_map_toLower (word cs : List Char) :
    afterWord? word (cs.map Char.toLower) = (afterWord? word cs).map (List.map Char.toLower) := by
  induction word generalizing cs with
  | nil => rfl
  | cons l ls ih =>
    cases cs with
    | nil => rfl
    | cons c cs =>
      rw [List.map_cons, afterWord?, afterWord?, matchesLetter_toLower]
      split
      · exact ih cs
      · rfl

theorem afterBlanks?_map_toLower (cs : List Char) :
    afterBlanks? (cs.map Char.toLower) = (afterBlanks? cs).map (List.map Char.toLower) := by
  cases cs with
  | nil => rfl
  | cons c cs =>
    rw [List.map_cons, afterBlanks?, afterBlanks?, isBlank_toLower,
      dropWhile_map_of_apply isBlank_toLower]
    split <;> rfl

theorem dropHead_map_toLower {d : Char} (hd : ∀ c : Char, c.toLower = d ↔ c = d) (cs : List Char) :
    dropHead d (cs.map Char.toLower) = (dropHead d cs).map Char.toLower := by
  cases cs with
  | nil => rfl
  | cons c cs => simp only [List.map_cons, dropHead, hd, apply_ite (List.map Char.toLower)]

@[simp] theorem isAddressChar_toLower (c : Char) : isAddressChar c.toLower = isAddressChar c :=
  apply_toLower (by decide) c

/-- Two readings one behind the other commute with a change of the text if both of them do. -/
theorem bind_eq_map_bind {α β : Type} {change : α → α} {change' : β → β} {first first' : Option α}
    {next next' : α → Option β} (hfirst : first' = first.map change)
    (hnext : ∀ x, next' (change x) = (next x).map change') :
    first' >>= next' = (first >>= next).map change' := by
  subst hfirst
  cases first with
  | none => rfl
  | some x => exact hnext x

theorem senderPhrase_blind : senderPhrase.Blind := by
  intro before cs
  have hopen : ∀ c : Char, c.toLower = '[' ↔ c = '[' := toLower_eq_iff (by decide)
  have hclose : ∀ c : Char, c.toLower = ']' ↔ c = ']' := toLower_eq_iff (by decide)
  unfold senderPhrase
  refine bind_eq_map_bind (afterWord?_map_toLower _ cs) fun cs => ?_
  refine bind_eq_map_bind (afterBlanks?_map_toLower cs) fun cs => ?_
  refine bind_eq_map_bind (afterWord?_map_toLower _ cs) fun cs => ?_
  refine bind_eq_map_bind (afterBlanks?_map_toLower cs) fun cs => ?_
  refine bind_eq_map_bind (afterWord?_map_toLower _ cs) fun cs => ?_
  refine bind_eq_map_bind (afterBlanks?_map_toLower cs) fun cs => ?_
  simp only [dropHead_map_toLower hopen, dropHead_map_toLower hclose, List.isEmpty_map,
    takeWhile_map_of_apply isAddressChar_toLower, dropWhile_map_of_apply isAddressChar_toLower]
  split <;> rfl

/-! ### Words -/

theorem digitRun?_map_toLower (cs : List Char) :
    digitRun? (cs.map Char.toLower) =
      (digitRun? cs).map (Prod.map (List.map Char.toLower) (List.map Char.toLower)) := by
  simp only [digitRun?, takeWhile_map_of_apply isDigit_toLower, List.isEmpty_map, List.length_map,
    dropWhile_map_of_apply isDigit_toLower]
  split <;> rfl

theorem dottedRun?_map_toLower (cs : List Char) :
    dottedRun? (cs.map Char.toLower) =
      (dottedRun? cs).map (Prod.map (List.map Char.toLower) (List.map Char.toLower)) := by
  have hdot : ∀ c : Char, c.toLower = '.' ↔ c = '.' := toLower_eq_iff (by decide)
  unfold dottedRun?
  rw [digitRun?_map_toLower]
  rcases digitRun? cs with _ | ⟨ds, _ | ⟨c, rest⟩⟩
  · rfl
  · rfl
  · by_cases hc : c = '.'
    · subst hc
      simp [Prod.map]
    · have hc' : c.toLower ≠ '.' := mt (hdot c).1 hc
      simp [Prod.map, hc, hc']

theorem head?_any_isWordChar (cs : List Char) :
    (cs.map Char.toLower).head?.any isWordChar = cs.head?.any isWordChar := by
  cases cs with
  | nil => rfl
  | cons c cs => exact isWordChar_toLower c

theorem dottedToken?_map_toLower (cs : List Char) :
    dottedToken? (cs.map Char.toLower) =
      (dottedToken? cs).map (Prod.map (List.map Char.toLower) (List.map Char.toLower)) := by
  unfold dottedToken?
  refine bind_eq_map_bind (dottedRun?_map_toLower cs) ?_
  rintro ⟨a, cs⟩
  refine bind_eq_map_bind (dottedRun?_map_toLower cs) ?_
  rintro ⟨b, cs⟩
  refine bind_eq_map_bind (dottedRun?_map_toLower cs) ?_
  rintro ⟨c, cs⟩
  refine bind_eq_map_bind (digitRun?_map_toLower cs) ?_
  rintro ⟨d, cs⟩
  simp only [Prod.map, head?_any_isWordChar, ← List.map_append]
  split <;> rfl

theorem colonToken?_map_toLower (cs : List Char) :
    colonToken? (cs.map Char.toLower) =
      (colonToken? cs).map (Prod.map (List.map Char.toLower) (List.map Char.toLower)) := by
  have hcolon : ∀ c : Char, c.toLower = ':' ↔ c = ':' := toLower_eq_iff (by decide)
  have hrun : ∀ c : Char, (isHexDigit c.toLower || c.toLower == ':') = (isHexDigit c || c == ':') :=
    apply_toLower (f := fun c => isHexDigit c || c == ':') (by decide)
  unfold colonToken?
  rw [takeWhile_map_of_apply isHexDigit_toLower, dropWhile_map_of_apply isHexDigit_toLower]
  rcases cs.dropWhile isHexDigit with _ | ⟨c, rest⟩
  · rfl
  · by_cases hc : c = ':'
    · subst hc
      have hlower : Char.toLower ':' = ':' := by decide
      have hcontains :
          ((rest.map Char.toLower).takeWhile fun c => isHexDigit c || c == ':').contains ':' =
            (rest.takeWhile fun c => isHexDigit c || c == ':').contains ':' := by
        rw [takeWhile_map_of_apply (p := fun c => isHexDigit c || c == ':') hrun, Bool.eq_iff_iff]
        simp only [List.contains_iff_mem, List.mem_map, hcolon, exists_eq_right]
      simp only [List.map_cons, hlower, hcontains, takeWhile_map_of_apply isAddressChar_toLower,
        dropWhile_map_of_apply isAddressChar_toLower]
      split <;> simp [Prod.map]
    · have hc' : c.toLower ≠ ':' := mt (hcolon c).1 hc
      simp [hc, hc']

theorem addressToken_blind : addressToken.Blind := by
  intro before cs
  have hbefore : (before.map Char.toLower).any isWordChar = before.any isWordChar := by
    cases before with
    | none => rfl
    | some c => exact isWordChar_toLower c
  have hboundary : isBoundary (before.map Char.toLower) (cs.map Char.toLower).head? =
      isBoundary before cs.head? := by
    rw [isBoundary, hbefore, head?_any_isWordChar, isBoundary]
  unfold addressToken
  rw [hboundary, dottedToken?_map_toLower, colonToken?_map_toLower, ← Option.map_or]
  cases isBoundary before cs.head? <;> rfl

/-! ## Candidates -/

/-- The addresses that an unfolded block mentions. -/
def candidatesIn (block : List Char) : List Ip.Address :=
  match namedAddresses block with
  | [] => scannedAddresses block
  | found => found

theorem filterMap_map_toLower {p : Pattern} (hp : p.Blind) (block : List Char) :
    (captures p none (block.map Char.toLower)).filterMap normalizeIpChars? =
      (captures p none block).filterMap normalizeIpChars? := by
  have hcaptures := captures_map_toLower hp none block
  rw [Option.map_none] at hcaptures
  have hcomp : normalizeIpChars? ∘ List.map Char.toLower = normalizeIpChars? :=
    funext normalizeIpChars?_map_toLower
  rw [hcaptures, List.filterMap_map, hcomp]

/-- The addresses that an unfolded block mentions do not depend on the case of its letters. -/
theorem candidatesIn_map_toLower (block : List Char) :
    candidatesIn (block.map Char.toLower) = candidatesIn block := by
  have hlines : addressOfLine? ∘ List.map Char.toLower = addressOfLine? :=
    funext addressOfLine?_map_toLower
  have hnamed : namedAddresses (block.map Char.toLower) = namedAddresses block := by
    rw [namedAddresses, lines_map_toLower, List.filterMap_map, hlines,
      filterMap_map_toLower senderPhrase_blind, namedAddresses]
  have hscanned : scannedAddresses (block.map Char.toLower) = scannedAddresses block :=
    filterMap_map_toLower addressToken_blind block
  unfold candidatesIn
  rw [hnamed, hscanned]

end Mail

end SpamVerdict
