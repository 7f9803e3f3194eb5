import SpamVerdict.Proofs.Ip.CanonicalText
import SpamVerdict.Proofs.Mail.AddressText
import SpamVerdict.Proofs.Mail.Token
import SpamVerdict.Proofs.Mail.TrustedSource
import SpamVerdict.Proofs.Text.Words
import Mathlib.Data.List.Chain
set_option autoImplicit false

/-!
# Address literals of received lines (SPEC_FULL §4.1)

A mail server writes down from where it received a message, with the address of the other host in
brackets.  Such a line has no name that stands for an address, so that its words are scanned.  The
scan finds the address if its text starts with a digit.  It starts at a word boundary, and there is
none in front of two colons, and none in front of a text behind the keyword of a literal but the one
before the colon of the keyword.  In these cases the address is missed (`candidates_receivedLine`).

SPEC_FULL §4.1 has the scan as the last resort of step 2 and strips the keyword in step 3.  The text
behind the keyword would be read as an address, but the scan never hands it on.
-/

namespace SpamVerdict.Mail

open Text (IsLineEnd isBlank isHexDigit isBoundary)

/-! ## The line -/

/-- The text of a host: letters and dots. -/
structure IsHost (cs : List Char) : Prop where
  ne_nil : cs ≠ []
  letter : ∀ c ∈ cs, c.isAlpha = true ∨ c = '.'

theorem IsHost.of_all {cs : List Char} (hne : cs ≠ [])
    (h : cs.all (fun c => c.isAlpha || c == '.') = true) : IsHost cs :=
  ⟨hne, fun c hc => by simpa using List.all_eq_true.1 h c hc⟩

/-- The line that says from which host a message was received and by which one; the literal of the
address stands in brackets. -/
def receivedLine (host literal receiver : List Char) : List Char :=
  "Received: from ".toList ++ (host ++ (" ([".toList ++ (literal ++ ("]) by ".toList ++ receiver))))

theorem IsHost.plain {host : List Char} (h : IsHost host) {c : Char} (hc : c ∈ host) :
    isBlank c = false ∧ c.isDigit = false ∧ c ≠ ':' := by
  rcases h.letter c hc with halpha | rfl
  · have hall : ∀ n < 128, (Char.ofNat n).isAlpha = true →
        isBlank (Char.ofNat n) = false ∧ (Char.ofNat n).isDigit = false ∧ Char.ofNat n ≠ ':' := by
      decide
    exact Text.forall_ascii (p := fun c => c.isAlpha = true →
      isBlank c = false ∧ c.isDigit = false ∧ c ≠ ':') hall (Text.toNat_lt_of_isAlpha halpha) halpha
  · decide

/-- No token starts in the name of a host, nor in what stands around it. -/
theorem IsHost.isQuiet {host before after : List Char} (h : IsHost host)
    (hcolons : before.count ':' + after.count ':' ≤ 1) (hbefore : before.any Char.isDigit = false)
    (hafter : after.any Char.isDigit = false) : IsQuiet (before ++ (host ++ after)) [] where
  colons := by
    have hcolon : ':' ∉ host := fun hmem => (h.plain hmem).2.2 rfl
    rwa [List.append_nil, List.count_append, List.count_append,
      List.count_eq_zero_of_not_mem hcolon, Nat.zero_add]
  dots := by
    right
    intro c hc
    simp only [List.mem_append] at hc
    rcases hc with hc | hc | hc
    · exact Text.eq_false_of_any hbefore c hc
    · exact (h.plain hc).2.1
    · exact Text.eq_false_of_any hafter c hc

section Line

variable {host literal receiver : List Char} (hhost : IsHost host) (hreceiver : IsHost receiver)
  (hliteral : ∀ c ∈ literal, isBlank c = false)

include hhost hreceiver hliteral

theorem words_receivedLine :
    Text.words (receivedLine host literal receiver) =
      ["Received:".toList, "from".toList, host, '(' :: '[' :: (literal ++ [']', ')']),
        "by".toList, receiver] := by
  have hline : receivedLine host literal receiver =
      "Received:".toList ++ ' ' :: ("from".toList ++ ' ' :: (host ++ ' ' ::
        ('(' :: '[' :: (literal ++ [']', ')']) ++ ' ' :: ("by".toList ++ ' ' :: receiver)))) := by
    have hreceived : "Received: from ".toList =
        "Received:".toList ++ ' ' :: ("from".toList ++ [' ']) := by decide
    have hopen : " ([".toList = [' ', '(', '['] := by decide
    have hclose : "]) by ".toList = [']', ')', ' '] ++ ("by".toList ++ [' ']) := by decide
    unfold receivedLine
    simp only [hreceived, hopen, hclose, List.append_assoc, List.cons_append, List.nil_append]
  have hbrackets : ∀ c ∈ '(' :: '[' :: (literal ++ [']', ')']), isBlank c = false := by
    intro c hc
    simp only [List.mem_cons, List.mem_append, List.not_mem_nil, or_false] at hc
    rcases hc with rfl | rfl | hc | rfl | rfl
    · decide
    · decide
    · exact hliteral c hc
    · decide
    · decide
  have hspace : isBlank ' ' = true := by decide
  have hreceived : Text.words "Received:".toList = ["Received:".toList] := by decide
  have hfrom : Text.words "from".toList = ["from".toList] := by decide
  have hby : Text.words "by".toList = ["by".toList] := by decide
  rw [hline]
  simp only [Text.words_append_cons hspace]
  rw [hreceived, hfrom, Text.words_of_forall hhost.ne_nil fun c hc => (hhost.plain hc).1,
    Text.words_of_forall (by simp) hbrackets, hby,
    Text.words_of_forall hreceiver.ne_nil fun c hc => (hreceiver.plain hc).1]
  simp only [List.singleton_append]

theorem not_holdsPhrase_receivedLine : ¬ HoldsPhrase (receivedLine host literal receiver) := by
  intro h
  obtain ⟨front, ip, is, back, hwords, hip, his⟩ := h.exists_words
  rw [words_receivedLine hhost hreceiver hliteral] at hwords
  -- of two neighbours one has another first letter than its word of the phrase
  have hchain : List.IsChain (fun u v => ¬ (ReadsWord ['i', 'p'] u ∧ ReadsWord ['i', 's'] v))
      ["Received:".toList, "from".toList, host, '(' :: '[' :: (literal ++ [']', ')']),
        "by".toList, receiver] := by
    simp only [List.isChain_cons_cons]
    refine ⟨fun h => ?_, fun h => ?_, fun h => ?_, fun h => ?_, fun h => ?_, .singleton _⟩
    · exact not_readsWord_cons (by decide) h.1
    · exact not_readsWord_cons (by decide) h.1
    · exact not_readsWord_cons (by decide) h.2
    · exact not_readsWord_cons (by decide) h.1
    · exact not_readsWord_cons (by decide) h.1
  exact List.isChain_iff_forall_rel_of_append_cons_cons.1 hchain hwords ⟨hip, his⟩

theorem feed_not_mem_receivedLine : '\n' ∉ receivedLine host literal receiver := by
  have hfeed : isBlank '\n' = true := by decide
  have hno : ∀ cs : List Char, (∀ c ∈ cs, isBlank c = false) → '\n' ∉ cs := by
    intro cs hcs hmem
    rw [hcs '\n' hmem] at hfeed
    cases hfeed
  have hfixed : '\n' ∉ "Received: from ".toList ∧ '\n' ∉ " ([".toList ∧ '\n' ∉ "]) by ".toList := by
    decide
  unfold receivedLine
  simp only [List.mem_append, not_or]
  exact ⟨hfixed.1, hno host fun c hc => (hhost.plain hc).1, hfixed.2.1, hno literal hliteral,
    hfixed.2.2, hno receiver fun c hc => (hreceiver.plain hc).1⟩

theorem lines_receivedLine {ending : List Char} (hending : ending = [] ∨ IsLineEnd ending) :
    Text.lines (receivedLine host literal receiver ++ ending) =
      [receivedLine host literal receiver] := by
  have hfeed := feed_not_mem_receivedLine hhost hreceiver hliteral
  rcases hending with rfl | hending
  · rw [List.append_nil]
    exact Text.lines_of_not_mem hfeed (List.append_ne_nil_of_left_ne_nil (by decide) _)
  · have hreturn : (receivedLine host literal receiver).getLast? ≠ some '\r' := by
      intro hlast
      unfold receivedLine at hlast
      simp only [← List.append_assoc] at hlast
      rw [List.getLast?_append_of_ne_nil _ hreceiver.ne_nil] at hlast
      have hblank := (hreceiver.plain (List.mem_of_getLast? hlast)).1
      revert hblank
      decide
    rw [← List.append_nil ending, Text.lines_append hending hfeed hreturn]
    rfl

theorem unfold_receivedLine {ending : List Char} (hending : ending = [] ∨ IsLineEnd ending) :
    unfold (receivedLine host literal receiver ++ ending) =
      receivedLine host literal receiver := by
  have hstart : isContinuation (receivedLine host literal receiver) = false := rfl
  rw [unfold, lines_receivedLine hhost hreceiver hliteral hending, List.foldl_cons, List.foldl_nil,
    appendLine_start hstart]
  rfl

/-- The line names no address. -/
theorem namedAddresses_receivedLine : namedAddresses (receivedLine host literal receiver) = [] := by
  have hlines := lines_receivedLine hhost hreceiver hliteral (.inl rfl)
  have hname : isSourceLine (receivedLine host literal receiver) = false := by
    have hcut : receivedLine host literal receiver =
        "Received".toList ++ ':' :: (" from ".toList ++ (host ++ (" ([".toList ++ (literal ++
          ("]) by ".toList ++ receiver))))) := by
      have hreceived : "Received: from ".toList = "Received".toList ++ ':' :: " from ".toList := by
        decide
      unfold receivedLine
      simp only [hreceived, List.append_assoc, List.cons_append]
    have hother : (forwardHeader :: addressHeaders).contains (fieldName "Received".toList) =
        false := by decide
    rw [hcut, isSourceLine, Text.cut?_append (by decide)]
    exact hother
  rw [List.append_nil] at hlines
  rw [namedAddresses_of_not_phrase (not_holdsPhrase_receivedLine hhost hreceiver hliteral),
    sourceLines, hlines, List.filter_singleton, hname]
  rfl

/-- The words of the line are scanned, and up to the bracket there is nothing to be found. -/
theorem candidates_of_receivedLine {ending : List Char} (hending : ending = [] ∨ IsLineEnd ending) :
    candidates (String.ofList (receivedLine host literal receiver ++ ending)) =
      (captures addressToken (some '[')
        (literal ++ ("]) by ".toList ++ receiver))).filterMap normalizeIpChars? := by
  have hquiet : IsQuiet ("Received: from ".toList ++ (host ++ " (".toList)) [] :=
    hhost.isQuiet (by decide) (by decide) (by decide)
  have hopen : isAddressChar '[' = false := by decide
  have hline : receivedLine host literal receiver =
      "Received: from ".toList ++ (host ++ " (".toList) ++
        ([] ++ '[' :: (literal ++ ("]) by ".toList ++ receiver))) := by
    have hsplit : " ([".toList = " (".toList ++ ['['] := by decide
    unfold receivedLine
    simp only [hsplit, List.append_assoc, List.singleton_append, List.nil_append]
  have hscan : candidates (String.ofList (receivedLine host literal receiver ++ ending)) =
      scannedAddresses (receivedLine host literal receiver) := by
    rw [candidates, String.toList_ofList, unfold_receivedLine hhost hreceiver hliteral hending,
      namedAddresses_receivedLine hhost hreceiver hliteral]
  have hstop : ∀ c, ('[' :: (literal ++ ("]) by ".toList ++ receiver))).head? = some c →
      isAddressChar c = false := by
    rintro c hc
    obtain rfl := Option.some.inj hc
    exact hopen
  rw [hscan, scannedAddresses, hline, captures_of_quiet hquiet hstop, List.nil_append,
    captures_cons_of_not_addressChar hopen]

end Line

/-! ## What is not read -/

/-- A text is not read as an address if it spells none and starts neither with an IPv4 address, as
in front of a port, nor with a keyword. -/
theorem normalizeIpChars?_eq_none {cs : List Char} (hbare : Text.BareOf isDecoration cs)
    (hspelled : ∀ x : Ip.Address, ¬ x.SpelledBy cs)
    (hquad : ∀ (x : Ip.V4) (rest : List Char), cs ≠ x.text ++ rest)
    (hkeyword : ∀ c, cs.head? = some c → c.toLower ≠ 'i') : normalizeIpChars? cs = none := by
  rw [Option.eq_none_iff_forall_ne_some]
  intro x hx
  have hwritten := normalizeIpChars?_eq_some_iff.1 hx
  rw [undecorate, Text.trimOf_of_bare hbare] at hwritten
  cases hwritten with
  | alone h => exact hspelled x h
  | port y => exact hquad y _ (List.append_assoc _ _ _)
  | keyword hword _ _ =>
    obtain ⟨c, hhead, hc⟩ := head?_of_keyword hword _
    exact hkeyword c hhead hc

theorem normalizeIpChars?_groupsText {gs : List UInt16} (h : gs.length ≠ 8) :
    normalizeIpChars? (Ip.groupsText gs) = none := by
  apply normalizeIpChars?_eq_none
  · refine Text.bareOf_of_forall fun c hc => ?_
    rcases Ip.mem_groupsText hc with hhex | rfl
    · exact isDecoration_of_isHexDigit hhex
    · decide
  · exact Ip.not_spelledBy_groupsText h
  · intro x rest hgs
    apply Ip.dot_not_mem_groupsText gs
    rw [hgs]
    exact List.mem_append_left rest x.dot_mem_text
  · intro c hc
    rcases Ip.mem_groupsText (List.mem_of_head? hc) with hhex | rfl
    · exact toLower_ne_of_isHexDigit hhex
    · decide

/-- A colon in front of an IPv6 address makes it unreadable. -/
theorem normalizeIpChars?_colon (x : Ip.V6) : normalizeIpChars? (':' :: x.text) = none := by
  have hspelled : Ip.Address.SpelledBy (.v6 x) x.text := x.spelledBy_text
  apply normalizeIpChars?_eq_none
  · have hcolon : Text.BareOf isDecoration [':'] :=
      Text.bareOf_of_forall (Text.eq_false_of_any (by decide))
    exact hcolon.append (hspelled.bareOf (fun c => isDecoration_of_isHexDigit) (by decide))
  · exact Ip.not_spelledBy_colon x.spelledBy_text
  · intro y rest hcs
    obtain ⟨c, cs, hy⟩ := List.exists_cons_of_ne_nil y.text_ne_nil
    rw [hy, List.cons_append] at hcs
    apply y.colon_not_mem_text
    rw [hy, (List.cons.inj hcs).1]
    exact List.mem_cons_self
  · intro c hc
    obtain rfl := Option.some.inj hc
    decide

/-! ## The literal -/

/-- Between a bracket and two colons no word starts, nor between the colons. -/
theorem captures_colons (cs : List Char) :
    captures addressToken (some '[') (':' :: ':' :: cs) = captures addressToken (some ':') cs := by
  rw [captures_cons_of_not_boundary (by decide), captures_cons_of_not_boundary (by decide)]

section Literal

variable {before : Option Char} {rest : List Char} (hquiet : IsQuiet rest [])
  (hstop : ∀ c, rest.head? = some c → isAddressChar c = false ∧ Text.isWordChar c = false)

include hquiet hstop

theorem captures_quad (hbefore : before.any Text.isWordChar = false) (x : Ip.V4) :
    captures addressToken before (x.text ++ rest) = [x.text] := by
  rw [captures_dotted hbefore (isDotted_text x) fun c hc => (hstop c hc).2,
    captures_eq_nil_of_quiet hquiet]

theorem captures_word {cs : List Char} (hboundary : isBoundary before cs.head? = true)
    (hcs : IsColoned cs) : captures addressToken before (cs ++ rest) = [cs] := by
  rw [captures_coloned hboundary hcs fun c hc => (hstop c hc).1, captures_eq_nil_of_quiet hquiet]

/-- Fewer than eight groups yield nothing: a few of them are no token, and more of them are one that
is not read as an address. -/
theorem filterMap_captures_groupsText {gs : List UInt16} (hlength : gs.length ≤ 6) :
    (captures addressToken (some ':') (Ip.groupsText gs ++ rest)).filterMap normalizeIpChars? =
      [] := by
  by_cases hcolons : 2 ≤ (Ip.groupsText gs).count ':'
  · have hne : gs ≠ [] := by
      rintro rfl
      revert hcolons
      decide
    obtain ⟨c, hhead, hc⟩ := Ip.exists_head_groupsText hne
    have hboundary : isBoundary (some ':') (Ip.groupsText gs).head? = true := by
      rw [hhead]
      exact isBoundary_of_isHexDigit (by decide) hc
    rw [captures_word hquiet hstop hboundary (.of_forall (fun c => Ip.mem_groupsText) hcolons),
      List.filterMap_cons, normalizeIpChars?_groupsText (by omega)]
    rfl
  · have hgroups : IsQuiet (Ip.groupsText gs) [] := by
      rw [← List.append_nil (Ip.groupsText gs)] at hcolons
      refine ⟨by omega, .inl ?_⟩
      rw [List.append_nil]
      exact Ip.dot_not_mem_groupsText gs
    have hpassed := captures_of_quiet hgroups (fun c hc => (hstop c hc).1) (some ':')
    rw [List.nil_append] at hpassed
    rw [hpassed, captures_eq_nil_of_quiet hquiet]
    rfl

section Shape

variable {x : Ip.V6} {cs : List Char} (hshape : x.Shape cs)

include hshape

theorem filterMap_captures_of_digit (hread : normalizeIpChars? cs = some (.v6 x))
    (hhead : cs.head? ≠ some ':') :
    (captures addressToken (some '[') (cs ++ rest)).filterMap normalizeIpChars? = [.v6 x] := by
  cases hshape with
  | digits _ hdigit hmem hcolons =>
    obtain ⟨c, hc, hhex⟩ := hdigit
    have hboundary : isBoundary (some '[') cs.head? = true := by
      rw [hc]
      exact isBoundary_of_isHexDigit (by decide) hhex
    rw [captures_word hquiet hstop hboundary (.of_forall hmem hcolons), List.filterMap_cons, hread]
    rfl
  | zeros _ _ => exact absurd rfl hhead
  | mapped _ => exact absurd rfl hhead

/-- Behind two colons only the dotted part of a mapped address is found. -/
theorem filterMap_captures_of_colon (hhead : cs.head? = some ':') :
    (captures addressToken (some '[') (cs ++ rest)).filterMap normalizeIpChars? =
      (x.mapped?.map Ip.Address.v4).toList := by
  cases hshape with
  | digits _ hdigit _ _ =>
    obtain ⟨c, hc, hhex⟩ := hdigit
    obtain rfl := Option.some.inj (hc.symm.trans hhead)
    exact absurd hhex (by decide)
  | zeros hmapped hlength =>
    rw [List.cons_append, List.cons_append, captures_colons,
      filterMap_captures_groupsText hquiet hstop hlength, hmapped]
    rfl
  | @mapped y hmapped =>
    have htext : "::ffff:".toList ++ y.text ++ rest =
        ':' :: ':' :: ("ffff:".toList ++ (y.text ++ rest)) := by
      have hcolons : "::ffff:".toList = ':' :: ':' :: "ffff:".toList := by decide
      simp only [hcolons, List.append_assoc, List.cons_append]
    have hword : IsQuiet "ffff:".toList y.text := by
      have hone : "ffff:".toList.count ':' = 1 := by decide
      refine ⟨?_, .inr (Text.eq_false_of_any (by decide))⟩
      rw [List.count_append, hone, List.count_eq_zero_of_not_mem y.colon_not_mem_text]
    have hread : normalizeIpChars? y.text = some (.v4 y) := by
      have hprint := normalizeIp?_print (.v4 y)
      rwa [Ip.Address.print, normalizeIp?, String.toList_ofList] at hprint
    rw [htext, captures_colons, captures_of_quiet hword fun c hc => (hstop c hc).1,
      captures_quad hquiet hstop (by decide), List.filterMap_cons, hread, hmapped]
    rfl

end Shape

end Literal

/-- In a literal with a keyword the only boundary up to the address is in front of the colon, so
that the colon belongs to what is captured. -/
theorem captures_keyword {cs rest : List Char} (hquiet : IsQuiet rest [])
    (hstop : ∀ c, rest.head? = some c → isAddressChar c = false ∧ Text.isWordChar c = false)
    (hcs : IsColoned cs) :
    captures addressToken (some '[') ("IPv6:".toList ++ cs ++ rest) = [':' :: cs] := by
  have hsplit : "IPv6:".toList ++ cs ++ rest =
      'I' :: 'P' :: 'v' :: '6' :: (':' :: cs ++ rest) := by
    have hkeyword : "IPv6:".toList = ['I', 'P', 'v', '6', ':'] := by decide
    simp only [hkeyword, List.cons_append, List.nil_append]
  rw [hsplit, captures_cons_of_not_addressChar (by decide),
    captures_cons_of_not_addressChar (by decide), captures_cons_of_not_addressChar (by decide),
    captures_cons_of_not_boundary (by decide)]
  have hboundary : isBoundary (some '6') (some ':') = true := by decide
  exact captures_word hquiet hstop hboundary hcs.cons_colon

/-! ## What is found -/

theorem isColoned_of_shape {x : Ip.V6} {cs : List Char} (h : x.Shape cs) : IsColoned cs := by
  cases h with
  | digits _ _ hmem hcolons => exact .of_forall hmem hcolons
  | zeros _ _ =>
    refine .of_forall ?_ (by simp)
    exact List.forall_mem_cons.2
      ⟨.inr rfl, List.forall_mem_cons.2 ⟨.inr rfl, fun c => Ip.mem_groupsText⟩⟩
  | @mapped y _ =>
    have htext : "::ffff:".toList ++ y.text = [] ++ ':' :: (":ffff:".toList ++ y.text) := by
      have hcolons : "::ffff:".toList = ':' :: ":ffff:".toList := by decide
      rw [hcolons, List.cons_append, List.nil_append]
    have hgroups : ":ffff:".toList.all (fun c => isHexDigit c || c == ':') = true := by decide
    rw [htext]
    exact .mk (by simp) (fun c hc => by simpa using List.all_eq_true.1 hgroups c hc) (by decide)
      fun c hc => isAddressChar_of_mem_token (.inl (isDotted_text y)) hc

theorem isBlank_of_mem_print {x : Ip.Address} {c : Char} (hc : c ∈ x.print.toList) :
    isBlank c = false := by
  apply isBlank_of_isAddressChar
  rcases x.spelledBy_print.mem hc with hhex | rfl | rfl
  · exact isAddressChar_of_group (.inl hhex)
  · decide
  · decide

theorem closing_stops (receiver : List Char) :
    ∀ c, ("]) by ".toList ++ receiver).head? = some c →
      isAddressChar c = false ∧ Text.isWordChar c = false := by
  rintro c hc
  obtain rfl := Option.some.inj hc
  decide

/-- The scan finds the address of a received line, and that alone, if its text does not start with a
colon.  If it does, only the IPv4 address of a mapped one is found.  Behind a keyword no address is
found. -/
theorem candidates_receivedLine {host receiver ending : List Char} (hhost : IsHost host)
    (hreceiver : IsHost receiver) (hending : ending = [] ∨ IsLineEnd ending) :
    let found (literal : List Char) : List Ip.Address :=
      candidates (String.ofList (receivedLine host literal receiver ++ ending))
    (∀ x : Ip.Address, x.print.toList.head? ≠ some ':' → found x.print.toList = [x]) ∧
      (∀ x : Ip.V6, x.text.head? = some ':' → found x.text = (x.mapped?.map .v4).toList) ∧
      ∀ x : Ip.V6, found ("IPv6:".toList ++ x.text) = [] := by
  intro found
  have hquiet : IsQuiet ("]) by ".toList ++ receiver) [] := by
    rw [← List.append_nil receiver]
    exact hreceiver.isQuiet (by decide) (by decide) (by decide)
  have hstop := closing_stops receiver
  have hblank : ∀ x : Ip.Address, ∀ c ∈ x.print.toList, isBlank c = false :=
    fun x c hc => isBlank_of_mem_print hc
  have htext : ∀ x : Ip.V6, (Ip.Address.v6 x).print.toList = x.text := fun x =>
    String.toList_ofList
  refine ⟨fun x hhead => ?_, fun x hhead => ?_, fun x => ?_⟩
  -- the text starts with a digit: it is captured whole, as a dotted word or as one with colons
  · have hread : normalizeIpChars? x.print.toList = some x := normalizeIp?_print x
    refine (candidates_of_receivedLine hhost hreceiver (hblank x) hending).trans ?_
    cases x with
    | v4 x =>
      rw [Ip.Address.print, String.toList_ofList] at hread ⊢
      rw [captures_quad hquiet hstop (by decide), List.filterMap_cons, hread]
      rfl
    | v6 x =>
      rw [htext] at hread hhead ⊢
      exact filterMap_captures_of_digit hquiet hstop x.shape_text hread hhead
  -- no word starts in front of the two colons
  · have hliteral := hblank (.v6 x)
    rw [htext] at hliteral
    exact (candidates_of_receivedLine hhost hreceiver hliteral hending).trans
      (filterMap_captures_of_colon hquiet hstop x.shape_text hhead)
  -- what is captured has the colon of the keyword in front and is not read
  · have hliteral : ∀ c ∈ "IPv6:".toList ++ x.text, isBlank c = false := by
      have hkeyword : ∀ c ∈ "IPv6:".toList, isBlank c = false := Text.eq_false_of_any (by decide)
      intro c hc
      refine (List.mem_append.1 hc).elim (hkeyword c) fun hmem => hblank (.v6 x) c ?_
      rwa [htext]
    refine (candidates_of_receivedLine hhost hreceiver hliteral hending).trans ?_
    rw [captures_keyword hquiet hstop (isColoned_of_shape x.shape_text), List.filterMap_cons,
      normalizeIpChars?_colon]
    rfl

/-- Hosts whose names are made of hexadecimal digits do not mislead the scan. -/
theorem candidates_receivedLine_relay :
    IsHost "be.ef".toList ∧ IsHost "dead".toList ∧ IsLineEnd ['\r', '\n'] ∧
      candidates "Received: from be.ef ([2001:db8::1]) by dead\r\n" =
        [.v6 ⟨0x2001, 0xDB8, 0, 0, 0, 0, 0, 1⟩] ∧
      candidates "Received: from be.ef ([::ffff:192.0.2.1]) by dead\r\n" =
        [.v4 ⟨192, 0, 2, 1⟩] := by
  have hhost : IsHost "be.ef".toList := .of_all (by decide) (by decide)
  have hreceiver : IsHost "dead".toList := .of_all (by decide) (by decide)
  obtain ⟨hplain, hcolon, -⟩ := candidates_receivedLine hhost hreceiver (.inr .returnFeed)
  exact ⟨hhost, hreceiver, .returnFeed,
    hplain (.v6 ⟨0x2001, 0xDB8, 0, 0, 0, 0, 0, 1⟩) (by decide +kernel),
    hcolon ⟨0, 0, 0, 0, 0, 0xFFFF, 0xC000, 0x201⟩ (by decide +kernel)⟩

/-- The literal of an IPv6 address, as servers write it down, is missed. -/
theorem keyword_missed :
    let x : Ip.V6 := ⟨0x2001, 0xDB8, 0, 0, 0, 0, 0, 1⟩
    let line := receivedLine "mail.test".toList ("IPv6:".toList ++ x.text) "relay.test".toList
    IsHost "mail.test".toList ∧ IsHost "relay.test".toList ∧
      line = "Received: from mail.test ([IPv6:2001:db8::1]) by relay.test".toList ∧
      candidates (String.ofList line) ≠ [.v6 x] := by
  exact ⟨.of_all (by decide) (by decide), .of_all (by decide) (by decide), by decide +kernel,
    by decide +kernel⟩

end SpamVerdict.Mail
