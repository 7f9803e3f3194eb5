import SpamVerdict.Mail.Address
import SpamVerdict.Proofs.Ip.Spelling
import SpamVerdict.Proofs.Text.Fold
set_option autoImplicit false

/-!
# What counts as a loosely written address (SPEC_FULL §4.1)

The language that is read as an address in a header or a host's variable.  Once the decoration at
both ends of the text is stripped off, an address stands there in one of three ways
(`WrittenAs`): alone, as an IPv4 address in front of a port, or behind a keyword.  No text can be
taken in two of them, so reading finds the address that is written and finds none in any other text
(`normalizeIp?_iff_writtenAs`).

These are the rules of SPEC_FULL §4.1, step 3, in the order in which they are tried, as a language.
-/

namespace SpamVerdict.Mail

open Text (StrippedOf)

/-- The ways in which an address stands in a text without decoration at its ends: alone; as an IPv4
address, at most one closing bracket, a colon and a port of one to five digits; or behind a keyword
in any case, from which more decoration may part it. -/
inductive WrittenAs : Ip.Address → List Char → Prop where
  | alone {x : Ip.Address} {cs : List Char} (h : x.SpelledBy cs) : WrittenAs x cs
  | port (x : Ip.V4) {bracket port : List Char} (hbracket : bracket = [] ∨ bracket = [']'])
      (hne : port ≠ []) (hlength : port.length ≤ 5)
      (hdigits : ∀ c ∈ port, Text.isDigitOfAnyScript c = true) :
      WrittenAs (.v4 x) (x.text ++ bracket ++ ':' :: port)
  | keyword {x : Ip.Address} {keyword rest bare : List Char}
      (hkeyword : keyword.map Char.toLower = "ipv6:".toList)
      (hrest : StrippedOf isDecoration rest bare) (h : x.SpelledBy bare) :
      WrittenAs x (keyword ++ rest)

/-! ## In front of a port -/

theorem colon_not_mem_text_append (x : Ip.V4) {bracket : List Char}
    (hbracket : bracket = [] ∨ bracket = [']']) : ':' ∉ x.text ++ bracket := by
  rcases hbracket with rfl | rfl <;> simp [x.colon_not_mem_text]

theorem dropBracket_text_append (x : Ip.V4) {bracket : List Char}
    (hbracket : bracket = [] ∨ bracket = [']']) : dropBracket (x.text ++ bracket) = x.text := by
  rcases hbracket with rfl | rfl
  · rw [List.append_nil, dropBracket, if_neg]
    intro hlast
    exact Ip.V4.not_mem_text (by decide) (by decide) (List.mem_of_getLast? hlast)
  · simp [dropBracket]

theorem exists_dropBracket (cs : List Char) :
    ∃ bracket, (bracket = [] ∨ bracket = [']']) ∧ cs = dropBracket cs ++ bracket := by
  unfold dropBracket
  split
  · next hlast => exact ⟨[']'], .inr rfl, (List.dropLast_append_getLast? _ hlast).symm⟩
  · exact ⟨[], .inl rfl, (List.append_nil cs).symm⟩

theorem quadWithPort?_eq_some_iff {cs : List Char} {x : Ip.V4} :
    quadWithPort? cs = some x ↔ ∃ bracket port, cs = x.text ++ bracket ++ ':' :: port ∧
      (bracket = [] ∨ bracket = [']']) ∧ port ≠ [] ∧ port.length ≤ 5 ∧
        ∀ c ∈ port, Text.isDigitOfAnyScript c = true := by
  constructor
  · intro h
    unfold quadWithPort? at h
    split at h
    · cases h
    · next quad port hcut =>
      split at h
      · next hport =>
        simp only [Bool.and_eq_true, Bool.not_eq_true', List.isEmpty_eq_false_iff,
          decide_eq_true_eq, List.all_eq_true] at hport
        obtain ⟨bracket, hbracket, hquad⟩ := exists_dropBracket quad
        rw [Ip.V4.parse?_eq_some_iff] at h
        rw [h] at hquad
        exact ⟨bracket, port, by rw [Text.eq_append_of_cut? hcut, ← hquad], hbracket, hport.1.1,
          hport.1.2, hport.2⟩
      · cases h
  · rintro ⟨bracket, port, rfl, hbracket, hne, hlength, hdigits⟩
    have hport : (!port.isEmpty && port.length ≤ 5 && port.all Text.isDigitOfAnyScript) = true := by
      simp only [Bool.and_eq_true, Bool.not_eq_true', List.isEmpty_eq_false_iff,
        decide_eq_true_eq, List.all_eq_true]
      exact ⟨⟨hne, hlength⟩, hdigits⟩
    rw [quadWithPort?, Text.cut?_append (colon_not_mem_text_append x hbracket)]
    simp only [hport, if_true, dropBracket_text_append x hbracket, Ip.V4.parse?_eq_some_iff]

/-- In front of the first colon of an IPv6 address there is no IPv4 address. -/
theorem quadWithPort?_of_spelledBy {x : Ip.Address} {cs : List Char} (h : x.SpelledBy cs) :
    quadWithPort? cs = none := by
  rw [Option.eq_none_iff_forall_ne_some]
  intro y hy
  obtain ⟨bracket, port, rfl, hbracket, -⟩ := quadWithPort?_eq_some_iff.1 hy
  cases x with
  | v4 x =>
    have hcolon : ':' ∈ x.text := by
      rw [← show y.text ++ bracket ++ ':' :: port = x.text from h]
      simp
    exact x.colon_not_mem_text hcolon
  | v6 x =>
    obtain ⟨part, rest, htext, hhex⟩ := Ip.V6.SpelledBy.exists_colon h
    have hno : ∀ c, Text.isHexDigit c = false → c ∉ part := by
      intro c hc hmem
      rw [hhex c hmem] at hc
      cases hc
    have hcut := Text.cut?_append (colon_not_mem_text_append y hbracket) port
    rw [htext, Text.cut?_append (hno ':' (by decide))] at hcut
    obtain ⟨hpart, -⟩ := Prod.mk.inj (Option.some.inj hcut)
    have hdot : '.' ∈ part := by
      rw [hpart]
      exact List.mem_append_left _ y.dot_mem_text
    exact hno '.' (by decide) hdot

/-! ## Behind a keyword -/

/-- The keyword starts with a letter that no numeral has. -/
theorem head?_of_keyword {keyword : List Char}
    (h : keyword.map Char.toLower = "ipv6:".toList) (rest : List Char) :
    ∃ c, (keyword ++ rest).head? = some c ∧ c.toLower = 'i' := by
  cases keyword with
  | nil => cases h
  | cons c keyword => exact ⟨c, rfl, (List.cons.inj h).1⟩

theorem toLower_ne_of_isHexDigit {c : Char} (h : Text.isHexDigit c = true) : c.toLower ≠ 'i' := by
  intro hc
  rw [← Text.isHexDigit_toLower, hc] at h
  cases h

theorem afterFold?_of_spelledBy {x : Ip.Address} {cs : List Char} (h : x.SpelledBy cs) :
    Text.afterFold? "ipv6:".toList cs = none := by
  rw [Option.eq_none_iff_forall_ne_some]
  intro rest hrest
  obtain ⟨keyword, rfl, hkeyword⟩ := Text.afterFold?_eq_some hrest
  obtain ⟨c, hhead, hc⟩ := head?_of_keyword hkeyword rest
  have hbare := h.bareOf (p := fun d => d.toLower == 'i')
    (fun d hd => beq_false_of_ne (toLower_ne_of_isHexDigit hd)) (by decide)
  have hfalse := hbare.first c hhead
  rw [hc] at hfalse
  cases hfalse

theorem quadWithPort?_of_keyword {keyword : List Char}
    (h : keyword.map Char.toLower = "ipv6:".toList) (rest : List Char) :
    quadWithPort? (keyword ++ rest) = none := by
  rw [Option.eq_none_iff_forall_ne_some]
  intro x hx
  obtain ⟨bracket, port, hcs, -⟩ := quadWithPort?_eq_some_iff.1 hx
  obtain ⟨c, hhead, hc⟩ := head?_of_keyword h rest
  rw [hcs, List.append_assoc, List.head?_append_of_ne_nil _ x.text_ne_nil] at hhead
  have hbare := x.bareOf_text (p := fun d => d.toLower == 'i') fun d hd =>
    beq_false_of_ne (toLower_ne_of_isHexDigit (Ip.isHexDigit_of_isDigit hd))
  have hfalse := hbare.first c hhead
  rw [hc] at hfalse
  cases hfalse

/-! ## Reading -/

theorem normalizeIpChars?_eq_some_iff {raw : List Char} {x : Ip.Address} :
    normalizeIpChars? raw = some x ↔ WrittenAs x (undecorate raw) := by
  unfold normalizeIpChars?
  dsimp only
  generalize undecorate raw = bare
  constructor
  · intro h
    split at h
    · next y hquad =>
      obtain ⟨bracket, port, rfl, hbracket, hne, hlength, hdigits⟩ :=
        quadWithPort?_eq_some_iff.1 hquad
      cases h
      exact .port y hbracket hne hlength hdigits
    · split at h
      · next rest hrest =>
        obtain ⟨keyword, rfl, hkeyword⟩ := Text.afterFold?_eq_some hrest
        exact .keyword hkeyword (Text.strippedOf_trimOf _ rest)
          (Ip.Address.ofChars?_eq_some_iff.1 h)
      · exact .alone (Ip.Address.ofChars?_eq_some_iff.1 h)
  · intro h
    cases h with
    | alone hspelled =>
      simp only [quadWithPort?_of_spelledBy hspelled, afterFold?_of_spelledBy hspelled]
      exact Ip.Address.ofChars?_eq_some_iff.2 hspelled
    | @port x bracket port hbracket hne hlength hdigits =>
      have hquad : quadWithPort? (x.text ++ bracket ++ ':' :: port) = some x :=
        quadWithPort?_eq_some_iff.2 ⟨bracket, port, rfl, hbracket, hne, hlength, hdigits⟩
      simp only [hquad]
    | @keyword x keyword rest bare hkeyword hrest hspelled =>
      have hafter : Text.afterFold? "ipv6:".toList (keyword ++ rest) = some rest :=
        Text.afterFold?_append (hkeyword.trans (by decide))
      simp only [quadWithPort?_of_keyword hkeyword, hafter, undecorate, Text.trimOf_eq_iff.2 hrest]
      exact Ip.Address.ofChars?_eq_some_iff.2 hspelled

/-- Just one text is left when the blanks, brackets, quotes and marks at both ends are stripped off.
The text is read as an address exactly if that address is written there in one of the three ways,
and is not read in every other case; decoration put around any text changes nothing. -/
theorem normalizeIp?_iff_writtenAs (raw : String) :
    (∃! bare, StrippedOf isDecoration raw.toList bare) ∧
      (∀ x, normalizeIp? raw = some x ↔
        ∃ bare, StrippedOf isDecoration raw.toList bare ∧ WrittenAs x bare) ∧
      (normalizeIp? raw = none ↔
        ∀ x bare, StrippedOf isDecoration raw.toList bare → ¬ WrittenAs x bare) ∧
      ∀ before after : String, (∀ c ∈ before.toList ++ after.toList, isDecoration c = true) →
        normalizeIp? (before ++ raw ++ after) = normalizeIp? raw := by
  have hread : ∀ x, normalizeIp? raw = some x ↔
      ∃ bare, StrippedOf isDecoration raw.toList bare ∧ WrittenAs x bare := by
    intro x
    simp only [normalizeIp?, normalizeIpChars?_eq_some_iff, ← Text.trimOf_eq_iff, undecorate,
      exists_eq_left']
  refine ⟨⟨undecorate raw.toList, Text.strippedOf_trimOf _ _, ?_⟩, hread, ?_, ?_⟩
  · intro bare hbare
    exact (Text.trimOf_eq_iff.2 hbare).symm
  · rw [Option.eq_none_iff_forall_ne_some]
    constructor
    · intro h x bare hbare hwritten
      exact h x ((hread x).2 ⟨bare, hbare, hwritten⟩)
    · intro h x hx
      obtain ⟨bare, hbare, hwritten⟩ := (hread x).1 hx
      exact h x bare hbare hwritten
  · intro before after hdecoration
    have hsurrounded := Text.trimOf_surrounded (p := isDecoration)
      (fun c hc => hdecoration c (List.mem_append_left _ hc))
      (fun c hc => hdecoration c (List.mem_append_right _ hc)) raw.toList
    simp only [normalizeIp?, normalizeIpChars?, undecorate, String.toList_append, hsurrounded]

/-- A keyword and a bracket of its own inside the decoration. -/
theorem normalizeIp?_iff_writtenAs_nested :
    (∀ c ∈ "<( ".toList ++ ")>.".toList, isDecoration c = true) ∧
      normalizeIp? ("<( " ++ "IPv6:[2001:DB8::1]" ++ ")>.") =
        some (.v6 ⟨0x2001, 0xDB8, 0, 0, 0, 0, 0, 1⟩) := by
  have hdecoration : ∀ c ∈ "<( ".toList ++ ")>.".toList, isDecoration c = true :=
    List.all_eq_true.1 (by decide)
  obtain ⟨-, hread, -, hsurrounded⟩ := normalizeIp?_iff_writtenAs "IPv6:[2001:DB8::1]"
  refine ⟨hdecoration, ?_⟩
  rw [hsurrounded _ _ hdecoration, hread]
  refine ⟨"IPv6:[2001:DB8::1".toList, ?_, ?_⟩
  · exact Text.trimOf_eq_iff.1 (by decide)
  · have hkeyword : "IPv6:".toList.map Char.toLower = "ipv6:".toList := by decide
    have hrest : StrippedOf isDecoration "[2001:DB8::1".toList "2001:DB8::1".toList :=
      Text.trimOf_eq_iff.1 (by decide)
    exact .keyword hkeyword hrest (Ip.Address.ofChars?_eq_some_iff.1 (by decide +kernel))

end SpamVerdict.Mail
