import SpamVerdict.Provider.SenderPolicy
import SpamVerdict.Proofs.Ip.Numerals
import SpamVerdict.Proofs.Spf.Rules
import SpamVerdict.Proofs.Text.Fold
set_option autoImplicit false

/-!
# The domain of a sender (SPEC_FULL §4.1, §14.4)

The domain of a mailbox is put into lower case before its characters are looked at, and lower case
reaches beyond ASCII.  Of all other characters just one falls among the characters of a host name:
the Kelvin sign, which becomes a small k (`isHostChar_lowerChar`).  So the domain is the one that is
written behind the at sign, with ASCII letters in lower case and every Kelvin sign read as a k
(`senderDomain?_iff_names`).

SPEC_FULL §14.4 puts the two steps in this order: the domain "must match `^[a-z0-9.-]+$` after
lowercasing".
-/

namespace SpamVerdict.Mail

open Text (StrippedOf)

/-! ## Characters -/

/-- The Kelvin sign. -/
def kelvinSign : Char := '\u212A'

/-- A character of a domain as ASCII writes it: a letter, a digit, a dot or a hyphen. -/
def isDomainChar (c : Char) : Bool := c.isAlphanum || c == '.' || c == '-'

/-- The character of a domain that is meant by a written one. -/
def domainChar (c : Char) : Char := if c = kelvinSign then 'k' else c.toLower

theorem toNat_lt_of_isHostChar {c : Char} (h : isHostChar c = true) : c.toNat < 128 := by
  simp only [isHostChar, Char.isDigit, Bool.or_eq_true, Bool.and_eq_true, decide_eq_true_eq,
    beq_iff_eq, Char.le_def, UInt32.le_iff_toNat_le] at h
  rcases h with ((⟨-, hz⟩ | ⟨-, hnine⟩) | rfl) | rfl
  · exact Nat.lt_of_le_of_lt hz (by decide)
  · exact Nat.lt_of_le_of_lt hnine (by decide)
  · decide
  · decide

theorem toNat_lt_of_isDomainChar {c : Char} (h : isDomainChar c = true) : c.toNat < 128 := by
  simp only [isDomainChar, Char.isAlphanum, Bool.or_eq_true, beq_iff_eq] at h
  rcases h with ((halpha | hdigit) | rfl) | rfl
  · exact Text.toNat_lt_of_isAlpha halpha
  · exact Text.toNat_lt_of_isHexDigit (by simp [Text.isHexDigit, hdigit])
  · decide
  · decide

theorem isHostChar_ofNat {n : Nat} (h : 128 ≤ n) : isHostChar (Char.ofNat n) = false := by
  by_cases hvalid : n.isValidChar
  · have htoNat : (Char.ofNat n).toNat = n := by
      rw [Char.ofNat, dif_pos hvalid]
      rfl
    rw [← Bool.not_eq_true]
    intro hhost
    have hlt := toNat_lt_of_isHostChar hhost
    omega
  · rw [Char.ofNat, dif_neg hvalid]
    decide

/-- Of the capitals beyond ASCII only one has its lower-case form within. -/
theorem capitals_reach :
    ∀ r ∈ Text.capitals, 128 ≤ (r.first : Int) + r.shift ∨ r = ⟨0x212A, 0x212A, 1, -8383⟩ := by
  decide +kernel

theorem isHostChar_lowerChar_of_le {c : Char} (hc : 128 ≤ c.toNat) (hne : c ≠ kelvinSign) :
    isHostChar (Text.lowerChar c) = false := by
  rw [Text.lowerChar, if_neg (by omega)]
  split
  · next r hfind =>
    have hrange := List.find?_some hfind
    simp only [Bool.and_eq_true, decide_eq_true_eq, beq_iff_eq] at hrange
    obtain ⟨⟨hfirst, hlast⟩, -⟩ := hrange
    rcases capitals_reach r (List.mem_of_find?_eq_some hfind) with hreach | rfl
    · exact isHostChar_ofNat (by omega)
    · have htoNat : c.toNat = kelvinSign.toNat := Nat.le_antisymm hlast hfirst
      exact absurd (Char.toNat_inj.1 htoNat) hne
  · rw [← Bool.not_eq_true]
    intro hhost
    have hlt := toNat_lt_of_isHostChar hhost
    omega

/-- A character becomes one of a host name exactly if it is one in either case, or a Kelvin sign. -/
theorem isHostChar_lowerChar (c : Char) :
    isHostChar (Text.lowerChar c) = true ↔ isDomainChar c = true ∨ c = kelvinSign := by
  have hascii : c.toNat < 128 → isHostChar (Text.lowerChar c) = isDomainChar c :=
    Text.forall_ascii (p := fun c => isHostChar (Text.lowerChar c) = isDomainChar c) (by decide)
  constructor
  · intro hhost
    by_cases hlt : c.toNat < 128
    · exact .inl (hascii hlt ▸ hhost)
    · refine .inr (by_contra fun hne => ?_)
      rw [isHostChar_lowerChar_of_le (by omega) hne] at hhost
      cases hhost
  · rintro (hdomain | rfl)
    · rw [hascii (toNat_lt_of_isDomainChar hdomain), hdomain]
    · decide

theorem lowerChar_eq_domainChar {c : Char} (h : isDomainChar c = true ∨ c = kelvinSign) :
    Text.lowerChar c = domainChar c := by
  rcases h with hdomain | rfl
  · have hlt := toNat_lt_of_isDomainChar hdomain
    have hne : c ≠ kelvinSign := by
      rintro rfl
      revert hlt
      decide
    rw [Text.lowerChar, if_pos hlt, domainChar, if_neg hne]
  · decide

/-! ## Texts -/

/-- A text becomes a host name exactly if its characters do, one by one: the two letters whose lower
case is more than a character for a character are none of them. -/
theorem lowerAfter_isHostChar_iff (before cs : List Char) :
    (∀ c ∈ Text.lowerAfter before cs, isHostChar c = true) ↔
      ∀ c ∈ cs, isDomainChar c = true ∨ c = kelvinSign := by
  induction cs generalizing before with
  | nil => simp [Text.lowerAfter]
  | cons c cs ih =>
    rw [Text.lowerAfter]
    split
    · next hsigma =>
      subst hsigma
      have hforms : isHostChar 'ς' = false ∧ isHostChar 'σ' = false := by decide
      have hno : ¬ (isDomainChar 'Σ' = true ∨ 'Σ' = kelvinSign) := by decide
      simp only [List.forall_mem_cons, hno, false_and, iff_false, not_and]
      intro hform
      split at hform <;> simp [hforms] at hform
    · split
      · next hdotted =>
        subst hdotted
        have hdot : isHostChar '\u0307' = false := by decide
        have hno : ¬ (isDomainChar 'İ' = true ∨ 'İ' = kelvinSign) := by decide
        simp [hdot, hno]
      · rw [List.forall_mem_cons, List.forall_mem_cons, ih, isHostChar_lowerChar]

theorem lowerAfter_eq_map {cs : List Char} (h : ∀ c ∈ cs, isDomainChar c = true ∨ c = kelvinSign)
    (before : List Char) : Text.lowerAfter before cs = cs.map domainChar := by
  induction cs generalizing before with
  | nil => rfl
  | cons c cs ih =>
    obtain ⟨hc, hcs⟩ := List.forall_mem_cons.1 h
    have hsigma : c ≠ 'Σ' := by
      rintro rfl
      revert hc
      decide
    have hdotted : c ≠ 'İ' := by
      rintro rfl
      revert hc
      decide
    rw [Text.lowerAfter, if_neg hsigma, if_neg hdotted, ih hcs, lowerChar_eq_domainChar hc,
      List.map_cons]

/-- What is known of the characters of a host name: they stay as they are. -/
theorem fixed_of_isHostChar {c : Char} (h : isHostChar c = true) :
    isDomainChar c = true ∧ domainChar c = c ∧ Text.isBlank c = false ∧ c ≠ '@' := by
  have hall : ∀ n < 128, isHostChar (Char.ofNat n) = true →
      isDomainChar (Char.ofNat n) = true ∧ domainChar (Char.ofNat n) = Char.ofNat n ∧
        Text.isBlank (Char.ofNat n) = false ∧ Char.ofNat n ≠ '@' := by decide
  exact Text.forall_ascii (p := fun c => isHostChar c = true →
    isDomainChar c = true ∧ domainChar c = c ∧ Text.isBlank c = false ∧ c ≠ '@') hall
    (toNat_lt_of_isHostChar h) h

section HostName

variable {cs : List Char} (h : ∀ c ∈ cs, isHostChar c = true)

include h

theorem lowerChars_of_isHostChar : Text.lowerChars cs = cs := by
  have hmap : cs.map domainChar = cs.map id :=
    List.map_congr_left fun c hc => (fixed_of_isHostChar (h c hc)).2.1
  rw [Text.lowerChars, lowerAfter_eq_map fun c hc => .inl (fixed_of_isHostChar (h c hc)).1, hmap,
    List.map_id]

theorem trimOf_isBlank_of_isHostChar : Text.trimOf Text.isBlank cs = cs :=
  Text.trimOf_eq_self fun c hc => (fixed_of_isHostChar (h c hc)).2.2.1

theorem at_not_mem_of_isHostChar : '@' ∉ cs :=
  fun hat => (fixed_of_isHostChar (h '@' hat)).2.2.2 rfl

end HostName

/-! ## Mailboxes -/

/-- A mailbox is written with a domain: without the blanks around it there is exactly one at sign in
the text, and the domain is what follows it, without the blanks around that. -/
def WrittenAt (email : String) (domain : List Char) : Prop :=
  ∃ name rest, StrippedOf Text.isBlank email.toList (name ++ '@' :: rest) ∧
    '@' ∉ name ∧ '@' ∉ rest ∧ StrippedOf Text.isBlank rest domain

/-- A mailbox names a domain: one of allowed characters, at least one, is written in it, and each of
them is taken as it is meant. -/
def NamesBy (allowed : Char → Prop) (meant : Char → Char) (email d : String) : Prop :=
  ∃ domain, WrittenAt email domain ∧ domain ≠ [] ∧ (∀ c ∈ domain, allowed c) ∧
    d = String.ofList (domain.map meant)

/-- A mailbox names a domain, written with the characters of ASCII and Kelvin signs. -/
abbrev Names : String → String → Prop :=
  NamesBy (fun c => isDomainChar c = true ∨ c = kelvinSign) domainChar

theorem split_eq_pair_iff {sep : Char} {cs front back : List Char} :
    Text.split (· == sep) cs = [front, back] ↔
      cs = front ++ sep :: back ∧ sep ∉ front ∧ sep ∉ back := by
  constructor
  · intro h
    have hnone : ∀ piece ∈ [front, back], sep ∉ piece := by
      intro piece hpiece hsep
      have hfalse := Text.eq_false_of_mem_split (h ▸ hpiece) sep hsep
      simp at hfalse
    have hjoin : Ip.joinWith sep (Text.split (· == sep) cs) = cs := Ip.joinWith_split cs
    rw [h] at hjoin
    exact ⟨hjoin.symm, hnone front (by simp), hnone back (by simp)⟩
  · rintro ⟨rfl, hfront, hback⟩
    rw [Text.split_append hfront, Text.split_of_not_mem hback]

theorem writtenAt_iff {email : String} {domain : List Char} :
    WrittenAt email domain ↔ ∃ name rest,
      Text.split (· == '@') (Text.trimOf Text.isBlank email.toList) = [name, rest] ∧
        Text.trimOf Text.isBlank rest = domain := by
  simp only [WrittenAt, split_eq_pair_iff, ← Text.trimOf_eq_iff, and_assoc]

theorem isHostName_lowerChars_iff (domain : List Char) :
    (!(Text.lowerChars domain).isEmpty && (Text.lowerChars domain).all isHostChar) = true ↔
      domain ≠ [] ∧ ∀ c ∈ domain, isDomainChar c = true ∨ c = kelvinSign := by
  rw [Bool.and_eq_true, List.all_eq_true, Text.lowerChars, lowerAfter_isHostChar_iff]
  refine and_congr_left fun hall => ?_
  rw [lowerAfter_eq_map hall, List.isEmpty_map, Bool.not_eq_true', List.isEmpty_eq_false_iff]

theorem senderDomain?_eq_some_iff {email d : String} :
    senderDomain? email = some d ↔ Names email d := by
  constructor
  · intro h
    unfold senderDomain? at h
    split at h
    · next name rest hsplit =>
      dsimp only at h
      split at h
      · next hhost =>
        obtain ⟨hne, hall⟩ := (isHostName_lowerChars_iff _).1 hhost
        cases h
        refine ⟨_, writtenAt_iff.2 ⟨name, rest, hsplit, rfl⟩, hne, hall, ?_⟩
        rw [Text.lowerChars, lowerAfter_eq_map hall]
      · cases h
    · cases h
  · rintro ⟨domain, hwritten, hne, hall, rfl⟩
    obtain ⟨name, rest, hsplit, rfl⟩ := writtenAt_iff.1 hwritten
    have hhost := (isHostName_lowerChars_iff _).2 ⟨hne, hall⟩
    simp only [senderDomain?, hsplit]
    rw [if_pos hhost, Text.lowerChars, lowerAfter_eq_map hall]

/-- A domain that is named is a host name. -/
theorem Names.isHostChar {email d : String} (h : Names email d) :
    d ≠ "" ∧ ∀ c ∈ d.toList, isHostChar c = true := by
  obtain ⟨domain, -, hne, hall, rfl⟩ := h
  have hhost := (lowerAfter_isHostChar_iff [] domain).2 hall
  rw [lowerAfter_eq_map hall] at hhost
  refine ⟨fun hempty => hne ?_, by rwa [String.toList_ofList]⟩
  have hnil := congrArg String.toList hempty
  rw [String.toList_ofList] at hnil
  exact List.map_eq_nil_iff.1 hnil

/-- A host name is the domain of the mailbox that is made of it. -/
theorem names_append {d : String} (hne : d ≠ "") (h : ∀ c ∈ d.toList, isHostChar c = true) :
    Names ("x@" ++ d) d := by
  have hdomain : ∀ c ∈ d.toList, isDomainChar c = true ∨ c = kelvinSign :=
    fun c hc => .inl (fixed_of_isHostChar (h c hc)).1
  have hne' : d.toList ≠ [] := mt String.toList_eq_nil_iff.1 hne
  have htrim : Text.trimOf Text.isBlank ("x@" ++ d).toList = ['x'] ++ '@' :: d.toList := by
    rw [String.toList_append]
    apply Text.trimOf_eq_self
    intro c hc
    have hstart : ∀ c ∈ "x@".toList, Text.isBlank c = false := Text.eq_false_of_any (by decide)
    rcases List.mem_append.1 hc with hmem | hmem
    · exact hstart c hmem
    · exact (fixed_of_isHostChar (h c hmem)).2.2.1
  refine ⟨d.toList, ⟨['x'], d.toList, Text.trimOf_eq_iff.1 htrim, by decide,
    at_not_mem_of_isHostChar h, ?_⟩, hne', hdomain, ?_⟩
  · exact Text.trimOf_eq_iff.1 (trimOf_isBlank_of_isHostChar h)
  · rw [← lowerAfter_eq_map hdomain [], ← Text.lowerChars, lowerChars_of_isHostChar h,
      String.ofList_toList]

/-! ## The domain that is evaluated -/

theorem normalizeDomain_of_isHostChar {d : String} (h : ∀ c ∈ d.toList, isHostChar c = true) :
    Spf.normalizeDomain d = d := by
  rw [Spf.normalizeDomain, Text.trim, trimOf_isBlank_of_isHostChar h, String.ofList_toList,
    Text.lower, lowerChars_of_isHostChar h, String.ofList_toList]

/-- An evaluation starts with the policy of the domain itself. -/
theorem head?_evaluate_queries (dns : Dns.Resolver) (domain : String) (ip : Ip.Address) :
    (Spf.evaluate dns domain ip).queries.head? = some (.txt (Spf.normalizeDomain domain)) := by
  by_cases hpublishes : ∃ text, Spf.Publishes dns (Spf.normalizeDomain domain) text
  · obtain ⟨text, htext⟩ := hpublishes
    simp [Spf.evaluate_eq, Spf.Evaluation.queries, Spf.maxDepth, Spf.checkDomain_of_publishes htext]
  · obtain ⟨v, line, hstep, -⟩ :=
      Spf.checkDomain_of_not_publishes ip (Spf.maxDepth - 1) (not_exists.1 hpublishes)
    have hlog : (Spf.checkDomain dns ip Spf.maxDepth (Spf.normalizeDomain domain)).2 = _ :=
      congrArg Prod.snd hstep
    simp [Spf.evaluate_eq, Spf.Evaluation.queries, hlog]

/-- The domain of a mailbox is the one behind its only at sign, if that is written with ASCII
letters, digits, dots, hyphens and Kelvin signs; its letters are put into lower case, for which a
Kelvin sign counts as a k.  In every other case there is none.  A domain that was found is found
again behind an at sign, and for a message with a readable address it is the one whose policy is
evaluated. -/
theorem senderDomain?_iff_names (email : String) :
    (∀ d, senderDomain? email = some d ↔ Names email d) ∧
      (senderDomain? email = none ↔ ∀ d, ¬ Names email d) ∧
      ∀ d, senderDomain? email = some d →
        senderDomain? ("x@" ++ d) = some d ∧
          ∀ (dns : Dns.Resolver) (m : Message) (ip : Ip.Address), m.sender = email →
            Ip.Address.parse? (Text.trim m.ip) = some ip →
              Provider.SenderPolicy.check dns m =
                  Provider.SenderPolicy.reportOn d (Text.trim m.ip) (Spf.evaluate dns d ip) ∧
                (Spf.evaluate dns d ip).queries.head? = some (.txt d) := by
  refine ⟨fun d => senderDomain?_eq_some_iff, ?_, fun d hd => ?_⟩
  · simp only [Option.eq_none_iff_forall_ne_some, Ne, senderDomain?_eq_some_iff]
  · obtain ⟨hne, hhost⟩ := (senderDomain?_eq_some_iff.1 hd).isHostChar
    refine ⟨senderDomain?_eq_some_iff.2 (names_append hne hhost), ?_⟩
    intro dns m ip hsender hip
    have hdomain : m.senderDomain? = some d := by rw [Message.senderDomain?, hsender, hd]
    refine ⟨?_, ?_⟩
    · simp only [Provider.SenderPolicy.check, hdomain, hip]
    · rw [head?_evaluate_queries, normalizeDomain_of_isHostChar hhost]

/-- A mailbox with blanks around it, capitals and a Kelvin sign, in a message that can be
evaluated. -/
theorem senderDomain?_iff_names_books :
    let email := " Bob@BOO\u212AS.Example "
    let dns : Dns.Resolver := ⟨fun _ => .ok [], fun _ _ => .ok [], fun _ => .ok []⟩
    let m : Message := ⟨"", email, "", "", "", "192.0.2.1"⟩
    let ip : Ip.Address := .v4 ⟨192, 0, 2, 1⟩
    m.sender = email ∧ senderDomain? email = some "books.example" ∧
      Ip.Address.parse? (Text.trim m.ip) = some ip ∧
      senderDomain? "x@books.example" = some "books.example" ∧
      (Spf.evaluate dns "books.example" ip).queries.head? = some (.txt "books.example") := by
  intro email dns m ip
  have hsender : m.sender = email := rfl
  have hdomain : senderDomain? email = some "books.example" := by decide +kernel
  have hip : Ip.Address.parse? (Text.trim m.ip) = some ip := by decide +kernel
  obtain ⟨-, -, hfound⟩ := senderDomain?_iff_names email
  obtain ⟨hagain, hevaluated⟩ := hfound "books.example" hdomain
  exact ⟨hsender, hdomain, hip, hagain, (hevaluated dns m ip hsender hip).2⟩

/-- A domain that is not written with the characters of ASCII alone is found nevertheless, and no
letter of the one that is found was written in this place. -/
theorem kelvinSign_taken :
    ¬ (senderDomain? "x@\u212Aing.test" = some "king.test" ↔
      NamesBy (fun c => isDomainChar c = true) Char.toLower "x@\u212Aing.test" "king.test") := by
  intro hclaim
  have hfound : senderDomain? "x@\u212Aing.test" = some "king.test" := by decide +kernel
  obtain ⟨domain, hwritten, -, hall, -⟩ := hclaim.1 hfound
  obtain ⟨name, rest, hsplit, rfl⟩ := writtenAt_iff.1 hwritten
  have hpieces : Text.split (· == '@') (Text.trimOf Text.isBlank "x@\u212Aing.test".toList) =
      [['x'], "\u212Aing.test".toList] := by decide
  rw [hpieces] at hsplit
  cases hsplit
  have hkelvin : kelvinSign ∈ Text.trimOf Text.isBlank "\u212Aing.test".toList := by decide
  exact absurd (hall kelvinSign hkelvin) (by decide)

end SpamVerdict.Mail
