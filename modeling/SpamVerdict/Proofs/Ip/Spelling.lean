import SpamVerdict.Proofs.Ip.Numerals
set_option autoImplicit false

/-!
# Spellings of addresses (SPEC_FULL §4.1)

The texts that stand for an address, put as a grammar.  An IPv4 address has one text.  An IPv6
address is spelled by the numerals of its eight groups with colons between them, of which one run
of zero groups may be left out where two colons meet, and the last two may be dotted
(`V6.SpelledBy`).  Reading follows the grammar in both directions (`Address.ofChars?_eq_some_iff`),
and the canonical text is one of the spellings, so what is written is read back
(`Address.parse?_print`).

SPEC_FULL §4.1, step 3, rejects what "does not parse as a valid IP"; the grammar says what does.
-/

namespace SpamVerdict.Ip

open Text (BareOf bareOf_of_forall)

/-! ## IPv4 -/

namespace V4

theorem parse?_eq_some_iff {cs : List Char} {x : V4} : parse? cs = some x ↔ cs = x.text := by
  unfold parse?
  constructor
  · intro h
    split at h
    · next a b c d hsplit =>
      simp only [Option.bind_eq_bind, Option.bind_eq_some_iff, Option.pure_def, Option.some.injEq,
        octet?_eq_some_iff] at h
      obtain ⟨oa, rfl, ob, rfl, oc, rfl, od, rfl, rfl⟩ := h
      have hjoin : joinWith '.' (Text.split (· == '.') cs) = cs := joinWith_split cs
      rw [← hjoin, hsplit]
      rfl
    · cases h
  · rintro rfl
    have hdot : ∀ part ∈ x.octets.map octetText, '.' ∉ part := by
      intro part hpart hmem
      obtain ⟨o, -, rfl⟩ := List.mem_map.1 hpart
      have hdigit := isDigit_of_mem_octetText hmem
      revert hdigit
      decide
    have hsplit : Text.split (· == '.') x.text =
        [octetText x.a, octetText x.b, octetText x.c, octetText x.d] :=
      split_joinWith (by simp [octets]) hdot
    have hread : ∀ o, octet? (octetText o) = some o := fun o => octet?_eq_some_iff.2 rfl
    rw [hsplit]
    simp [hread]

theorem isDigit_or_dot_of_mem_text {x : V4} {c : Char} (h : c ∈ x.text) :
    c.isDigit = true ∨ c = '.' := by
  rcases mem_joinWith h with hdot | ⟨part, hpart, hc⟩
  · exact .inr hdot
  · obtain ⟨o, -, rfl⟩ := List.mem_map.1 hpart
    exact .inl (isDigit_of_mem_octetText hc)

theorem dot_mem_text (x : V4) : '.' ∈ x.text := by
  simp [text, octets, joinWith]

theorem text_ne_nil (x : V4) : x.text ≠ [] := List.ne_nil_of_mem x.dot_mem_text

theorem not_mem_text {x : V4} {c : Char} (hdigit : c.isDigit = false) (hdot : c ≠ '.') :
    c ∉ x.text := by
  intro h
  rcases isDigit_or_dot_of_mem_text h with hc | hc
  · rw [hdigit] at hc
    cases hc
  · exact hdot hc

theorem colon_not_mem_text (x : V4) : ':' ∉ x.text := not_mem_text (by decide) (by decide)

end V4

/-! ## The ends of a spelling -/

section Ends

variable {p : Char → Bool}

/-- A joined text starts as its first part and ends as its last one. -/
theorem bareOf_joinWith {sep : Char} {parts : List (List Char)}
    (hparts : ∀ part ∈ parts, part ≠ [] ∧ BareOf p part) : BareOf p (joinWith sep parts) := by
  induction parts with
  | nil => exact bareOf_of_forall (by simp [joinWith])
  | cons part parts ih =>
    obtain ⟨⟨hne, hbare⟩, hrest⟩ := List.forall_mem_cons.1 hparts
    by_cases hnil : parts = []
    · subst hnil
      exact hbare
    · have hjoined : joinWith sep parts ≠ [] := by
        obtain ⟨next, others, rfl⟩ := List.exists_cons_of_ne_nil hnil
        have hnext : next ≠ [] := (hrest next List.mem_cons_self).1
        cases others <;> simp [joinWith, hnext]
      rw [joinWith_cons_of_ne hnil]
      refine ⟨fun c hc => ?_, fun c hc => ?_⟩
      · rw [List.head?_append_of_ne_nil _ hne] at hc
        exact hbare.first c hc
      · obtain ⟨first, others, hcons⟩ := List.exists_cons_of_ne_nil hjoined
        rw [List.getLast?_append_cons, hcons, List.getLast?_cons_cons, ← hcons] at hc
        exact (ih hrest).last c hc

theorem V4.bareOf_text (hdigit : ∀ c, c.isDigit = true → p c = false) (x : V4) :
    BareOf p x.text := by
  apply bareOf_joinWith
  intro part hpart
  obtain ⟨o, -, rfl⟩ := List.mem_map.1 hpart
  exact ⟨octetText_ne_nil o, bareOf_of_forall fun c hc => hdigit c (isDigit_of_mem_octetText hc)⟩

end Ends

/-! ## Groups between colons -/

/-- The parts between colons spell groups, one each and in their order.  Where dotted parts are
allowed the last part may be an IPv4 address, which spells two groups. -/
inductive SpellsGroups (dotted : Bool) : List (List Char) → List UInt16 → Prop where
  | nil : SpellsGroups dotted [] []
  | quad (x : V4) (hdotted : dotted = true) : SpellsGroups dotted [x.text] x.groups
  | group {part : List Char} {parts : List (List Char)} {g : UInt16} {gs : List UInt16}
      (hpart : SpellsGroup part g) (hparts : SpellsGroups dotted parts gs) :
      SpellsGroups dotted (part :: parts) (g :: gs)

theorem isHexDigit_of_isDigit {c : Char} (h : c.isDigit = true) : Text.isHexDigit c = true := by
  simp [Text.isHexDigit, h]

theorem group?_text (x : V4) : group? x.text = none := by
  rw [Option.eq_none_iff_forall_ne_some]
  intro g hg
  have hdot := (group?_eq_some_iff.1 hg).isHexDigit '.' x.dot_mem_text
  revert hdot
  decide

theorem groupsOfParts?_eq_some_iff {dotted : Bool} {parts : List (List Char)} {gs : List UInt16} :
    groupsOfParts? dotted parts = some gs ↔ SpellsGroups dotted parts gs := by
  constructor
  · intro h
    fun_induction groupsOfParts? dotted parts generalizing gs with
    | case1 =>
      cases h
      exact .nil
    | case2 part g hg =>
      cases h
      exact .group (group?_eq_some_iff.1 hg) .nil
    | case3 part hg hdotted =>
      obtain ⟨x, hx, rfl⟩ := Option.map_eq_some_iff.1 h
      rw [V4.parse?_eq_some_iff.1 hx]
      exact .quad x hdotted
    | case4 => cases h
    | case5 part parts hne ih =>
      simp only [Option.bind_eq_bind, Option.bind_eq_some_iff, Option.pure_def,
        Option.some.injEq] at h
      obtain ⟨g, hg, gs, hgs, rfl⟩ := h
      exact .group (group?_eq_some_iff.1 hg) (ih hgs)
  · intro h
    induction h with
    | nil => rfl
    | quad x hdotted => simp [groupsOfParts?, group?_text, hdotted, V4.parse?_eq_some_iff.2 rfl]
    | @group part parts g gs hpart hparts ih =>
      have hread := group?_eq_some_iff.2 hpart
      cases parts with
      | nil =>
        cases hparts
        simp [groupsOfParts?, hread]
      | cons next parts => simp [groupsOfParts?, hread, ih]

namespace SpellsGroups

variable {dotted : Bool} {parts : List (List Char)} {gs : List UInt16}

/-- A part is made of digits and dots and has digits at its ends. -/
theorem of_mem (h : SpellsGroups dotted parts gs) {part : List Char} (hpart : part ∈ parts) :
    part ≠ [] ∧ (∀ c ∈ part, Text.isHexDigit c = true ∨ c = '.') ∧
      ∀ p : Char → Bool, (∀ c, Text.isHexDigit c = true → p c = false) → BareOf p part := by
  induction h with
  | nil => cases hpart
  | quad x hdotted =>
    obtain rfl := List.mem_singleton.1 hpart
    exact ⟨x.text_ne_nil,
      fun c hc => (V4.isDigit_or_dot_of_mem_text hc).imp_left isHexDigit_of_isDigit,
      fun p hp => x.bareOf_text fun c hc => hp c (isHexDigit_of_isDigit hc)⟩
  | group hgroup _ ih =>
    rcases List.mem_cons.1 hpart with rfl | hmem
    · exact ⟨hgroup.ne_nil, fun c hc => .inl (hgroup.isHexDigit c hc),
        fun p hp => bareOf_of_forall fun c hc => hp c (hgroup.isHexDigit c hc)⟩
    · exact ih hmem

theorem colon_not_mem (h : SpellsGroups dotted parts gs) {part : List Char}
    (hpart : part ∈ parts) : ':' ∉ part := by
  intro hcolon
  rcases (h.of_mem hpart).2.1 ':' hcolon with hhex | hdot
  · revert hhex
    decide
  · exact absurd hdot (by decide)

theorem mem_joinWith (h : SpellsGroups dotted parts gs) {c : Char} (hc : c ∈ joinWith ':' parts) :
    Text.isHexDigit c = true ∨ c = '.' ∨ c = ':' := by
  rcases Ip.mem_joinWith hc with hcolon | ⟨part, hpart, hmem⟩
  · exact .inr (.inr hcolon)
  · exact ((h.of_mem hpart).2.1 c hmem).imp_right .inl

theorem bareOf (h : SpellsGroups dotted parts gs) {p : Char → Bool}
    (hp : ∀ c, Text.isHexDigit c = true → p c = false) : BareOf p (joinWith ':' parts) :=
  bareOf_joinWith fun _ hpart => ⟨(h.of_mem hpart).1, (h.of_mem hpart).2.2 p hp⟩

theorem length_le (h : SpellsGroups dotted parts gs) : gs.length ≤ parts.length + 1 := by
  induction h with
  | nil => simp
  | quad x hdotted => simp [V4.groups]
  | group _ _ ih => simpa using ih

theorem eq_nil_of_joinWith (h : SpellsGroups dotted parts gs) (hjoin : joinWith ':' parts = []) :
    parts = [] := by
  cases parts with
  | nil => rfl
  | cons part parts =>
    have hne : part ≠ [] := (h.of_mem List.mem_cons_self).1
    cases parts <;> simp [joinWith, hne] at hjoin

/-- In front of the first of several parts, and of the first colon, there are only digits. -/
theorem isHexDigit_of_mem_head (h : SpellsGroups dotted parts gs) {part next : List Char}
    {others : List (List Char)} (hparts : parts = part :: next :: others) :
    ∀ c ∈ part, Text.isHexDigit c = true := by
  cases h with
  | nil => cases hparts
  | quad x hdotted => cases hparts
  | group hgroup _ =>
    cases hparts
    exact hgroup.isHexDigit

end SpellsGroups

theorem groups?_eq_some_iff {dotted : Bool} {cs : List Char} {gs : List UInt16} :
    groups? dotted cs = some gs ↔
      ∃ parts, joinWith ':' parts = cs ∧ SpellsGroups dotted parts gs := by
  unfold groups?
  constructor
  · intro h
    split at h
    · next hempty =>
      cases h
      exact ⟨[], (List.isEmpty_iff.1 hempty).symm, .nil⟩
    · exact ⟨_, joinWith_split cs, groupsOfParts?_eq_some_iff.1 h⟩
  · rintro ⟨parts, rfl, h⟩
    by_cases hparts : parts = []
    · subst hparts
      cases h
      rfl
    · have hempty : (joinWith ':' parts).isEmpty = false :=
        List.isEmpty_eq_false_iff.2 (mt h.eq_nil_of_joinWith hparts)
      rw [hempty, split_joinWith hparts fun part hpart => h.colon_not_mem hpart]
      exact groupsOfParts?_eq_some_iff.2 h

/-! ## The double colon -/

theorem cutDoubleColon?_append {part : List Char} (hpart : ':' ∉ part) (rest : List Char) :
    cutDoubleColon? (part ++ rest) =
      (cutDoubleColon? rest).map (Prod.map (part ++ ·) id) := by
  induction part with
  | nil =>
    cases h : cutDoubleColon? rest with
    | none => simp [h]
    | some cut =>
      rw [List.nil_append, h]
      rfl
  | cons c part ih =>
    have hc : c ≠ ':' := (List.ne_of_not_mem_cons hpart).symm
    have hne : ∀ tail, c :: (part ++ rest) ≠ ':' :: ':' :: tail := by
      intro tail h
      exact hc (List.cons.inj h).1
    rw [List.cons_append, cutDoubleColon?_of_ne hne, ih (List.not_mem_of_not_mem_cons hpart),
      Option.map_map]
    rfl

theorem cutDoubleColon?_colon {rest : List Char} (hrest : rest.head? ≠ some ':') :
    cutDoubleColon? (':' :: rest) = (cutDoubleColon? rest).map (Prod.map (':' :: ·) id) := by
  rw [cutDoubleColon?_of_ne]
  · rfl
  · rintro tail h
    obtain rfl := (List.cons.inj h).2
    exact hrest rfl

/-- No two colons meet among joined parts, and none stands at an end: what is joined and then
followed by two colons is cut there. -/
theorem SpellsGroups.cutDoubleColon? {dotted : Bool} {parts : List (List Char)} {gs : List UInt16}
    (h : SpellsGroups dotted parts gs) (rest : List Char) :
    Ip.cutDoubleColon? (joinWith ':' parts) = none ∧
      Ip.cutDoubleColon? (joinWith ':' parts ++ ':' :: ':' :: rest) =
        some (joinWith ':' parts, rest) := by
  have single : ∀ part : List Char, ':' ∉ part →
      Ip.cutDoubleColon? part = none ∧
        Ip.cutDoubleColon? (part ++ ':' :: ':' :: rest) = some (part, rest) := by
    intro part hpart
    refine ⟨?_, ?_⟩
    · rw [← List.append_nil part, cutDoubleColon?_append hpart]
      rfl
    · rw [cutDoubleColon?_append hpart, Ip.cutDoubleColon?]
      simp
  induction h with
  | nil => exact single [] (by simp)
  | quad x hdotted => exact single x.text x.colon_not_mem_text
  | @group part parts g gs hpart hparts ih =>
    have hcolon : ':' ∉ part := (SpellsGroups.group hpart hparts).colon_not_mem List.mem_cons_self
    by_cases hnil : parts = []
    · subst hnil
      exact single part hcolon
    · have hhead : (joinWith ':' parts).head? ≠ some ':' := by
        intro h
        have hbare := hparts.bareOf (p := (· == ':')) (by
          intro c hc
          by_contra heq
          rw [Bool.not_eq_false, beq_iff_eq] at heq
          subst heq
          revert hc
          decide)
        have hfalse := hbare.first ':' h
        cases hfalse
      have hjoined : joinWith ':' parts ≠ [] := mt hparts.eq_nil_of_joinWith hnil
      have hhead' : (joinWith ':' parts ++ ':' :: ':' :: rest).head? ≠ some ':' := by
        rwa [List.head?_append_of_ne_nil _ hjoined]
      rw [joinWith_cons_of_ne hnil]
      refine ⟨?_, ?_⟩
      · rw [cutDoubleColon?_append hcolon, cutDoubleColon?_colon hhead, ih.1]
        rfl
      · rw [List.append_assoc, List.cons_append, cutDoubleColon?_append hcolon,
          cutDoubleColon?_colon hhead', ih.2]
        rfl

/-! ## IPv6 -/

/-- The texts that spell an IPv6 address: all eight groups, or the groups around a run of at least
one zero group that is left out. -/
inductive V6.SpelledBy (x : V6) : List Char → Prop where
  | full {parts : List (List Char)} (hparts : SpellsGroups true parts x.groups) :
      x.SpelledBy (joinWith ':' parts)
  | short {front back : List (List Char)} {before after : List UInt16} {zeros : Nat}
      (hfront : SpellsGroups false front before) (hback : SpellsGroups true back after)
      (hzeros : 0 < zeros) (hgroups : x.groups = before ++ List.replicate zeros 0 ++ after) :
      x.SpelledBy (joinWith ':' front ++ ':' :: ':' :: joinWith ':' back)

namespace V6

theorem ofGroups?_eq_some_iff {gs : List UInt16} {x : V6} :
    ofGroups? gs = some x ↔ gs = x.groups := by
  constructor
  · intro h
    unfold ofGroups? at h
    split at h
    · cases h
      rfl
    · cases h
  · rintro rfl
    exact ofGroups?_groups x

theorem parse?_eq_some_iff {cs : List Char} {x : V6} : parse? cs = some x ↔ x.SpelledBy cs := by
  constructor
  · intro h
    unfold parse? at h
    split at h
    · next hcut =>
      obtain ⟨gs, hgs, hx⟩ := Option.bind_eq_some_iff.1 h
      obtain ⟨parts, rfl, hparts⟩ := groups?_eq_some_iff.1 hgs
      rw [ofGroups?_eq_some_iff.1 hx] at hparts
      exact .full hparts
    · next before after hcut =>
      simp only [Option.bind_eq_bind, Option.bind_eq_some_iff] at h
      obtain ⟨front, hfront, back, hback, h⟩ := h
      split at h
      · next hlength =>
        obtain ⟨parts, rfl, hparts⟩ := groups?_eq_some_iff.1 hfront
        obtain ⟨parts', rfl, hparts'⟩ := groups?_eq_some_iff.1 hback
        rw [eq_append_of_cutDoubleColon? hcut]
        exact .short hparts hparts' (by omega) (ofGroups?_eq_some_iff.1 h).symm
      · cases h
  · intro h
    unfold parse?
    cases h with
    | full hparts =>
      rw [(hparts.cutDoubleColon? []).1]
      exact Option.bind_eq_some_iff.2
        ⟨x.groups, groups?_eq_some_iff.2 ⟨_, rfl, hparts⟩, ofGroups?_groups x⟩
    | @short front back before after zeros hfront hback hzeros hgroups =>
      have hlength : before.length + (zeros + after.length) = 8 := by
        have h := congrArg List.length hgroups
        simpa using h.symm
      have hshort : before.length + after.length ≤ 7 := by omega
      have hrest : 8 - (before.length + after.length) = zeros := by omega
      have hx := ofGroups?_eq_some_iff.2 hgroups.symm
      rw [List.append_assoc] at hx
      rw [(hfront.cutDoubleColon? (joinWith ':' back)).2]
      simp [groups?_eq_some_iff.2 ⟨_, rfl, hfront⟩, groups?_eq_some_iff.2 ⟨_, rfl, hback⟩, hshort,
        hrest, hx]

/-! ### The canonical text -/

theorem joinOctets_split (g : UInt16) : joinOctets (g / 256).toUInt8 g.toUInt8 = g := by
  apply UInt16.toNat_inj.1
  have hg : g.toNat < 65536 := g.toNat_lt
  simp only [joinOctets, UInt16.toNat_add, UInt16.toNat_mul, UInt8.toNat_toUInt16,
    UInt16.toNat_toUInt8, UInt16.toNat_div]
  simp
  omega

theorem groups_of_mapped? {x : V6} {y : V4} (h : x.mapped? = some y) :
    x.groups = List.replicate 5 0 ++ 0xFFFF :: y.groups := by
  unfold mapped? at h
  split at h
  · next hprefix =>
    obtain ⟨h0, h1, h2, h3, h4, h5⟩ := hprefix
    cases h
    simp [groups, V4.groups, joinOctets_split, h0, h1, h2, h3, h4, h5, List.replicate]
  · cases h

theorem leadingZeros_spec (gs : List UInt16) :
    gs = List.replicate (leadingZeros gs) 0 ++ gs.drop (leadingZeros gs) := by
  induction gs with
  | nil => rfl
  | cons g gs ih =>
    by_cases hg : g = 0
    · subst hg
      have hcount : leadingZeros ((0 : UInt16) :: gs) = leadingZeros gs + 1 := by
        simp [leadingZeros]
      rw [hcount, List.replicate_succ, List.drop_succ_cons, List.cons_append, ← ih]
    · have hcount : leadingZeros (g :: gs) = 0 := by simp [leadingZeros, hg]
      rw [hcount]
      rfl

/-- The longest run of zero groups stands where it is said to stand. -/
theorem longestZeros_spec (gs : List UInt16) :
    gs = gs.take (longestZeros gs).1 ++ List.replicate (longestZeros gs).2 0 ++
      gs.drop ((longestZeros gs).1 + (longestZeros gs).2) := by
  induction gs with
  | nil => rfl
  | cons g gs ih =>
    unfold longestZeros
    dsimp only
    split
    · simpa using leadingZeros_spec (g :: gs)
    · have hdrop : (longestZeros gs).1 + 1 + (longestZeros gs).2 =
          (longestZeros gs).1 + (longestZeros gs).2 + 1 := by omega
      rw [hdrop, List.take_succ_cons, List.drop_succ_cons, List.cons_append, List.cons_append, ← ih]

theorem spellsGroups_map_groupText (dotted : Bool) (gs : List UInt16) :
    SpellsGroups dotted (gs.map groupText) gs := by
  induction gs with
  | nil => exact .nil
  | cons g gs ih => exact .group (spellsGroup_groupText g) ih

theorem spelledBy_text (x : V6) : x.SpelledBy x.text := by
  unfold text
  cases hmapped : x.mapped? with
  | some y =>
    have hback : SpellsGroups true ["ffff".toList, y.text] (0xFFFF :: y.groups) :=
      .group (spellsGroup_groupText 0xFFFF) (.quad y rfl)
    have hzeros : 0 < 5 := by decide
    exact .short .nil hback hzeros (groups_of_mapped? hmapped)
  | none =>
    dsimp only
    split
    · next hrun =>
      have hspelled := SpelledBy.short (x := x)
        (spellsGroups_map_groupText false _) (spellsGroups_map_groupText true _)
        (Nat.lt_of_succ_lt hrun) (longestZeros_spec x.groups)
      simpa [groupsText] using hspelled
    · exact .full (spellsGroups_map_groupText true x.groups)

/-! ### What a spelling is made of -/

/-- A spelling has a colon, and in front of the first one only digits. -/
theorem SpelledBy.exists_colon {x : V6} {cs : List Char} (h : x.SpelledBy cs) :
    ∃ part rest, cs = part ++ ':' :: rest ∧ ∀ c ∈ part, Text.isHexDigit c = true := by
  cases h with
  | @full parts hparts =>
    have hlength : 8 ≤ parts.length + 1 := hparts.length_le
    match parts, hparts, hlength with
    | part :: next :: others, hparts, _ =>
      exact ⟨part, _, rfl, hparts.isHexDigit_of_mem_head rfl⟩
  | @short front back before after zeros hfront hback hzeros hgroups =>
    cases hfront with
    | nil => exact ⟨[], _, rfl, by simp⟩
    | @group part parts g gs hpart hparts =>
      by_cases hnil : parts = []
      · subst hnil
        exact ⟨part, _, rfl, hpart.isHexDigit⟩
      · refine ⟨part, joinWith ':' parts ++ ':' :: ':' :: joinWith ':' back, ?_, hpart.isHexDigit⟩
        rw [joinWith_cons_of_ne hnil, List.append_assoc, List.cons_append]
    | quad _ hdotted => cases hdotted

end V6

/-! ## Both families -/

namespace Address

/-- A text spells an address: it is the text of the IPv4 address, or one of the spellings of the
IPv6 address. -/
def SpelledBy : Address → List Char → Prop
  | v4 x, cs => cs = x.text
  | v6 x, cs => x.SpelledBy cs

/-- Reading an address follows the grammar of its spellings. -/
theorem ofChars?_eq_some_iff {cs : List Char} {x : Address} :
    ofChars? cs = some x ↔ x.SpelledBy cs := by
  unfold ofChars?
  cases hquad : V4.parse? cs with
  | some y =>
    have hcs := V4.parse?_eq_some_iff.1 hquad
    cases x with
    | v4 x =>
      simp only [Option.some.injEq, v4.injEq, SpelledBy, ← V4.parse?_eq_some_iff, hquad]
    | v6 x =>
      refine ⟨fun h => by simp at h, fun h => ?_⟩
      obtain ⟨part, rest, htext, -⟩ := V6.SpelledBy.exists_colon h
      have hcolon : ':' ∈ y.text := by simp [← hcs, htext]
      exact absurd hcolon y.colon_not_mem_text
  | none =>
    cases x with
    | v4 x =>
      simp only [SpelledBy, ← V4.parse?_eq_some_iff, hquad, Option.map_eq_some_iff, reduceCtorEq,
        and_false, exists_false]
    | v6 x =>
      simp only [SpelledBy, ← V6.parse?_eq_some_iff, Option.map_eq_some_iff, v6.injEq,
        exists_eq_right]

theorem spelledBy_print (x : Address) : x.SpelledBy x.print.toList := by
  cases x with
  | v4 x => exact String.toList_ofList
  | v6 x =>
    rw [print, String.toList_ofList]
    exact x.spelledBy_text

/-- The canonical text of an address is read as that address. -/
theorem parse?_print (x : Address) : parse? x.print = some x :=
  ofChars?_eq_some_iff.2 x.spelledBy_print

/-- A spelling is made of digits, dots and colons. -/
theorem SpelledBy.mem {x : Address} {cs : List Char} (h : x.SpelledBy cs) {c : Char}
    (hc : c ∈ cs) : Text.isHexDigit c = true ∨ c = '.' ∨ c = ':' := by
  cases x with
  | v4 x =>
    rw [show cs = x.text from h] at hc
    exact (V4.isDigit_or_dot_of_mem_text hc).imp isHexDigit_of_isDigit .inl
  | v6 x =>
    cases h with
    | full hparts => exact hparts.mem_joinWith hc
    | short hfront hback _ _ =>
      rcases List.mem_append.1 hc with hmem | hmem
      · exact hfront.mem_joinWith hmem
      · rcases List.mem_cons.1 hmem with hcolon | hmem
        · exact .inr (.inr hcolon)
        · rcases List.mem_cons.1 hmem with hcolon | hmem
          · exact .inr (.inr hcolon)
          · exact hback.mem_joinWith hmem

/-- A spelling has no character at its ends that is neither a digit nor a colon. -/
theorem SpelledBy.bareOf {x : Address} {cs : List Char} (h : x.SpelledBy cs) {p : Char → Bool}
    (hhex : ∀ c, Text.isHexDigit c = true → p c = false) (hcolon : p ':' = false) :
    BareOf p cs := by
  cases x with
  | v4 x =>
    rw [show cs = x.text from h]
    exact x.bareOf_text fun c hc => hhex c (isHexDigit_of_isDigit hc)
  | v6 x =>
    cases h with
    | full hparts => exact hparts.bareOf hhex
    | short hfront hback _ _ =>
      have hcolons : BareOf p [':', ':'] := bareOf_of_forall (by simp [hcolon])
      exact (hfront.bareOf hhex).append (hcolons.append (hback.bareOf hhex))

end Address

end SpamVerdict.Ip
