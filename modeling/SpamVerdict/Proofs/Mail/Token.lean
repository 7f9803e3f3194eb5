import SpamVerdict.Proofs.Mail.Search
import SpamVerdict.Proofs.Ip.Spelling
set_option autoImplicit false

/-!
# Words that look like an address (SPEC_FULL §4.1)

The two kinds of words that the scan of a text takes for an address, as grammars: four runs of
digits between dots (`IsDotted`), and digits and colons with at least two colons (`IsColoned`).  A
text in which neither can start is passed over (`captures_of_quiet`), and where one does stand at a
word boundary it is captured whole (`captures_dotted`, `captures_coloned`).

This is the "IPv4/IPv6-shaped token scanning" of SPEC_FULL §4.1, step 2.
-/

namespace SpamVerdict.Mail

open Text (isHexDigit isWordChar isBoundary)

/-! ## Runs of digits -/

/-- A run of one to three digits. -/
structure IsRun (ds : List Char) : Prop where
  ne_nil : ds ≠ []
  length_le : ds.length ≤ 3
  digit : ∀ c ∈ ds, c.isDigit = true

theorem digitRun?_eq_some_iff {cs ds rest : List Char} :
    digitRun? cs = some (ds, rest) ↔
      cs = ds ++ rest ∧ IsRun ds ∧ ∀ c, rest.head? = some c → c.isDigit = false := by
  unfold digitRun?
  dsimp only
  constructor
  · intro h
    split at h
    · next hshape =>
      simp only [Bool.and_eq_true, Bool.not_eq_true', List.isEmpty_eq_false_iff,
        decide_eq_true_eq] at hshape
      cases h
      exact ⟨List.takeWhile_append_dropWhile.symm,
        ⟨hshape.1, hshape.2, fun c hc => List.mem_takeWhile_imp hc⟩,
        fun c hc => Text.head?_dropWhile hc⟩
    · cases h
  · rintro ⟨rfl, hrun, hrest⟩
    have hshape : (!ds.isEmpty && ds.length ≤ 3) = true := by
      simp only [Bool.and_eq_true, Bool.not_eq_true', List.isEmpty_eq_false_iff, decide_eq_true_eq]
      exact ⟨hrun.ne_nil, hrun.length_le⟩
    rw [Text.takeWhile_append_of_head? hrun.digit hrest,
      Text.dropWhile_append_of_head? hrun.digit hrest]
    exact if_pos hshape

theorem dottedRun?_eq_some_iff {cs run rest : List Char} :
    dottedRun? cs = some (run, rest) ↔
      ∃ ds, run = ds ++ ['.'] ∧ cs = ds ++ '.' :: rest ∧ IsRun ds := by
  unfold dottedRun?
  constructor
  · intro h
    split at h
    · next ds _ hrun =>
      cases h
      obtain ⟨hcs, hds, -⟩ := digitRun?_eq_some_iff.1 hrun
      exact ⟨ds, rfl, hcs, hds⟩
    · cases h
  · rintro ⟨ds, rfl, rfl, hds⟩
    have hdot : ∀ c, ('.' :: rest).head? = some c → c.isDigit = false := by
      rintro c hc
      obtain rfl := Option.some.inj hc
      decide
    rw [digitRun?_eq_some_iff.2 ⟨rfl, hds, hdot⟩]
    rfl

/-! ## Dotted words -/

/-- Four runs of digits with dots between them. -/
inductive IsDotted : List Char → Prop where
  | mk {a b c d : List Char} (ha : IsRun a) (hb : IsRun b) (hc : IsRun c) (hd : IsRun d) :
      IsDotted (a ++ ['.'] ++ (b ++ ['.']) ++ (c ++ ['.']) ++ d)

theorem isWordChar_of_isHexDigit {c : Char} (h : isHexDigit c = true) : isWordChar c = true :=
  Text.of_isHexDigit (p := fun c => isWordChar c = true) (by decide +kernel) h

theorem isWordChar_of_isDigit {c : Char} (h : c.isDigit = true) : isWordChar c = true :=
  isWordChar_of_isHexDigit (Ip.isHexDigit_of_isDigit h)

/-- Behind a character that belongs to no word, a digit starts one. -/
theorem isBoundary_of_isHexDigit {before : Option Char} {c : Char}
    (hbefore : before.any isWordChar = false) (h : isHexDigit c = true) :
    isBoundary before (some c) = true := by
  rw [isBoundary, hbefore, Option.any_some, isWordChar_of_isHexDigit h]
  rfl

theorem dottedToken?_eq_some_iff {cs found after : List Char} :
    dottedToken? cs = some (found, after) ↔
      cs = found ++ after ∧ IsDotted found ∧ ∀ c, after.head? = some c → isWordChar c = false := by
  simp only [dottedToken?, Option.bind_eq_bind, Option.bind_eq_some_iff, Prod.exists,
    dottedRun?_eq_some_iff, digitRun?_eq_some_iff]
  constructor
  · rintro ⟨_, _, ⟨a, rfl, rfl, ha⟩, _, _, ⟨b, rfl, rfl, hb⟩, _, _, ⟨c, rfl, rfl, hc⟩, d, rest,
      ⟨rfl, hd, -⟩, h⟩
    split at h
    · cases h
    · next hword =>
      cases h
      refine ⟨by simp, .mk ha hb hc hd, fun e he => ?_⟩
      simpa [he] using hword
  · rintro ⟨rfl, @⟨a, b, c, d, ha, hb, hc, hd⟩, hafter⟩
    have hdigit : ∀ c, after.head? = some c → c.isDigit = false := by
      intro c hhead
      by_contra hc
      have hword := isWordChar_of_isDigit (Bool.of_not_eq_false hc)
      rw [hafter c hhead] at hword
      cases hword
    have hword : ¬ after.head?.any isWordChar = true := by
      cases hhead : after.head? with
      | none => simp
      | some c => simp [hafter c hhead]
    refine ⟨a ++ ['.'], b ++ '.' :: (c ++ '.' :: (d ++ after)), ⟨a, rfl, by simp, ha⟩,
      b ++ ['.'], c ++ '.' :: (d ++ after), ⟨b, rfl, rfl, hb⟩,
      c ++ ['.'], d ++ after, ⟨c, rfl, rfl, hc⟩, d, after, ⟨rfl, hd, hdigit⟩, if_neg hword⟩

namespace IsDotted

variable {found : List Char}

theorem mem (h : IsDotted found) {c : Char} (hc : c ∈ found) : c.isDigit = true ∨ c = '.' := by
  cases h with
  | mk ha hb hc' hd =>
    simp only [List.mem_append, List.mem_singleton] at hc
    rcases hc with (((hmem | hdot) | hmem | hdot) | hmem | hdot) | hmem
    · exact .inl (ha.digit c hmem)
    · exact .inr hdot
    · exact .inl (hb.digit c hmem)
    · exact .inr hdot
    · exact .inl (hc'.digit c hmem)
    · exact .inr hdot
    · exact .inl (hd.digit c hmem)

theorem dot_mem (h : IsDotted found) : '.' ∈ found := by
  cases h
  simp

/-- A digit stands in front. -/
theorem exists_head (h : IsDotted found) : ∃ c, found.head? = some c ∧ c.isDigit = true := by
  cases h with
  | @mk a b c d ha hb hc hd =>
    obtain ⟨e, a, rfl⟩ := List.exists_cons_of_ne_nil ha.ne_nil
    exact ⟨e, rfl, ha.digit e List.mem_cons_self⟩

end IsDotted

theorem isDotted_text (x : Ip.V4) : IsDotted x.text := by
  have hrun : ∀ o, IsRun (Ip.octetText o) := fun o =>
    ⟨Ip.octetText_ne_nil o, Ip.length_octetText_le o, fun c hc => Ip.isDigit_of_mem_octetText hc⟩
  have htext : x.text = Ip.octetText x.a ++ ['.'] ++ (Ip.octetText x.b ++ ['.']) ++
      (Ip.octetText x.c ++ ['.']) ++ Ip.octetText x.d := by
    simp [Ip.V4.text, Ip.V4.octets, Ip.joinWith]
  rw [htext]
  exact .mk (hrun _) (hrun _) (hrun _) (hrun _)

/-! ## Words with colons -/

theorem isAddressChar_of_group {c : Char} (h : isHexDigit c = true ∨ c = ':') :
    isAddressChar c = true := by
  rcases h with h | rfl
  · simp [isAddressChar, h]
  · decide

/-- Digits and a colon, then digits and colons with at least one colon, and behind these any
characters of an address. -/
inductive IsColoned : List Char → Prop where
  | mk {part groups back : List Char} (hpart : ∀ c ∈ part, isHexDigit c = true)
      (hgroups : ∀ c ∈ groups, isHexDigit c = true ∨ c = ':') (hcolon : ':' ∈ groups)
      (hback : ∀ c ∈ back, isAddressChar c = true) : IsColoned (part ++ ':' :: (groups ++ back))

namespace IsColoned

variable {found : List Char}

theorem of_forall (h : ∀ c ∈ found, isHexDigit c = true ∨ c = ':') (hcolons : 2 ≤ found.count ':') :
    IsColoned found := by
  have hmem : ':' ∈ found := List.count_pos_iff.1 (by omega)
  obtain ⟨part, groups, rfl, hpart⟩ := List.eq_append_cons_of_mem hmem
  have hdigits : ∀ c ∈ part, isHexDigit c = true := by
    intro c hc
    refine (h c (List.mem_append_left _ hc)).resolve_right ?_
    rintro rfl
    exact hpart hc
  have hcolon : ':' ∈ groups := by
    rw [List.count_append, List.count_eq_zero_of_not_mem hpart, List.count_cons_self] at hcolons
    exact List.count_pos_iff.1 (by omega)
  rw [← List.append_nil groups]
  exact .mk hdigits (fun c hc => h c (List.mem_append_right _ (List.mem_cons_of_mem _ hc))) hcolon
    (by simp)

theorem mem (h : IsColoned found) {c : Char} (hc : c ∈ found) : isAddressChar c = true := by
  cases h with
  | mk hpart hgroups _ hback =>
    simp only [List.mem_append, List.mem_cons] at hc
    rcases hc with hc | hc | hc | hc
    · exact isAddressChar_of_group (.inl (hpart c hc))
    · exact isAddressChar_of_group (.inr hc)
    · exact isAddressChar_of_group (hgroups c hc)
    · exact hback c hc

theorem two_le_count (h : IsColoned found) : 2 ≤ found.count ':' := by
  cases h with
  | mk _ _ hcolon _ =>
    have hpos := List.count_pos_iff.2 hcolon
    rw [List.count_append, List.count_cons_self, List.count_append]
    omega

theorem cons_colon (h : IsColoned found) : IsColoned (':' :: found) := by
  cases h with
  | @mk part groups back hpart hgroups _ hback =>
    have hfront : ∀ c ∈ part ++ ':' :: groups, isHexDigit c = true ∨ c = ':' := by
      intro c hc
      simp only [List.mem_append, List.mem_cons] at hc
      exact hc.elim (fun hmem => .inl (hpart c hmem)) fun hmem => hmem.elim .inr (hgroups c)
    have hempty : ∀ c ∈ ([] : List Char), isHexDigit c = true := by simp
    have happend : part ++ ':' :: (groups ++ back) = part ++ ':' :: groups ++ back := by simp
    rw [happend]
    exact .mk hempty hfront (by simp) hback

end IsColoned

/-- The digits and colons at the start of a text start the run of all its address characters. -/
theorem takeWhile_isAddressChar (cs : List Char) :
    cs.takeWhile isAddressChar = (cs.takeWhile fun c => isHexDigit c || c == ':') ++
      (cs.dropWhile fun c => isHexDigit c || c == ':').takeWhile isAddressChar := by
  have hgroups : ∀ c ∈ cs.takeWhile fun c => isHexDigit c || c == ':', isAddressChar c = true := by
    intro c hc
    exact isAddressChar_of_group (by simpa using List.mem_takeWhile_imp hc)
  rw [← List.takeWhile_append_of_pos hgroups, List.takeWhile_append_dropWhile]

theorem colonToken?_eq_some_iff {cs found after : List Char} :
    colonToken? cs = some (found, after) ↔
      cs = found ++ after ∧ IsColoned found ∧
        ∀ c, after.head? = some c → isAddressChar c = false := by
  constructor
  · intro h
    unfold colonToken? at h
    split at h
    · next rest hrest =>
      split at h
      · next hcolon =>
        cases h
        have hcs : cs = cs.takeWhile isHexDigit ++ ':' :: rest := by
          rw [← hrest, List.takeWhile_append_dropWhile]
        refine ⟨?_, ?_, fun c hc => Text.head?_dropWhile hc⟩
        · rw [List.append_assoc, List.cons_append, List.takeWhile_append_dropWhile]
          exact hcs
        · rw [takeWhile_isAddressChar]
          exact .mk (fun c hc => List.mem_takeWhile_imp hc)
            (fun c hc => by simpa using List.mem_takeWhile_imp hc)
            (List.contains_iff_mem.1 hcolon) fun c hc => List.mem_takeWhile_imp hc
      · cases h
    · cases h
  · rintro ⟨rfl, @⟨part, groups, back, hpart, hgroups, hcolon, hback⟩, hafter⟩
    have hstop : ∀ c, (':' :: (groups ++ back ++ after)).head? = some c → isHexDigit c = false := by
      rintro c hc
      obtain rfl := Option.some.inj hc
      decide
    have hword : ∀ c ∈ groups ++ back, isAddressChar c = true := fun c hc =>
      (List.mem_append.1 hc).elim (fun hmem => isAddressChar_of_group (hgroups c hmem)) (hback c)
    have hcolons : ((groups ++ back ++ after).takeWhile fun c => isHexDigit c || c == ':').contains
        ':' = true := by
      rw [List.append_assoc, List.takeWhile_append_of_pos fun c hc => by simpa using hgroups c hc]
      exact List.contains_iff_mem.2 (List.mem_append_left _ hcolon)
    rw [List.append_assoc, List.cons_append, colonToken?,
      Text.takeWhile_append_of_head? hpart hstop, Text.dropWhile_append_of_head? hpart hstop]
    simp only [hcolons, if_true, Text.takeWhile_append_of_head? hword hafter,
      Text.dropWhile_append_of_head? hword hafter]

/-- No dotted word stands where one with colons does. -/
theorem dottedToken?_of_isColoned {found : List Char} (h : IsColoned found) (after : List Char) :
    dottedToken? (found ++ after) = none := by
  rw [Option.eq_none_iff_forall_ne_some]
  rintro ⟨dotted, rest⟩ hdotted
  obtain ⟨hcs, hshape, -⟩ := dottedToken?_eq_some_iff.1 hdotted
  obtain @⟨part, groups, back, hpart, -, -, -⟩ := h
  have hno : ∀ {c : Char}, c ∈ dotted → c ≠ ':' := by
    rintro _ hc rfl
    have hcolon := hshape.mem hc
    revert hcolon
    decide
  -- the dotted word ends in front of the colon, and there are no dots
  rw [List.append_assoc, List.cons_append, List.append_eq_append_iff] at hcs
  rcases hcs with ⟨more, rfl, hmore⟩ | ⟨more, rfl, -⟩
  · cases more with
    | nil =>
      have hdot := hpart '.' (by simpa using hshape.dot_mem)
      revert hdot
      decide
    | cons c more =>
      obtain ⟨rfl, -⟩ := List.cons.inj hmore
      exact hno (by simp) rfl
  · have hdot := hpart '.' (List.mem_append_left _ hshape.dot_mem)
    revert hdot
    decide

/-! ## Tokens -/

section Tokens

variable {before : Option Char} {cs found after : List Char}

/-- What is captured is one of the two words, and stands in front. -/
theorem eq_append_of_addressToken (h : addressToken before cs = some (found, after)) :
    cs = found ++ after ∧ (IsDotted found ∨ IsColoned found) := by
  unfold addressToken at h
  split at h
  · rcases Option.or_eq_some_iff.1 h with hdotted | ⟨-, hcoloned⟩
    · obtain ⟨hcs, hfound, -⟩ := dottedToken?_eq_some_iff.1 hdotted
      exact ⟨hcs, .inl hfound⟩
    · obtain ⟨hcs, hfound, -⟩ := colonToken?_eq_some_iff.1 hcoloned
      exact ⟨hcs, .inr hfound⟩
  · cases h

theorem isAddressChar_of_mem_token (h : IsDotted found ∨ IsColoned found) {c : Char}
    (hc : c ∈ found) : isAddressChar c = true := by
  rcases h with h | h
  · rcases h.mem hc with hdigit | rfl
    · exact isAddressChar_of_group (.inl (Ip.isHexDigit_of_isDigit hdigit))
    · decide
  · exact h.mem hc

theorem token_ne_nil (h : IsDotted found ∨ IsColoned found) : found ≠ [] := by
  rintro rfl
  rcases h with h | h
  · exact absurd h.dot_mem (by simp)
  · exact absurd h.two_le_count (by simp)

theorem captures_cons_of_none {c : Char} (h : addressToken before (c :: cs) = none) :
    captures addressToken before (c :: cs) = captures addressToken (some c) cs := by
  rw [captures, h]

/-- No token starts with a character that an address cannot have. -/
theorem captures_cons_of_not_addressChar {c : Char} (hc : isAddressChar c = false) :
    captures addressToken before (c :: cs) = captures addressToken (some c) cs := by
  apply captures_cons_of_none
  rw [Option.eq_none_iff_forall_ne_some]
  rintro ⟨found, after⟩ h
  obtain ⟨hcs, hfound⟩ := eq_append_of_addressToken h
  obtain ⟨d, found, rfl⟩ := List.exists_cons_of_ne_nil (token_ne_nil hfound)
  obtain ⟨rfl, -⟩ := List.cons.inj hcs
  rw [isAddressChar_of_mem_token hfound List.mem_cons_self] at hc
  cases hc

/-- No token starts within a word, nor between two characters that belong to no word. -/
theorem captures_cons_of_not_boundary {c : Char} (h : isBoundary before (some c) = false) :
    captures addressToken before (c :: cs) = captures addressToken (some c) cs := by
  apply captures_cons_of_none
  rw [addressToken, List.head?_cons, h]
  rfl

end Tokens

/-! ## Quiet texts -/

/-- A text in which no token can start, also if the word at its end goes on with `more`: there is at
most one colon, and no dot or else no digit to start with. -/
structure IsQuiet (cs more : List Char) : Prop where
  colons : (cs ++ more).count ':' ≤ 1
  dots : '.' ∉ cs ++ more ∨ ∀ c ∈ cs, c.isDigit = false

theorem IsQuiet.suffix {u v more : List Char} (h : IsQuiet (u ++ v) more) : IsQuiet v more where
  colons := by
    refine Nat.le_trans (List.Sublist.count_le ':' ?_) h.colons
    rw [List.append_assoc]
    exact List.sublist_append_right u (v ++ more)
  dots := by
    refine h.dots.imp (fun hdot hmem => hdot ?_) fun hall c hc =>
      hall c (List.mem_append_right u hc)
    rw [List.append_assoc]
    exact List.mem_append_right u hmem

theorem IsQuiet.not_token {cs more found after : List Char} (h : IsQuiet cs more) (hne : cs ≠ [])
    (hfound : cs ++ more = found ++ after) : ¬ (IsDotted found ∨ IsColoned found) := by
  rintro (hdotted | hcoloned)
  · rcases h.dots with hdot | hdigit
    · rw [hfound] at hdot
      exact hdot (List.mem_append_left after hdotted.dot_mem)
    · obtain ⟨c, hc, htrue⟩ := hdotted.exists_head
      have hhead : cs.head? = some c := by
        rw [← List.head?_append_of_ne_nil cs hne, hfound, List.head?_append, hc, Option.some_or]
      rw [hdigit c (List.mem_of_head? hhead)] at htrue
      cases htrue
  · have hcolons := h.colons
    rw [hfound, List.count_append] at hcolons
    have htwo := hcoloned.two_le_count
    omega

/-- A quiet text is passed over, as far as the word at its end stops where it is said to. -/
theorem captures_of_quiet {cs more rest : List Char} (h : IsQuiet cs more)
    (hrest : ∀ c, rest.head? = some c → isAddressChar c = false) (before : Option Char) :
    captures addressToken before (cs ++ (more ++ rest)) =
      captures addressToken (cs.getLast?.or before) (more ++ rest) := by
  apply captures_append
  rintro u v rfl hne
  rw [Option.eq_none_iff_forall_ne_some]
  rintro ⟨found, after⟩ htoken
  obtain ⟨hv, hfound⟩ := eq_append_of_addressToken htoken
  rw [← List.append_assoc] at hv
  rcases List.append_eq_append_iff.1 hv with ⟨extra, rfl, hextra⟩ | ⟨extra, hextra, -⟩
  · cases extra with
    | nil => exact h.suffix.not_token hne (List.append_nil _).symm (by simpa using hfound)
    | cons c extra =>
      have hc := isAddressChar_of_mem_token hfound (c := c) (by simp)
      rw [hrest c (by rw [hextra]; rfl)] at hc
      cases hc
  · exact h.suffix.not_token hne hextra hfound

theorem captures_eq_nil_of_quiet {cs : List Char} (h : IsQuiet cs []) (before : Option Char) :
    captures addressToken before cs = [] := by
  have hpassed := captures_of_quiet h (by simp : ∀ c, ([] : List Char).head? = some c → _) before
  rw [List.append_nil, List.append_nil] at hpassed
  rw [hpassed, captures]

/-! ## Matches -/

section Matches

variable {before : Option Char} {found after : List Char}

/-- Behind a character that belongs to no word, a dotted word is captured. -/
theorem captures_dotted (hbefore : before.any isWordChar = false) (hfound : IsDotted found)
    (hafter : ∀ c, after.head? = some c → isWordChar c = false) :
    captures addressToken before (found ++ after) =
      found :: captures addressToken found.getLast? after := by
  apply captures_of_match (token_ne_nil (.inl hfound))
  obtain ⟨c, hc, hdigit⟩ := hfound.exists_head
  have hhead : (found ++ after).head? = some c := by rw [List.head?_append, hc, Option.some_or]
  have hboundary : isBoundary before (some c) = true :=
    isBoundary_of_isHexDigit hbefore (Ip.isHexDigit_of_isDigit hdigit)
  rw [addressToken, hhead, if_pos hboundary, dottedToken?_eq_some_iff.2 ⟨rfl, hfound, hafter⟩,
    Option.some_or]

/-- At a boundary, a word with colons is captured. -/
theorem captures_coloned (hboundary : isBoundary before found.head? = true)
    (hfound : IsColoned found) (hafter : ∀ c, after.head? = some c → isAddressChar c = false) :
    captures addressToken before (found ++ after) =
      found :: captures addressToken found.getLast? after := by
  apply captures_of_match (token_ne_nil (.inr hfound))
  have hhead : (found ++ after).head? = found.head? :=
    List.head?_append_of_ne_nil _ (token_ne_nil (.inr hfound))
  rw [addressToken, hhead, if_pos hboundary, dottedToken?_of_isColoned hfound, Option.none_or]
  exact colonToken?_eq_some_iff.2 ⟨rfl, hfound, hafter⟩

end Matches

end SpamVerdict.Mail
