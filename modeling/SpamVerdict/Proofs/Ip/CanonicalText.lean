import SpamVerdict.Proofs.Ip.Spelling
set_option autoImplicit false

/-!
# The shape of a canonical text (SPEC_FULL §4.1)

The canonical text of an IPv6 address starts with a digit, or with two colons where its first groups
are zeros; only a mapped address has dots in it (`V6.shape_text`).  Two texts near a canonical one
spell no address: too few groups (`not_spelledBy_groupsText`), and a canonical text behind a colon
(`not_spelledBy_colon`).

The scan of SPEC_FULL §4.1, step 2, meets such texts where it cuts an address at the wrong place.
-/

namespace SpamVerdict.Ip

/-! ## Groups between colons -/

theorem length_le_count_joinWith (sep : Char) (parts : List (List Char)) :
    parts.length ≤ (joinWith sep parts).count sep + 1 := by
  induction parts with
  | nil => simp
  | cons part parts ih =>
    by_cases hnil : parts = []
    · subst hnil
      simp
    · rw [joinWith_cons_of_ne hnil, List.count_append, List.count_cons_self, List.length_cons]
      omega

theorem mem_groupsText {gs : List UInt16} {c : Char} (h : c ∈ groupsText gs) :
    Text.isHexDigit c = true ∨ c = ':' := by
  rcases mem_joinWith h with hcolon | ⟨part, hpart, hc⟩
  · exact .inr hcolon
  · obtain ⟨g, -, rfl⟩ := List.mem_map.1 hpart
    exact .inl ((spellsGroup_groupText g).isHexDigit c hc)

theorem dot_not_mem_groupsText (gs : List UInt16) : '.' ∉ groupsText gs := by
  intro h
  have hdot := mem_groupsText h
  revert hdot
  decide

/-- Groups start with a digit. -/
theorem exists_head_groupsText {gs : List UInt16} (h : gs ≠ []) :
    ∃ c, (groupsText gs).head? = some c ∧ Text.isHexDigit c = true := by
  have hspelled := V6.spellsGroups_map_groupText false gs
  have hne : groupsText gs ≠ [] := by
    intro hnil
    exact h (List.map_eq_nil_iff.1 (hspelled.eq_nil_of_joinWith hnil))
  obtain ⟨c, cs, hcs⟩ := List.exists_cons_of_ne_nil hne
  have hhead : (groupsText gs).head? = some c := by rw [hcs]; rfl
  have hbare := hspelled.bareOf (p := fun c => !Text.isHexDigit c) fun c hc => by rw [hc]; rfl
  exact ⟨c, hhead, by simpa using hbare.first c hhead⟩

/-! ## Canonical texts -/

/-- The shapes of a canonical text: digits and colons with a digit in front, a run of zero groups
and the others behind it, or the dotted form of a mapped address. -/
inductive V6.Shape (x : V6) : List Char → Prop where
  | digits {cs : List Char} (hmapped : x.mapped? = none)
      (hhead : ∃ c, cs.head? = some c ∧ Text.isHexDigit c = true)
      (hmem : ∀ c ∈ cs, Text.isHexDigit c = true ∨ c = ':') (hcolons : 2 ≤ cs.count ':') :
      x.Shape cs
  | zeros {gs : List UInt16} (hmapped : x.mapped? = none) (hlength : gs.length ≤ 6) :
      x.Shape (':' :: ':' :: groupsText gs)
  | mapped {y : V4} (hmapped : x.mapped? = some y) : x.Shape ("::ffff:".toList ++ y.text)

theorem V6.shape_text (x : V6) : x.Shape x.text := by
  unfold text
  cases hmapped : x.mapped? with
  | some y => exact .mapped hmapped
  | none =>
    dsimp only
    generalize longestZeros x.groups = run
    split
    · next hrun =>
      by_cases hfront : x.groups.take run.1 = []
      · have hlength : (x.groups.drop (run.1 + run.2)).length ≤ 6 := by
          rw [List.length_drop, length_groups]
          omega
        rw [hfront]
        exact .zeros hmapped hlength
      · obtain ⟨c, hhead, hc⟩ := exists_head_groupsText hfront
        refine .digits hmapped ⟨c, ?_, hc⟩ (fun d hd => ?_) ?_
        · rw [List.append_assoc, List.head?_append, hhead, Option.some_or]
        · simp only [List.mem_append, List.mem_cons, List.not_mem_nil, or_false] at hd
          rcases hd with (hmem | hcolon | hcolon) | hmem
          · exact mem_groupsText hmem
          · exact .inr hcolon
          · exact .inr hcolon
          · exact mem_groupsText hmem
        · rw [List.count_append, List.count_append]
          simp only [List.count_cons_self, List.count_nil]
          omega
    · have hcolons := length_le_count_joinWith ':' (x.groups.map groupText)
      rw [List.length_map, length_groups] at hcolons
      refine .digits hmapped (exists_head_groupsText (by simp [groups]))
        (fun c => mem_groupsText) ?_
      exact Nat.le_trans (by decide) (Nat.le_of_succ_le_succ hcolons)

/-! ## Texts near a canonical one -/

/-- Groups alone spell an address only if there are eight of them. -/
theorem not_spelledBy_groupsText {gs : List UInt16} (h : gs.length ≠ 8) (x : Address) :
    ¬ x.SpelledBy (groupsText gs) := by
  intro hx
  cases x with
  | v4 x =>
    apply dot_not_mem_groupsText gs
    rw [show groupsText gs = x.text from hx]
    exact x.dot_mem_text
  | v6 x =>
    have hparts := V6.spellsGroups_map_groupText true gs
    have hread := V6.parse?_eq_some_iff.2 hx
    rw [V6.parse?, groupsText, (hparts.cutDoubleColon? []).1] at hread
    obtain ⟨gs', hgs', hgroups⟩ := Option.bind_eq_some_iff.1 hread
    obtain rfl := Option.some.inj ((groups?_eq_some_iff.2 ⟨_, rfl, hparts⟩).symm.trans hgs')
    rw [V6.ofGroups?_eq_some_iff.1 hgroups] at h
    exact h x.length_groups

/-- A spelling starts with a digit, or with two colons and not with three. -/
theorem V6.SpelledBy.start {x : V6} {cs : List Char} (h : x.SpelledBy cs) :
    (∃ c, cs.head? = some c ∧ Text.isHexDigit c = true) ∨
      ∃ rest, cs = ':' :: ':' :: rest ∧ rest.head? ≠ some ':' := by
  obtain ⟨part, tail, rfl, hpart⟩ := h.exists_colon
  cases part with
  | cons c part => exact .inl ⟨c, rfl, hpart c List.mem_cons_self⟩
  | nil =>
    right
    have hbare {dotted : Bool} {parts : List (List Char)} {gs : List UInt16}
        (hparts : SpellsGroups dotted parts gs) : (joinWith ':' parts).head? ≠ some ':' := by
      intro hhead
      have hfalse := (hparts.bareOf (p := fun c => !Text.isHexDigit c)
        fun c hc => by rw [hc]; rfl).first ':' hhead
      revert hfalse
      decide
    generalize hcs : [] ++ ':' :: tail = cs at h
    cases h with
    | full hparts => exact absurd (by rw [← hcs]; rfl) (hbare hparts)
    | @short front back before after zeros hfront hback _ _ =>
      by_cases hnil : joinWith ':' front = []
      · exact ⟨joinWith ':' back, by rw [hnil]; rfl, hbare hback⟩
      · refine absurd ?_ (hbare hfront)
        rw [← List.head?_append_of_ne_nil (joinWith ':' front) hnil, ← hcs]
        rfl

/-- Behind a colon, no spelling of an IPv6 address spells an address. -/
theorem not_spelledBy_colon {x : V6} {cs : List Char} (h : x.SpelledBy cs) (y : Address) :
    ¬ y.SpelledBy (':' :: cs) := by
  intro hy
  cases y with
  | v4 y =>
    apply y.colon_not_mem_text
    rw [← show ':' :: cs = y.text from hy]
    exact List.mem_cons_self
  | v6 y =>
    rcases V6.SpelledBy.start hy with ⟨c, hhead, hc⟩ | ⟨rest, hcs, hrest⟩
    · obtain rfl := Option.some.inj hhead
      revert hc
      decide
    · obtain rfl := (List.cons.inj hcs).2
      rcases h.start with ⟨c, hhead, hc⟩ | ⟨rest', hcs', -⟩
      · obtain rfl := Option.some.inj hhead
        revert hc
        decide
      · rw [(List.cons.inj hcs').2] at hrest
        exact hrest rfl

end SpamVerdict.Ip
