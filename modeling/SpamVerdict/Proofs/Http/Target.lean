import SpamVerdict.Http.Url
import SpamVerdict.Proofs.Http.Form
set_option autoImplicit false

/-!
# What a request asks for (SPEC_FULL §6)

The first line of a request names the path and the query of an address.  No path that is read has
a question mark in it, so the first one in the line is where the path ends: the line is read back
as the path and the pairs of the query (`readTarget_requestTarget`).

What a reputation service (SPEC_FULL §6) makes of a look-up is modelled by that reading of the line
and by nothing else.
-/

namespace SpamVerdict.Http

/-- A character that is encoded stands in no text that was percent-encoded, unless the encoding
itself is written with it. -/
theorem not_mem_percentEncode {special : Char → Bool} {c : Char} (hspecial : special c = true)
    (hc : ¬ Form.IsWritten c) (cs : List Char) : c ∉ percentEncode special cs := by
  intro hmem
  obtain ⟨d, -, hd⟩ := List.mem_flatMap.1 hmem
  split at hd
  next => exact hc (Form.isWritten_of_mem_percentBytes hd)
  next hplain =>
    rw [← List.mem_singleton.1 hd, hspecial, Bool.or_true] at hplain
    exact hplain rfl

/-! ## Paths -/

theorem parent_subset (done : List (List Char)) : parent done ⊆ done := by
  unfold parent
  split
  · exact List.Subset.refl done
  · exact List.dropLast_subset done

/-- Whatever holds of the segments that are read holds of a resolved path, if it holds of the empty
segment that a dot segment leaves at the end. -/
theorem forall_mem_resolve {P : List Char → Prop} (hempty : P []) {done rest : List (List Char)}
    (hdone : ∀ s ∈ done, P s) (hrest : ∀ s ∈ rest, P s) : ∀ s ∈ resolve done rest, P s := by
  fun_induction resolve done rest with
  | case1 done => exact hdone
  | case2 done piece rest hdouble ih =>
    have hup : ∀ s ∈ parent done, P s := fun s hs => hdone s (parent_subset done hs)
    refine ih ?_ (List.forall_mem_cons.1 hrest).2
    split
    · exact List.forall_mem_append.2 ⟨hup, List.forall_mem_singleton.2 hempty⟩
    · exact hup
  | case3 done piece rest hdouble hsingle ih =>
    refine ih ?_ (List.forall_mem_cons.1 hrest).2
    split
    · exact List.forall_mem_append.2 ⟨hdone, List.forall_mem_singleton.2 hempty⟩
    · exact hdone
  | case4 done piece rest hdouble hsingle ih =>
    obtain ⟨hpiece, hrest⟩ := List.forall_mem_cons.1 hrest
    exact ih (List.forall_mem_append.2 ⟨hdone, List.forall_mem_singleton.2 hpiece⟩) hrest

theorem not_mem_segmentsOf {sep : Char} (hsep : inPath sep = true) (hwritten : ¬ Form.IsWritten sep)
    (kind : SchemeKind) (cs : List Char) : ∀ s ∈ segmentsOf kind cs, sep ∉ s := by
  refine forall_mem_resolve List.not_mem_nil (by simp) ?_
  intro s hs
  obtain ⟨piece, -, rfl⟩ := List.mem_map.1 hs
  exact not_mem_percentEncode hsep hwritten piece

namespace Url

theorem pathText_eq {u : Url} {items : List (List Char)} (hpath : u.path = .segments items) :
    u.pathText = items.flatMap ('/' :: ·) ∨
      u.pathText = '/' :: '.' :: items.flatMap ('/' :: ·) := by
  rw [pathText, hpath]
  dsimp only
  split
  · exact .inr rfl
  · exact .inl rfl

theorem not_mem_pathText {u : Url} {items : List (List Char)} {sep : Char}
    (hpath : u.path = .segments items) (hslash : sep ≠ '/') (hdot : sep ≠ '.')
    (hitems : ∀ s ∈ items, sep ∉ s) : sep ∉ u.pathText := by
  have htext : sep ∉ items.flatMap ('/' :: ·) := by
    intro hmem
    obtain ⟨s, hs, hsep⟩ := List.mem_flatMap.1 hmem
    rcases List.mem_cons.1 hsep with heq | hsep
    · exact hslash heq
    · exact hitems s hs hsep
  rcases pathText_eq hpath with h | h
  · rwa [h]
  · rw [h]
    exact List.not_mem_cons_of_ne_of_not_mem hslash (List.not_mem_cons_of_ne_of_not_mem hdot htext)

/-- The authority and the path of an address are read together. -/
theorem readHierarchy_of_parse {s : String} {u : Url} (h : Url.parse s = .ok u) :
    ∃ more cs, readHierarchy u.scheme (kindOf u.scheme) more cs = .ok (u.authority, u.path) := by
  unfold Url.parse at h
  dsimp only at h
  split at h
  next => cases h
  next scheme rest _ =>
    simp only [bind, Except.bind] at h
    split at h
    next => cases h
    next hread =>
      cases h
      exact ⟨_, _, hread⟩

/-- The path of a known scheme is the path that follows a host. -/
theorem path_of_known {scheme : List Char} {more : Bool} {cs : List Char}
    {authority : Option (List Char)} {path : UrlPath}
    (h : readHierarchy scheme .known more cs = .ok (authority, path)) :
    ∃ text, path = pathAfterHost .known text := by
  unfold readHierarchy at h
  simp only [bind, Except.bind] at h
  split at h
  next => cases h
  next =>
    cases h
    exact ⟨_, rfl⟩

theorem pathAfterHost_known (cs : List Char) :
    ∃ text, pathAfterHost .known cs = .segments (segmentsOf .known text) := by
  cases cs with
  | nil => exact ⟨[], rfl⟩
  | cons c rest => exact ⟨_, rfl⟩

theorem kindOf_of_isWeb {u : Url} (hweb : u.isWeb = true) : kindOf u.scheme = .known := by
  obtain hhttp | hhttps : u.scheme = "http".toList ∨ u.scheme = "https".toList := by
    simpa [isWeb] using hweb
  · rw [hhttp]
    decide
  · rw [hhttps]
    decide

/-- No address that can be asked has a question mark in its path. -/
theorem question_not_mem_pathText {s : String} {u : Url} (h : Url.parse s = .ok u)
    (hweb : u.isWeb = true) : '?' ∉ u.pathText := by
  have hkind := kindOf_of_isWeb hweb
  obtain ⟨more, cs, hread⟩ := readHierarchy_of_parse h
  rw [hkind] at hread
  obtain ⟨text, htext⟩ := path_of_known hread
  obtain ⟨pieces, hpieces⟩ := pathAfterHost_known text
  refine not_mem_pathText (htext.trans hpieces) (by decide) (by decide) ?_
  exact not_mem_segmentsOf (by decide) (by unfold Form.IsWritten; decide) _ _

/-! ## Request targets -/

section Targets

variable (u : Url)

/-- Where a request goes. -/
def origin : List Char :=
  u.scheme ++ ':' :: ((u.authority.map fun a => '/' :: '/' :: a).getD [])

/-- What a request asks for there: the path and the query. -/
def requestTarget : List Char :=
  u.pathText ++ (u.query.map fun q => '?' :: q).getD []

theorem target_eq : u.target = u.origin ++ u.requestTarget := by
  rw [target, origin, requestTarget, List.append_assoc]

end Targets

/-- The path and the pairs that a request asks for: the query is what stands behind the first
question mark. -/
def readTarget (cs : List Char) : List Char × List (List Char × List Char) :=
  match Text.cut? '?' cs with
  | some (path, query) => (path, Form.decode query)
  | none => (cs, [])

theorem readTarget_requestTarget {u : Url} (hpath : '?' ∉ u.pathText) :
    readTarget u.requestTarget = (u.pathText, u.pairs) := by
  unfold readTarget requestTarget pairs
  cases u.query with
  | none =>
    have hcut : Text.cut? '?' u.pathText = none := Text.cut?_eq_none hpath
    simp only [Option.map_none, Option.getD_none, List.append_nil, hcut]
    rfl
  | some query =>
    simp only [Option.map_some, Option.getD_some, Text.cut?_append hpath]

/-- More pairs change nothing but the query, and there they are read behind the others. -/
theorem pairs_withPairs (u : Url) (added : List (List Char × List Char)) :
    (u.withPairs added).pairs = u.pairs ++ added :=
  Form.decode_append _ _

end Url

end SpamVerdict.Http
