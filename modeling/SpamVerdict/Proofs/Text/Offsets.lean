import SpamVerdict.Text.Case
import SpamVerdict.Proofs.Text.Fold
set_option autoImplicit false

/-!
# Cutting at byte offsets (SPEC_FULL §4.3)

A text may be cut at an offset into its bytes where a character starts or the text ends; anywhere
else the cut would fall inside a character and fails.  A keyword is looked for at the start of a
text by such a cut, at the length of the keyword (`afterFoldAt?`).  It never fails, and what
follows the keyword is the same as when the characters are compared one by one
(`afterFoldAt?_eq`).

The tokens of a record come from anyone who publishes one, in any script, and by SPEC_FULL §7 no
record may end in a crash.
-/

namespace SpamVerdict.Text

/-! ## Boundaries -/

/-- An offset that is inside no character: the end of the text or the first byte of a character. -/
def IsBoundary (s : String) (n : Nat) : Prop :=
  n = s.utf8ByteSize ∨
    ∃ h : n < s.utf8ByteSize, (s.getUTF8Byte ⟨n⟩ h).IsUTF8FirstByte

instance (s : String) (n : Nat) : Decidable (IsBoundary s n) :=
  inferInstanceAs (Decidable (_ ∨ _))

theorem isBoundary_iff_isValid {s : String} {n : Nat} :
    IsBoundary s n ↔ String.Pos.Raw.IsValid s ⟨n⟩ := by
  rw [String.Pos.Raw.isValid_iff_isUTF8FirstByte, String.Pos.Raw.ext_iff]
  exact Iff.rfl

/-- The boundaries of a text are the lengths of its beginnings. -/
theorem isBoundary_iff {s : String} {n : Nat} :
    IsBoundary s n ↔ ∃ front back, s = front ++ back ∧ front.utf8ByteSize = n := by
  rw [isBoundary_iff_isValid, String.Pos.Raw.isValid_iff_exists_append]
  simp only [String.Pos.Raw.ext_iff, eq_comm, String.rawEndPos]

/-! ## Cuts -/

/-- The text before an offset and the text from it on; no text inside a character. -/
def cutAt? (s : String) (n : Nat) : Option (String × String) :=
  if h : IsBoundary s n then
    let p := s.pos ⟨n⟩ (isBoundary_iff_isValid.1 h)
    some ((s.sliceTo p).copy, (s.sliceFrom p).copy)
  else none

theorem cutAt?_append (front back : String) :
    cutAt? (front ++ back) front.utf8ByteSize = some (front, back) := by
  have h : IsBoundary (front ++ back) front.utf8ByteSize := isBoundary_iff.2 ⟨_, _, rfl, rfl⟩
  have hcut := ((front ++ back).pos ⟨front.utf8ByteSize⟩ (isBoundary_iff_isValid.1 h)).splits
  have hgiven : ((front ++ back).pos ⟨front.utf8ByteSize⟩
      (isBoundary_iff_isValid.1 h)).Splits front back := ⟨rfl, rfl⟩
  rw [cutAt?, dif_pos h]
  dsimp only
  rw [hcut.eq_left hgiven, hcut.eq_right hgiven]

/-! ## Keywords -/

/-- What follows a keyword at the start of a text, read up to ASCII case by a cut at the length of
the keyword.  There is no answer where the cut fails. -/
def afterFoldAt? (keyword s : String) : Option (Option String) :=
  if keyword.utf8ByteSize ≤ s.utf8ByteSize ∧ IsBoundary s keyword.utf8ByteSize then do
    let (front, back) ← cutAt? s keyword.utf8ByteSize
    return if sameFold front.toList keyword.toList then some back else none
  else return none

theorem utf8Size_toLower (c : Char) : c.toLower.utf8Size = c.utf8Size :=
  apply_toLower (f := Char.utf8Size) (by decide) c

/-- Putting ASCII letters into lower case moves no boundary. -/
theorem utf8ByteSize_map_toLower (cs : List Char) :
    (String.ofList (cs.map Char.toLower)).utf8ByteSize = (String.ofList cs).utf8ByteSize := by
  induction cs with
  | nil => rfl
  | cons c cs ih =>
    rw [List.map_cons, String.ofList_cons, String.ofList_cons, String.utf8ByteSize_append,
      String.utf8ByteSize_append, String.utf8ByteSize_singleton, String.utf8ByteSize_singleton,
      utf8Size_toLower, ih]

theorem utf8ByteSize_eq_of_fold {s t : String}
    (h : s.toList.map Char.toLower = t.toList.map Char.toLower) :
    s.utf8ByteSize = t.utf8ByteSize := by
  have hs := utf8ByteSize_map_toLower s.toList
  have ht := utf8ByteSize_map_toLower t.toList
  rw [String.ofList_toList] at hs ht
  rw [← hs, h, ht]

/-- A keyword is looked for by no cut inside a character, and what follows it is found. -/
theorem afterFoldAt?_eq (keyword s : String) :
    afterFoldAt? keyword s = some ((afterFold? keyword.toList s.toList).map String.ofList) := by
  cases hrest : afterFold? keyword.toList s.toList with
  | some rest =>
    obtain ⟨start, hs, hstart⟩ := afterFold?_eq_some hrest
    obtain rfl : s = String.ofList start ++ String.ofList rest := by
      rw [← String.ofList_append, ← hs, String.ofList_toList]
    have hsize : (String.ofList start).utf8ByteSize = keyword.utf8ByteSize :=
      utf8ByteSize_eq_of_fold (by rwa [String.toList_ofList])
    have hboundary : IsBoundary (String.ofList start ++ String.ofList rest)
        keyword.utf8ByteSize := isBoundary_iff.2 ⟨_, _, rfl, hsize⟩
    have hfold : sameFold start keyword.toList = true := by
      rw [sameFold, hstart, beq_self_eq_true]
    have hle : keyword.utf8ByteSize ≤ (String.ofList start ++ String.ofList rest).utf8ByteSize := by
      rw [String.utf8ByteSize_append, hsize]
      exact Nat.le_add_right _ _
    rw [afterFoldAt?, if_pos ⟨hle, hboundary⟩, ← hsize, cutAt?_append]
    simp [hfold]
  | none =>
    rw [afterFoldAt?]
    split
    · next hcut =>
      obtain ⟨front, back, rfl, hsize⟩ := isBoundary_iff.1 hcut.2
      -- Were the beginning the keyword, the characters would have been found to follow it.
      have hfold : sameFold front.toList keyword.toList = false := by
        apply Bool.eq_false_iff.2
        intro hfold
        rw [String.toList_append, afterFold?_append (eq_of_beq hfold)] at hrest
        cases hrest
      rw [← hsize, cutAt?_append]
      simpa using hfold
    · rfl

/-- A text that starts with a character of one byte is cut behind it. -/
theorem cutAt?_one {s : String} {c : Char} {cs : List Char} (hs : s.toList = c :: cs)
    (hc : c.utf8Size = 1) : cutAt? s 1 = some (String.singleton c, String.ofList cs) := by
  obtain rfl : s = String.singleton c ++ String.ofList cs := by
    rw [← String.ofList_cons, ← hs, String.ofList_toList]
  rw [← hc, ← String.utf8ByteSize_singleton]
  exact cutAt?_append _ _

end SpamVerdict.Text
