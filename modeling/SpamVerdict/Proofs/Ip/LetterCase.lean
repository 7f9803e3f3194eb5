import SpamVerdict.Ip.Block
import SpamVerdict.Proofs.Text.Fold
set_option autoImplicit false

/-!
# Letter case in the texts of addresses (SPEC_FULL §4.3, §4.4)

The only letters in the text of an address are hexadecimal digits, and these mean the same in either
case.  So an address, and the block that a text spells, are read the same from the text in lower
case (`inBlock_lowerAscii`).
-/

namespace SpamVerdict

/-! ## Numerals -/

namespace Decimal

theorem toLower_of_isDigit {c : Char} (hc : c.isDigit = true) : c.toLower = c := by
  have hletters : Text.asciiCapitals.any Char.isDigit = false := by decide
  rcases Text.toLower_eq_self_or_mem c with h | h
  · exact h
  · exact absurd hc (List.any_eq_false.1 hletters c h)

theorem map_toLower_of_isDigit {cs : List Char} (hcs : ∀ c ∈ cs, c.isDigit = true) :
    cs.map Char.toLower = cs := by
  have hself : cs.map Char.toLower = cs.map id :=
    List.map_congr_left fun c hc => toLower_of_isDigit (hcs c hc)
  rw [hself, List.map_id]

theorem digits?_map_toLower (cs : List Char) : digits? (cs.map Char.toLower) = digits? cs := by
  have hall : (cs.map Char.toLower).all Char.isDigit = cs.all Char.isDigit := by
    rw [List.all_map]
    exact congrArg cs.all (funext Text.isDigit_toLower)
  unfold digits?
  rw [List.isEmpty_map, hall]
  split
  · next h =>
    rw [Bool.and_eq_true, List.all_eq_true] at h
    rw [map_toLower_of_isDigit h.2]
  · rfl

theorem unsigned?_of_ne {c : Char} (hc : c ≠ '+') (cs : List Char) :
    unsigned? (c :: cs) = digits? (c :: cs) := by
  unfold unsigned?
  split
  · next h =>
    cases h
    exact absurd rfl hc
  · rfl

theorem below?_map_toLower (bound : Nat) (cs : List Char) :
    below? bound (cs.map Char.toLower) = below? bound cs := by
  have hunsigned : unsigned? (cs.map Char.toLower) = unsigned? cs := by
    cases cs with
    | nil => rfl
    | cons c cs =>
      have hplus : c.toLower = '+' ↔ c = '+' := Text.toLower_eq_iff (by decide) c
      by_cases hc : c = '+'
      · subst hc
        exact digits?_map_toLower cs
      · have hfold := digits?_map_toLower (c :: cs)
        rw [List.map_cons] at hfold
        rw [List.map_cons, unsigned?_of_ne hc, unsigned?_of_ne (mt hplus.1 hc), hfold]
  rw [below?, hunsigned, below?]

end Decimal

namespace Ip

/-! ## Octets and groups -/

theorem octet?_map_toLower (cs : List Char) : octet? (cs.map Char.toLower) = octet? cs := by
  have hhead : ((cs.map Char.toLower).head? != some '0') = (cs.head? != some '0') := by
    cases cs with
    | nil => rfl
    | cons c cs =>
      exact Text.apply_toLower (f := fun d => some d != some '0') (by decide) c
  unfold octet?
  rw [List.length_map, hhead, Decimal.digits?_map_toLower]

theorem V4.parse?_map_toLower (cs : List Char) :
    V4.parse? (cs.map Char.toLower) = V4.parse? cs := by
  have hdot : ∀ c : Char, (c.toLower == '.') = (c == '.') :=
    Text.apply_toLower (f := (· == '.')) (by decide)
  unfold V4.parse?
  rw [Text.split_map hdot]
  rcases Text.split (· == '.') cs with _ | ⟨a, _ | ⟨b, _ | ⟨c, _ | ⟨d, _ | ⟨e, rest⟩⟩⟩⟩⟩
  case cons.cons.cons.cons.nil =>
    simp only [List.map_cons, List.map_nil, octet?_map_toLower]
  all_goals rfl

theorem group?_map_toLower (cs : List Char) : group? (cs.map Char.toLower) = group? cs := by
  have hall : (cs.map Char.toLower).all Text.isHexDigit = cs.all Text.isHexDigit := by
    rw [List.all_map]
    exact congrArg cs.all (funext Text.isHexDigit_toLower)
  have hvalue : hexValue (cs.map Char.toLower) = hexValue cs := by
    unfold hexValue
    rw [List.foldl_map]
    simp only [Text.hexValue?_toLower]
  unfold group?
  rw [List.isEmpty_map, List.length_map, hall, hvalue]

theorem groupsOfParts?_map_toLower (dotted : Bool) (parts : List (List Char)) :
    groupsOfParts? dotted (parts.map (List.map Char.toLower)) = groupsOfParts? dotted parts := by
  induction parts with
  | nil => rfl
  | cons part parts ih =>
    cases parts with
    | nil =>
      simp only [List.map_cons, List.map_nil, groupsOfParts?, group?_map_toLower,
        V4.parse?_map_toLower]
    | cons next parts =>
      rw [List.map_cons] at ih
      simp only [List.map_cons, groupsOfParts?, group?_map_toLower, ih]

theorem groups?_map_toLower (dotted : Bool) (cs : List Char) :
    groups? dotted (cs.map Char.toLower) = groups? dotted cs := by
  have hcolon : ∀ c : Char, (c.toLower == ':') = (c == ':') :=
    Text.apply_toLower (f := (· == ':')) (by decide)
  unfold groups?
  rw [List.isEmpty_map, Text.split_map hcolon, groupsOfParts?_map_toLower]

/-! ## Addresses -/

theorem cutDoubleColon?_map_toLower (cs : List Char) :
    cutDoubleColon? (cs.map Char.toLower) = (cutDoubleColon? cs).map
      (Prod.map (List.map Char.toLower) (List.map Char.toLower)) := by
  fun_induction cutDoubleColon? cs with
  | case1 rest => rfl
  | case2 => rfl
  | case3 c cs hne ih =>
    have hcolon : ∀ c : Char, c.toLower = ':' ↔ c = ':' := Text.toLower_eq_iff (by decide)
    have hne' : ∀ rest, c.toLower :: cs.map Char.toLower ≠ ':' :: ':' :: rest := by
      intro rest heq
      obtain ⟨hc, hcs⟩ := List.cons.inj heq
      cases cs with
      | nil => cases hcs
      | cons d cs =>
        obtain ⟨hd, -⟩ := List.cons.inj hcs
        exact hne cs ((hcolon c).1 hc) (by rw [(hcolon d).1 hd])
    rw [List.map_cons, cutDoubleColon?_of_ne hne', ih]
    cases cutDoubleColon? cs <;> rfl

theorem V6.parse?_map_toLower (cs : List Char) :
    V6.parse? (cs.map Char.toLower) = V6.parse? cs := by
  unfold V6.parse?
  rw [cutDoubleColon?_map_toLower]
  cases cutDoubleColon? cs with
  | none => simp only [Option.map_none, groups?_map_toLower]
  | some parts => simp only [Option.map_some, Prod.map, groups?_map_toLower]

theorem Address.ofChars?_map_toLower (cs : List Char) :
    Address.ofChars? (cs.map Char.toLower) = Address.ofChars? cs := by
  unfold Address.ofChars?
  rw [V4.parse?_map_toLower, V6.parse?_map_toLower]

theorem Block.ofChars?_map_toLower (cs : List Char) :
    Block.ofChars? (cs.map Char.toLower) = Block.ofChars? cs := by
  have hslash : ∀ c : Char, c.toLower = '/' ↔ c = '/' := Text.toLower_eq_iff (by decide)
  unfold Block.ofChars?
  rw [Text.cut?_map hslash]
  cases Text.cut? '/' cs with
  | none => simp only [Option.map_none, Address.ofChars?_map_toLower]
  | some parts =>
    simp only [Option.map_some, Prod.map, Decimal.below?_map_toLower, Address.ofChars?_map_toLower]

/-- Whether an address lies in a block does not depend on the case in which the block is written. -/
theorem Address.inBlock_lowerAscii (x : Address) (block : String) :
    x.inBlock (Text.lowerAscii block) = x.inBlock block := by
  unfold Address.inBlock Text.lowerAscii
  rw [String.toList_ofList, Text.trimOf_map Text.isBlank_toLower, Block.ofChars?_map_toLower]

end Ip

end SpamVerdict
