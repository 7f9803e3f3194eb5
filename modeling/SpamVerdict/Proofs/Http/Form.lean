import SpamVerdict.Http.Form
import SpamVerdict.Proofs.Text.Cutting
import SpamVerdict.Proofs.Text.Utf8
set_option autoImplicit false

/-!
# Queries written and read back (SPEC_FULL §6)

Of the signs that structure a query only the percent sign and the plus sign stand in a written
text, so neither a pair nor the list of pairs is cut in the wrong place (`decodePair_encodePair`),
and pairs put behind any query at all are read behind what was read before (`decode_append`).

The look-ups of SPEC_FULL §6 put what a sender wrote into a query, so this holds of all texts.
-/

namespace SpamVerdict.Http

/-! ## Percent signs -/

theorem hexValue?_upperHex : ∀ n < 16, Text.hexValue? (upperHex n) = some n := by
  decide +kernel

theorem isPlain_upperHex : ∀ n < 16, Form.isPlain (upperHex n) = true := by
  decide +kernel

theorem percentDecode_percentByte (b : UInt8) (cs : List Char) :
    percentDecode (percentByte b ++ cs) = b :: percentDecode cs := by
  have hhigh : b.toNat / 16 < 16 := by have := b.toNat_lt; omega
  have hlow : b.toNat % 16 < 16 := by omega
  have hvalue : 16 * (b.toNat / 16) + b.toNat % 16 = b.toNat := by omega
  simp only [percentByte, List.cons_append, List.nil_append]
  rw [percentDecode, hexValue?_upperHex _ hhigh, hexValue?_upperHex _ hlow]
  dsimp only
  rw [hvalue, UInt8.ofNat_toNat]

theorem percentDecode_percentBytes (bytes : List UInt8) (cs : List Char) :
    percentDecode (bytes.flatMap percentByte ++ cs) = bytes ++ percentDecode cs := by
  induction bytes with
  | nil => rfl
  | cons b bytes ih =>
    rw [List.flatMap_cons, List.append_assoc, percentDecode_percentByte, ih, List.cons_append]

theorem percentDecode_cons {c : Char} (hc : c ≠ '%') (cs : List Char) :
    percentDecode (c :: cs) = String.utf8EncodeChar c ++ percentDecode cs := by
  rw [percentDecode]
  exact fun _ _ _ hpercent => absurd hpercent hc

/-- A byte is written with a percent sign and plain characters. -/
theorem of_mem_percentBytes {bytes : List UInt8} {c : Char} (hc : c ∈ bytes.flatMap percentByte) :
    c = '%' ∨ Form.isPlain c = true := by
  obtain ⟨b, -, hc⟩ := List.mem_flatMap.1 hc
  have hb := b.toNat_lt
  simp only [percentByte, List.mem_cons, List.not_mem_nil, or_false] at hc
  rcases hc with rfl | rfl | rfl
  · exact .inl rfl
  · exact .inr (isPlain_upperHex _ (by omega))
  · exact .inr (isPlain_upperHex _ (by omega))

namespace Form

/-! ## Texts -/

/-- A character that stands in a written name or value. -/
def IsWritten (c : Char) : Prop := isPlain c = true ∨ c = '+' ∨ c = '%'

/-- A plus sign is read as a space. -/
def readPlus (c : Char) : Char := if c = '+' then ' ' else c

/-- The text that a character is written as. -/
def encodeChar (c : Char) : List Char :=
  if isPlain c then [c]
  else if c = ' ' then ['+']
  else (String.utf8EncodeChar c).flatMap percentByte

theorem isWritten_of_mem_percentBytes {bytes : List UInt8} {c : Char}
    (hc : c ∈ bytes.flatMap percentByte) : IsWritten c := by
  rcases of_mem_percentBytes hc with hpercent | hplain
  · exact .inr (.inr hpercent)
  · exact .inl hplain

theorem isWritten_of_mem_encodeChar {c d : Char} (hd : d ∈ encodeChar c) : IsWritten d := by
  unfold encodeChar at hd
  split at hd
  next hplain =>
    rw [List.mem_singleton.1 hd]
    exact .inl hplain
  next =>
    split at hd
    next => exact .inr (.inl (List.mem_singleton.1 hd))
    next => exact isWritten_of_mem_percentBytes hd

theorem encodeText_cons (c : Char) (cs : List Char) :
    encodeText (c :: cs) = encodeChar c ++ encodeText cs := rfl

theorem decodeText_eq (cs : List Char) :
    decodeText cs = Text.Utf8.decodeLossy (percentDecode (cs.map readPlus)) := rfl

theorem isWritten_of_mem_encodeText {cs : List Char} {c : Char} (hc : c ∈ encodeText cs) :
    IsWritten c := by
  obtain ⟨d, -, hc⟩ := List.mem_flatMap.1 hc
  exact isWritten_of_mem_encodeChar hc

theorem not_mem_encodeText {sep : Char} (hsep : ¬ IsWritten sep) (cs : List Char) :
    sep ∉ encodeText cs :=
  fun hmem => hsep (isWritten_of_mem_encodeText hmem)

theorem not_isWritten_equals : ¬ IsWritten '=' := by
  unfold IsWritten
  decide

theorem not_isWritten_ampersand : ¬ IsWritten '&' := by
  unfold IsWritten
  decide

theorem ne_of_isPlain {c sign : Char} (hc : isPlain c = true) (hsign : isPlain sign = false) :
    c ≠ sign := by
  rintro rfl
  rw [hc] at hsign
  cases hsign

theorem map_readPlus_percentBytes (bytes : List UInt8) :
    (bytes.flatMap percentByte).map readPlus = bytes.flatMap percentByte := by
  have hread : ∀ c ∈ bytes.flatMap percentByte, readPlus c = id c := by
    intro c hc
    refine if_neg ?_
    rcases of_mem_percentBytes hc with rfl | hplain
    · decide
    · exact ne_of_isPlain hplain (by decide)
  rw [List.map_congr_left hread, List.map_id]

/-- A written character is read as its bytes. -/
theorem percentDecode_encodeChar (c : Char) (cs : List Char) :
    percentDecode ((encodeChar c).map readPlus ++ cs) =
      String.utf8EncodeChar c ++ percentDecode cs := by
  unfold encodeChar
  split
  next hplain =>
    have hplus : c ≠ '+' := ne_of_isPlain hplain (by decide)
    have hpercent : c ≠ '%' := ne_of_isPlain hplain (by decide)
    rw [List.map_singleton, readPlus, if_neg hplus, List.singleton_append,
      percentDecode_cons hpercent]
  next =>
    split
    next hspace =>
      subst hspace
      exact percentDecode_cons (by decide) cs
    next => rw [map_readPlus_percentBytes, percentDecode_percentBytes]

theorem percentDecode_encodeText (cs : List Char) :
    percentDecode ((encodeText cs).map readPlus) = Text.Utf8.encode cs := by
  induction cs with
  | nil => rw [encodeText, List.flatMap_nil, List.map_nil, percentDecode]; rfl
  | cons c cs ih =>
    rw [encodeText_cons, List.map_append, percentDecode_encodeChar, ih]
    rfl

/-- A written text is read back as it was. -/
theorem decodeText_encodeText (cs : List Char) : decodeText (encodeText cs) = cs := by
  rw [decodeText_eq, percentDecode_encodeText, Text.Utf8.decodeLossy_encode]

/-! ## Pairs -/

section Pairs

variable (p : List Char × List Char)

/-- A written pair is read back as it was. -/
theorem decodePair_encodePair : decodePair (encodePair p) = p := by
  rw [decodePair, encodePair, Text.cut?_append (not_mem_encodeText not_isWritten_equals p.1)]
  dsimp only
  rw [decodeText_encodeText, decodeText_encodeText]

theorem ampersand_not_mem_encodePair : '&' ∉ encodePair p := by
  rw [encodePair, List.mem_append, List.mem_cons]
  rintro (hname | heq | hvalue)
  · exact not_mem_encodeText not_isWritten_ampersand p.1 hname
  · exact absurd heq (by decide)
  · exact not_mem_encodeText not_isWritten_ampersand p.2 hvalue

theorem encodePair_isEmpty : (encodePair p).isEmpty = false := by
  rw [List.isEmpty_eq_false_iff, encodePair]
  exact List.append_ne_nil_of_right_ne_nil _ (List.cons_ne_nil _ _)

theorem decode_encodePair : decode (encodePair p) = [p] := by
  rw [decode, Text.split_of_not_mem (ampersand_not_mem_encodePair p), List.filter_singleton,
    encodePair_isEmpty]
  simp [decodePair_encodePair]

/-- The query with one more pair behind it. -/
def appendPair (query : List Char) : List Char :=
  if query.isEmpty then encodePair p else query ++ '&' :: encodePair p

theorem decode_appendPair (query : List Char) :
    decode (appendPair p query) = decode query ++ [p] := by
  unfold appendPair
  split
  next hempty =>
    rw [List.isEmpty_iff.1 hempty, decode_encodePair]
    rfl
  next =>
    have hpair : decode (encodePair p) = [p] := decode_encodePair p
    rw [decode] at hpair
    rw [decode, Text.split_append_split, List.filter_append, List.map_append, hpair, decode]

theorem append_cons (query : List Char) (pairs : List (List Char × List Char)) :
    append query (p :: pairs) = append (appendPair p query) pairs := rfl

end Pairs

/-- Pairs put behind a query are read behind the pairs of the query, whatever it is. -/
theorem decode_append (query : List Char) (pairs : List (List Char × List Char)) :
    decode (append query pairs) = decode query ++ pairs := by
  induction pairs generalizing query with
  | nil => rw [append, List.foldl_nil, List.append_nil]
  | cons p pairs ih =>
    rw [append_cons, ih, decode_appendPair, List.append_assoc, List.singleton_append]

end Form

end SpamVerdict.Http
