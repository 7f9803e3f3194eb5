import SpamVerdict.Mail.Message
import SpamVerdict.Proofs.Text.Cutting
set_option autoImplicit false

/-!
# Header and body of a message text (SPEC_FULL §14.1)

The text of a message can be taken apart again at its first empty line: in front of it stand the
lines of the header block, and behind it the body as it was (`rawText_separates`).  The separator is
chosen by what the header block ends with.  It completes the last line and one empty line whatever
line ends are used, but one: an empty line that is ended by a carriage return and a line feed is
overlooked behind a line that is ended by a line feed alone, and a second one is put behind it.

SPEC_FULL §14.1 asks for "exactly one blank line", with nothing added "when the header already ends
with a blank line"; the one way to end a header block in which this fails is singled out in the
statement.
-/

namespace SpamVerdict.Mail

open Text (IsLineEnd)

/-! ## Taking a text apart -/

/-- The lines in front of the first empty line, and the text behind that one; `line` is what has
been read of the present line. -/
def cutAtEmptyLine (line : List Char) : List Char → Option (List (List Char) × List Char)
  | [] => none
  | c :: cs =>
    if c = '\n' then
      if (Text.dropReturn line).isEmpty then some ([], cs)
      else (cutAtEmptyLine [] cs).map (Prod.map (Text.dropReturn line :: ·) id)
    else cutAtEmptyLine (line ++ [c]) cs

/-- The lines of a text in front of its first empty line, and the text behind that one. -/
def headAndBody? (cs : List Char) : Option (List (List Char) × List Char) := cutAtEmptyLine [] cs

/-- A line of a header block: not empty, and without the characters that end lines. -/
structure IsPlainLine (line : List Char) : Prop where
  ne_nil : line ≠ []
  feed : '\n' ∉ line
  carriage : '\r' ∉ line

theorem cutAtEmptyLine_append {piece : List Char} (h : '\n' ∉ piece) (line rest : List Char) :
    cutAtEmptyLine line (piece ++ rest) = cutAtEmptyLine (line ++ piece) rest := by
  induction piece generalizing line with
  | nil => rw [List.nil_append, List.append_nil]
  | cons c piece ih =>
    have hc : c ≠ '\n' := (List.ne_of_not_mem_cons h).symm
    rw [List.cons_append, cutAtEmptyLine, if_neg hc, ih (List.not_mem_of_not_mem_cons h),
      List.append_assoc, List.singleton_append]

theorem IsPlainLine.dropReturn {line : List Char} (h : IsPlainLine line) :
    Text.dropReturn line = line :=
  if_neg fun hlast => h.carriage (List.mem_of_getLast? hlast)

theorem headAndBody?_line {line lineEnd : List Char} (h : IsPlainLine line)
    (hend : IsLineEnd lineEnd) (rest : List Char) :
    headAndBody? (line ++ (lineEnd ++ rest)) =
      (headAndBody? rest).map (Prod.map (line :: ·) id) := by
  have hempty : line.isEmpty = false := List.isEmpty_eq_false_iff.2 h.ne_nil
  cases hend with
  | feed =>
    rw [headAndBody?, cutAtEmptyLine_append h.feed, List.nil_append, List.singleton_append,
      cutAtEmptyLine, if_pos rfl, h.dropReturn, hempty]
    rfl
  | returnFeed =>
    have hpiece : '\n' ∉ line ++ ['\r'] := by simp [h.feed]
    have hdrop : Text.dropReturn (line ++ ['\r']) = line := by simp [Text.dropReturn]
    have happend : line ++ (['\r', '\n'] ++ rest) = line ++ ['\r'] ++ '\n' :: rest := by simp
    rw [headAndBody?, happend, cutAtEmptyLine_append hpiece, List.nil_append, cutAtEmptyLine,
      if_pos rfl, hdrop, hempty]
    rfl

theorem headAndBody?_empty {lineEnd : List Char} (hend : IsLineEnd lineEnd) (rest : List Char) :
    headAndBody? (lineEnd ++ rest) = some ([], rest) := by
  cases hend <;> rfl

/-! ## Header blocks -/

/-- What may stand behind the last line of a header block: nothing, a line end, or a line end and an
empty line. -/
inductive IsClosing : List Char → Prop where
  | missing : IsClosing []
  | ended {lineEnd : List Char} (hend : IsLineEnd lineEnd) : IsClosing lineEnd
  | blank {lineEnd blankEnd : List Char} (hend : IsLineEnd lineEnd) (hblank : IsLineEnd blankEnd) :
      IsClosing (lineEnd ++ blankEnd)

/-- A header block writes lines down: one behind the other, at least one, each with a line end of
its own but the last, which is closed. -/
inductive Writes (closing : List Char) : List (List Char) → List Char → Prop where
  | last {line : List Char} (hline : IsPlainLine line) (hclosing : IsClosing closing) :
      Writes closing [line] (line ++ closing)
  | line {line lineEnd header : List Char} {lines : List (List Char)} (hline : IsPlainLine line)
      (hend : IsLineEnd lineEnd) (hrest : Writes closing lines header) :
      Writes closing (line :: lines) (line ++ (lineEnd ++ header))

/-- The closing that hides its empty line: a line feed, and behind it an empty line that a carriage
return and a line feed end. -/
def hiddenBlank : List Char := ['\n', '\r', '\n']

namespace Writes

variable {closing header : List Char} {lines : List (List Char)}

theorem isClosing (h : Writes closing lines header) : IsClosing closing := by
  induction h with
  | last _ hclosing => exact hclosing
  | line _ _ _ ih => exact ih

/-- In front of the closing stands a character of a line. -/
theorem exists_last (h : Writes closing lines header) :
    ∃ front c, header = front ++ c :: closing ∧ c ≠ '\n' ∧ c ≠ '\r' := by
  induction h with
  | @last line hline _ =>
    obtain ⟨front, c, rfl⟩ := List.eq_nil_or_concat' line |>.resolve_left hline.ne_nil
    refine ⟨front, c, by simp, ?_, ?_⟩
    · rintro rfl
      exact hline.feed (by simp)
    · rintro rfl
      exact hline.carriage (by simp)
  | @line line lineEnd header lines _ _ _ ih =>
    obtain ⟨front, c, rfl, hc⟩ := ih
    exact ⟨line ++ (lineEnd ++ front), c, by simp, hc⟩

theorem ne_nil (h : Writes closing lines header) : header ≠ [] := by
  obtain ⟨front, c, rfl, -⟩ := h.exists_last
  simp

/-- A text is taken apart where the closing and what follows it make the first empty line. -/
theorem headAndBody? (h : Writes closing lines header) {lineEnd blankEnd tail rest : List Char}
    (hend : IsLineEnd lineEnd) (hblank : IsLineEnd blankEnd)
    (htail : closing ++ tail = lineEnd ++ (blankEnd ++ rest)) :
    Mail.headAndBody? (header ++ tail) = some (lines, rest) := by
  induction h with
  | @last line hline _ =>
    rw [List.append_assoc, htail, headAndBody?_line hline hend, headAndBody?_empty hblank]
    rfl
  | @line line lineEnd' header lines hline hend' _ ih =>
    rw [List.append_assoc, List.append_assoc, headAndBody?_line hline hend', ih]
    rfl

end Writes

/-! ## The separator -/

namespace Message

theorem endsWith_append_cons (front closing suffix : List Char) (c : Char) :
    endsWith (front ++ c :: closing) suffix =
      suffix.reverse.isPrefixOf (closing.reverse ++ c :: front.reverse) := by
  simp [endsWith, List.isSuffixOf]

/-- The separator makes the closing of a header block a line end and one empty line. -/
theorem closing_append_separator {c : Char} (hfeed : c ≠ '\n') (hcarriage : c ≠ '\r')
    (front : List Char) {closing : List Char} (hclosing : IsClosing closing)
    (hhidden : closing ≠ hiddenBlank) :
    ∃ lineEnd blankEnd, IsLineEnd lineEnd ∧ IsLineEnd blankEnd ∧
      closing ++ separator (front ++ c :: closing) = lineEnd ++ blankEnd := by
  simp only [separator, endsWith_append_cons]
  cases hclosing with
  | missing =>
    refine ⟨['\r', '\n'], ['\r', '\n'], .returnFeed, .returnFeed, ?_⟩
    simp [List.isPrefixOf, hfeed.symm]
  | ended hend =>
    cases hend with
    | feed =>
      refine ⟨['\n'], ['\n'], .feed, .feed, ?_⟩
      simp [List.isPrefixOf, hfeed.symm, hcarriage.symm]
    | returnFeed =>
      refine ⟨['\r', '\n'], ['\r', '\n'], .returnFeed, .returnFeed, ?_⟩
      simp [List.isPrefixOf, hfeed.symm]
  | @blank lineEnd blankEnd hend hblank =>
    refine ⟨lineEnd, blankEnd, hend, hblank, ?_⟩
    cases hend <;> cases hblank
    · simp [List.isPrefixOf]
    · exact absurd rfl hhidden
    · simp [List.isPrefixOf]
    · simp [List.isPrefixOf]

theorem separator_hiddenBlank {c : Char} (hcarriage : c ≠ '\r') (front : List Char) :
    separator (front ++ c :: hiddenBlank) = ['\r', '\n'] := by
  simp [separator, endsWith_append_cons, hiddenBlank, List.isPrefixOf, hcarriage.symm]

theorem toList_rawText {m : Message} (h : m.header.toList ≠ []) :
    m.rawText.toList = m.header.toList ++ (separator m.header.toList ++ m.body.toList) := by
  have hempty : m.header.isEmpty = false := by
    rw [← Bool.not_eq_true, String.isEmpty_iff]
    exact fun hnil => h (String.toList_eq_nil_iff.2 hnil)
  rw [rawText, hempty]
  simp

/-- Without a header block the text of a message is its body.  With one, its first empty line parts
the lines of the header block from the body, character for character, unless the header block is
closed by the one empty line that is overlooked; then one more line end stands in front of the
body. -/
theorem rawText_separates (m : Message) :
    (m.header = "" → m.rawText = m.body) ∧
      ∀ closing lines, Writes closing lines m.header.toList →
        (headAndBody? m.rawText.toList = some (lines, m.body.toList) ↔ closing ≠ hiddenBlank) ∧
          (closing = hiddenBlank →
            headAndBody? m.rawText.toList = some (lines, ['\r', '\n'] ++ m.body.toList)) := by
  refine ⟨fun hempty => by rw [rawText, hempty]; rfl, fun closing lines hwrites => ?_⟩
  obtain ⟨front, c, hheader, hfeed, hcarriage⟩ := hwrites.exists_last
  have hhidden : closing = hiddenBlank →
      headAndBody? m.rawText.toList = some (lines, ['\r', '\n'] ++ m.body.toList) := by
    rintro rfl
    rw [toList_rawText hwrites.ne_nil, hheader, separator_hiddenBlank hcarriage, ← hheader]
    exact hwrites.headAndBody? .feed .returnFeed rfl
  refine ⟨⟨fun hcut hclosing => ?_, fun hclosing => ?_⟩, hhidden⟩
  · have hmore := (hhidden hclosing).symm.trans hcut
    rw [Option.some.injEq, Prod.mk.injEq] at hmore
    have hlength := congrArg List.length hmore.2
    rw [List.length_append, List.length_cons] at hlength
    omega
  · obtain ⟨lineEnd, blankEnd, hend, hblank, hseparator⟩ :=
      closing_append_separator hfeed hcarriage front hwrites.isClosing hclosing
    rw [toList_rawText hwrites.ne_nil]
    refine hwrites.headAndBody? hend hblank ?_
    rw [hheader, ← List.append_assoc, hseparator, List.append_assoc]

/-- Lines with both kinds of ends, of which the last has none, and a body that starts with an empty
line of its own. -/
theorem rawText_separates_mixed :
    let m : Message := ⟨"", "", "", "A: b\nC: d\r\nE: f", "\n\r\nBODY", ""⟩
    let lines := ["A: b".toList, "C: d".toList, "E: f".toList]
    Writes [] lines m.header.toList ∧
      headAndBody? m.rawText.toList = some (lines, m.body.toList) := by
  intro m lines
  have hfirst : IsPlainLine "A: b".toList := ⟨by decide, by decide, by decide⟩
  have hsecond : IsPlainLine "C: d".toList := ⟨by decide, by decide, by decide⟩
  have hthird : IsPlainLine "E: f".toList := ⟨by decide, by decide, by decide⟩
  have hheader : m.header.toList =
      "A: b".toList ++ (['\n'] ++ ("C: d".toList ++ (['\r', '\n'] ++ ("E: f".toList ++ [])))) := by
    decide
  have hwrites : Writes [] lines m.header.toList := by
    rw [hheader]
    exact .line hfirst .feed (.line hsecond .returnFeed (.last hthird .missing))
  exact ⟨hwrites, ((rawText_separates m).2 [] lines hwrites).1.2 (by decide)⟩

/-- A header block that ends with an empty line of its own gets a second one, and the body does not
come back. -/
theorem emptyLine_doubled :
    let m : Message := ⟨"", "", "", "H: x\n\r\n", "BODY", ""⟩
    Writes hiddenBlank ["H: x".toList] m.header.toList ∧ m.rawText = "H: x\n\r\n\r\nBODY" ∧
      headAndBody? m.rawText.toList ≠ some (["H: x".toList], m.body.toList) := by
  intro m
  have hline : IsPlainLine "H: x".toList := ⟨by decide, by decide, by decide⟩
  have hclosing : IsClosing hiddenBlank := .blank .feed .returnFeed
  have hheader : m.header.toList = "H: x".toList ++ hiddenBlank := by decide
  have hwrites : Writes hiddenBlank ["H: x".toList] m.header.toList := by
    rw [hheader]
    exact .last hline hclosing
  exact ⟨hwrites, by decide, by decide⟩

end Message

end SpamVerdict.Mail
