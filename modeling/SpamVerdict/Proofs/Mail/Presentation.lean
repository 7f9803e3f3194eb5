import SpamVerdict.Proofs.Mail.LetterCase
import SpamVerdict.Proofs.Text.Cutting
set_option autoImplicit false

/-!
# The presentation of a header block (SPEC_FULL §4.1)

The same header lines can be written down in many ways: a line may be folded at spaces, lines may
end with or without a carriage return, and letters may stand in either case.  Unfolding takes every
folding back (`foldl_appendLine_lays`), and the readers of the unfolded block do not see the case of
letters, so the addresses of a block depend on its lines alone (`presentation_irrelevant`).

SPEC_FULL §4.1 speaks of header fields only; that the way in which a mail server lays them out must
not matter is what makes a text of them usable at all.
-/

namespace SpamVerdict.Mail

open Text (IsLineEnd BareOf)

/-! ## Ways to write lines down -/

/-- A header line: not empty, without a line feed in it, no space or tab in front of it and no blank
at its end. -/
structure IsHeaderLine (line : List Char) : Prop where
  ne_nil : line ≠ []
  feed : '\n' ∉ line
  start : isContinuation line = false
  last : ∀ c, line.getLast? = some c → Text.isBlank c = false

/-- What may stand in front of a continuation: spaces and tabs, at least one. -/
structure IsIndent (indent : List Char) : Prop where
  ne_nil : indent ≠ []
  blank : ∀ c ∈ indent, c = ' ' ∨ c = '\t'

/-- A text folds a line: in any number of places, a line end and an indent stand for a single space
between two characters that are not blank. -/
inductive Folds : List Char → List Char → Prop where
  | whole (line : List Char) : Folds line line
  | fold (front : List Char) {back text lineEnd indent : List Char} {a b : Char}
      (ha : Text.isBlank a = false) (hb : Text.isBlank b = false) (hend : IsLineEnd lineEnd)
      (hindent : IsIndent indent) (hback : Folds (b :: back) text) :
      Folds (front ++ a :: ' ' :: b :: back) (front ++ a :: (lineEnd ++ (indent ++ text)))

/-- A block lays out lines: one behind the other, folded or not, each with a line end, which the
last one may lack. -/
inductive Lays : List (List Char) → List Char → Prop where
  | nil : Lays [] []
  | last {line text : List Char} (hline : Folds line text) : Lays [line] text
  | line {line text lineEnd rest : List Char} {lines : List (List Char)} (hline : Folds line text)
      (hend : IsLineEnd lineEnd) (hrest : Lays lines rest) :
      Lays (line :: lines) (text ++ (lineEnd ++ rest))

/-- A header block presents lines: it lays them out, and the case of letters may differ. -/
def Presents (lines : List (List Char)) (header : String) : Prop :=
  ∃ block, Lays lines block ∧ Text.sameFold header.toList block = true

/-! ## Unfolding -/

theorem IsIndent.isContinuation {indent : List Char} (h : IsIndent indent) (cs : List Char) :
    Mail.isContinuation (indent ++ cs) = true := by
  obtain ⟨c, rest, rfl⟩ := List.exists_cons_of_ne_nil h.ne_nil
  rcases h.blank c List.mem_cons_self with rfl | rfl <;> rfl

theorem IsIndent.isBlank {indent : List Char} (h : IsIndent indent) :
    ∀ c ∈ indent, Text.isBlank c = true := by
  intro c hc
  rcases h.blank c hc with rfl | rfl <;> decide

/-- Behind an indent, a piece without blanks at its ends goes behind a space. -/
theorem appendLine_indent {indent piece : List Char} (hindent : IsIndent indent)
    (hpiece : BareOf Text.isBlank piece) (block : List Char) :
    appendLine block (indent ++ piece) = block ++ [' '] ++ piece := by
  have htrim : Text.trimOf Text.isBlank (indent ++ piece) = piece :=
    Text.trimOf_eq_iff.2 ⟨indent, [], by simp, hindent.isBlank, by simp, hpiece⟩
  rw [appendLine, if_pos (hindent.isContinuation piece), htrim, List.append_assoc]
  rfl

/-- What is put in front of a line that starts in a block. -/
def lineStart (block : List Char) : List Char := if block.isEmpty then [] else block ++ ['\n']

theorem appendLine_start {piece : List Char} (hpiece : isContinuation piece = false)
    (block : List Char) : appendLine block piece = lineStart block ++ piece := by
  rw [appendLine, if_neg (by simp [hpiece]), lineStart]
  split <;> simp

/-- What follows a piece ends its line and leaves other lines. -/
def EndsLine (tail : List Char) (others : List (List Char)) : Prop :=
  ∀ piece : List Char, piece ≠ [] → '\n' ∉ piece →
    (∀ c, piece.getLast? = some c → Text.isBlank c = false) →
      Text.lines (piece ++ tail) = piece :: others

theorem endsLine_append {lineEnd : List Char} (hend : IsLineEnd lineEnd) (rest : List Char) :
    EndsLine (lineEnd ++ rest) (Text.lines rest) := by
  intro piece _ hfeed hlast
  refine Text.lines_append hend hfeed (fun hreturn => ?_) rest
  have hblank := hlast '\r' hreturn
  revert hblank
  decide

theorem endsLine_nil : EndsLine [] [] := by
  intro piece hne hfeed _
  rw [List.append_nil, Text.lines_of_not_mem hfeed hne]

/-- The pieces of a folded line are put together to the line.  The first of them stands behind
`before`; what matters of that is `start`, which is then in front of the line. -/
theorem foldl_appendLine_folds {line text tail : List Char} {others : List (List Char)}
    (htail : EndsLine tail others) (h : Folds line text) :
    ∀ before start block : List Char, line ≠ [] → '\n' ∉ before ++ line →
      (∀ c, line.getLast? = some c → Text.isBlank c = false) →
      (∀ piece, piece.head? = line.head? →
        (∀ c, piece.getLast? = some c → Text.isBlank c = false) →
          appendLine block (before ++ piece) = start ++ piece) →
      (Text.lines (before ++ (text ++ tail))).foldl appendLine block =
        others.foldl appendLine (start ++ line) := by
  induction h with
  | whole line =>
    intro before start block hne hfeed hlast hstart
    have hpiece : Text.lines (before ++ line ++ tail) = (before ++ line) :: others := by
      apply htail _ (by simp [hne]) hfeed
      intro c hc
      rw [List.getLast?_append_of_ne_nil _ hne] at hc
      exact hlast c hc
    rw [← List.append_assoc, hpiece, List.foldl_cons, hstart line rfl hlast]
  | @fold front back text lineEnd indent a b ha hb hend hindent _ ih =>
    intro before start block _ hfeed hlast hstart
    simp only [List.mem_append, List.mem_cons, not_or] at hfeed
    obtain ⟨hbefore, hfront, hfeeda, -, hfeedb, hfeedback⟩ := hfeed
    -- the first piece ends at the fold, behind `a`
    have hpiece : Text.lines (before ++ (front ++ [a]) ++ (lineEnd ++ (indent ++ (text ++ tail)))) =
        (before ++ (front ++ [a])) :: Text.lines (indent ++ (text ++ tail)) := by
      apply endsLine_append hend _ _ (by simp) (by simp [hbefore, hfront, hfeeda])
      intro c hc
      simp only [← List.append_assoc, List.getLast?_concat, Option.some.injEq] at hc
      rw [← hc, ha]
    have hfirst : appendLine block (before ++ (front ++ [a])) = start ++ (front ++ [a]) := by
      apply hstart
      · cases front <;> rfl
      · intro c hc
        rw [List.getLast?_concat, Option.some.injEq] at hc
        rw [← hc, ha]
    -- the others stand behind the indent, which becomes one space
    have hindentfeed : '\n' ∉ indent ++ b :: back := by
      simp only [List.mem_append, List.mem_cons, not_or]
      refine ⟨fun hmem => ?_, hfeedb, hfeedback⟩
      rcases hindent.blank _ hmem with h | h <;> cases h
    have hlast' : ∀ c, (b :: back).getLast? = some c → Text.isBlank c = false := by
      intro c hc
      apply hlast c
      rw [List.getLast?_append_cons, List.getLast?_cons_cons, List.getLast?_cons_cons]
      exact hc
    have hrest := ih indent (start ++ (front ++ [a]) ++ [' ']) (start ++ (front ++ [a]))
      (List.cons_ne_nil b back) hindentfeed hlast' fun piece hhead hpieceLast => by
        apply appendLine_indent hindent ⟨?_, hpieceLast⟩
        intro c hc
        rw [hhead, List.head?_cons, Option.some.injEq] at hc
        rw [← hc, hb]
    have htext : before ++ (front ++ a :: (lineEnd ++ (indent ++ text)) ++ tail) =
        before ++ (front ++ [a]) ++ (lineEnd ++ (indent ++ (text ++ tail))) := by simp
    rw [htext, hpiece, List.foldl_cons, hfirst, hrest]
    simp

theorem foldl_appendLine_line {line text tail : List Char} {others : List (List Char)}
    (hline : IsHeaderLine line) (h : Folds line text) (htail : EndsLine tail others)
    (block : List Char) :
    (Text.lines (text ++ tail)).foldl appendLine block =
      others.foldl appendLine (appendLine block line) := by
  rw [appendLine_start hline.start]
  refine foldl_appendLine_folds htail h [] _ block hline.ne_nil hline.feed hline.last ?_
  intro piece hhead _
  have hpiece : isContinuation piece = false := by
    rw [isContinuation, hhead]
    exact hline.start
  exact appendLine_start hpiece block

/-- Unfolding puts together the lines that a block lays out. -/
theorem foldl_appendLine_lays {lines : List (List Char)} {block : List Char} (h : Lays lines block)
    (hlines : ∀ line ∈ lines, IsHeaderLine line) (front : List Char) :
    (Text.lines block).foldl appendLine front = lines.foldl appendLine front := by
  induction h generalizing front with
  | nil => rfl
  | @last line text hline =>
    have hunfold := foldl_appendLine_line (hlines line List.mem_cons_self) hline endsLine_nil front
    rwa [List.append_nil] at hunfold
  | @line line text lineEnd rest lines hline hend _ ih =>
    obtain ⟨hfirst, hrest⟩ := List.forall_mem_cons.1 hlines
    rw [foldl_appendLine_line hfirst hline (endsLine_append hend rest), ih hrest, List.foldl_cons]

theorem unfold_of_lays {lines : List (List Char)} {block : List Char} (h : Lays lines block)
    (hlines : ∀ line ∈ lines, IsHeaderLine line) : unfold block = lines.foldl appendLine [] :=
  foldl_appendLine_lays h hlines []

/-! ## Letter case -/

theorem isContinuation_map_toLower (line : List Char) :
    isContinuation (line.map Char.toLower) = isContinuation line := by
  cases line with
  | nil => rfl
  | cons c line =>
    exact Text.apply_toLower (f := fun d => some d == some ' ' || some d == some '\t') (by decide) c

theorem appendLine_map_toLower (block line : List Char) :
    appendLine (block.map Char.toLower) (line.map Char.toLower) =
      (appendLine block line).map Char.toLower := by
  simp only [appendLine, isContinuation_map_toLower, List.isEmpty_map,
    Text.trimOf_map Text.isBlank_toLower]
  split
  · simp
  · split
    · rfl
    · simp

theorem unfold_map_toLower (header : List Char) :
    unfold (header.map Char.toLower) = (unfold header).map Char.toLower := by
  have hfold : ∀ (lines : List (List Char)) (block : List Char),
      (lines.map (List.map Char.toLower)).foldl appendLine (block.map Char.toLower) =
        (lines.foldl appendLine block).map Char.toLower := by
    intro lines
    induction lines with
    | nil => exact fun block => rfl
    | cons line lines ih =>
      intro block
      rw [List.map_cons, List.foldl_cons, List.foldl_cons, appendLine_map_toLower, ih]
  rw [unfold, Text.lines_map_toLower, unfold]
  exact hfold _ []

theorem candidates_eq (header : String) : candidates header = candidatesIn (unfold header.toList) :=
  rfl

/-- The addresses of a block are those of the lines that it presents. -/
theorem candidates_of_presents {lines : List (List Char)} {header : String}
    (hlines : ∀ line ∈ lines, IsHeaderLine line) (h : Presents lines header) :
    candidates header = candidatesIn (lines.foldl appendLine []) := by
  obtain ⟨block, hlays, hfold⟩ := h
  have hcase : header.toList.map Char.toLower = block.map Char.toLower := beq_iff_eq.1 hfold
  calc candidates header
      = candidatesIn (unfold (header.toList.map Char.toLower)) := by
        rw [unfold_map_toLower, candidatesIn_map_toLower, candidates_eq]
    _ = candidatesIn (unfold block) := by
        rw [hcase, unfold_map_toLower, candidatesIn_map_toLower]
    _ = candidatesIn (lines.foldl appendLine []) := by rw [unfold_of_lays hlays hlines]

/-- Two header blocks that present the same lines, however these are folded and ended and in
whatever case their letters are, mention the same addresses in the same order. -/
theorem presentation_irrelevant {lines : List (List Char)}
    (hlines : ∀ line ∈ lines, IsHeaderLine line) {header header' : String}
    (h : Presents lines header) (h' : Presents lines header') :
    candidates header = candidates header' := by
  rw [candidates_of_presents hlines h, candidates_of_presents hlines h']

/-- Two lines as they are, and once more folded in three places, with other line ends and in the
other case: the address behind the first fold is found. -/
theorem presentation_irrelevant_folded :
    let lines := ["X-Real-IP: [IPv6:2001:DB8::1]".toList, "To: a b c".toList]
    let plain := "X-Real-IP: [IPv6:2001:DB8::1]\nTo: a b c\n"
    let folded := "X-REAL-IP:\r\n \t[ipv6:2001:db8::1]\r\nTO: A\n\tB\r\n C"
    (∀ line ∈ lines, IsHeaderLine line) ∧ Presents lines plain ∧ Presents lines folded ∧
      candidates folded = [.v6 ⟨0x2001, 0xDB8, 0, 0, 0, 0, 0, 1⟩] := by
  intro lines plain folded
  have hlines : ∀ line ∈ lines, IsHeaderLine line := by
    have hall : ∀ line ∈ lines, line ≠ [] ∧ '\n' ∉ line ∧ isContinuation line = false ∧
        line.getLast?.all (fun c => !Text.isBlank c) = true := by
      decide
    intro line hmem
    obtain ⟨hne, hfeed, hstart, hlast⟩ := hall line hmem
    refine ⟨hne, hfeed, hstart, fun c hc => ?_⟩
    simpa [hc] using hlast
  have hplain : Presents lines plain :=
    ⟨_, .line (.whole _) .feed (.line (.whole _) .feed .nil), by decide⟩
  have hfolded : Presents lines folded := by
    have haddress : "X-Real-IP: [IPv6:2001:DB8::1]".toList =
        "X-Real-IP".toList ++ ':' :: ' ' :: '[' :: "IPv6:2001:DB8::1]".toList := by
      decide
    have hto : "To: a b c".toList = "To: ".toList ++ 'a' :: ' ' :: 'b' :: ' ' :: 'c' :: [] := by
      decide
    have hindent : IsIndent [' ', '\t'] ∧ IsIndent ['\t'] ∧ IsIndent [' '] :=
      ⟨⟨by simp, by simp⟩, ⟨by simp, by simp⟩, ⟨by simp, by simp⟩⟩
    have hfirst : Folds ("X-Real-IP".toList ++ ':' :: ' ' :: '[' :: "IPv6:2001:DB8::1]".toList) _ :=
      .fold _ (by decide) (by decide) .returnFeed hindent.1 (.whole _)
    have hlast : Folds ('b' :: ' ' :: 'c' :: []) _ :=
      .fold [] (by decide) (by decide) .returnFeed hindent.2.2 (.whole ['c'])
    have hsecond : Folds ("To: ".toList ++ 'a' :: ' ' :: 'b' :: ' ' :: 'c' :: []) _ :=
      .fold _ (by decide) (by decide) .feed hindent.2.1 hlast
    have hlays := Lays.line hfirst .returnFeed (.last hsecond)
    rw [← haddress, ← hto] at hlays
    exact ⟨_, hlays, by decide⟩
  refine ⟨hlines, hplain, hfolded, ?_⟩
  rw [← presentation_irrelevant hlines hplain hfolded]
  decide +kernel

end SpamVerdict.Mail
