set_option autoImplicit false

/-!
# Text: blanks, trimming and words

Blanks are the 25 characters with the Unicode property `White_Space`.  Trimming and cutting
into words are defined on lists of characters, where they are plain recursions, and lifted to
`String` by name.  Trimming is idempotent (`trimOf_trimOf`), and cutting at a separator loses
nothing but the separators (`flatten_split`).

The tokens of a record (SPEC_FULL §4.3) are the words of its text, and the lines of a header block
(§4.1) those of `lines`.
-/

namespace SpamVerdict.Text

/-! ## Blanks -/

/-- A character with the property `White_Space`. -/
def isBlank (c : Char) : Bool :=
  let n := c.toNat
  (9 ≤ n && n ≤ 13) || n == 0x20 || n == 0x85 || n == 0xA0 || n == 0x1680 ||
    (0x2000 ≤ n && n ≤ 0x200A) || n == 0x2028 || n == 0x2029 || n == 0x202F || n == 0x205F ||
    n == 0x3000

/-! ## Trimming -/

/-- The text without the characters of class `p` at its end. -/
def trimEndOf (p : Char → Bool) (cs : List Char) : List Char :=
  (cs.reverse.dropWhile p).reverse

/-- The text without the characters of class `p` at both ends. -/
def trimOf (p : Char → Bool) (cs : List Char) : List Char :=
  trimEndOf p (cs.dropWhile p)

/-- The text without blanks at both ends. -/
def trim (s : String) : String :=
  String.ofList (trimOf isBlank s.toList)

/-- The text without the full stops at its end: a host name without its root dot. -/
def trimDots (s : String) : String :=
  String.ofList (trimEndOf (· == '.') s.toList)

@[simp] theorem toList_trim (s : String) : (trim s).toList = trimOf isBlank s.toList := by
  simp [trim]

@[simp] theorem trimOf_nil (p : Char → Bool) : trimOf p [] = [] := rfl

theorem dropWhile_dropWhile (p : Char → Bool) (cs : List Char) :
    (cs.dropWhile p).dropWhile p = cs.dropWhile p := by
  induction cs with
  | nil => rfl
  | cons c cs ih => by_cases h : p c = true <;> simp [h, ih]

theorem trimEndOf_trimEndOf (p : Char → Bool) (cs : List Char) :
    trimEndOf p (trimEndOf p cs) = trimEndOf p cs := by
  simp [trimEndOf, dropWhile_dropWhile]

theorem trimEndOf_cons {p : Char → Bool} {c : Char} (cs : List Char) (hc : p c = false) :
    trimEndOf p (c :: cs) = c :: trimEndOf p cs := by
  simp only [trimEndOf, List.reverse_cons, List.dropWhile_append]
  split
  · next h =>
    have hcs : List.dropWhile p cs.reverse = [] := by simpa using h
    simp [hcs, hc]
  · simp

/-- Trimming leaves a trimmed text as it is. -/
theorem trimOf_trimOf (p : Char → Bool) (cs : List Char) :
    trimOf p (trimOf p cs) = trimOf p cs := by
  have hstart : (trimOf p cs).dropWhile p = trimOf p cs := by
    unfold trimOf
    cases hrest : cs.dropWhile p with
    | nil => rfl
    | cons c rest =>
      have hc : p c = false := by
        have hhead := List.head?_dropWhile_not p cs
        simpa [hrest] using hhead
      simp [trimEndOf_cons rest hc, hc]
  rw [trimOf, hstart, trimOf, trimEndOf_trimEndOf]

@[simp] theorem trim_trim (s : String) : trim (trim s) = trim s := by
  simp [trim, trimOf_trimOf]

theorem dropWhile_eq_self {p : Char → Bool} {cs : List Char} (h : ∀ c ∈ cs, p c = false) :
    cs.dropWhile p = cs := by
  cases cs with
  | nil => rfl
  | cons c cs => rw [List.dropWhile_cons_of_neg (by simp [h c List.mem_cons_self])]

/-- A text without characters of class `p` is trimmed as it is. -/
theorem trimOf_eq_self {p : Char → Bool} {cs : List Char} (h : ∀ c ∈ cs, p c = false) :
    trimOf p cs = cs := by
  have hreverse : ∀ c ∈ cs.reverse, p c = false := fun c hc => h c (List.mem_reverse.1 hc)
  rw [trimOf, dropWhile_eq_self h, trimEndOf, dropWhile_eq_self hreverse, List.reverse_reverse]

/-! ## Cutting -/

/-- The pieces of a text between the characters of class `p`; there is always at least one. -/
def split (p : Char → Bool) : List Char → List (List Char)
  | [] => [[]]
  | c :: cs =>
    if p c then [] :: split p cs
    else match split p cs with
      | [] => [[c]]
      | piece :: pieces => (c :: piece) :: pieces

theorem split_ne_nil (p : Char → Bool) (cs : List Char) : split p cs ≠ [] := by
  cases cs with
  | nil => simp [split]
  | cons c cs =>
    unfold split
    split
    · simp
    · split <;> simp

theorem flatten_split (p : Char → Bool) (cs : List Char) :
    (split p cs).flatten = cs.filter (fun c => !p c) := by
  induction cs with
  | nil => simp [split]
  | cons c cs ih =>
    unfold split
    by_cases h : p c = true
    · simp [h, ih]
    · simp only [h, Bool.false_eq_true, if_false]
      cases hs : split p cs with
      | nil => exact absurd hs (split_ne_nil p cs)
      | cons piece pieces =>
        rw [hs] at ih
        simp only [List.flatten_cons] at ih ⊢
        simp [h, ih]

theorem eq_false_of_mem_split {p : Char → Bool} {cs piece : List Char}
    (hpiece : piece ∈ split p cs) : ∀ c ∈ piece, p c = false := by
  intro c hc
  have hmem : c ∈ cs.filter fun c => !p c := by
    rw [← flatten_split]
    exact List.mem_flatten.2 ⟨piece, hpiece, hc⟩
  simpa using (List.mem_filter.1 hmem).2

/-- The maximal runs of characters that are not blank. -/
def words (cs : List Char) : List (List Char) :=
  (split isBlank cs).filter (fun w => !w.isEmpty)

theorem isBlank_eq_false_of_mem_words {cs word : List Char} (hword : word ∈ words cs) :
    ∀ c ∈ word, isBlank c = false :=
  eq_false_of_mem_split (List.mem_filter.1 hword).1

/-- The text before the first `sep` and the text after it. -/
def cut? (sep : Char) : List Char → Option (List Char × List Char)
  | [] => none
  | c :: cs =>
    if c = sep then some ([], cs)
    else (cut? sep cs).map fun (before, after) => (c :: before, after)

theorem eq_append_of_cut? {sep : Char} {cs before after : List Char}
    (h : cut? sep cs = some (before, after)) : cs = before ++ sep :: after := by
  induction cs generalizing before after with
  | nil => simp [cut?] at h
  | cons c cs ih =>
    unfold cut? at h
    split at h
    · next hc => cases h; simp [hc]
    · cases hr : cut? sep cs with
      | none => simp [hr] at h
      | some r =>
        obtain ⟨b, a⟩ := r
        simp only [hr, Option.map_some, Option.some.injEq, Prod.mk.injEq] at h
        obtain ⟨rfl, rfl⟩ := h
        simp [ih hr]

theorem cut?_eq_none {sep : Char} {cs : List Char} (h : sep ∉ cs) : cut? sep cs = none := by
  induction cs with
  | nil => rfl
  | cons c cs ih =>
    have hc : c ≠ sep := (List.ne_of_not_mem_cons h).symm
    rw [cut?, if_neg hc, ih (List.not_mem_of_not_mem_cons h), Option.map_none]

theorem cut?_append {sep : Char} {before : List Char} (h : sep ∉ before) (after : List Char) :
    cut? sep (before ++ sep :: after) = some (before, after) := by
  induction before with
  | nil => rw [List.nil_append, cut?, if_pos rfl]
  | cons c before ih =>
    have hc : c ≠ sep := (List.ne_of_not_mem_cons h).symm
    rw [List.cons_append, cut?, if_neg hc, ih (List.not_mem_of_not_mem_cons h), Option.map_some]

/-! ## Lines -/

/-- A line without the carriage return at its end. -/
def dropReturn (cs : List Char) : List Char :=
  if cs.getLast? = some '\r' then cs.dropLast else cs

/-- The lines that a list of pieces between line feeds makes: an ended line also loses one
carriage return, and what follows the last line feed is a line only when it is not empty. -/
def linesOfPieces : List (List Char) → List (List Char)
  | [] => []
  | [last] => if last.isEmpty then [] else [last]
  | piece :: pieces => dropReturn piece :: linesOfPieces pieces

/-- The lines of a text; `\n` and `\r\n` end one. -/
def lines (cs : List Char) : List (List Char) :=
  linesOfPieces (split (· == '\n') cs)

end SpamVerdict.Text
