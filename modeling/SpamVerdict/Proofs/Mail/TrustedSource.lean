import SpamVerdict.Mail.Message
import SpamVerdict.Proofs.Mail.Presentation
import SpamVerdict.Proofs.Mail.Search
import SpamVerdict.Proofs.Text.Fold
set_option autoImplicit false

/-!
# The most trusted source of the sending address (SPEC_FULL §4.1)

Anyone who sends a message can write most of what the host hands over.  The sending address is taken
from the first variable that holds one, and failing that from the header lines that the mail server
writes (`sourceLines`).  Two messages that agree on the source which decides have the same sending
address, whatever else differs between them (`sendingIp?_most_trusted`).

Steps 1, 2 and 4 of SPEC_FULL §4.1 are an order of trust read like that: a later step sees a message
only if the earlier ones found nothing in it.
-/

namespace SpamVerdict.Mail

/-! ## Variables -/

/-- A variable holds an address: its value is a text that is read as one. -/
def HoldsAddress (vars : Vars) (key : String) (x : Ip.Address) : Prop :=
  ∃ text, vars.get? key = some (.string text) ∧ normalizeIp? text = some x

/-- Of the variables that may hold the sending address, `key` is the first one that does; `before`
are those in front of it and `after` those behind it. -/
structure FirstHolder (vars : Vars) (before : List String) (key : String) (after : List String)
    (x : Ip.Address) : Prop where
  order : addressVars = before ++ key :: after
  holds : HoldsAddress vars key x
  first : ∀ k ∈ before, ∀ y, ¬ HoldsAddress vars k y

section Variables

variable {vars vars' : Vars} {key : String} {x : Ip.Address}

theorem bind_normalizeIp?_eq_some_iff :
    ((vars.get? key).bind Json.string?).bind normalizeIp? = some x ↔ HoldsAddress vars key x := by
  constructor
  · intro h
    obtain ⟨text, htext, hread⟩ := Option.bind_eq_some_iff.1 h
    obtain ⟨value, hvalue, hstring⟩ := Option.bind_eq_some_iff.1 htext
    cases value with
    | string text =>
      cases hstring
      exact ⟨text, hvalue, hread⟩
    | _ => cases hstring
  · rintro ⟨text, hvalue, hread⟩
    rw [hvalue]
    exact hread

theorem bind_normalizeIp?_eq_none_iff :
    ((vars.get? key).bind Json.string?).bind normalizeIp? = none ↔
      ∀ x, ¬ HoldsAddress vars key x := by
  simp only [Option.eq_none_iff_forall_ne_some, Ne, bind_normalizeIp?_eq_some_iff]

theorem holdsAddress_congr (h : vars'.get? key = vars.get? key) :
    HoldsAddress vars' key x ↔ HoldsAddress vars key x := by
  rw [HoldsAddress, HoldsAddress, h]

theorem exists_firstHolder (h : ∃ key ∈ addressVars, ∃ x, HoldsAddress vars key x) :
    ∃ before key after x, FirstHolder vars before key after x := by
  obtain ⟨key, hkey, x, hholds⟩ := h
  have hsome : (addressVars.findSome? fun key =>
      ((vars.get? key).bind Json.string?).bind normalizeIp?).isSome = true :=
    List.findSome?_isSome_iff.2
      ⟨key, hkey, Option.isSome_iff_exists.2 ⟨x, bind_normalizeIp?_eq_some_iff.2 hholds⟩⟩
  obtain ⟨x, hx⟩ := Option.isSome_iff_exists.1 hsome
  obtain ⟨before, key, after, horder, hread, hbefore⟩ := List.findSome?_eq_some_iff.1 hx
  exact ⟨before, key, after, x, horder, bind_normalizeIp?_eq_some_iff.1 hread,
    fun k hk => bind_normalizeIp?_eq_none_iff.1 (hbefore k hk)⟩

/-- The first variable that holds an address settles the sending address. -/
theorem FirstHolder.sendingIp? {before after : List String}
    (h : FirstHolder vars before key after x) (header : String) :
    Mail.sendingIp? vars header = some x := by
  have hfound : (addressVars.findSome? fun key =>
      ((vars.get? key).bind Json.string?).bind normalizeIp?) = some x :=
    List.findSome?_eq_some_iff.2 ⟨before, key, after, h.order,
      bind_normalizeIp?_eq_some_iff.2 h.holds,
      fun k hk => bind_normalizeIp?_eq_none_iff.2 (h.first k hk)⟩
  rw [Mail.sendingIp?, hfound, Option.some_or]

/-- Variables that agree up to the first one that holds an address have the same first one. -/
theorem FirstHolder.congr {before after : List String} (h : FirstHolder vars before key after x)
    (hagree : ∀ k ∈ before ++ [key], vars'.get? k = vars.get? k) :
    FirstHolder vars' before key after x where
  order := h.order
  holds := (holdsAddress_congr (hagree key (by simp))).2 h.holds
  first k hk y hy :=
    h.first k hk y ((holdsAddress_congr (hagree k (List.mem_append_left _ hk))).1 hy)

/-- Without a variable that holds an address, the header block settles it. -/
theorem sendingIp?_of_no_holder (h : ∀ key ∈ addressVars, ∀ x, ¬ HoldsAddress vars key x)
    (header : String) : sendingIp? vars header = Ip.preferPublic (candidates header) := by
  have hnone : (addressVars.findSome? fun key =>
      ((vars.get? key).bind Json.string?).bind normalizeIp?) = none :=
    List.findSome?_eq_none_iff.2 fun key hkey => bind_normalizeIp?_eq_none_iff.2 (h key hkey)
  rw [sendingIp?, hnone, Option.none_or]

end Variables

/-! ## Lines that hold an address by their name -/

/-- The name of a header field as it is compared: without blanks around it, in lower case. -/
def fieldName (name : List Char) : String :=
  Text.lowerAscii (String.ofList (Text.trimOf Text.isBlank name))

/-- A line has one of the names that stand for an address in front of its first colon. -/
def isSourceLine (line : List Char) : Bool :=
  match Text.cut? ':' line with
  | none => false
  | some (name, _) => (forwardHeader :: addressHeaders).contains (fieldName name)

/-- The lines of an unfolded block that hold an address by their name, in order. -/
def sourceLines (block : List Char) : List (List Char) := (Text.lines block).filter isSourceLine

/-- A line yields an address: its whole value is read as one or, behind the name of the header of
forwarded messages, the leftmost element of its value. -/
inductive Yields : List Char → Ip.Address → Prop where
  | whole {name value : List Char} {x : Ip.Address} (hname : ':' ∉ name)
      (hsource : fieldName name ∈ addressHeaders) (hread : normalizeIpChars? value = some x) :
      Yields (name ++ ':' :: value) x
  | leftmost {name element others : List Char} {x : Ip.Address} (hname : ':' ∉ name)
      (hsource : fieldName name = forwardHeader) (helement : ',' ∉ element)
      (hothers : others = [] ∨ ∃ rest, others = ',' :: rest)
      (hread : normalizeIpChars? element = some x) :
      Yields (name ++ ':' :: (element ++ others)) x

theorem takeWhile_element {element others : List Char} (helement : ',' ∉ element)
    (hothers : others = [] ∨ ∃ rest, others = ',' :: rest) :
    (element ++ others).takeWhile (· ≠ ',') = element := by
  have hall : ∀ c ∈ element, decide (c ≠ ',') = true := by
    intro c hc
    exact decide_eq_true fun heq => helement (heq ▸ hc)
  rw [List.takeWhile_append_of_pos hall]
  rcases hothers with rfl | ⟨rest, rfl⟩ <;> simp

theorem exists_element (value : List Char) :
    ∃ others, value = value.takeWhile (· ≠ ',') ++ others ∧ ',' ∉ value.takeWhile (· ≠ ',') ∧
      (others = [] ∨ ∃ rest, others = ',' :: rest) := by
  refine ⟨value.dropWhile (· ≠ ','), List.takeWhile_append_dropWhile.symm, fun hmem => ?_, ?_⟩
  · have hne := List.mem_takeWhile_imp hmem
    revert hne
    decide
  · cases hrest : value.dropWhile (· ≠ ',') with
    | nil => exact .inl rfl
    | cons c rest =>
      have hc := Text.head?_dropWhile (p := (· ≠ ',')) (c := c) (by rw [hrest]; rfl)
      exact .inr ⟨rest, by rw [of_not_not (of_decide_eq_false hc)]⟩

theorem addressOfLine?_eq_some_iff {line : List Char} {x : Ip.Address} :
    addressOfLine? line = some x ↔ Yields line x := by
  constructor
  · intro h
    unfold addressOfLine? at h
    split at h
    · cases h
    · next name value hcut =>
      obtain rfl := Text.eq_append_of_cut? hcut
      have hname : ':' ∉ name := Text.not_mem_of_cut? hcut
      dsimp only at h
      split at h
      · next hsource => exact .whole hname (List.contains_iff_mem.1 hsource) h
      · split at h
        · next hsource =>
          obtain ⟨others, hvalue, helement, hothers⟩ := exists_element value
          rw [hvalue]
          exact .leftmost hname hsource helement hothers h
        · cases h
  · intro h
    cases h with
    | @whole name value x hname hsource hread =>
      rw [addressOfLine?, Text.cut?_append hname]
      exact (if_pos (List.contains_iff_mem.2 hsource)).trans hread
    | @leftmost name element others x hname hsource helement hothers hread =>
      have hnot : ¬ addressHeaders.contains (fieldName name) = true := by
        rw [hsource]
        decide
      rw [addressOfLine?, Text.cut?_append hname]
      refine (if_neg hnot).trans ((if_pos hsource).trans ?_)
      rw [takeWhile_element helement hothers, hread]

theorem isSourceLine_of_yields {line : List Char} {x : Ip.Address} (h : Yields line x) :
    isSourceLine line = true := by
  cases h with
  | whole hname hsource =>
    rw [isSourceLine, Text.cut?_append hname]
    exact List.contains_iff_mem.2 (List.mem_cons_of_mem _ hsource)
  | leftmost hname hsource =>
    rw [isSourceLine, Text.cut?_append hname]
    exact List.contains_iff_mem.2 (hsource ▸ List.mem_cons_self)

theorem addressOfLine?_of_not_source {line : List Char} (h : isSourceLine line = false) :
    addressOfLine? line = none := by
  rw [Option.eq_none_iff_forall_ne_some]
  intro x hx
  have hsource := isSourceLine_of_yields (addressOfLine?_eq_some_iff.1 hx)
  rw [h] at hsource
  cases hsource

/-- The lines of other names hold no address. -/
theorem filterMap_addressOfLine? (lines : List (List Char)) :
    lines.filterMap addressOfLine? = (lines.filter isSourceLine).filterMap addressOfLine? := by
  rw [List.filterMap_filter]
  refine List.filterMap_congr fun line _ => ?_
  cases hline : isSourceLine line with
  | true => rfl
  | false => exact addressOfLine?_of_not_source hline

/-! ## Candidates -/

theorem namedAddresses_of_not_phrase {block : List Char} (h : ¬ HoldsPhrase block) :
    namedAddresses block = (sourceLines block).filterMap addressOfLine? := by
  rw [namedAddresses, captures_senderPhrase_eq_nil_iff.2 h, filterMap_addressOfLine?, sourceLines]
  exact List.append_nil _

theorem namedAddresses_ne_nil {block : List Char}
    (h : ∃ line ∈ Text.lines block, ∃ x, Yields line x) : namedAddresses block ≠ [] := by
  obtain ⟨line, hline, x, hx⟩ := h
  have hmem : x ∈ (Text.lines block).filterMap addressOfLine? :=
    List.mem_filterMap.2 ⟨line, hline, addressOfLine?_eq_some_iff.2 hx⟩
  rw [namedAddresses]
  exact List.append_ne_nil_of_left_ne_nil (List.ne_nil_of_mem hmem) _

theorem candidates_of_named {header : String} (h : namedAddresses (unfold header.toList) ≠ []) :
    candidates header = namedAddresses (unfold header.toList) := by
  rw [candidates]
  split
  · next hnil => exact absurd hnil h
  · rfl

theorem exists_yields_congr {block block' : List Char}
    (hlines : sourceLines block' = sourceLines block)
    (h : ∃ line ∈ Text.lines block, ∃ x, Yields line x) :
    ∃ line ∈ Text.lines block', ∃ x, Yields line x := by
  obtain ⟨line, hline, x, hx⟩ := h
  have hsource : line ∈ sourceLines block' := by
    rw [hlines]
    exact List.mem_filter.2 ⟨hline, isSourceLine_of_yields hx⟩
  exact ⟨line, (List.mem_filter.1 hsource).1, x, hx⟩

/-- Blocks with the same lines of the names that stand for an address mention the same addresses, as
far as one of these lines yields one and no phrase announces others. -/
theorem candidates_congr {header header' : String}
    (hyields : ∃ line ∈ Text.lines (unfold header.toList), ∃ x, Yields line x)
    (hlines : sourceLines (unfold header'.toList) = sourceLines (unfold header.toList))
    (hphrase : ¬ HoldsPhrase (unfold header.toList))
    (hphrase' : ¬ HoldsPhrase (unfold header'.toList)) :
    candidates header' = candidates header := by
  rw [candidates_of_named (namedAddresses_ne_nil hyields),
    candidates_of_named (namedAddresses_ne_nil (exists_yields_congr hlines hyields)),
    namedAddresses_of_not_phrase hphrase, namedAddresses_of_not_phrase hphrase', hlines]

/-! ## Preference -/

/-- The preferred one of some addresses: the first public one or, if none is public, the first. -/
inductive IsPreferred : List Ip.Address → Ip.Address → Prop where
  | firstPublic {front back : List Ip.Address} {x : Ip.Address}
      (hfront : ∀ y ∈ front, y.isPublic = false) (hx : x.isPublic = true) :
      IsPreferred (front ++ x :: back) x
  | first {x : Ip.Address} {back : List Ip.Address}
      (hnone : ∀ y ∈ x :: back, y.isPublic = false) : IsPreferred (x :: back) x

theorem exists_isPreferred {xs : List Ip.Address} (h : xs ≠ []) :
    ∃ x, IsPreferred xs x ∧ Ip.preferPublic xs = some x := by
  rw [Ip.preferPublic]
  cases hfind : xs.find? Ip.Address.isPublic with
  | some x =>
    obtain ⟨hx, front, back, rfl, hfront⟩ := List.find?_eq_some_iff_append.1 hfind
    exact ⟨x, .firstPublic (fun y hy => by simpa using hfront y hy) hx, rfl⟩
  | none =>
    obtain ⟨x, back, rfl⟩ := List.exists_cons_of_ne_nil h
    exact ⟨x, .first fun y hy => by simpa using List.find?_eq_none.1 hfind y hy, rfl⟩

/-! ## The sending address -/

/-- The sending address depends on the most trusted source alone.  If a variable holds an address,
the first one that does settles it: variables behind it, other variables and the header block do not
count.  Otherwise, if a header line of the names that stand for an address yields one, the preferred
one of the addresses in the block is taken, and other lines do not count as long as no phrase
announces an address. -/
theorem sendingIp?_most_trusted (vars : Vars) (header : String) :
    ((∃ key ∈ addressVars, ∃ x, HoldsAddress vars key x) →
      ∃ before key after x, FirstHolder vars before key after x ∧
        ∀ vars' header', (∀ k ∈ before ++ [key], vars'.get? k = vars.get? k) →
          sendingIp? vars' header' = some x) ∧
    ((∀ key ∈ addressVars, ∀ x, ¬ HoldsAddress vars key x) →
      (∃ line ∈ Text.lines (unfold header.toList), ∃ x, Yields line x) →
      ∃ x, IsPreferred (candidates header) x ∧ sendingIp? vars header = some x ∧
        (¬ HoldsPhrase (unfold header.toList) →
          ∀ vars' header', (∀ key ∈ addressVars, ∀ y, ¬ HoldsAddress vars' key y) →
            sourceLines (unfold header'.toList) = sourceLines (unfold header.toList) →
            ¬ HoldsPhrase (unfold header'.toList) →
            candidates header' = candidates header ∧ sendingIp? vars' header' = some x)) := by
  constructor
  · intro hholder
    obtain ⟨before, key, after, x, hfirst⟩ := exists_firstHolder hholder
    exact ⟨before, key, after, x, hfirst,
      fun vars' header' hagree => (hfirst.congr hagree).sendingIp? header'⟩
  · intro hnone hyields
    have hne : candidates header ≠ [] := by
      rw [candidates_of_named (namedAddresses_ne_nil hyields)]
      exact namedAddresses_ne_nil hyields
    obtain ⟨x, hpreferred, hx⟩ := exists_isPreferred hne
    refine ⟨x, hpreferred, (sendingIp?_of_no_holder hnone header).trans hx, ?_⟩
    intro hphrase vars' header' hnone' hlines hphrase'
    have hcandidates := candidates_congr hyields hlines hphrase hphrase'
    refine ⟨hcandidates, ?_⟩
    rw [sendingIp?_of_no_holder hnone' header', hcandidates, hx]

/-- A private address in a variable stands against every header block, and the lines of the mail
server stand against the ones that a sender puts around them. -/
theorem sendingIp?_most_trusted_spoofed :
    let vars : Vars := [("client_ip", .string "[10.0.0.1]:25"), ("ip", .string "unknown")]
    let trusted := "X-Real-IP: 10.0.0.1\nX-Forwarded-For: 192.0.2.1, 198.51.100.7"
    let spoofed := "X-Mailer: 8.8.8.8\n" ++ trusted ++ "\nReceived: from 8.8.4.4"
    (∀ header, sendingIp? vars header = some (.v4 ⟨10, 0, 0, 1⟩)) ∧
      sourceLines (unfold spoofed.toList) = sourceLines (unfold trusted.toList) ∧
      candidates spoofed = candidates trusted ∧
      IsPreferred (candidates trusted) (.v4 ⟨192, 0, 2, 1⟩) ∧
      sendingIp? [] spoofed = some (.v4 ⟨192, 0, 2, 1⟩) := by
  intro vars trusted spoofed
  have hholder : ∃ key ∈ addressVars, ∃ x, HoldsAddress vars key x :=
    ⟨"client_ip", by decide, .v4 ⟨10, 0, 0, 1⟩, "[10.0.0.1]:25", rfl, by decide +kernel⟩
  have hnone : ∀ key ∈ addressVars, ∀ x, ¬ HoldsAddress [] key x := by
    rintro key - x ⟨text, hvalue, -⟩
    cases hvalue
  have hyields : ∃ line ∈ Text.lines (unfold trusted.toList), ∃ x, Yields line x :=
    ⟨"X-Real-IP: 10.0.0.1".toList, by decide +kernel, .v4 ⟨10, 0, 0, 1⟩,
      addressOfLine?_eq_some_iff.1 (by decide +kernel)⟩
  have hlines : sourceLines (unfold spoofed.toList) = sourceLines (unfold trusted.toList) := by
    decide +kernel
  have hphrase : ¬ HoldsPhrase (unfold trusted.toList) :=
    captures_senderPhrase_eq_nil_iff.1 (by decide +kernel)
  have hphrase' : ¬ HoldsPhrase (unfold spoofed.toList) :=
    captures_senderPhrase_eq_nil_iff.1 (by decide +kernel)
  obtain ⟨_, _, _, x, -, hx⟩ := (sendingIp?_most_trusted vars "").1 hholder
  obtain ⟨y, hpreferred, hy, hagree⟩ := (sendingIp?_most_trusted [] trusted).2 hnone hyields
  have hvars : sendingIp? vars "" = some (.v4 ⟨10, 0, 0, 1⟩) := by decide +kernel
  have hheader : sendingIp? [] trusted = some (.v4 ⟨192, 0, 2, 1⟩) := by decide +kernel
  obtain rfl := Option.some.inj ((hx vars "" fun k _ => rfl).symm.trans hvars)
  obtain rfl := Option.some.inj (hy.symm.trans hheader)
  obtain ⟨hcandidates, hspoofed⟩ := hagree hphrase [] spoofed hnone hlines hphrase'
  exact ⟨fun header => hx vars header fun k _ => rfl, hlines, hcandidates, hpreferred, hspoofed⟩

end SpamVerdict.Mail
