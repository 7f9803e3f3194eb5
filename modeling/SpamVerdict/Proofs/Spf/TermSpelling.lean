import Mathlib
import SpamVerdict.Proofs.Spf.Depth
import SpamVerdict.Proofs.Spf.LetterCase
import SpamVerdict.Proofs.Spf.Provenance
import SpamVerdict.Proofs.Text.Offsets
set_option autoImplicit false

/-!
# How terms are written (SPEC_FULL §4.3)

A mechanism is written as a keyword with an argument behind it.  `Term.Written` lists the ways to
write a term: keywords in any ASCII case, a `+` or none, and a target with blanks around it and in
any case.  A token stands for a directive or a redirect exactly if it is written as one, and every
other token is unsupported (`parse_undoes_print`).

The reader tries eight forms of a mechanism in turn.  No text has two of these forms
(`forms_pairwise`), so the order in which they are tried is immaterial.  Read by cuts at byte
offsets, a term is the same, and no cut falls inside a character (`Term.parseAt?_eq`).

The forms are those of SPEC_FULL §4.3, step 3 of the evaluation of a record, where any other token
is a "hard stop, not a skip".
-/

namespace SpamVerdict.Spf

/-! ## Written terms -/

namespace Mechanism

/-- The keyword in front of the argument of a mechanism. -/
def keyword : Mechanism → String
  | all => "all"
  | ip4 _ => "ip4:"
  | ip6 _ => "ip6:"
  | includes _ => "include:"
  | a none => "a"
  | a (some _) => "a:"
  | mx none => "mx"
  | mx (some _) => "mx:"

/-- The domain that a mechanism names. -/
def target? : Mechanism → Option String
  | includes target => some target
  | a target => target
  | mx target => target
  | _ => none

/-- The argument of a mechanism. -/
def argument : Mechanism → String
  | all => ""
  | ip4 block => block
  | ip6 block => block
  | includes target => target
  | a target => target.getD ""
  | mx target => target.getD ""

/-- What the text behind the keyword of a mechanism says: a domain as it is normalised, anything
else as it stands. -/
def reading (m : Mechanism) (text : List Char) : String :=
  if m.target?.isSome then targetOf text else String.ofList text

/-- A text is the keyword of a mechanism in any ASCII case, and behind it what says its
argument. -/
def Written (body : List Char) (m : Mechanism) : Prop :=
  ∃ key text, body = key ++ text ∧ key.map Char.toLower = m.keyword.toList ∧
    m.reading text = m.argument

theorem print_eq (m : Mechanism) : m.print = m.keyword ++ m.argument := by
  cases m with
  | a target => cases target <;> rfl
  | mx target => cases target <;> rfl
  | _ => rfl

end Mechanism

/-- A qualifier is written as its symbol; `pass` need not be written. -/
def Qualifier.Written (sign : List Char) (q : Qualifier) : Prop :=
  sign = [q.symbol] ∨ q = .pass ∧ sign = []

/-- The ways to write a directive or a redirect. -/
inductive Term.Written : List Char → Term → Prop where
  | directive {q : Qualifier} {m : Mechanism} {sign body : List Char} (hsign : q.Written sign)
      (hbody : m.Written body) : Written (sign ++ body) (.directive q m)
  | redirect {token value : List Char} (htoken : Redirects token value) :
      Written token (.redirect (targetOf value))

/-- A directive or a redirect. -/
def Term.Supported (term : Term) : Prop :=
  ∀ body, term ≠ .unsupported body

/-- The domain that a term names. -/
def Term.target? : Term → Option String
  | directive _ m => m.target?
  | redirect target => some target
  | unsupported _ => none

/-! ## The forms of a mechanism -/

/-- A form of a mechanism: a keyword, whether it stands alone, and what the text behind it makes. -/
structure Form where
  keyword : List Char
  alone : Bool
  make : List Char → Mechanism

namespace Form

/-- The mechanism that a text of this form stands for. -/
def read? (form : Form) (cs : List Char) : Option Mechanism :=
  if form.alone then (if Text.sameFold cs form.keyword then some (form.make []) else none)
  else (Text.afterFold? form.keyword cs).map form.make

/-- A text has the form and stands for the mechanism. -/
def Reads (form : Form) (cs : List Char) (m : Mechanism) : Prop :=
  ∃ key text, cs = key ++ text ∧ key.map Char.toLower = form.keyword ∧
    (form.alone = true → text = []) ∧ form.make text = m

/-- A text of the second form may be one of the first form as well. -/
def Covers (form other : Form) : Prop :=
  form.keyword <+: other.keyword ∧ (form.alone = true → form.keyword = other.keyword)

instance (form other : Form) : Decidable (form.Covers other) :=
  inferInstanceAs (Decidable (_ ∧ _))

/-- No text has both forms. -/
def Apart (form other : Form) : Prop := ¬ form.Covers other ∧ ¬ other.Covers form

instance (form other : Form) : Decidable (form.Apart other) :=
  inferInstanceAs (Decidable (_ ∧ _))

instance : Std.Symm Apart := ⟨fun _ _ h => h.symm⟩

end Form

/-- The forms of a mechanism, in the order in which they are tried. -/
def forms : List Form :=
  [⟨"all".toList, true, fun _ => .all⟩,
   ⟨"ip4:".toList, false, fun text => .ip4 (String.ofList text)⟩,
   ⟨"ip6:".toList, false, fun text => .ip6 (String.ofList text)⟩,
   ⟨"include:".toList, false, fun text => .includes (targetOf text)⟩,
   ⟨"a".toList, true, fun _ => .a none⟩,
   ⟨"a:".toList, false, fun text => .a (some (targetOf text))⟩,
   ⟨"mx".toList, true, fun _ => .mx none⟩,
   ⟨"mx:".toList, false, fun text => .mx (some (targetOf text))⟩]

/-- The reader takes the first form that a text has. -/
theorem parse?_eq_findSome? (cs : List Char) :
    Mechanism.parse? cs = forms.findSome? fun form => form.read? cs := by
  unfold Mechanism.parse? forms
  -- The keywords stay closed, lest each step spells them out.
  generalize "all".toList = k₀, "ip4:".toList = k₁, "ip6:".toList = k₂,
    "include:".toList = k₃, "a".toList = k₄, "a:".toList = k₅, "mx".toList = k₆,
    "mx:".toList = k₇
  simp only [List.findSome?_cons, List.findSome?_nil, Form.read?, if_true, Bool.false_eq_true,
    if_false]
  cases Text.sameFold cs k₀ with
  | true => rfl
  | false =>
  cases Text.afterFold? k₁ cs with
  | some block => rfl
  | none =>
  cases Text.afterFold? k₂ cs with
  | some block => rfl
  | none =>
  cases Text.afterFold? k₃ cs with
  | some target => rfl
  | none =>
  cases Text.sameFold cs k₄ with
  | true => rfl
  | false =>
  cases Text.afterFold? k₅ cs with
  | some target => rfl
  | none =>
  cases Text.sameFold cs k₆ with
  | true => rfl
  | false => cases Text.afterFold? k₇ cs <;> rfl

/-- No two forms have a text in common. -/
theorem forms_pairwise : forms.Pairwise Form.Apart := by
  decide

section Forms

variable {form other : Form} {cs : List Char} {m m' : Mechanism}

theorem map_toLower_keyword (hform : form ∈ forms) :
    form.keyword.map Char.toLower = form.keyword := by
  have hall : ∀ form ∈ forms, form.keyword.map Char.toLower = form.keyword := by decide
  exact hall form hform

theorem read?_eq_some_iff (hform : form ∈ forms) :
    form.read? cs = some m ↔ form.Reads cs m := by
  have hkeyword := map_toLower_keyword hform
  unfold Form.read? Form.Reads
  cases form.alone with
  | true =>
    constructor
    · intro h
      simp only [if_true] at h
      split at h
      · next hfold =>
        refine ⟨cs, [], (List.append_nil cs).symm, ?_, fun _ => rfl, Option.some.inj h⟩
        rw [← hkeyword]
        exact eq_of_beq hfold
      · cases h
    · rintro ⟨key, text, rfl, hkey, halone, rfl⟩
      obtain rfl : text = [] := halone rfl
      have hfold : Text.sameFold (key ++ []) form.keyword = true := by
        rw [List.append_nil, Text.sameFold, hkey, hkeyword, beq_self_eq_true]
      rw [if_pos rfl, if_pos hfold]
  | false =>
    constructor
    · intro h
      simp only [Bool.false_eq_true, if_false] at h
      obtain ⟨text, htext, rfl⟩ := Option.map_eq_some_iff.1 h
      obtain ⟨key, rfl, hkey⟩ := Text.afterFold?_eq_some htext
      exact ⟨key, text, rfl, hkey.trans hkeyword, fun h => absurd h Bool.false_ne_true, rfl⟩
    · rintro ⟨key, text, rfl, hkey, -, rfl⟩
      have htext : Text.afterFold? form.keyword (key ++ text) = some text :=
        Text.afterFold?_append (hkey.trans hkeyword.symm)
      simp [htext]

theorem Form.Reads.starts_with_keyword (h : form.Reads cs m) :
    form.keyword <+: cs.map Char.toLower ∧
      (form.alone = true → cs.map Char.toLower = form.keyword) := by
  obtain ⟨key, text, rfl, hkey, halone, -⟩ := h
  rw [List.map_append, hkey]
  refine ⟨List.prefix_append _ _, fun h => ?_⟩
  rw [halone h, List.map_nil, List.append_nil]

/-- Of two forms of one text, the one with the shorter keyword covers the other. -/
theorem covers_of_shorter (h : form.Reads cs m) (hother : other.Reads cs m')
    (hshorter : form.keyword <+: other.keyword) : form.Covers other := by
  refine ⟨hshorter, fun halone => ?_⟩
  have hwhole := hother.starts_with_keyword.1
  rw [h.starts_with_keyword.2 halone] at hwhole
  exact hshorter.eq_of_length_le hwhole.length_le

theorem eq_of_reads (hform : form ∈ forms) (hother : other ∈ forms) (h : form.Reads cs m)
    (h' : other.Reads cs m') : form = other := by
  by_contra hne
  have hapart := forms_pairwise.forall hform hother hne
  rcases List.prefix_or_prefix_of_prefix h.starts_with_keyword.1 h'.starts_with_keyword.1 with
    hshorter | hshorter
  · exact hapart.1 (covers_of_shorter h h' hshorter)
  · exact hapart.2 (covers_of_shorter h' h hshorter)

/-- Whichever form a text has, it is read as that form says: none before it gets in its way. -/
theorem parse?_eq_some_iff_reads :
    Mechanism.parse? cs = some m ↔ ∃ form ∈ forms, form.Reads cs m := by
  rw [parse?_eq_findSome?]
  constructor
  · intro h
    obtain ⟨form, hform, hread⟩ := List.exists_of_findSome?_eq_some h
    exact ⟨form, hform, (read?_eq_some_iff hform).1 hread⟩
  · rintro ⟨form, hform, hreads⟩
    have hread := (read?_eq_some_iff hform).2 hreads
    cases hfirst : forms.findSome? fun form => form.read? cs with
    | none => rw [List.findSome?_eq_none_iff.1 hfirst form hform] at hread; cases hread
    | some first =>
      obtain ⟨other, hother, hread'⟩ := List.exists_of_findSome?_eq_some hfirst
      obtain rfl := eq_of_reads hform hother hreads ((read?_eq_some_iff hother).1 hread')
      rw [← hread', hread]

theorem written_iff_reads : m.Written cs ↔ ∃ form ∈ forms, form.Reads cs m := by
  constructor
  · rintro ⟨key, text, rfl, hkey, htext⟩
    have hnil (h : String.ofList text = "") : text = [] := by simpa using h
    cases m with
    | all => exact ⟨forms[0], List.getElem_mem _, key, text, rfl, hkey, fun _ => hnil htext, rfl⟩
    | ip4 block =>
      exact ⟨forms[1], List.getElem_mem _, key, text, rfl, hkey, nofun, congrArg _ htext⟩
    | ip6 block =>
      exact ⟨forms[2], List.getElem_mem _, key, text, rfl, hkey, nofun, congrArg _ htext⟩
    | includes target =>
      exact ⟨forms[3], List.getElem_mem _, key, text, rfl, hkey, nofun, congrArg _ htext⟩
    | a target =>
      cases target with
      | none =>
        exact ⟨forms[4], List.getElem_mem _, key, text, rfl, hkey, fun _ => hnil htext, rfl⟩
      | some target =>
        have hmake := congrArg (fun t => Mechanism.a (some t)) htext
        exact ⟨forms[5], List.getElem_mem _, key, text, rfl, hkey, nofun, hmake⟩
    | mx target =>
      cases target with
      | none =>
        exact ⟨forms[6], List.getElem_mem _, key, text, rfl, hkey, fun _ => hnil htext, rfl⟩
      | some target =>
        have hmake := congrArg (fun t => Mechanism.mx (some t)) htext
        exact ⟨forms[7], List.getElem_mem _, key, text, rfl, hkey, nofun, hmake⟩
  · rintro ⟨form, hform, key, text, rfl, hkey, halone, rfl⟩
    simp only [forms, List.mem_cons, List.not_mem_nil, or_false] at hform
    rcases hform with rfl | rfl | rfl | rfl | rfl | rfl | rfl | rfl
    · exact ⟨key, text, rfl, hkey, congrArg String.ofList (halone rfl)⟩
    · exact ⟨key, text, rfl, hkey, rfl⟩
    · exact ⟨key, text, rfl, hkey, rfl⟩
    · exact ⟨key, text, rfl, hkey, rfl⟩
    · exact ⟨key, text, rfl, hkey, congrArg String.ofList (halone rfl)⟩
    · exact ⟨key, text, rfl, hkey, rfl⟩
    · exact ⟨key, text, rfl, hkey, congrArg String.ofList (halone rfl)⟩
    · exact ⟨key, text, rfl, hkey, rfl⟩

end Forms

/-- A text is read as a mechanism exactly if it is written as that mechanism. -/
theorem parse?_eq_some_iff {cs : List Char} {m : Mechanism} :
    Mechanism.parse? cs = some m ↔ m.Written cs :=
  parse?_eq_some_iff_reads.trans written_iff_reads.symm

/-! ## Qualifiers -/

/-- The text is what is left of a token without the symbol in front of it, if it has one. -/
def WithoutSign (token body : List Char) : Prop :=
  (∃ q : Qualifier, token = q.symbol :: body) ∨
    token = body ∧ ∀ (q : Qualifier) rest, token ≠ q.symbol :: rest

theorem ofSymbol?_eq_some_iff {c : Char} {q : Qualifier} :
    Qualifier.ofSymbol? c = some q ↔ c = q.symbol := by
  constructor
  · intro h
    unfold Qualifier.ofSymbol? at h
    split at h <;> cases h <;> rfl
  · rintro rfl
    exact Qualifier.ofSymbol?_symbol q

theorem splitQualifier_symbol (q : Qualifier) (body : List Char) :
    splitQualifier (q.symbol :: body) = (q, body) := by
  simp [splitQualifier]

theorem ofSymbol?_head_of_unsigned {token : List Char}
    (h : ∀ (q : Qualifier) rest, token ≠ q.symbol :: rest) :
    token.head?.bind Qualifier.ofSymbol? = none := by
  cases token with
  | nil => rfl
  | cons c cs =>
    apply Option.eq_none_iff_forall_ne_some.2
    intro q hq
    exact h q cs (congrArg (· :: cs) (ofSymbol?_eq_some_iff.1 hq))

theorem splitQualifier_of_unsigned {token : List Char}
    (h : ∀ (q : Qualifier) rest, token ≠ q.symbol :: rest) :
    splitQualifier token = (.pass, token) := by
  have hsymbol := ofSymbol?_head_of_unsigned h
  cases token with
  | nil => rfl
  | cons c cs =>
    rw [List.head?_cons, Option.bind_some] at hsymbol
    simp [splitQualifier, hsymbol]

/-- A token has one sign at most. -/
theorem splitQualifier_cases (token : List Char) :
    (∃ (q : Qualifier) (body : List Char), token = q.symbol :: body ∧
        splitQualifier token = (q, body)) ∨
      (∀ (q : Qualifier) rest, token ≠ q.symbol :: rest) ∧
        splitQualifier token = (.pass, token) := by
  by_cases h : ∃ (q : Qualifier) (body : List Char), token = q.symbol :: body
  · obtain ⟨q, body, rfl⟩ := h
    exact .inl ⟨q, body, rfl, splitQualifier_symbol q body⟩
  · have hnone : ∀ (q : Qualifier) rest, token ≠ q.symbol :: rest :=
      fun q rest hq => h ⟨q, rest, hq⟩
    exact .inr ⟨hnone, splitQualifier_of_unsigned hnone⟩

theorem withoutSign_iff {token body : List Char} :
    WithoutSign token body ↔ (splitQualifier token).2 = body := by
  rcases splitQualifier_cases token with ⟨q, rest, rfl, hsplit⟩ | ⟨hnone, hsplit⟩
  · rw [hsplit]
    constructor
    · rintro (⟨q', hq⟩ | ⟨-, hnone⟩)
      · exact (List.cons.inj hq).2
      · exact absurd rfl (hnone q rest)
    · rintro rfl
      exact .inl ⟨q, rfl⟩
  · rw [hsplit]
    constructor
    · rintro (⟨q, hq⟩ | ⟨hbody, -⟩)
      · exact absurd hq (hnone q body)
      · exact hbody
    · rintro rfl
      exact .inr ⟨rfl, hnone⟩

theorem exists_sign_of_splitQualifier {token body : List Char} {q : Qualifier}
    (h : splitQualifier token = (q, body)) : ∃ sign, token = sign ++ body ∧ q.Written sign := by
  rcases splitQualifier_cases token with ⟨q', rest, rfl, hsplit⟩ | ⟨-, hsplit⟩
  · cases hsplit.symm.trans h
    exact ⟨[q.symbol], rfl, .inl rfl⟩
  · cases hsplit.symm.trans h
    exact ⟨[], rfl, .inr ⟨rfl, rfl⟩⟩

/-! ## Terms -/

section Terms

variable {token sign body : List Char} {q : Qualifier} {m : Mechanism}

/-- A written mechanism starts neither with a symbol nor like a redirect. -/
theorem exists_head_of_written (h : m.Written body) :
    ∃ c rest, body = c :: rest ∧ Qualifier.ofSymbol? c = none ∧ c.toLower ≠ 'r' := by
  have hkeywords : ∀ form ∈ forms,
      (form.keyword.head?.map fun c => (Qualifier.ofSymbol? c, c == 'r')) = some (none, false) := by
    decide
  obtain ⟨form, hform, key, text, rfl, hkey, -⟩ := written_iff_reads.1 h
  have hhead := hkeywords form hform
  rw [← hkey] at hhead
  cases key with
  | nil => cases hhead
  | cons c key =>
    rw [List.map_cons, List.head?_cons, Option.map_some, ofSymbol?_toLower, Option.some_inj,
      Prod.mk.injEq, beq_eq_false_iff_ne] at hhead
    exact ⟨c, key ++ text, rfl, hhead⟩

theorem afterFold?_redirect_of_written (h : m.Written body) :
    Text.afterFold? "redirect=".toList body = none := by
  obtain ⟨c, rest, rfl, -, hc⟩ := exists_head_of_written h
  exact if_neg hc.symm

theorem splitQualifier_of_written (hsign : q.Written sign) (hbody : m.Written body) :
    splitQualifier (sign ++ body) = (q, body) := by
  rcases hsign with rfl | ⟨rfl, rfl⟩
  · exact splitQualifier_symbol q body
  · obtain ⟨c, rest, rfl, hc, -⟩ := exists_head_of_written hbody
    simp [splitQualifier, hc]

theorem ofChars_eq_directive_iff :
    Term.ofChars token = .directive q m ↔ Term.Written token (.directive q m) := by
  constructor
  · intro h
    unfold Term.ofChars at h
    split at h
    · cases h
    · cases hsplit : splitQualifier token with
      | mk sign body =>
        rw [hsplit] at h
        dsimp only at h
        split at h
        · next hmechanism =>
          cases h
          obtain ⟨sign, rfl, hsign⟩ := exists_sign_of_splitQualifier hsplit
          exact .directive hsign (parse?_eq_some_iff.1 hmechanism)
        · cases h
  · rintro (⟨hsign, hbody⟩)
    have hsplit := splitQualifier_of_written hsign hbody
    have hredirect := afterFold?_redirect_of_splitQualifier hsplit
      (afterFold?_redirect_of_written hbody)
    simp only [Term.ofChars, hredirect, hsplit, parse?_eq_some_iff.2 hbody]

theorem ofChars_eq_redirect_iff {target : String} :
    Term.ofChars token = .redirect target ↔ Term.Written token (.redirect target) := by
  have hredirect : Term.ofChars token = .redirect target ↔
      (Term.ofChars token).redirect? = some target := by
    cases Term.ofChars token <;> simp [Term.redirect?]
  rw [hredirect, redirect?_ofChars_iff]
  constructor
  · rintro ⟨value, htoken, rfl⟩
    exact .redirect htoken
  · rintro (_ | htoken)
    exact ⟨_, htoken, rfl⟩

/-- A token stands for a directive or a redirect exactly if it is written as one. -/
theorem ofChars_eq_iff_written {term : Term} (hterm : term.Supported) :
    Term.ofChars token = term ↔ Term.Written token term := by
  cases term with
  | directive q m => exact ofChars_eq_directive_iff
  | redirect target => exact ofChars_eq_redirect_iff
  | unsupported body => exact absurd rfl (hterm body)

theorem toList_of_ofChars_unsupported {text : String}
    (h : Term.ofChars token = .unsupported text) : (splitQualifier token).2 = text.toList := by
  unfold Term.ofChars at h
  split at h
  · cases h
  · dsimp only at h
    split at h
    · cases h
    · cases h
      rw [String.toList_ofList]

/-- Every other token is unsupported, and kept without its sign. -/
theorem ofChars_eq_unsupported_iff {text : String} :
    Term.ofChars token = .unsupported text ↔
      (∀ term, ¬ Term.Written token term) ∧ WithoutSign token text.toList := by
  constructor
  · intro h
    refine ⟨fun term hterm => ?_, withoutSign_iff.2 (toList_of_ofChars_unsupported h)⟩
    have hsupported : term.Supported := by
      rintro body rfl
      cases hterm
    have hterm := (ofChars_eq_iff_written hsupported).2 hterm
    exact hsupported text (hterm.symm.trans h)
  · rintro ⟨hnone, htext⟩
    cases hterm : Term.ofChars token with
    | directive q m => exact absurd (ofChars_eq_directive_iff.1 hterm) (hnone _)
    | redirect target => exact absurd (ofChars_eq_redirect_iff.1 hterm) (hnone _)
    | unsupported other =>
      have hother := toList_of_ofChars_unsupported hterm
      rw [withoutSign_iff.1 htext] at hother
      rw [String.toList_inj.1 hother]

end Terms

/-! ## Printed terms -/

/-- The domain that a term names is normal: trimming and lower-casing leave it unchanged. -/
def Term.Normal (term : Term) : Prop :=
  ∀ target, term.target? = some target → normalizeDomain target = target

theorem targetOf_toList (target : String) : targetOf target.toList = normalizeDomain target := by
  rw [← normalizeDomain_ofList, String.ofList_toList]

section Printing

variable {m : Mechanism}
  (hm : ∀ target, m.target? = some target → normalizeDomain target = target)

include hm

theorem reading_argument : m.reading m.argument.toList = m.argument := by
  have htarget (target : String) (h : m.target? = some target) : targetOf target.toList = target :=
    (targetOf_toList target).trans (hm target h)
  cases m with
  | all => rfl
  | ip4 block => exact String.ofList_toList
  | ip6 block => exact String.ofList_toList
  | includes target => exact htarget target rfl
  | a target =>
    cases target with
    | none => rfl
    | some target => exact htarget target rfl
  | mx target =>
    cases target with
    | none => rfl
    | some target => exact htarget target rfl

theorem written_print : m.Written m.print.toList := by
  refine ⟨m.keyword.toList, m.argument.toList, ?_, ?_, reading_argument hm⟩
  · rw [Mechanism.print_eq, String.toList_append]
  · unfold Mechanism.keyword
    split <;> rfl

/-- A printed directive is read back, also without the symbol of `pass`. -/
theorem ofChars_print {sign : List Char} {q : Qualifier} (hsign : q.Written sign) :
    Term.ofChars (sign ++ m.print.toList) = .directive q m :=
  ofChars_eq_directive_iff.2 (.directive hsign (written_print hm))

end Printing

theorem parse_print {term : Term} (hsupported : term.Supported) (hterm : term.Normal) :
    Term.parse term.print = term := by
  cases term with
  | directive q m =>
    rw [Term.parse, Term.print, String.toList_append, Char.toString, String.toList_singleton]
    exact ofChars_print hterm (.inl rfl)
  | redirect target =>
    have htarget : targetOf target.toList = target :=
      (targetOf_toList target).trans (hterm target rfl)
    have hredirect : Redirects ("redirect=" ++ target).toList target.toList :=
      ⟨"redirect=".toList, String.toList_append, by decide⟩
    have hwritten := Term.Written.redirect hredirect
    rw [htarget] at hwritten
    exact ofChars_eq_redirect_iff.2 hwritten
  | unsupported body => exact absurd rfl (hsupported body)

/-! ## Terms by byte offsets -/

/-- The qualifier and the rest of a token, cut off behind the symbol. -/
def splitQualifierAt? (token : String) : Option (Qualifier × String) :=
  match token.toList.head?.bind Qualifier.ofSymbol? with
  | some q => do
    let (_, body) ← Text.cutAt? token 1
    return (q, body)
  | none => return (.pass, token)

/-- The mechanism of a term, with each keyword looked for by a cut. -/
def Mechanism.parseAt? (body : String) : Option (Option Mechanism) := do
  if Text.sameFold body.toList "all".toList then return some .all
  if let some block ← Text.afterFoldAt? "ip4:" body then return some (.ip4 block)
  if let some block ← Text.afterFoldAt? "ip6:" body then return some (.ip6 block)
  if let some target ← Text.afterFoldAt? "include:" body then
    return some (.includes (normalizeDomain target))
  if Text.sameFold body.toList "a".toList then return some (.a none)
  if let some target ← Text.afterFoldAt? "a:" body then
    return some (.a (some (normalizeDomain target)))
  if Text.sameFold body.toList "mx".toList then return some (.mx none)
  if let some target ← Text.afterFoldAt? "mx:" body then
    return some (.mx (some (normalizeDomain target)))
  return none

/-- The term that a token stands for, read by cuts at byte offsets; there is none where a cut falls
inside a character. -/
def Term.parseAt? (token : String) : Option Term := do
  if let some target ← Text.afterFoldAt? "redirect=" token then
    return .redirect (normalizeDomain target)
  let (q, body) ← splitQualifierAt? token
  match ← Mechanism.parseAt? body with
  | some m => return .directive q m
  | none => return .unsupported body

theorem splitQualifierAt?_eq (token : String) :
    splitQualifierAt? token =
      some ((splitQualifier token.toList).1, String.ofList (splitQualifier token.toList).2) := by
  unfold splitQualifierAt?
  rcases splitQualifier_cases token.toList with ⟨q, body, hbody, hsplit⟩ | ⟨hnone, hsplit⟩
  · have hsize : q.symbol.utf8Size = 1 := by cases q <;> rfl
    have hcut := Text.cutAt?_one hbody hsize
    simp [hbody, hcut, splitQualifier_symbol]
  · rw [ofSymbol?_head_of_unsigned hnone, hsplit, String.ofList_toList]
    rfl

theorem Mechanism.parseAt?_eq (body : String) :
    Mechanism.parseAt? body = some (Mechanism.parse? body.toList) := by
  unfold Mechanism.parseAt? Mechanism.parse?
  simp only [Text.afterFoldAt?_eq]
  generalize "all".toList = k₀, "ip4:".toList = k₁, "ip6:".toList = k₂,
    "include:".toList = k₃, "a".toList = k₄, "a:".toList = k₅, "mx".toList = k₆,
    "mx:".toList = k₇
  cases Text.sameFold body.toList k₀ with
  | true => rfl
  | false =>
  cases Text.afterFold? k₁ body.toList with
  | some block => rfl
  | none =>
  cases Text.afterFold? k₂ body.toList with
  | some block => rfl
  | none =>
  cases Text.afterFold? k₃ body.toList with
  | some name => exact congrArg (fun t => some (some (includes t))) (normalizeDomain_ofList name)
  | none =>
  cases Text.sameFold body.toList k₄ with
  | true => rfl
  | false =>
  cases Text.afterFold? k₅ body.toList with
  | some name => exact congrArg (fun t => some (some (a (some t)))) (normalizeDomain_ofList name)
  | none =>
  cases Text.sameFold body.toList k₆ with
  | true => rfl
  | false =>
  cases Text.afterFold? k₇ body.toList with
  | some name => exact congrArg (fun t => some (some (mx (some t)))) (normalizeDomain_ofList name)
  | none => rfl

/-- No cut falls inside a character, and the cuts read every term as it is read by characters. -/
theorem Term.parseAt?_eq (token : String) : Term.parseAt? token = some (Term.parse token) := by
  unfold Term.parseAt? Term.parse Term.ofChars
  simp only [Text.afterFoldAt?_eq, splitQualifierAt?_eq, Mechanism.parseAt?_eq]
  cases Text.afterFold? "redirect=".toList token.toList with
  | some name => exact congrArg (fun t => some (redirect t)) (normalizeDomain_ofList name)
  | none =>
    simp only [Option.map_none, Option.bind_eq_bind, Option.bind_some, String.toList_ofList]
    cases Mechanism.parse? (splitQualifier token.toList).2 <;> rfl

/-! ## Parsing and printing -/

/-- Parsing undoes printing: a printed term is read back if its domain is normal, also without the
`+` of a directive.  A token is read as a directive or a redirect exactly if it is written as one:
it prints back up to the ASCII case of its keyword, a `+` left out and the normal form of its
domain.  Every other token is unsupported and kept without its sign, and no token is cut inside a
character. -/
theorem parse_undoes_print (token : String) (term : Term) :
    (term.Supported → term.Normal → Term.parse term.print = term ∧
        ∀ m, term = .directive .pass m → Term.parse m.print = term) ∧
      (term.Supported → (Term.parse token = term ↔ Term.Written token.toList term)) ∧
      (∀ q m, term = .directive q m → term.print = q.symbol.toString ++ (m.keyword ++ m.argument)) ∧
      (∀ target, term = .redirect target → term.print = "redirect=" ++ target) ∧
      (∀ body, Term.parse token = .unsupported body ↔
        (∀ term, ¬ Term.Written token.toList term) ∧ WithoutSign token.toList body.toList) ∧
      Term.parseAt? token = some (Term.parse token) := by
  refine ⟨fun hsupported hterm => ⟨parse_print hsupported hterm, ?_⟩,
    fun hsupported => ofChars_eq_iff_written hsupported, ?_, ?_,
    fun _ => ofChars_eq_unsupported_iff, Term.parseAt?_eq token⟩
  · rintro m rfl
    exact ofChars_print hterm (.inr ⟨rfl, rfl⟩)
  · rintro q m rfl
    rw [Term.print, Mechanism.print_eq]
  · rintro target rfl
    rfl

/-- A domain in another alphabet is read back in capitals too, and a character of two bytes where
the keywords end is cut by none of them. -/
theorem parse_undoes_print_polyglot :
    let term := Term.directive .softFail (.includes "παράδειγμα.test")
    Term.parse "~include:παράδειγμα.test" = term ∧
      Term.Written "~Include:ΠΑΡΆΔΕΙΓΜΑ.test".toList term ∧
      Term.parse "-ip4é" = .unsupported "ip4é" ∧
      Term.parseAt? "-ip4é" = some (.unsupported "ip4é") := by
  intro term
  have hsupported : term.Supported := fun _ h => nomatch h
  have hnormal : term.Normal := by
    intro target htarget
    obtain rfl : "παράδειγμα.test" = target := Option.some.inj htarget
    decide
  obtain ⟨hprint, hwritten, -⟩ := parse_undoes_print "~Include:ΠΑΡΆΔΕΙΓΜΑ.test" term
  obtain ⟨-, -, -, -, -, hcuts⟩ := parse_undoes_print "-ip4é" term
  have hparse : Term.parse "-ip4é" = .unsupported "ip4é" := by decide
  rw [hparse] at hcuts
  exact ⟨(hprint hsupported hnormal).1, (hwritten hsupported).1 (by decide), hparse, hcuts⟩

end SpamVerdict.Spf
