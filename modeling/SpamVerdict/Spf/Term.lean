import SpamVerdict.Spf.Result
set_option autoImplicit false

/-!
# Terms of an SPF record (SPEC_FULL §4.3)

A record is a list of terms between blanks.  `Term.parse` reads one: a redirect, or a mechanism
behind an optional qualifier; anything else is kept as an unsupported term, which becomes an error
only where evaluation reaches it.  Keywords are read in any ASCII case, and domain names are put
into lower case.  `Term.print` writes a term back.

The mechanisms and qualifiers are those of SPEC_FULL §4.3, step 3 of the evaluation of a record.
What §1 excludes (macros, `exists`, `ptr`) is unsupported like any other text.
-/

namespace SpamVerdict.Spf

/-- What a matching mechanism means. -/
inductive Qualifier where
  | pass
  | fail
  | softFail
  | neutral
  deriving DecidableEq, Repr

namespace Qualifier

/-- The result of a matching mechanism. -/
def result : Qualifier → Result
  | pass => .pass
  | fail => .fail
  | softFail => .softFail
  | neutral => .neutral

/-- The symbol in front of a mechanism. -/
def symbol : Qualifier → Char
  | pass => '+'
  | fail => '-'
  | softFail => '~'
  | neutral => '?'

/-- The qualifier that a symbol stands for. -/
def ofSymbol? : Char → Option Qualifier
  | '+' => some pass
  | '-' => some fail
  | '~' => some softFail
  | '?' => some neutral
  | _ => none

@[simp] theorem ofSymbol?_symbol (q : Qualifier) : ofSymbol? q.symbol = some q := by
  cases q <;> rfl

end Qualifier

/-- A test on the sending address. -/
inductive Mechanism where
  /-- Every address matches. -/
  | all
  /-- The addresses of an IPv4 block. -/
  | ip4 (block : String)
  /-- The addresses of an IPv6 block. -/
  | ip6 (block : String)
  /-- The addresses that the policy of another domain passes. -/
  | includes (target : String)
  /-- The addresses of a domain; without a target, of the domain under evaluation. -/
  | a (target : Option String)
  /-- The addresses of the mail exchangers of a domain. -/
  | mx (target : Option String)
  deriving DecidableEq, Repr

/-- One term of a record. -/
inductive Term where
  | directive (qualifier : Qualifier) (mechanism : Mechanism)
  /-- The policy of another domain decides if nothing matches. -/
  | redirect (target : String)
  /-- A term of another kind, without its qualifier. -/
  | unsupported (body : String)
  deriving DecidableEq, Repr

/-! ## Reading -/

/-- A domain name in a term: without blanks around it and in lower case. -/
def targetOf (cs : List Char) : String :=
  String.ofList (Text.lowerChars (Text.trimOf Text.isBlank cs))

/-- The mechanism that a term without its qualifier stands for. -/
def Mechanism.parse? (cs : List Char) : Option Mechanism :=
  if Text.sameFold cs "all".toList then some .all
  else if let some block := Text.afterFold? "ip4:".toList cs then some (.ip4 (String.ofList block))
  else if let some block := Text.afterFold? "ip6:".toList cs then some (.ip6 (String.ofList block))
  else if let some target := Text.afterFold? "include:".toList cs then
    some (.includes (targetOf target))
  else if Text.sameFold cs "a".toList then some (.a none)
  else if let some target := Text.afterFold? "a:".toList cs then some (.a (some (targetOf target)))
  else if Text.sameFold cs "mx".toList then some (.mx none)
  else if let some target := Text.afterFold? "mx:".toList cs then
    some (.mx (some (targetOf target)))
  else none

/-- A term without its qualifier, and the qualifier; without a symbol it is `pass`. -/
def splitQualifier : List Char → Qualifier × List Char
  | [] => (.pass, [])
  | c :: cs =>
    match Qualifier.ofSymbol? c with
    | some q => (q, cs)
    | none => (.pass, c :: cs)

/-- The term that the characters of a token stand for. -/
def Term.ofChars (token : List Char) : Term :=
  match Text.afterFold? "redirect=".toList token with
  | some target => .redirect (targetOf target)
  | none =>
    let (qualifier, body) := splitQualifier token
    match Mechanism.parse? body with
    | some mechanism => .directive qualifier mechanism
    | none => .unsupported (String.ofList body)

/-- The term that a token stands for. -/
def Term.parse (token : String) : Term := Term.ofChars token.toList

/-- The target of a redirect. -/
def Term.redirect? : Term → Option String
  | redirect target => some target
  | directive _ _ => none
  | unsupported _ => none

/-! ## Printing -/

/-- The text of a mechanism. -/
def Mechanism.print : Mechanism → String
  | all => "all"
  | ip4 block => "ip4:" ++ block
  | ip6 block => "ip6:" ++ block
  | includes target => "include:" ++ target
  | a none => "a"
  | a (some target) => "a:" ++ target
  | mx none => "mx"
  | mx (some target) => "mx:" ++ target

/-- The text of a term, with its qualifier always written. -/
def Term.print : Term → String
  | directive q m => q.symbol.toString ++ m.print
  | redirect target => "redirect=" ++ target
  | unsupported body => body

/-! ## Records -/

/-- The tag that a record starts with. -/
def versionTag : List Char := "v=spf1".toList

/-- A text that is published as an SPF record. -/
def isRecord (record : List Char) : Bool :=
  (Text.afterFold? versionTag record).isSome

/-- The tokens of a record other than its version tag. -/
def tokensOf (record : List Char) : List (List Char) :=
  (Text.words record).filter (fun t => !Text.sameFold t versionTag)

end SpamVerdict.Spf
