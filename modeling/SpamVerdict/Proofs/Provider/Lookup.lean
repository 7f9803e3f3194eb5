import SpamVerdict.Proofs.Http.Target
import SpamVerdict.Proofs.Provider.Answers
set_option autoImplicit false

/-!
# What a lookup asks for (SPEC_FULL §6, §14.2)

A sender chooses the texts that are looked up.  Whatever characters they have, the request goes to
where the endpoint is, asks for its path, and is read as the pairs of the endpoint followed by the
pairs of the message, each with the whole text for its value (`check_asks_for_message`).

SPEC_FULL §6 lists the pairs of a look-up: `json=1`, `confidence=1`, and the sender and the address
where there are any.  By §14.2 nothing is asked at all if both are missing.
-/

namespace SpamVerdict.Provider

/-- A run sends one request and no other: the report depends on the outcome of that one and has the
status of the reply to it. -/
structure Asks (run : Http.Peers → Report) (request : Http.Request) : Prop where
  only : ∀ peers peers', peers request = peers' request → run peers = run peers'
  sent : ∀ peers, (run peers).status = (peers request).toOption.map (·.status)

namespace Reputation

/-! ## The pairs of a message -/

/-- A name and a text, unless the text is empty. -/
def given (name text : String) : List (String × String) :=
  if text = "" then [] else [(name, text)]

/-- What is looked up for a message. -/
def asked (m : Mail.Message) : List (String × String) :=
  [("json", "1"), ("confidence", "1")] ++
    (given "email" (Text.trim m.sender) ++ given "ip" (Text.trim m.ip))

/-- The characters of a name and of its value. -/
def characters (p : String × String) : List Char × List Char := (p.1.toList, p.2.toList)

theorem filter_singleton_given (name text : String) :
    [(name, text)].filter (fun p => !p.2.isEmpty) = given name text := by
  unfold given
  split
  next hempty => simp [hempty]
  next hne => simp [hne]

theorem lookupPairs_eq (m : Mail.Message) :
    lookupPairs (Text.trim m.sender) (Text.trim m.ip) = (asked m).map characters := by
  have hgiven :
      ([("email", Text.trim m.sender), ("ip", Text.trim m.ip)].filter fun p => !p.2.isEmpty) =
        given "email" (Text.trim m.sender) ++ given "ip" (Text.trim m.ip) := by
    rw [← filter_singleton_given, ← filter_singleton_given, ← List.filter_append,
      List.singleton_append]
  rw [lookupPairs, hgiven, asked, List.map_append (f := characters)]
  rfl

/-! ## The request -/

section Request

variable {endpoint : String} {url : Http.Url} {m : Mail.Message}

theorem urlFor?_of_asked (hparse : Http.Url.parse endpoint = .ok url) (hasked : ¬ NothingToAsk m) :
    urlFor? endpoint m = .ok (url.withPairs ((asked m).map characters)) := by
  rw [urlFor?_of_something hparse hasked, lookupPairs_eq]

theorem check_of_url {u : Http.Url} (hurl : urlFor? endpoint m = .ok u)
    (hweb : u.isWeb = true) : Asks (fun peers => check peers endpoint m) (requestOf u) := by
  have hask : ∀ peers : Http.Peers, peers.ask (some (requestOf u)) = peers (requestOf u) :=
    fun peers => if_pos hweb
  constructor
  case only =>
    intro peers peers' hsame
    unfold check
    rw [hurl]
    dsimp only
    rw [hask, hask, hsame]
  case sent =>
    intro peers
    have hlookup : lookup? endpoint m = some (requestOf u) := by
      rw [lookup?, hurl]
      rfl
    rw [check_status, hlookup, hask]

/-- A lookup at an endpoint on the web, with or without encryption, asks for the path of the
endpoint, and for the pairs of the endpoint with the ones of the message behind them. -/
theorem check_asks_for_message (hparse : Http.Url.parse endpoint = .ok url)
    (hweb : url.isWeb = true) (hasked : ¬ NothingToAsk m) :
    ∃ u, Asks (fun peers => check peers endpoint m) (requestOf u) ∧
      u.target = url.origin ++ u.requestTarget ∧
      Http.Url.readTarget u.requestTarget =
        (url.pathText, url.pairs ++ (asked m).map characters) := by
  have hpath : '?' ∉ url.pathText := Http.Url.question_not_mem_pathText hparse hweb
  refine ⟨_, check_of_url (urlFor?_of_asked hparse hasked) hweb, Http.Url.target_eq _, ?_⟩
  rw [Http.Url.readTarget_requestTarget (u := url.withPairs _) hpath, Http.Url.pairs_withPairs]
  rfl

/-- Signs in the text of a sender are part of the text. -/
theorem check_asks_for_message_ampersand :
    let m : Mail.Message := { (default : Mail.Message) with sender := " a&ip=9@b.c " }
    ∃ u, Asks (fun peers => check peers "https://[::1]/api?x=1#f" m) (requestOf u) ∧
      Http.Url.readTarget u.requestTarget = ("/api".toList,
        [("x", "1"), ("json", "1"), ("confidence", "1"), ("email", "a&ip=9@b.c")].map
          characters) := by
  intro m
  let url : Http.Url :=
    { scheme := "https".toList, authority := some "[::1]".toList
      path := .segments ["api".toList], query := some "x=1".toList
      fragment := some "f".toList }
  have hparse : Http.Url.parse "https://[::1]/api?x=1#f" = .ok url := rfl
  have hasked : ¬ NothingToAsk m := fun hnothing => absurd hnothing.1 (by decide +kernel)
  obtain ⟨u, hasks, -, hread⟩ := check_asks_for_message hparse (by decide) hasked
  refine ⟨u, hasks, hread.trans ?_⟩
  decide +kernel

end Request

end Reputation

end SpamVerdict.Provider
