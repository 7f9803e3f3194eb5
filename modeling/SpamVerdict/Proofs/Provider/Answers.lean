import SpamVerdict.Provider
import SpamVerdict.Proofs.Decimal.Order
import SpamVerdict.Proofs.Json.Finite
set_option autoImplicit false

/-!
# Scores from sound answers only (SPEC_FULL §6, §7)

What comes back from a peer may be cut short, refused, misshapen or no JSON at all.  A reply gives
a content score (`ContentScore.Gives`) or is sound as the answer to a lookup (`Reputation.Sound`),
and whatever is neither ends in a report of an error without a score (`score_of_sound_answer`).

The two contracts are those of SPEC_FULL §6, and that everything else is a reported error is its
§7 (a) and (c).  Both are stated from the reply on: what was asked, of whom, and what came back for
it are named in the statement, so a report is always about the reply of the endpoint.  What the
encodings with several bytes a character stand for is left to any `Decoder`.
-/

namespace SpamVerdict.Provider

/-! ## Numbers in an answer -/

/-- A number can be read off a value: it is a number, or a text that spells a finite one with
blanks around it. -/
inductive Reads : Json → Float → Prop where
  | number (n : Json.Number) : Reads (.number n) n.toFloat
  | text {s : String} {x : Float} (hspells : Decimal.float? (Text.trim s).toList = some x)
      (hfinite : x.isFinite = true) : Reads (.string s) x

theorem numeric?_eq_some_iff {found : Option Json} {x : Float} :
    numeric? found = some x ↔ ∃ v, found = some v ∧ Reads v x := by
  constructor
  · intro hx
    match found with
    | some (.number n) =>
      cases hx
      exact ⟨_, rfl, .number n⟩
    | some (.string s) =>
      obtain ⟨hspells, hfinite⟩ := Option.filter_eq_some_iff.1 hx
      exact ⟨_, rfl, .text hspells hfinite⟩
  · rintro ⟨v, rfl, hv⟩
    cases hv with
    | number n => rfl
    | text hspells hfinite => exact Option.filter_eq_some_iff.2 ⟨hspells, hfinite⟩

theorem Reads.isFinite {v : Json} {x : Float} (hx : Reads v x) (hv : v.IsFinite) :
    x.isFinite = true := by
  cases hx with
  | number n => exact hv n .number
  | text _ hfinite => exact hfinite

/-! ## The content score -/

namespace ContentScore

/-- A reply gives a score: it reports success, its body could be read, and is an object with a
number for the score. -/
inductive Gives (decoder : Http.Decoder) (reply : Http.Reply) : Float → Prop where
  | mk {bytes : List UInt8} {members : Json.Members} {v : Json} {x : Float}
      (hstatus : reply.isSuccess = true) (hbody : reply.body = some bytes)
      (hobject : Json.parse? (Http.bodyText decoder reply.contentType bytes) =
        some (.object members))
      (hscore : members.get? "score" = some v) (hx : Reads v x) : Gives decoder reply x

section Replies

variable {decoder : Http.Decoder}

/-- The score that a reply gives. -/
def scoreOf? (decoder : Http.Decoder) (reply : Http.Reply) : Option Float :=
  if reply.isSuccess then
    reply.body.bind fun bytes =>
      (Json.parse? (Http.bodyText decoder reply.contentType bytes)).bind fun answer =>
        numeric? (answer.get? "score")
  else none

theorem scoreOf?_eq_some_iff {reply : Http.Reply} {x : Float} :
    scoreOf? decoder reply = some x ↔ Gives decoder reply x := by
  rw [scoreOf?, Option.ite_none_right_eq_some]
  simp only [Option.bind_eq_some_iff, numeric?_eq_some_iff]
  constructor
  · rintro ⟨hstatus, bytes, hbody, answer, hanswer, v, hv, hx⟩
    cases answer with
    | object members => exact .mk hstatus hbody hanswer hv hx
    | _ => cases hv
  · rintro ⟨hstatus, hbody, hobject, hscore, hx⟩
    exact ⟨hstatus, _, hbody, _, hobject, _, hscore, hx⟩

theorem reportOn_spec (reply : Http.Reply) :
    (reportOn decoder reply).score = scoreOf? decoder reply ∧
      ((reportOn decoder reply).error = none ↔ (scoreOf? decoder reply).isSome = true) ∧
      (reportOn decoder reply).status = some reply.status := by
  unfold reportOn scoreOf?
  cases hstatus : reply.isSuccess with
  | false => simp [Report.failed, Report.withStatus]
  | true =>
    cases hbody : reply.body with
    | none => simp [Report.failed, Report.withStatus, Report.withData]
    | some bytes =>
      simp only [Bool.not_true, Option.bind_some]
      cases hparse : Json.parse? (Http.bodyText decoder reply.contentType bytes) with
      | none => simp [Report.failed, Report.withStatus]
      | some answer =>
        cases answer with
        | object members =>
          cases hx : numeric? (Json.Members.get? "score" members) <;>
            simp [reportOn.missing, Report.failed, Report.scored, Report.withStatus, Json.get?, hx]
        | array items =>
          simp [reportOn.missing, Report.failed, Report.withStatus, Json.get?, numeric?]
        | _ => simp [Report.failed, Report.withStatus, Json.get?, numeric?]

theorem Gives.isFinite {reply : Http.Reply} {x : Float} (hx : Gives decoder reply x) :
    x.isFinite = true := by
  obtain ⟨-, -, hobject, hscore, hreads⟩ := hx
  exact hreads.isFinite ((Json.isFinite_of_parse? hobject).get? hscore)

end Replies

section Check

variable (decoder : Http.Decoder) (peers : Http.Peers) (endpoint : String) (m : Mail.Message)

theorem check_score (x : Float) : (check decoder peers endpoint m).score = some x ↔
    ∃ reply, peers.ask (request? endpoint m) = .ok reply ∧ Gives decoder reply x := by
  unfold check
  cases peers.ask (request? endpoint m) with
  | error detail => simp [Report.failed, Report.withData]
  | ok reply => simp [(reportOn_spec reply).1, scoreOf?_eq_some_iff]

theorem check_error : (check decoder peers endpoint m).error = none ↔
    (check decoder peers endpoint m).score.isSome = true := by
  unfold check
  cases peers.ask (request? endpoint m) with
  | error detail => simp [Report.failed, Report.withData]
  | ok reply =>
    obtain ⟨hscore, herror, -⟩ := reportOn_spec reply
    dsimp only
    rw [hscore, herror]

theorem check_status : (check decoder peers endpoint m).status =
    (peers.ask (request? endpoint m)).toOption.map (·.status) := by
  unfold check
  cases peers.ask (request? endpoint m) with
  | error detail => rfl
  | ok reply => exact (reportOn_spec reply).2.2

/-- At an endpoint on the web, what is reported on is what comes back from there. -/
theorem ask_request? {url : Http.Url} (hparse : Http.Url.parse endpoint = .ok url)
    (hweb : url.isWeb = true) : ∃ request : Http.Request, request.url = url ∧
      peers.ask (request? endpoint m) = peers request := by
  unfold request? Http.Peers.ask
  rw [hparse]
  exact ⟨_, rfl, if_pos hweb⟩

end Check

end ContentScore

/-! ## The highest of some numbers -/

/-- A number is the highest of some, and there is none only if there are none. -/
def IsHighest (values : Float → Prop) : Option Float → Prop
  | none => ∀ x, ¬ values x
  | some x => values x ∧ ∀ y, values y → y ≤ x

namespace Reputation

theorem le_larger {x y : Float} (hx : x.isNaN = false) (hy : y.isNaN = false) :
    x ≤ larger x y ∧ y ≤ larger x y := by
  unfold larger
  split
  · next hlt => exact ⟨Decimal.le_of_lt_of_number hx hy hlt, Decimal.le_self hy⟩
  · next hle => exact ⟨Decimal.le_self hx, Decimal.le_of_not_lt hx hy hle⟩

theorem larger_eq (x y : Float) : larger x y = x ∨ larger x y = y := by
  unfold larger
  split
  · exact .inr rfl
  · exact .inl rfl

theorem isHighest_merge {P Q : Float → Prop} {found found' : Option Float}
    (hP : ∀ x, P x → x.isNaN = false) (hQ : ∀ x, Q x → x.isNaN = false)
    (hfound : IsHighest P found) (hfound' : IsHighest Q found') :
    IsHighest (fun x => P x ∨ Q x) (Option.merge larger found found') := by
  match found, found' with
  | none, none => exact fun x hx => hx.elim (hfound x) (hfound' x)
  | some x, none =>
    refine ⟨.inl hfound.1, fun y hy => ?_⟩
    exact hfound.2 y (hy.resolve_right (hfound' y))
  | none, some x =>
    refine ⟨.inr hfound'.1, fun y hy => ?_⟩
    exact hfound'.2 y (hy.resolve_left (hfound y))
  | some x, some x' =>
    have hx := hP x hfound.1
    have hx' := hQ x' hfound'.1
    obtain ⟨hle, hle'⟩ := le_larger hx hx'
    have hlarger : P (larger x x') ∨ Q (larger x x') := by
      obtain heq | heq := larger_eq x x'
      · exact .inl (by rw [heq]; exact hfound.1)
      · exact .inr (by rw [heq]; exact hfound'.1)
    have hnumber : (larger x x').isNaN = false := hlarger.elim (hP _) (hQ _)
    refine ⟨hlarger, fun y hy => ?_⟩
    obtain hy | hy := hy
    · exact Decimal.le_trans_of_number (hP y hy) hx hnumber (hfound.2 y hy) hle
    · exact Decimal.le_trans_of_number (hQ y hy) hx' hnumber (hfound'.2 y hy) hle'

/-! ## The reputation -/

/-- An answer reports success: it says so, or gives a number equal to one. -/
inductive Succeeds (answer : Json) : Prop where
  | bool (hbool : answer.get? "success" = some (.bool true)) : Succeeds answer
  | number {v : Json} {x : Float} (hvalue : answer.get? "success" = some v) (hx : Reads v x)
      (hone : (x == UInt64.toFloat 1) = true) : Succeeds answer

/-- A confidence of an answer: a number of the entry under one of the two fields. -/
inductive Confidence (answer : Json) (field : String) : Float → Prop where
  | mk {entry v : Json} {x : Float} (hentry : answer.get? field = some entry)
      (hvalue : entry.get? "confidence" = some v) (hx : Reads v x) : Confidence answer field x

section Answer

variable {answer : Json}

theorem succeeded_iff : succeeded answer = true ↔ Succeeds answer := by
  unfold succeeded
  constructor
  · intro hsucceeded
    split at hsucceeded
    · next b hvalue =>
      subst hsucceeded
      exact .bool hvalue
    · split at hsucceeded
      · next x hx =>
        obtain ⟨v, hvalue, hreads⟩ := numeric?_eq_some_iff.1 hx
        exact .number hvalue hreads hsucceeded
      · cases hsucceeded
  · intro hsucceeds
    cases hsucceeds with
    | bool hvalue => rw [hvalue]
    | @number v x hvalue hreads hone =>
      have hx : numeric? (some v) = some x := numeric?_eq_some_iff.2 ⟨v, rfl, hreads⟩
      rw [hvalue]
      cases hreads with
      | number n => exact hone
      | text _ _ =>
        simp only [hx]
        exact hone

/-- The confidence that an answer gives under a field. -/
def confidence? (answer : Json) (field : String) : Option Float :=
  (answer.get? field).bind fun entry => numeric? (entry.get? "confidence")

theorem confidence?_eq_some_iff {field : String} {x : Float} :
    confidence? answer field = some x ↔ Confidence answer field x := by
  simp only [confidence?, Option.bind_eq_some_iff, numeric?_eq_some_iff]
  constructor
  · rintro ⟨entry, hentry, v, hvalue, hx⟩
    exact .mk hentry hvalue hx
  · rintro ⟨hentry, hvalue, hx⟩
    exact ⟨_, hentry, _, hvalue, hx⟩

theorem Confidence.isFinite (hanswer : answer.IsFinite) {field : String} {x : Float}
    (hx : Confidence answer field x) : x.isFinite = true := by
  obtain ⟨hentry, hvalue, hreads⟩ := hx
  exact hreads.isFinite ((hanswer.get? hentry).get? hvalue)

theorem isHighest_confidence? (hanswer : answer.IsFinite) (field : String) :
    IsHighest (Confidence answer field) (confidence? answer field) := by
  cases hfound : confidence? answer field with
  | none =>
    intro x hx
    rw [confidence?_eq_some_iff.2 hx] at hfound
    cases hfound
  | some x =>
    have hx := confidence?_eq_some_iff.1 hfound
    refine ⟨hx, fun y hy => ?_⟩
    rw [confidence?_eq_some_iff.2 hy] at hfound
    cases hfound
    exact Decimal.le_self (Decimal.isNaN_eq_false_of_isFinite (hx.isFinite hanswer))

theorem addField_score (r : Report) (field : String) :
    (addField answer r field).score = Option.merge larger r.score (confidence? answer field) := by
  unfold addField confidence?
  cases answer.get? field with
  | none => cases r.score <;> rfl
  | some entry =>
    simp only [Report.withData, Option.bind_some]
    cases r.score <;> cases numeric? (entry.get? "confidence") <;> rfl

theorem addField_error (r : Report) (field : String) :
    (addField answer r field).error = r.error := by
  unfold addField
  cases answer.get? field <;> rfl

theorem addField_status (r : Report) (field : String) :
    (addField answer r field).status = r.status := by
  unfold addField
  cases answer.get? field <;> rfl

/-- The score of an answer is the higher one of the two confidences. -/
theorem isHighest_foldl_addField (hanswer : answer.IsFinite) {r : Report} (hr : r.score = none) :
    IsHighest (fun x => Confidence answer "email" x ∨ Confidence answer "ip" x)
      (["email", "ip"].foldl (addField answer) r).score := by
  have hnumber (field : String) (x : Float) (hx : Confidence answer field x) : x.isNaN = false :=
    Decimal.isNaN_eq_false_of_isFinite (hx.isFinite hanswer)
  simp only [List.foldl_cons, List.foldl_nil, addField_score, hr, Option.merge_none_left]
  exact isHighest_merge (hnumber "email") (hnumber "ip") (isHighest_confidence? hanswer "email")
    (isHighest_confidence? hanswer "ip")

end Answer

/-! ## Replies to a lookup -/

/-- A body could be read and is an object. -/
def HoldsObject (reply : Http.Reply) (members : Json.Members) : Prop :=
  ∃ bytes, reply.body = some bytes ∧ Http.bodyJson? bytes = some (.object members)

/-- A reply to a lookup that a score can be taken from. -/
structure Sound (reply : Http.Reply) (members : Json.Members) : Prop where
  status : reply.isSuccess = true
  body : HoldsObject reply members
  success : Succeeds (.object members)

theorem holdsObject_iff {reply : Http.Reply} {members : Json.Members} :
    HoldsObject reply members ↔ reply.body.bind Http.bodyJson? = some (.object members) :=
  Option.bind_eq_some_iff.symm

theorem HoldsObject.isFinite {reply : Http.Reply} {members : Json.Members}
    (hbody : HoldsObject reply members) : (Json.object members).IsFinite := by
  obtain ⟨bytes, -, hobject⟩ := hbody
  obtain ⟨cs, -, hparse⟩ := Option.bind_eq_some_iff.1 hobject
  exact Json.isFinite_of_parse? hparse

section Reply

variable {reply : Http.Reply} (url : Http.Url)

/-- A sound reply is reported with the highest confidence. -/
theorem reportOn_of_sound {members : Json.Members} (hsound : Sound reply members) :
    (reportOn url reply).error = none ∧
      IsHighest (fun x => Confidence (.object members) "email" x ∨
        Confidence (.object members) "ip" x) (reportOn url reply).score := by
  have hreport : reportOn url reply = ["email", "ip"].foldl (addField (.object members))
      (((Report.scored reputationName none).withStatus reply.status).withData "url"
        (.string url.print)) := by
    simp [reportOn, hsound.status, holdsObject_iff.1 hsound.body, succeeded_iff.2 hsound.success]
  rw [hreport]
  constructor
  · simp only [List.foldl_cons, List.foldl_nil, addField_error]
    rfl
  · exact isHighest_foldl_addField hsound.body.isFinite rfl

/-- A reply that is not sound is reported as an error. -/
theorem reportOn_of_not_sound (hfaulty : ∀ members, ¬ Sound reply members) :
    (reportOn url reply).error.isSome = true ∧ (reportOn url reply).score = none := by
  unfold reportOn
  dsimp only
  split
  · exact ⟨rfl, rfl⟩
  · next hstatus =>
    split
    · next members hbody =>
      split
      · next hsucceeded =>
        refine absurd ⟨?_, holdsObject_iff.2 hbody, succeeded_iff.1 hsucceeded⟩ (hfaulty members)
        simpa using hstatus
      · exact ⟨rfl, rfl⟩
    · exact ⟨rfl, rfl⟩

theorem reportOn_status : (reportOn url reply).status = some reply.status := by
  unfold reportOn
  dsimp only
  split
  · rfl
  · split
    · split
      · simp only [List.foldl_cons, List.foldl_nil, addField_status]
        rfl
      · rfl
    · rfl

end Reply

/-! ## Lookups -/

/-- There is nothing to look up for a message. -/
def NothingToAsk (m : Mail.Message) : Prop :=
  (Text.trim m.sender).isEmpty = true ∧ (Text.trim m.ip).isEmpty = true

/-- The request of the lookup for a message, unless there is none. -/
def lookup? (endpoint : String) (m : Mail.Message) : Option Http.Request :=
  (urlFor? endpoint m).toOption.map requestOf

/-- The reasons why a lookup gives no score. -/
inductive Fails (peers : Http.Peers) (endpoint : String) (m : Mail.Message) : Prop where
  | nothingToAsk (hnothing : NothingToAsk m) : Fails peers endpoint m
  | noAnswer {detail : String} (hanswer : peers.ask (lookup? endpoint m) = .error detail) :
      Fails peers endpoint m
  | badStatus {reply : Http.Reply} (hanswer : peers.ask (lookup? endpoint m) = .ok reply)
      (hstatus : reply.isSuccess = false) : Fails peers endpoint m
  | notAnObject {reply : Http.Reply} (hanswer : peers.ask (lookup? endpoint m) = .ok reply)
      (hbody : ∀ members, ¬ HoldsObject reply members) : Fails peers endpoint m
  | noSuccess {reply : Http.Reply} {members : Json.Members}
      (hanswer : peers.ask (lookup? endpoint m) = .ok reply) (hbody : HoldsObject reply members)
      (hsuccess : ¬ Succeeds (.object members)) : Fails peers endpoint m

section Check

variable {peers : Http.Peers} {endpoint : String} {m : Mail.Message}

theorem urlFor?_of_nothingToAsk (hnothing : NothingToAsk m) :
    urlFor? endpoint m = .error "No email or IP available for StopForumSpam lookup" := by
  simp [urlFor?, hnothing.1, hnothing.2]

theorem urlFor?_of_something {url : Http.Url} (hparse : Http.Url.parse endpoint = .ok url)
    (hsome : ¬ NothingToAsk m) :
    urlFor? endpoint m =
      .ok (url.withPairs (lookupPairs (Text.trim m.sender) (Text.trim m.ip))) := by
  have hfound : ((Text.trim m.sender).isEmpty && (Text.trim m.ip).isEmpty) = false := by
    rw [Bool.eq_false_iff, ne_eq, Bool.and_eq_true]
    exact hsome
  unfold urlFor? lookupUrl?
  dsimp only
  rw [hfound, hparse]
  rfl

/-- At an endpoint on the web, what is reported on is what comes back from there. -/
theorem ask_lookup? {url : Http.Url} (hparse : Http.Url.parse endpoint = .ok url)
    (hweb : url.isWeb = true) (hsome : ¬ NothingToAsk m) :
    ∃ request : Http.Request,
      request.url = url.withPairs (lookupPairs (Text.trim m.sender) (Text.trim m.ip)) ∧
        peers.ask (lookup? endpoint m) = peers request := by
  rw [lookup?, urlFor?_of_something hparse hsome]
  exact ⟨_, rfl, if_pos hweb⟩

theorem HoldsObject.unique {reply : Http.Reply} {members members' : Json.Members}
    (hbody : HoldsObject reply members) (hbody' : HoldsObject reply members') :
    members = members' := by
  have heq := (holdsObject_iff.1 hbody).symm.trans (holdsObject_iff.1 hbody')
  cases heq
  rfl

/-- A lookup fails unless a sound reply comes. -/
theorem fails_iff : Fails peers endpoint m ↔
    ∀ reply members, peers.ask (lookup? endpoint m) = .ok reply → ¬ Sound reply members := by
  constructor
  · rintro hfails reply members hanswer hsound
    cases hfails with
    | nothingToAsk hnothing =>
      rw [lookup?, urlFor?_of_nothingToAsk hnothing] at hanswer
      cases hanswer
    | noAnswer hanswer' => cases hanswer.symm.trans hanswer'
    | badStatus hanswer' hstatus =>
      cases hanswer.symm.trans hanswer'
      cases hstatus.symm.trans hsound.status
    | notAnObject hanswer' hbody =>
      cases hanswer.symm.trans hanswer'
      exact hbody members hsound.body
    | noSuccess hanswer' hbody hsuccess =>
      cases hanswer.symm.trans hanswer'
      exact hsuccess (hbody.unique hsound.body ▸ hsound.success)
  · intro hfaulty
    cases hanswer : peers.ask (lookup? endpoint m) with
    | error detail => exact .noAnswer hanswer
    | ok reply =>
      by_cases hstatus : reply.isSuccess = true
      · by_cases hbody : ∃ members, HoldsObject reply members
        · obtain ⟨members, hbody⟩ := hbody
          exact .noSuccess hanswer hbody fun hsuccess =>
            hfaulty reply members hanswer ⟨hstatus, hbody, hsuccess⟩
        · exact .notAnObject hanswer (not_exists.1 hbody)
      · exact .badStatus hanswer (Bool.eq_false_iff.2 hstatus)

theorem check_of_answer {reply : Http.Reply}
    (hanswer : peers.ask (lookup? endpoint m) = .ok reply) :
    ∃ url, check peers endpoint m = reportOn url reply := by
  unfold check
  unfold lookup? at hanswer
  cases hurl : urlFor? endpoint m with
  | error error =>
    rw [hurl] at hanswer
    cases hanswer
  | ok url =>
    rw [hurl] at hanswer
    dsimp only
    change peers.ask (some (requestOf url)) = .ok reply at hanswer
    rw [hanswer]
    exact ⟨url, rfl⟩

theorem check_of_no_answer {detail : String}
    (hanswer : peers.ask (lookup? endpoint m) = .error detail) :
    (check peers endpoint m).error.isSome = true ∧ (check peers endpoint m).score = none ∧
      (check peers endpoint m).status = none := by
  unfold check
  unfold lookup? at hanswer
  cases hurl : urlFor? endpoint m with
  | error error => exact ⟨rfl, rfl, rfl⟩
  | ok url =>
    rw [hurl] at hanswer
    change peers.ask (some (requestOf url)) = .error detail at hanswer
    dsimp only
    rw [hanswer]
    exact ⟨rfl, rfl, rfl⟩

theorem check_error : (check peers endpoint m).error.isSome = true ↔ Fails peers endpoint m := by
  rw [fails_iff]
  cases hanswer : peers.ask (lookup? endpoint m) with
  | error detail => exact iff_of_true (check_of_no_answer hanswer).1 nofun
  | ok reply =>
    obtain ⟨url, hcheck⟩ := check_of_answer hanswer
    rw [hcheck]
    constructor
    · rintro herror reply' members ⟨⟩ hsound
      rw [(reportOn_of_sound url hsound).1] at herror
      cases herror
    · intro hfaulty
      exact (reportOn_of_not_sound url fun members => hfaulty reply members rfl).1

theorem check_score_of_error (herror : (check peers endpoint m).error.isSome = true) :
    (check peers endpoint m).score = none := by
  have hfails := fails_iff.1 (check_error.1 herror)
  cases hanswer : peers.ask (lookup? endpoint m) with
  | error detail => exact (check_of_no_answer hanswer).2.1
  | ok reply =>
    obtain ⟨url, hcheck⟩ := check_of_answer hanswer
    rw [hcheck]
    exact (reportOn_of_not_sound url fun members => hfails reply members hanswer).2

theorem check_sound (herror : (check peers endpoint m).error = none) :
    ∃ reply members, peers.ask (lookup? endpoint m) = .ok reply ∧ Sound reply members ∧
      IsHighest (fun x => Confidence (.object members) "email" x ∨
        Confidence (.object members) "ip" x) (check peers endpoint m).score := by
  have hfails : ¬ Fails peers endpoint m := by
    rw [← check_error, herror]
    nofun
  simp only [fails_iff, not_forall, not_not] at hfails
  obtain ⟨reply, members, hanswer, hsound⟩ := hfails
  obtain ⟨url, hcheck⟩ := check_of_answer hanswer
  rw [hcheck]
  exact ⟨reply, members, hanswer, hsound, (reportOn_of_sound url hsound).2⟩

theorem check_status : (check peers endpoint m).status =
    (peers.ask (lookup? endpoint m)).toOption.map (·.status) := by
  cases hanswer : peers.ask (lookup? endpoint m) with
  | error detail => exact (check_of_no_answer hanswer).2.2
  | ok reply =>
    obtain ⟨url, hcheck⟩ := check_of_answer hanswer
    rw [hcheck]
    exact reportOn_status url

theorem check_score_isFinite {x : Float} (hx : (check peers endpoint m).score = some x) :
    x.isFinite = true := by
  have herror : (check peers endpoint m).error = none := by
    cases herror : (check peers endpoint m).error with
    | none => rfl
    | some error =>
      rw [check_score_of_error (by rw [herror]; rfl)] at hx
      cases hx
  obtain ⟨reply, members, -, hsound, hhighest⟩ := check_sound herror
  rw [hx] at hhighest
  exact hhighest.1.elim (·.isFinite hsound.body.isFinite) (·.isFinite hsound.body.isFinite)

end Check

end Reputation

/-- Only sound answers yield a score, and every score is finite.  The content score is the number
of an object that a successful reply brought whole, and anything else is an error.  The reputation
is the higher confidence of such an object that reports success, if it gives one, and an error for
any of five reasons (`Reputation.Fails`); nothing is asked if there is nothing to look up.  The
status is that of the reply, if one came; and the reply is the one that peers give at the endpoint,
if that is an address on the web. -/
theorem score_of_sound_answer (decoder : Http.Decoder) (peers : Http.Peers) (endpoint : String)
    (m : Mail.Message) :
    (let r := ContentScore.check decoder peers endpoint m
      let answer := peers.ask (ContentScore.request? endpoint m)
      (r.error = none ↔ r.score.isSome = true) ∧
        (∀ x, r.score = some x ↔
          ∃ reply, answer = .ok reply ∧ ContentScore.Gives decoder reply x) ∧
        (∀ x, r.score = some x → x.isFinite = true) ∧
        r.status = answer.toOption.map (·.status) ∧
        ∀ url, Http.Url.parse endpoint = .ok url → url.isWeb = true →
          ∃ request : Http.Request, request.url = url ∧ answer = peers request) ∧
      let r := Reputation.check peers endpoint m
      let answer := peers.ask (Reputation.lookup? endpoint m)
      (r.error.isSome = true ↔ Reputation.Fails peers endpoint m) ∧
        (r.error.isSome = true → r.score = none) ∧
        (r.error = none → ∃ reply members, answer = .ok reply ∧ Reputation.Sound reply members ∧
          IsHighest (fun x => Reputation.Confidence (.object members) "email" x ∨
            Reputation.Confidence (.object members) "ip" x) r.score) ∧
        (∀ x, r.score = some x → x.isFinite = true) ∧
        r.status = answer.toOption.map (·.status) ∧
        (Reputation.NothingToAsk m →
          ∀ peers', Reputation.check peers' endpoint m = Reputation.check peers endpoint m) ∧
        ∀ url, Http.Url.parse endpoint = .ok url → url.isWeb = true →
          ¬ Reputation.NothingToAsk m →
            ∃ request : Http.Request,
              request.url =
                url.withPairs (Reputation.lookupPairs (Text.trim m.sender) (Text.trim m.ip)) ∧
              answer = peers request := by
  refine ⟨⟨ContentScore.check_error decoder peers endpoint m,
      ContentScore.check_score decoder peers endpoint m, fun x hx => ?_,
      ContentScore.check_status decoder peers endpoint m,
      fun url hparse hweb => ContentScore.ask_request? peers endpoint m hparse hweb⟩,
    Reputation.check_error, Reputation.check_score_of_error, Reputation.check_sound,
    fun x hx => Reputation.check_score_isFinite hx, Reputation.check_status,
    fun hnothing peers' => ?_,
    fun url hparse hweb hsome => Reputation.ask_lookup? hparse hweb hsome⟩
  · obtain ⟨reply, -, hgives⟩ := (ContentScore.check_score decoder peers endpoint m x).1 hx
    exact hgives.isFinite
  · unfold Reputation.check
    rw [Reputation.urlFor?_of_nothingToAsk hnothing]

/-- A decoder that knows the ASCII characters alone. -/
def asciiDecoder : Http.Decoder := fun _ bytes => bytes.map fun b =>
  if b < 128 then Char.ofNat b.toNat else Text.Utf8.replacement

/-- A successful reply with a text. -/
def replyOf (text : String) : Http.Reply :=
  ⟨200, some "application/json", some (Text.Utf8.encode text.toList)⟩

/-- Peers that score every message that is sent to them, and list every address that is looked
up. -/
def scoringPeers : Http.Peers := fun request =>
  if request.method = "POST" then .ok (replyOf "\x7b\x22score\x22:\x22 7.5\x22\x7d")
  else .ok (replyOf
    "\x7b\x22success\x22:1,\x22ip\x22:\x7b\x22confidence\x22:\x2297\x22\x7d\x7d")

/-- Over encrypted connections a message is scored and its address is listed; about a message of
which nothing is known the reputation service is not asked. -/
theorem score_of_sound_answer_listing :
    let endpoint := "https://[::1]/api"
    let m : Mail.Message := { (default : Mail.Message) with ip := "192.0.2.1" }
    let unknown : Mail.Message := { (default : Mail.Message) with sender := " " }
    let content := ContentScore.check asciiDecoder scoringPeers endpoint m
    let reputation := Reputation.check scoringPeers endpoint m
    (content.score.map Decimal.Layout.plain.render = some "7.5" ∧
      ∃ x reply, content.score = some x ∧ ContentScore.Gives asciiDecoder reply x ∧
        ∃ request : Http.Request, Http.Url.parse endpoint = .ok request.url ∧
          scoringPeers request = .ok reply) ∧
      (reputation.score.map Decimal.Layout.plain.render = some "97" ∧
        ∃ reply members, Reputation.Sound reply members ∧
          IsHighest (fun x => Reputation.Confidence (.object members) "email" x ∨
            Reputation.Confidence (.object members) "ip" x) reputation.score) ∧
      ∀ peers', Reputation.check peers' endpoint unknown =
        Reputation.check scoringPeers endpoint unknown := by
  intro endpoint m unknown content reputation
  let url : Http.Url :=
    { scheme := "https".toList, authority := some "[::1]".toList
      path := .segments ["api".toList], query := none, fragment := none }
  have hparse : Http.Url.parse "https://[::1]/api" = .ok url := rfl
  obtain ⟨⟨-, hscore, -, -, hasked⟩, -, hfailed, hsound, -⟩ :=
    score_of_sound_answer asciiDecoder scoringPeers endpoint m
  obtain ⟨-, -, -, -, -, -, hnothing, -⟩ :=
    score_of_sound_answer asciiDecoder scoringPeers endpoint unknown
  have hcontent : content.score.map Decimal.Layout.plain.render = some "7.5" := by
    decide +kernel
  have hreputation : reputation.score.map Decimal.Layout.plain.render = some "97" := by
    decide +kernel
  refine ⟨⟨hcontent, ?_⟩, ⟨hreputation, ?_⟩, hnothing ⟨by decide +kernel, by decide +kernel⟩⟩
  · obtain ⟨x, hx, -⟩ := Option.map_eq_some_iff.1 hcontent
    obtain ⟨reply, hreply, hgives⟩ := (hscore x).1 hx
    obtain ⟨request, hurl, hanswer⟩ := hasked url hparse (by decide)
    refine ⟨x, reply, hx, hgives, request, ?_, hanswer.symm.trans hreply⟩
    rw [hurl]
    exact hparse
  · have herror : reputation.error = none := by
      by_contra herror
      rw [hfailed (Option.isSome_iff_ne_none.2 herror)] at hreputation
      cases hreputation
    have hcheck : Reputation.check scoringPeers endpoint m = reputation := rfl
    rw [hcheck] at hsound
    -- From here on the report is not computed any more.
    clear_value reputation
    obtain ⟨reply, members, -, hreply, hhighest⟩ := hsound herror
    exact ⟨reply, members, hreply, hhighest⟩

end SpamVerdict.Provider
