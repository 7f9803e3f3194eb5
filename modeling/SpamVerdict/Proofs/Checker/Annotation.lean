import SpamVerdict.Proofs.Checker.TestMode
import SpamVerdict.Proofs.Json.Members
set_option autoImplicit false

/-!
# Annotated variables (SPEC_FULL §14.1, §14.9)

A host may hand annotated variables back to the checker.  Annotating writes three variables, and
none of those that a message is made of is among them.  So annotated variables describe the same
message as before, a check of them is the same step, and of several annotations the last one is
left (`annotation_transparent`).

SPEC_FULL §14.9 names the variables that are written, and §14.1 those that are read.  That no name
is in both lists is all that is used of them.
-/

namespace SpamVerdict

/-! ## Variables that are read -/

namespace Mail

/-- The variables that a message is made of. -/
def messageVars : List String := ["mid", "email", "subject", "header", "message"] ++ addressVars

theorem varText_congr {vars vars' : Vars} {key : String} (h : vars.get? key = vars'.get? key) :
    varText vars key = varText vars' key := by
  rw [varText, varText, h]

theorem sendingIp?_congr {vars vars' : Vars}
    (h : ∀ key ∈ addressVars, vars.get? key = vars'.get? key) (header : String) :
    sendingIp? vars header = sendingIp? vars' header := by
  let address (value : Option Json) : Option Ip.Address :=
    (value.bind Json.string?).bind normalizeIp?
  have hvalues : addressVars.map vars.get? = addressVars.map vars'.get? := List.map_congr_left h
  have hnamed : (addressVars.map vars.get?).findSome? address =
      (addressVars.map vars'.get?).findSome? address := by rw [hvalues]
  rw [List.findSome?_map, List.findSome?_map] at hnamed
  exact congrArg (Option.or · (Ip.preferPublic (candidates header))) hnamed

/-- Variables that agree on what a message is made of describe the same message. -/
theorem Message.ofVars_congr {vars vars' : Vars}
    (h : ∀ key ∈ messageVars, vars.get? key = vars'.get? key) :
    Message.ofVars vars = Message.ofVars vars' := by
  have htext : ∀ key ∈ messageVars, varText vars key = varText vars' key :=
    fun key hkey => varText_congr (h key hkey)
  have hip : ∀ header, sendingIp? vars header = sendingIp? vars' header :=
    sendingIp?_congr fun key hkey => h key (List.mem_append_right _ hkey)
  rw [Message.ofVars, Message.ofVars]
  rw [htext "mid" (by decide), htext "email" (by decide), htext "subject" (by decide),
    htext "header" (by decide), htext "message" (by decide), hip]

end Mail

namespace Checker

/-! ## Variables that are written -/

/-- The variables that a decision is written into. -/
def annotationVars : List String :=
  ["spamblock_provider", "spamblock_score", "spamblock_should_block"]

/-- The variables that an outcome writes, with their texts. -/
def Outcome.annotations (o : Outcome) : List (String × Json) := [
  ("spamblock_provider", .string o.decision.providerTag),
  ("spamblock_score", .string o.decision.scoreText),
  ("spamblock_should_block", .string o.decision.flag)]

namespace Outcome

variable (o : Outcome) (vars : Mail.Vars)

theorem map_annotations : o.annotations.map (·.1) = annotationVars := rfl

theorem annotate_eq : o.annotate vars = Json.Members.insertAll o.annotations vars := rfl

theorem get?_annotate_of_not_mem {key : String} (hkey : key ∉ annotationVars) :
    (o.annotate vars).get? key = vars.get? key := by
  rw [annotate_eq]
  exact Json.Members.get?_insertAll_of_not_mem hkey vars

theorem get?_annotate_of_mem {key : String} {value : Json} (h : (key, value) ∈ o.annotations) :
    (o.annotate vars).get? key = some value := by
  have hkeys : (o.annotations.map (·.1)).Nodup := by
    rw [map_annotations]
    decide
  rw [annotate_eq]
  exact Json.Members.get?_insertAll_of_mem hkeys h vars

theorem annotate_annotate (o' : Outcome) : o'.annotate (o.annotate vars) = o'.annotate vars := by
  have hkeys : (o'.annotations.map (·.1)).Nodup := by
    rw [map_annotations]
    decide
  have hsame : o.annotations.map (·.1) = o'.annotations.map (·.1) := rfl
  simp only [annotate_eq]
  exact Json.Members.insertAll_insertAll hsame hkeys vars

/-- What a decision is written into is nothing that a message is made of. -/
theorem ofVars_annotate : Mail.Message.ofVars (o.annotate vars) = .ofVars vars := by
  have hapart : ∀ key ∈ Mail.messageVars, key ∉ annotationVars := by decide
  exact Mail.Message.ofVars_congr fun key hkey =>
    o.get?_annotate_of_not_mem vars (hapart key hkey)

end Outcome

/-! ## Checks of annotated variables -/

section Checks

variable {σ : Type} [Audit.Repository σ] (c : Checker) (s : State σ) (now : Instant)
  (peers : Http.Peers) (vars : Mail.Vars)

/-- The whole step is the same: the outcome, the annotated variables, the log and the state. -/
theorem step_check_annotate (o : Outcome) :
    c.step s now (.check peers (o.annotate vars)) = c.step s now (.check peers vars) := by
  cases hheader : (Mail.Message.ofVars vars).hasHeader with
  | false =>
    have hannotated : (Mail.Message.ofVars (o.annotate vars)).hasHeader = false := by
      rw [o.ofVars_annotate, hheader]
    rw [step_check_of_no_header c s now hheader, step_check_of_no_header c s now hannotated]
  | true =>
    have hannotated : (Mail.Message.ofVars (o.annotate vars)).hasHeader = true := by
      rw [o.ofVars_annotate, hheader]
    rw [step_check_of_header c s now hheader, step_check_of_header c s now hannotated,
      o.ofVars_annotate]
    dsimp only
    rw [o.annotate_annotate]

/-- The answer to a check depends on the state through the policy alone. -/
theorem step_check_of_policy {s t : State σ} (hpolicy : s.policy = t.policy) (later : Instant) :
    (c.step s now (.check peers vars)).1 = (c.step t later (.check peers vars)).1 := by
  cases hheader : (Mail.Message.ofVars vars).hasHeader with
  | false => rw [step_check_of_no_header c s now hheader, step_check_of_no_header c t later hheader]
  | true =>
    rw [step_check_of_header c s now hheader, step_check_of_header c t later hheader, hpolicy]

variable {c s now peers vars} {o : Outcome}
  (ho : (c.step s now (.check peers vars)).1.outcome? = some o)

include ho

/-- A check that has an outcome found a header, and the outcome is that of the message. -/
theorem eq_check_of_outcome :
    (Mail.Message.ofVars vars).hasHeader = true ∧ o = c.check s.policy peers (.ofVars vars) := by
  cases hheader : (Mail.Message.ofVars vars).hasHeader with
  | false =>
    rw [step_check_of_no_header c s now hheader] at ho
    cases ho
  | true =>
    rw [step_check_of_header c s now hheader] at ho
    exact ⟨rfl, (Option.some.inj ho).symm⟩

theorem mid_of_check : o.mid = (Mail.Message.ofVars vars).mid := by
  obtain ⟨-, rfl⟩ := eq_check_of_outcome ho
  rfl

/-- The outcome of a check of variables is remembered under the id of the message. -/
theorem get?_recent_check (hmid : o.mid ≠ "") :
    (c.step s now (.check peers vars)).2.recent.get? o.mid =
      some ⟨o.sender, o.decision, now⟩ := by
  obtain ⟨hheader, rfl⟩ := eq_check_of_outcome ho
  have hempty : ¬ (c.check s.policy peers (.ofVars vars)).mid.isEmpty = true := by
    simpa using hmid
  rw [step_check_of_header c s now hheader]
  dsimp only
  rw [State.remember, if_neg hempty]
  exact (Ledger.get?_put _ _ _ _).trans (if_pos rfl)

end Checks

/-- Annotation is transparent.  Annotated variables have the texts of the decision under three keys
and what they had under every other one, they describe the same message, and of two annotations
the second one is left.  A check of annotated variables is the same step as one of the variables
themselves; in every state with the same policy it gives the same outcome, and it is remembered
under the id of the same message. -/
theorem annotation_transparent {σ : Type} [Audit.Repository σ] (c : Checker) (s : State σ)
    (now : Instant) (peers : Http.Peers) (vars : Mail.Vars) (o₁ o₂ : Outcome) :
    (∀ key, key ∉ annotationVars → (o₁.annotate vars).get? key = vars.get? key) ∧
      (∀ key value, (key, value) ∈ o₁.annotations →
        (o₁.annotate vars).get? key = some value) ∧
      Mail.Message.ofVars (o₁.annotate vars) = .ofVars vars ∧
      o₂.annotate (o₁.annotate vars) = o₂.annotate vars ∧
      c.step s now (.check peers (o₁.annotate vars)) = c.step s now (.check peers vars) ∧
      ∀ (t : State σ) (later : Instant), t.policy = s.policy →
        let again := c.step t later (.check peers (o₁.annotate vars))
        again.1 = (c.step s now (.check peers vars)).1 ∧
          ∀ o, again.1.outcome? = some o → o.mid ≠ "" →
            o.mid = (Mail.Message.ofVars vars).mid ∧
              again.2.recent.get? o.mid = some ⟨o.sender, o.decision, later⟩ := by
  refine ⟨fun key => o₁.get?_annotate_of_not_mem vars,
    fun key value => o₁.get?_annotate_of_mem vars, o₁.ofVars_annotate vars,
    o₁.annotate_annotate vars o₂, step_check_annotate c s now peers vars o₁, ?_⟩
  intro t later hpolicy again
  have hagain : again = c.step t later (.check peers vars) :=
    step_check_annotate c t later peers vars o₁
  refine ⟨?_, fun o ho hmid => ?_⟩
  · rw [hagain]
    exact step_check_of_policy c later peers vars hpolicy now
  · rw [hagain] at ho ⊢
    exact ⟨mid_of_check ho, get?_recent_check ho hmid⟩

/-- The variables of a message are annotated, handed back under the same policy, and checked. -/
theorem annotation_transparent_sentry :
    let first := sentry.step (.fresh .default) 0 (.check .unreachable drillVars)
    ∃ o, first.1.outcome? = some o ∧
      let again := sentry.step first.2 5 (.check .unreachable (o.annotate drillVars))
      "mid" ∉ annotationVars ∧ (o.annotate drillVars).get? "mid" = drillVars.get? "mid" ∧
        ("spamblock_score", .string o.decision.scoreText) ∈ o.annotations ∧
        (o.annotate drillVars).get? "spamblock_score" = some (.string o.decision.scoreText) ∧
        first.2.policy = (State.fresh .default).policy ∧ again.1 = first.1 ∧
        again.1.outcome? = some o ∧ o.mid ≠ "" ∧
        again.2.recent.get? "1@example.test" = some ⟨o.sender, o.decision, 5⟩ := by
  intro first
  obtain ⟨o, ho⟩ : ∃ o, first.1.outcome? = some o := ⟨_, rfl⟩
  obtain ⟨hothers, hwritten, -, -, -, hagain⟩ :=
    annotation_transparent sentry (.fresh .default) 0 .unreachable drillVars o o
  have hkey : "mid" ∉ annotationVars := by decide
  have hscore : ("spamblock_score", .string o.decision.scoreText) ∈ o.annotations := by
    simp [Outcome.annotations]
  obtain ⟨hsame, hrecalled⟩ := hagain first.2 5 rfl
  have hoAgain := (congrArg Answer.outcome? hsame).trans ho
  have hid : o.mid = "1@example.test" := mid_of_check ho
  have hmid : o.mid ≠ "" := by
    rw [hid]
    decide
  have hrecent := (hrecalled o hoAgain hmid).2
  rw [hid] at hrecent
  exact ⟨o, ho, hkey, hothers _ hkey, hscore, hwritten _ _ hscore, rfl, hsame, hoAgain, hmid,
    hrecent⟩

end Checker

end SpamVerdict
