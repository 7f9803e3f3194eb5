import SpamVerdict.Proofs.Provider.Answers
set_option autoImplicit false

/-!
# The highest score (SPEC_FULL §14.5)

The scores of some reports are weighed one after another against the highest one so far (`raise`).
As long as all of them are numbers their order is total, so a step keeps the highest of what was
seen (`IsHighest.raise`) and a run ends with the highest of all (`isHighest_maxScore`).  Two highest
ones of the same scores are equal numbers (`IsHighest.beq`), so neither the order of the reports
nor reports without a score matter (`maxScore_highest`).

SPEC_FULL §14.5 speaks of the maximum of the scores that there are, "or none".  That a peer cannot
send a value which is no number is shown from the readers of its answers (`isNaN_of_numeric?`).
-/

namespace SpamVerdict.Provider

/-! ## What the highest of some numbers is -/

section Numbers

variable {values : Float → Prop} {found found' : Option Float}

/-- There is no highest one only where there is nothing. -/
theorem IsHighest.eq_none_iff (hfound : IsHighest values found) :
    found = none ↔ ∀ x, ¬ values x := by
  cases found with
  | none => exact iff_of_true rfl hfound
  | some x => exact iff_of_false nofun fun hnone => hnone x hfound.1

/-- The highest of some numbers is settled but for the sign of a zero. -/
theorem IsHighest.beq (hvalues : ∀ x, values x → x.isNaN = false)
    (hfound : IsHighest values found) (hfound' : IsHighest values found') :
    (found == found') = true := by
  match found, found' with
  | none, none => rfl
  | none, some x => exact absurd hfound'.1 (hfound x)
  | some x, none => exact absurd hfound.1 (hfound' x)
  | some x, some x' =>
    have hle : x ≤ x' := hfound'.2 x hfound.1
    have hle' : x' ≤ x := hfound.2 x' hfound'.1
    exact Decimal.beq_of_le_of_le (hvalues x hfound.1) (hvalues x' hfound'.1) hle hle'

end Numbers

/-! ## One score after another -/

/-- The highest score so far, once one more score has been weighed against it. -/
def raise (highest : Option Float) (score : Float) : Option Float :=
  match highest with
  | some m => if score ≤ m then some m else some score
  | none => some score

theorem maxScore_eq (reports : List Report) :
    maxScore reports = (reports.filterMap (·.score)).foldl raise none := rfl

section Scores

variable {score : Float}

theorem isHighest_self (hscore : score.isNaN = false) : IsHighest (· = score) (some score) := by
  refine ⟨rfl, ?_⟩
  rintro y rfl
  exact Decimal.le_self hscore

/-- Among numbers a step keeps the larger one, and the first score as it is. -/
theorem raise_eq_merge {highest : Option Float} (hhighest : ∀ m ∈ highest, m.isNaN = false)
    (hscore : score.isNaN = false) :
    raise highest score = Option.merge Reputation.larger highest (some score) := by
  cases highest with
  | none => rfl
  | some m =>
    have hless : m < score ↔ ¬ score ≤ m := Decimal.lt_iff_not_le (hhighest m rfl) hscore
    by_cases hle : score ≤ m <;> simp [raise, Reputation.larger, hless, hle]

/-- A step ends with the highest of what was seen and the score. -/
theorem IsHighest.raise {values : Float → Prop} {highest : Option Float}
    (hvalues : ∀ x, values x → x.isNaN = false) (hscore : score.isNaN = false)
    (hhighest : IsHighest values highest) :
    IsHighest (fun x => values x ∨ x = score) (raise highest score) := by
  have hnumber : ∀ m ∈ highest, m.isNaN = false := by
    rintro m rfl
    exact hvalues m hhighest.1
  rw [raise_eq_merge hnumber hscore]
  refine Reputation.isHighest_merge hvalues ?_ hhighest (isHighest_self hscore)
  rintro x rfl
  exact hscore

/-- A run over some scores ends with the highest of them. -/
theorem isHighest_foldl {scores : List Float} (hscores : ∀ x ∈ scores, x.isNaN = false) :
    IsHighest (· ∈ scores) (scores.foldl raise none) := by
  induction scores using List.reverseRecOn with
  | nil => exact fun x => List.not_mem_nil
  | append_singleton earlier score ih =>
    have hearlier : ∀ x ∈ earlier, x.isNaN = false := fun x hx =>
      hscores x (List.mem_append_left _ hx)
    have hscore : score.isNaN = false := hscores score List.mem_concat_self
    have hstep := (ih hearlier).raise hearlier hscore
    simpa only [List.foldl_append, List.foldl_cons, List.foldl_nil, List.mem_append,
      List.mem_singleton] using hstep

end Scores

/-! ## Reports -/

/-- A number is the score of one of the reports. -/
def Scored (reports : List Report) (x : Float) : Prop := ∃ r ∈ reports, x ∈ r.score

section Reports

variable {reports reports' unscored : List Report}

theorem isHighest_maxScore (hnumbers : ∀ x, Scored reports x → x.isNaN = false) :
    IsHighest (Scored reports) (maxScore reports) := by
  have hmem : Scored reports = (· ∈ reports.filterMap (·.score)) := by
    funext x
    exact propext List.mem_filterMap.symm
  rw [hmem] at hnumbers ⊢
  rw [maxScore_eq]
  exact isHighest_foldl hnumbers

/-- Reports that stand in another order among reports without a score have the same scores. -/
theorem scored_arranged (hunscored : ∀ r ∈ unscored, r.score = none)
    (harranged : reports'.Perm (unscored ++ reports)) : Scored reports' = Scored reports := by
  funext x
  refine propext (exists_congr fun r => and_congr_left fun hx => ?_)
  rw [harranged.mem_iff, List.mem_append]
  refine or_iff_right fun hr => ?_
  rw [hunscored r hr] at hx
  cases hx

end Reports

/-- What the reader finds in a text is a number. -/
theorem isNaN_of_numeric? {text : String} {v w : Json} {x : Float} (hv : Json.parse? text = some v)
    (hw : w.Within v) (hx : numeric? (some w) = some x) : x.isNaN = false := by
  obtain ⟨_, ⟨⟩, hreads⟩ := numeric?_eq_some_iff.1 hx
  have hfinite : w.IsFinite := (Json.isFinite_of_parse? hv).of_within hw
  exact Decimal.isNaN_eq_false_of_isFinite (hreads.isFinite hfinite)

/-- The highest score of reports whose scores are numbers, as all are that are read from a text:
there is none only if no report has a score, and otherwise it is the score of a report and none is
above it.  Reports in another order and further reports without a score, wherever they stand, leave
it the same number. -/
theorem maxScore_highest :
    (∀ text v w, Json.parse? text = some v → w.Within v →
      ∀ x, numeric? (some w) = some x → x.isNaN = false) ∧
    ∀ reports : List Report, (∀ r ∈ reports, ∀ x ∈ r.score, x.isNaN = false) →
      (maxScore reports = none ↔ ∀ r ∈ reports, r.score = none) ∧
      (∀ x, maxScore reports = some x →
        (∃ r ∈ reports, r.score = some x) ∧ ∀ r ∈ reports, ∀ y ∈ r.score, y ≤ x) ∧
      ∀ unscored reports' : List Report, (∀ r ∈ unscored, r.score = none) →
        reports'.Perm (unscored ++ reports) → (maxScore reports' == maxScore reports) = true := by
  refine ⟨fun text v w hv hw x hx => isNaN_of_numeric? hv hw hx, fun reports hnumbers => ?_⟩
  have hscored : ∀ x, Scored reports x → x.isNaN = false := by
    rintro x ⟨r, hr, hx⟩
    exact hnumbers r hr x hx
  have hhighest : IsHighest (Scored reports) (maxScore reports) := isHighest_maxScore hscored
  refine ⟨?_, ?_, ?_⟩
  · rw [hhighest.eq_none_iff]
    constructor
    · intro hnone r hr
      exact Option.eq_none_iff_forall_not_mem.2 fun x hx => hnone x ⟨r, hr, hx⟩
    · rintro hnone x ⟨r, hr, hx⟩
      rw [hnone r hr] at hx
      cases hx
  · intro x hx
    rw [hx] at hhighest
    exact ⟨hhighest.1, fun r hr y hy => hhighest.2 y ⟨r, hr, hy⟩⟩
  · intro unscored reports' hunscored harranged
    have hsame := scored_arranged hunscored harranged
    have hhighest' : IsHighest (Scored reports) (maxScore reports') :=
      hsame ▸ isHighest_maxScore (hsame ▸ hscored)
    exact hhighest'.beq hscored hhighest

/-- Reports with both zeros and minus infinity for scores. -/
def zeroReports : List Report := [.scored contentName (some 0), .scored reputationName (some (-0)),
  .scored spfName (some (Decimal.ofMagnitude true Decimal.infinityMagnitude))]

/-- The same reports from the end, with a report of an error among them, give the other zero. -/
theorem maxScore_highest_zeros :
    let text := "\x7b\x22score\x22:\x22 7 \x22\x7d"
    let failed := Report.failed spfName "No valid IP address available for SPF check"
    let reports' := zeroReports.reverse.insertIdx 1 failed
    (∃ v w, Json.parse? text = some v ∧ w.Within v ∧ numeric? (some w) = some 7 ∧
      Float.isNaN 7 = false) ∧
    (∀ r ∈ zeroReports, ∀ x ∈ r.score, x.isNaN = false) ∧
      maxScore zeroReports = some 0 ∧ (∀ r ∈ zeroReports, ∀ y ∈ r.score, y ≤ 0) ∧
      (∀ r ∈ [failed], r.score = none) ∧ reports'.Perm ([failed] ++ zeroReports) ∧
      maxScore reports' ≠ maxScore zeroReports ∧
      (maxScore reports' == maxScore zeroReports) = true := by
  intro text failed reports'
  have hread : ((Json.parse? text).bind (Json.get? "score")).bind (fun w => numeric? (some w)) =
      some 7 := by decide +kernel
  obtain ⟨w, hmember, hseven⟩ := Option.bind_eq_some_iff.1 hread
  obtain ⟨v, hv, hget⟩ := Option.bind_eq_some_iff.1 hmember
  have hw : w.Within v := Json.within_of_get? hget
  have hnumbers : ∀ r ∈ zeroReports, ∀ x ∈ r.score, x.isNaN = false := by decide +kernel
  have hzero : maxScore zeroReports = some 0 := by decide +kernel
  have hfailed : ∀ r ∈ [failed], r.score = none := by decide
  have harranged : reports'.Perm ([failed] ++ zeroReports) :=
    (List.perm_insertIdx failed zeroReports.reverse (by decide)).trans
      ((List.reverse_perm zeroReports).cons failed)
  obtain ⟨hreader, hreports⟩ := maxScore_highest
  obtain ⟨-, hhighest, hsame⟩ := hreports zeroReports hnumbers
  exact ⟨⟨v, w, hv, hw, hseven, hreader text v w hv hw 7 hseven⟩, hnumbers, hzero,
    (hhighest 0 hzero).2, hfailed, harranged, by decide +kernel,
    hsame [failed] reports' hfailed harranged⟩

end SpamVerdict.Provider
