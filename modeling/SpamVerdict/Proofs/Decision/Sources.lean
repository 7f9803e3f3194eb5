import Mathlib.Data.List.Nodup
import SpamVerdict.Proofs.Decision.SpfSignal
import SpamVerdict.Proofs.Transcript
set_option autoImplicit false

/-!
# Every source speaks for itself (SPEC_FULL §4.5)

Three sources can speak for blocking.  The signals are folded out of a list of reports in which
names may be repeated and other names may stand, and of each source the last report counts
(`ofReports_eq`).  So a source is triggered exactly if its own last report meets the policy, and
reports of one source never change what another one says (`decide_by_source`).

SPEC_FULL §4.5 gives the condition of each source, and §7 demands that no source keeps another one
from being evaluated: a report is replaced by one of an error, and only its own source is silenced.
-/

namespace SpamVerdict

open Provider (Report contentName reputationName spfName)

/-! ## The last report of a source -/

/-- The names of the sources, in the order in which they are listed where they are triggered. -/
def sourceNames : List String := [contentName, reputationName, spfName]

/-- A report is the last one of a source. -/
def LastOf (source : String) : List Report → Report → Prop :=
  Latest (·.provider = source) (·.provider = source)

/-- The last report of a source, found from the end. -/
def lastOf? (source : String) (reports : List Report) : Option Report :=
  reports.reverse.find? (·.provider = source)

section Last

variable (source : String)

@[simp] theorem lastOf?_nil : lastOf? source [] = none := rfl

theorem lastOf?_append (reports reports' : List Report) :
    lastOf? source (reports ++ reports') =
      (lastOf? source reports').or (lastOf? source reports) := by
  simp only [lastOf?, List.reverse_append, List.find?_append]

theorem lastOf?_snoc (reports : List Report) (r : Report) :
    lastOf? source (reports ++ [r]) =
      if r.provider = source then some r else lastOf? source reports := by
  rw [lastOf?_append]
  by_cases hr : r.provider = source <;> simp [lastOf?, hr]

theorem lastOf?_cons (r : Report) (reports : List Report) :
    lastOf? source (r :: reports) =
      (lastOf? source reports).or (if r.provider = source then some r else none) := by
  rw [← List.singleton_append, lastOf?_append]
  by_cases hr : r.provider = source <;> simp [lastOf?, hr]

variable {source}

theorem lastOf?_eq_some_iff {reports : List Report} {r : Report} :
    lastOf? source reports = some r ↔ LastOf source reports r := by
  induction reports using List.reverseRecOn with
  | nil => exact iff_of_false nofun not_latest_nil
  | append_singleton reports x ih =>
    rw [lastOf?_snoc, LastOf, latest_snoc_iff, ← LastOf, ← ih]
    by_cases hx : x.provider = source
    · simp [hx, eq_comm]
    · simp [hx]

/-- Where names are not repeated, every report is the last one of its source. -/
theorem lastOf_iff_of_nodup {reports : List Report}
    (hnodup : (reports.map (·.provider)).Nodup) {r : Report} :
    LastOf source reports r ↔ r ∈ reports ∧ r.provider = source := by
  constructor
  · rintro ⟨before, after, rfl, hr, -⟩
    exact ⟨List.mem_append_right before List.mem_cons_self, hr⟩
  · rintro ⟨hmem, hr⟩
    obtain ⟨before, after, rfl⟩ := List.append_of_mem hmem
    rw [List.map_append, List.map_cons] at hnodup
    have hlater := (List.nodup_cons.1 hnodup.of_append_right).1
    refine ⟨before, after, rfl, hr, fun later hmem hsame => hlater ?_⟩
    exact List.mem_map.2 ⟨later, hmem, hsame.trans hr.symm⟩

theorem lastOf?_perm {reports reports' : List Report} (hperm : reports.Perm reports')
    (hnodup : (reports.map (·.provider)).Nodup) :
    lastOf? source reports = lastOf? source reports' := by
  have hnodup' : (reports'.map (·.provider)).Nodup := (hperm.map _).nodup_iff.1 hnodup
  apply Option.ext
  intro r
  rw [lastOf?_eq_some_iff, lastOf?_eq_some_iff, lastOf_iff_of_nodup hnodup,
    lastOf_iff_of_nodup hnodup', hperm.mem_iff]

/-- A report of another source can be taken out. -/
theorem lastOf?_of_ne {r : Report} (hr : r.provider ≠ source) (before after : List Report) :
    lastOf? source (before ++ r :: after) = lastOf? source (before ++ after) := by
  rw [lastOf?_append, lastOf?_append, lastOf?_cons, if_neg hr, Option.or_none]

/-- A report that is followed by one of the same source can be taken out. -/
theorem lastOf?_of_repeated {r r' : Report} (hr : r.provider = r'.provider)
    (before between after : List Report) :
    lastOf? source (before ++ r :: (between ++ r' :: after)) =
      lastOf? source (before ++ (between ++ r' :: after)) := by
  by_cases hsource : r'.provider = source
  · simp [lastOf?_append, lastOf?_cons, hr, hsource]
  · exact lastOf?_of_ne (fun h => hsource (hr ▸ h)) before _

/-- The reports with those of a source replaced. -/
def replaceOf (source : String) (f : Report → Report) (reports : List Report) : List Report :=
  reports.map fun r => if r.provider = source then f r else r

variable {f : Report → Report} (hf : ∀ r, (f r).provider = r.provider)

include hf

theorem map_provider_replaceOf (reports : List Report) :
    (replaceOf source f reports).map (·.provider) = reports.map (·.provider) := by
  rw [replaceOf, List.map_map]
  refine List.map_congr_left fun r _ => ?_
  by_cases hr : r.provider = source <;> simp [hr, hf]

theorem lastOf?_replaceOf (other : String) (reports : List Report) :
    lastOf? other (replaceOf source f reports) =
      if other = source then (lastOf? other reports).map f else lastOf? other reports := by
  induction reports using List.reverseRecOn with
  | nil => simp [replaceOf]
  | append_singleton reports r ih =>
    have hsnoc : replaceOf source f (reports ++ [r]) =
        replaceOf source f reports ++ [if r.provider = source then f r else r] := by
      simp [replaceOf]
    rw [hsnoc, lastOf?_snoc, lastOf?_snoc, ih]
    by_cases hr : r.provider = source
    · by_cases hother : other = source
      · simp [hr, hother, hf]
      · simp [hr, hother, hf, Ne.symm hother]
    · by_cases hother : other = source
      · simp [hr, hother]
      · simp [hr, hother]

end Last

/-! ## Signals -/

/-- The signal of each source is read off its last report. -/
theorem Signals.ofReports_eq (reports : List Report) :
    ofReports reports =
      { contentScore := (lastOf? contentName reports).bind (·.score)
        reputation := (lastOf? reputationName reports).bind (·.score)
        spf := (lastOf? spfName reports).bind (·.spfOutcome?) } := by
  induction reports using List.reverseRecOn with
  | nil => rfl
  | append_singleton reports r ih =>
    have hnames :
        contentName ≠ reputationName ∧ contentName ≠ spfName ∧ reputationName ≠ spfName := by
      decide
    rw [ofReports_snoc, ih]
    simp only [lastOf?_snoc, add]
    by_cases hcontent : r.provider = contentName
    · simp [hcontent, hnames]
    · by_cases hreputation : r.provider = reputationName
      · simp [hreputation, hnames.1.symm, hnames.2.2]
      · by_cases hspf : r.provider = spfName
        · simp [hspf, hnames.2.1.symm, hnames.2.2.symm]
        · simp [hcontent, hreputation, hspf]

/-! ## Decisions -/

/-- A report speaks for blocking in the name of a source. -/
inductive Policy.Meets (p : Policy) : String → Report → Prop where
  | content {r : Report} {x : Float} (hscore : r.score = some x) (hx : p.minBlockScore ≤ x) :
      Meets p contentName r
  | reputation {r : Report} {x : Float} (hscore : r.score = some x)
      (hx : p.sfsMinConfidence ≤ x) : Meets p reputationName r
  | spf {r : Report} {o : Spf.Outcome} (houtcome : r.spfOutcome? = some o) (ho : p.Condemns o) :
      Meets p spfName r

/-- Two decisions differ at most in the names that reported. -/
structure Decision.SameButQueried (d d' : Decision) : Prop where
  wouldBlock : d.wouldBlock = d'.wouldBlock
  shouldBlock : d.shouldBlock = d'.shouldBlock
  triggered : d.triggered = d'.triggered
  contentScore : d.contentScore = d'.contentScore
  reputation : d.reputation = d'.reputation
  spf : d.spf = d'.spf

/-- Two decisions differ at most in what one source says, and in whether anything is triggered. -/
structure Decision.SameBut (source : String) (d d' : Decision) : Prop where
  triggered : ∀ other, other ≠ source → (other ∈ d.triggered ↔ other ∈ d'.triggered)
  queried : d.queried = d'.queried
  contentScore : source ≠ contentName → d.contentScore = d'.contentScore
  reputation : source ≠ reputationName → d.reputation = d'.reputation
  spf : source ≠ spfName → d.spf = d'.spf

/-- A source says nothing in a decision. -/
structure Decision.Lacks (source : String) (d : Decision) : Prop where
  triggered : source ∉ d.triggered
  contentScore : source = contentName → d.contentScore = none
  reputation : source = reputationName → d.reputation = none
  spf : source = spfName → d.spf = none

namespace Policy

variable {p : Policy} {reports reports' : List Report}

theorem reaches_iff {score : Option Float} {threshold : Float} :
    reaches score threshold = true ↔ ∃ x, score = some x ∧ threshold ≤ x := by
  cases score <;> simp [reaches]

/-- A source is triggered exactly if its last report meets the policy. -/
theorem mem_triggered_iff {source : String} :
    source ∈ (p.decide reports).triggered ↔
      ∃ r, LastOf source reports r ∧ p.Meets source r := by
  simp only [decide, decideSignals, triggers, Signals.ofReports_eq, List.mem_append,
    List.mem_ite_nil_right, List.mem_singleton, reaches_iff, actionOn_eq_spam_iff,
    Option.bind_eq_some_iff, lastOf?_eq_some_iff]
  constructor
  · rintro ((⟨⟨x, ⟨r, hlast, hscore⟩, hx⟩, rfl⟩ | ⟨⟨x, ⟨r, hlast, hscore⟩, hx⟩, rfl⟩) |
      ⟨⟨o, ⟨r, hlast, houtcome⟩, ho⟩, rfl⟩)
    · exact ⟨r, hlast, .content hscore hx⟩
    · exact ⟨r, hlast, .reputation hscore hx⟩
    · exact ⟨r, hlast, .spf houtcome ho⟩
  · rintro ⟨r, hlast, hmeets⟩
    cases hmeets with
    | content hscore hx => exact .inl (.inl ⟨⟨_, ⟨r, hlast, hscore⟩, hx⟩, rfl⟩)
    | reputation hscore hx => exact .inl (.inr ⟨⟨_, ⟨r, hlast, hscore⟩, hx⟩, rfl⟩)
    | spf houtcome ho => exact .inr ⟨⟨_, ⟨r, hlast, houtcome⟩, ho⟩, rfl⟩

/-- The triggered sources stand in their fixed order, each once. -/
theorem triggered_sublist : (p.decide reports).triggered.Sublist sourceNames := by
  have hone (condition : Prop) [Decidable condition] (name : String) :
      (if condition then [name] else []).Sublist [name] := by
    split
    · exact .refl _
    · exact List.nil_sublist _
  exact ((hone _ contentName).append (hone _ reputationName)).append (hone _ spfName)

/-- Nothing but the last reports of the sources, and for the record the names, enters a decision. -/
theorem decide_sameButQueried
    (hlast : ∀ source ∈ sourceNames, lastOf? source reports = lastOf? source reports') :
    (p.decide reports).SameButQueried (p.decide reports') := by
  have hsignals : Signals.ofReports reports = Signals.ofReports reports' := by
    rw [Signals.ofReports_eq, Signals.ofReports_eq, hlast contentName (by decide),
      hlast reputationName (by decide), hlast spfName (by decide)]
  constructor <;> simp only [decide, decideSignals, hsignals]

section Replacement

variable {source : String} {f : Report → Report} (hf : ∀ r, (f r).provider = r.provider)

include hf

/-- What replaces the reports of one source changes nothing that another one says. -/
theorem decide_replaceOf_sameBut (reports : List Report) :
    (p.decide reports).SameBut source (p.decide (replaceOf source f reports)) := by
  have hlast {other : String} (hother : other ≠ source) :
      lastOf? other (replaceOf source f reports) = lastOf? other reports := by
    rw [lastOf?_replaceOf hf, if_neg hother]
  constructor
  · intro other hother
    simp only [mem_triggered_iff, ← lastOf?_eq_some_iff, hlast hother]
  · exact (map_provider_replaceOf hf reports).symm
  · intro hsource
    simp only [decide, decideSignals, Signals.ofReports_eq, hlast hsource.symm]
  · intro hsource
    simp only [decide, decideSignals, Signals.ofReports_eq, hlast hsource.symm]
  · intro hsource
    simp only [decide, decideSignals, Signals.ofReports_eq, hlast hsource.symm]

/-- A source of which nothing but failures is reported says nothing. -/
theorem decide_replaceOf_lacks (hscore : ∀ r, (f r).score = none)
    (houtcome : ∀ r, (f r).spfOutcome? = none) (reports : List Report) :
    (p.decide (replaceOf source f reports)).Lacks source := by
  have hlast : lastOf? source (replaceOf source f reports) = (lastOf? source reports).map f := by
    rw [lastOf?_replaceOf hf, if_pos rfl]
  have hsilent {α : Type} {signal : Report → Option α} (h : ∀ r, signal (f r) = none) :
      ((lastOf? source reports).map f).bind signal = none := by
    cases lastOf? source reports with
    | none => rfl
    | some r => exact h r
  have hnone (r : Report) (hr : LastOf source (replaceOf source f reports) r) :
      r.score = none ∧ r.spfOutcome? = none := by
    rw [← lastOf?_eq_some_iff, hlast] at hr
    obtain ⟨x, -, rfl⟩ := Option.map_eq_some_iff.1 hr
    exact ⟨hscore x, houtcome x⟩
  constructor
  · rw [mem_triggered_iff]
    rintro ⟨r, hr, hmeets⟩
    obtain ⟨hs, ho⟩ := hnone r hr
    cases hmeets with
    | content hscore hx => cases hs.symm.trans hscore
    | reputation hscore hx => cases hs.symm.trans hscore
    | spf houtcome hcondemned => cases ho.symm.trans houtcome
  · rintro rfl
    simp only [decide, decideSignals, Signals.ofReports_eq, hlast]
    exact hsilent hscore
  · rintro rfl
    simp only [decide, decideSignals, Signals.ofReports_eq, hlast]
    exact hsilent hscore
  · rintro rfl
    simp only [decide, decideSignals, Signals.ofReports_eq, hlast]
    exact hsilent houtcome

end Replacement

/-- The sources are decided on one by one.  A source is triggered exactly if its last report meets
the policy, the triggered ones stand in their fixed order, and a message would be blocked exactly
if there is one.  So reports of other names, reports that are repeated later and, where no name is
repeated, the order of the reports leave no trace but in the names that reported.  Replacing the
reports of one source leaves the others, and the names that reported, as they are; if what comes in
their place has neither a score nor an outcome, the source says nothing. -/
theorem decide_by_source (p : Policy) :
    (∀ reports,
      (∀ source, source ∈ (p.decide reports).triggered ↔
          ∃ r, LastOf source reports r ∧ p.Meets source r) ∧
        (p.decide reports).triggered.Sublist sourceNames ∧
        ((p.decide reports).wouldBlock = true ↔ (p.decide reports).triggered ≠ []) ∧
        (p.decide reports).shouldBlock = ((p.decide reports).wouldBlock && !p.testMode) ∧
        (p.decide reports).queried = reports.map (·.provider)) ∧
      (∀ before r after, r.provider ∉ sourceNames →
        (p.decide (before ++ r :: after)).SameButQueried (p.decide (before ++ after))) ∧
      (∀ before r between r' after, r.provider = r'.provider →
        (p.decide (before ++ r :: (between ++ r' :: after))).SameButQueried
          (p.decide (before ++ (between ++ r' :: after)))) ∧
      (∀ reports reports' : List Report, reports.Perm reports' →
        (reports.map (·.provider)).Nodup →
        (p.decide reports).SameButQueried (p.decide reports')) ∧
      ∀ (source : String) (f : Report → Report), (∀ r, (f r).provider = r.provider) →
        ∀ reports, (p.decide reports).SameBut source (p.decide (replaceOf source f reports)) ∧
          ((∀ r, (f r).score = none ∧ (f r).spfOutcome? = none) →
            (p.decide (replaceOf source f reports)).Lacks source) := by
  refine ⟨fun reports => ⟨fun source => mem_triggered_iff, triggered_sublist, ?_, rfl, rfl⟩,
    ?_, ?_, ?_, ?_⟩
  · simp [decide, decideSignals]
  · intro before r after hr
    exact decide_sameButQueried fun source hsource =>
      lastOf?_of_ne (fun h => hr (h ▸ hsource)) before after
  · intro before r between r' after hname
    exact decide_sameButQueried fun _ _ => lastOf?_of_repeated hname before between after
  · intro reports reports' hperm hnodup
    exact decide_sameButQueried fun _ _ => lastOf?_perm hperm hnodup
  · intro source f hf reports
    refine ⟨decide_replaceOf_sameBut hf reports, fun hnone => ?_⟩
    exact decide_replaceOf_lacks hf (fun r => (hnone r).1) (fun r => (hnone r).2) reports

/-- A failed report of the reputation repeated by an empty one, next to one of the content and one
under a name that is no source's. -/
theorem decide_by_source_mixed :
    let content := Report.scored contentName (some (Decimal.nearestDecimal false 7 0))
    let failure := Report.failed reputationName "no answer"
    let empty := Report.scored reputationName none
    let fail (r : Report) := Report.failed r.provider "no answer"
    ("crm" ∉ sourceNames ∧
        (default.decide ([content] ++ .scored "crm" none :: [failure])).SameButQueried
          (default.decide ([content] ++ [failure]))) ∧
      (failure.provider = empty.provider ∧
        (default.decide ([] ++ failure :: ([content] ++ empty :: []))).SameButQueried
          (default.decide ([] ++ ([content] ++ empty :: [])))) ∧
      (default.decide [content, failure]).SameButQueried (default.decide [failure, content]) ∧
      (default.decide [content, failure]).SameBut contentName
        (default.decide (replaceOf contentName fail [content, failure])) ∧
      (default.decide (replaceOf contentName fail [content, failure])).Lacks contentName := by
  intro content failure empty fail
  obtain ⟨-, hother, hrepeated, hperm, hreplaced⟩ := decide_by_source default
  have hcrm : "crm" ∉ sourceNames := by decide
  obtain ⟨hsame, hlacks⟩ :=
    hreplaced contentName fail (fun _ => rfl) [content, failure]
  exact ⟨⟨hcrm, hother _ (.scored "crm" none) _ hcrm⟩, ⟨rfl, hrepeated _ failure _ empty _ rfl⟩,
    hperm _ _ (.swap _ _ _) (by decide), hsame, hlacks fun _ => ⟨rfl, rfl⟩⟩

end Policy

end SpamVerdict
