import CommerceAgent.JsonSizes
import CommerceAgent.Texts
import Mathlib.Data.Finset.Card

/-! The comparison of two evaluation reports and the audit of what it shows: which absent fields compare
equal, and when the verdict is nevertheless one about evidence. -/
namespace CommerceAgent.Baseline

open Json

/-- `==` on the values of a report; `None` equals itself only. -/
structure PyEq where
  eq : Payload → Payload → Bool
  eq_null : ∀ v, eq v .null = true ↔ v = .null

/-- `report.get(name)`. -/
def get (report : Members) (name : String) : Payload := (report.get? name).getD .null

def TRACKS : List String :=
  ["intent_route", "scripted_clarification", "tool_workflow", "rag_grounding", "guardrail_handoff"]

structure TrackShape where
  selected : Payload := .null
  attempts : Payload := .null
  hardPass : Payload := .null

structure JudgeSignature where
  mode : Payload
  configHash : Payload
  models : Payload
  promptHash : Payload
  rubricHash : Payload
  rubricVersion : Payload

structure Projection where
  datasetHash : Payload
  selectedCases : Payload
  completedCases : Payload
  repetitions : Payload
  attempts : Payload
  hardPassedCases : Payload
  judge : Payload
  judgeSignature : JudgeSignature
  finalPass : Payload
  allRepetitionsPassRate : Payload
  tracks : List (String × TrackShape)

def trackShape (tracks : Members) (name : String) : TrackShape :=
  match tracks.get? name with
  | some (.obj value) =>
    { selected := get value "selected", attempts := get value "attempts", hardPass := get value "hard_pass" }
  | _ => {}

def normalizedTracks (report : Members) : List (String × TrackShape) :=
  match report.get? "tracks" with
  | some (.obj tracks) => TRACKS.map fun name => (name, trackShape tracks name)
  | _ => []

def canonicalProjection (report : Members) : Projection where
  datasetHash := get report "dataset_hash"
  selectedCases := get report "selected_cases"
  completedCases := get report "completed_cases"
  repetitions := get report "repetitions"
  attempts := get report "attempts"
  hardPassedCases := get report "hard_passed_cases"
  judge := get report "judge"
  judgeSignature := {
    mode := get report "judge"
    configHash := get report "judge_config_hash"
    models := (report.get? "judge_models").getD (.arr [])
    promptHash := get report "judge_prompt_hash"
    rubricHash := get report "rubric_hash"
    rubricVersion := get report "rubric_version" }
  finalPass := get report "passed_cases"
  allRepetitionsPassRate := get report "all_repetitions_pass_rate"
  tracks := normalizedTracks report

section JudgeInputs

/-- The case and the Judge input hash of a row that has both. -/
def identified : Payload → Option (String × String)
  | .obj row =>
    match Members.get? row "case_id", Members.get? row "judge_input_hash" with
    | some (.str caseId), some (.str inputHash) => some (caseId, inputHash)
    | _, _ => none
  | _ => none

def results (report : Members) : List Payload :=
  match report.get? "results" with
  | some (.arr rows) => rows
  | _ => []

abbrev JudgeInputs : Type := List ((String × ℕ) × String)

/-- A row that is not identified is passed over. -/
def addRow (result : JudgeInputs) (row : Payload) : JudgeInputs :=
  match identified row with
  | some (caseId, inputHash) =>
    result ++ [((caseId, result.countP fun entry => entry.1.1 = caseId), inputHash)]
  | none => result

def judgeInputRows (report : Members) : JudgeInputs := (results report).foldl addRow []

def JudgeInputs.keys (inputs : JudgeInputs) : Finset (String × ℕ) := (inputs.map Prod.fst).toFinset

inductive InputStatus where
  | incomplete
  | mismatch
  | complete
  deriving DecidableEq

structure InputComparison where
  status : InputStatus
  historicalCount : ℕ
  currentCount : ℕ
  sharedCount : ℕ
  matchingCount : ℕ

def compareJudgeInputs (historicalReport currentReport : Members) : InputComparison :=
  let historical := judgeInputRows historicalReport
  let current := judgeInputRows currentReport
  let shared := historical.keys ∩ current.keys
  let matching := (shared.filter fun key => historical.lookup key = current.lookup key).card
  { status :=
      if shared.card ≠ historical.keys.card ∨ shared.card ≠ current.keys.card then .incomplete
      else if matching ≠ shared.card then .mismatch
      else .complete
    historicalCount := historical.keys.card
    currentCount := current.keys.card
    sharedCount := shared.card
    matchingCount := matching }

end JudgeInputs

section Comparison

variable (py : PyEq)

def TrackShape.same (a b : TrackShape) : Bool :=
  py.eq a.selected b.selected && py.eq a.attempts b.attempts && py.eq a.hardPass b.hardPass

def sameTracks (a b : List (String × TrackShape)) : Bool :=
  a.length == b.length && (a.zip b).all fun pair => pair.1.1 == pair.2.1 && pair.1.2.same py pair.2.2

def JudgeSignature.same (a b : JudgeSignature) : Bool :=
  py.eq a.mode b.mode && py.eq a.configHash b.configHash && py.eq a.models b.models &&
    py.eq a.promptHash b.promptHash && py.eq a.rubricHash b.rubricHash &&
    py.eq a.rubricVersion b.rubricVersion

structure Checks where
  datasetHash : Bool
  datasetShape : Bool
  trackShape : Bool
  hardPass : Bool

def Checks.all (c : Checks) : Bool := c.datasetHash && c.datasetShape && c.trackShape && c.hardPass

inductive Status where
  | invariantPreserved
  | regression
  deriving DecidableEq

/-- What the comparison returns, as far as the audit reads it. -/
structure Comparison where
  status : Status
  evidenceComplete : Bool
  judgeScope : Bool
  bothCompleted : Bool
  historical : Projection
  current : Projection
  checks : Checks
  comparable : Bool
  signatureMatch : Bool
  inputHashes : InputComparison

def completed (report : Members) : Bool := py.eq (get report "status") (.str "completed")

def compareChecks (historical current : Projection) : Checks where
  datasetHash := py.eq historical.datasetHash current.datasetHash
  datasetShape := py.eq historical.selectedCases current.selectedCases &&
    py.eq historical.completedCases current.completedCases &&
    py.eq historical.repetitions current.repetitions && py.eq historical.attempts current.attempts
  trackShape := sameTracks py historical.tracks current.tracks
  hardPass := py.eq historical.hardPassedCases current.hardPassedCases &&
    py.eq historical.hardPassedCases historical.selectedCases &&
    py.eq current.hardPassedCases current.selectedCases

def compareStaticBaselines (historicalReport currentReport : Members) : Comparison :=
  let historical := canonicalProjection historicalReport
  let current := canonicalProjection currentReport
  let checks := compareChecks py historical current
  let inputs := compareJudgeInputs historicalReport currentReport
  let signatureMatch := historical.judgeSignature.same py current.judgeSignature
  let bothCompleted := completed py historicalReport && completed py currentReport
  let comparable := signatureMatch && bothCompleted && decide (inputs.status = .complete)
  { status := if checks.all then .invariantPreserved else .regression
    evidenceComplete := checks.all && comparable
    judgeScope := comparable
    bothCompleted := bothCompleted
    historical := historical
    current := current
    checks := checks
    comparable := comparable
    signatureMatch := signatureMatch
    inputHashes := inputs }

end Comparison

section Audit

variable (py : PyEq)

structure AuditPolicy where
  minimumReviewed : ℤ := 20
  expectedCases : ℤ := 300
  expectedAttempts : ℤ := 900
  skipHumanReview : Bool := false
  waiverReason : Option String := none

def integerAtLeast (minimum : ℤ) : Payload → Bool
  | .int i => decide (minimum ≤ i)
  | _ => false

/-- `not value`. -/
def falsy : Payload → Bool
  | .null => true
  | .bool b => !b
  | .int i => i == 0
  | .float repr => repr == "0.0" || repr == "-0.0"
  | .str s => s == ""
  | .arr l => l.isEmpty
  | .obj d => d.isEmpty

def reviewStats (humanReview : Members) : Members :=
  match humanReview.get? "stats" with
  | some (.obj stats) => stats
  | _ => humanReview

def humanReviewComplete (policy : AuditPolicy) (humanReview : Members) : Bool :=
  let stats := reviewStats humanReview
  py.eq (get stats "status") (.str "complete") &&
    integerAtLeast policy.minimumReviewed (get stats "reviewed_count") &&
    integerAtLeast policy.minimumReviewed (get stats "selected_count") &&
    integerAtLeast policy.minimumReviewed (get stats "unique_selected_count") &&
    py.eq (get stats "minimum_count") (.int policy.minimumReviewed) &&
    py.eq ((stats.get? "missing_label_count").getD (.int 0)) (.int 0) &&
    py.eq ((stats.get? "extra_label_count").getD (.int 0)) (.int 0) &&
    falsy ((stats.get? "duplicate_scenario_ids").getD (.arr [])) &&
    (match get stats "gate_pass" with
      | .bool true => true
      | _ => false)

def baselineSize (policy : AuditPolicy) (report : Projection) : Bool :=
  py.eq report.selectedCases (.int policy.expectedCases) &&
    py.eq report.completedCases (.int policy.expectedCases) &&
    py.eq report.attempts (.int policy.expectedAttempts)

/-- `_equal_positive_ints` of the four counts. -/
def InputComparison.equalPositive (c : InputComparison) : Bool :=
  decide (0 < c.historicalCount ∧ c.historicalCount = c.currentCount ∧
    c.historicalCount = c.sharedCount ∧ c.historicalCount = c.matchingCount)

structure AuditChecks where
  humanReviewComplete : Bool
  baselineStatus : Bool
  baselineReportsComplete : Bool
  hardChecksComplete : Bool
  baselineShape : Bool
  judgeDependentComparable : Bool
  finalPassUnchanged : Bool

/-- The checks but the first one. -/
def AuditChecks.automated (c : AuditChecks) : Bool :=
  c.baselineStatus && c.baselineReportsComplete && c.hardChecksComplete && c.baselineShape &&
    c.judgeDependentComparable && c.finalPassUnchanged

structure Audit where
  releaseGate : Bool
  automatedGate : Bool
  checks : AuditChecks

def auditLayeredEvidence (policy : AuditPolicy) (humanReview : Members) (comparison : Comparison) :
    Except String Audit :=
  if policy.minimumReviewed < 1 then .error "minimum_reviewed must be positive"
  else if policy.expectedCases < 1 ∨ policy.expectedAttempts < 1 then
    .error "expected baseline sizes must be positive"
  else if policy.skipHumanReview ∧ policy.waiverReason.getD "" = "" then
    .error "waiver_reason is required when human review is skipped"
  else if policy.waiverReason.any fun reason => Texts.strip reason = "" then
    .error "waiver_reason must not be empty"
  else
    let checks : AuditChecks := {
      humanReviewComplete := humanReviewComplete py policy humanReview
      baselineStatus := decide (comparison.status = .invariantPreserved) && comparison.evidenceComplete &&
        comparison.judgeScope
      baselineReportsComplete := comparison.bothCompleted
      hardChecksComplete := comparison.checks.all
      baselineShape := baselineSize py policy comparison.historical &&
        baselineSize py policy comparison.current
      judgeDependentComparable := comparison.comparable && comparison.signatureMatch &&
        decide (comparison.inputHashes.status = .complete) && comparison.inputHashes.equalPositive
      finalPassUnchanged := comparison.comparable &&
        py.eq comparison.historical.finalPass comparison.current.finalPass }
    let passes := checks.automated && (policy.skipHumanReview || checks.humanReviewComplete)
    .ok {
      releaseGate := passes && !policy.skipHumanReview
      automatedGate := passes
      checks := checks }

end Audit

section Evidence

variable (py : PyEq)

/-- The fields of a report that the comparison is about. -/
def COMPARED : List String :=
  ["dataset_hash", "selected_cases", "completed_cases", "repetitions", "attempts", "hard_passed_cases"]

/-- The compared fields and the five track entries are there. -/
structure Present (report : Members) : Prop where
  fields : ∀ name ∈ COMPARED, get report name ≠ .null
  tracks : ∀ name ∈ TRACKS, ∃ shape, (name, shape) ∈ normalizedTracks report ∧
    shape.selected ≠ .null ∧ shape.attempts ≠ .null ∧ shape.hardPass ≠ .null

/-- The two reports are equal in them, and every case has passed hard. -/
structure Agree (historical current : Members) : Prop where
  fields : ∀ name ∈ COMPARED, py.eq (get historical name) (get current name) = true
  tracks : sameTracks py (normalizedTracks historical) (normalizedTracks current) = true
  passed : ∀ report ∈ [historical, current],
    py.eq (get report "hard_passed_cases") (get report "selected_cases") = true

/-- Every attempt has a Judge input hash. -/
def Judged (report : Members) : Prop := ∀ row ∈ results report, (identified row).isSome = true

/-- Both reports were completed with one Judge, on inputs with the same hashes. -/
structure JudgedAlike (historical current : Members) : Prop where
  completed : completed py historical = true ∧ completed py current = true
  signature : (canonicalProjection historical).judgeSignature.same py
    (canonicalProjection current).judgeSignature = true
  inputs : ∀ key, (judgeInputRows historical).lookup key = (judgeInputRows current).lookup key

/-- What an invariant that is reported as preserved is evidence of. -/
structure HardEvidence (historical current : Members) : Prop where
  historicalPresent : Present historical
  currentPresent : Present current
  agree : Agree py historical current

/-- What complete evidence is evidence of. -/
structure FullEvidence (historical current : Members) : Prop extends HardEvidence py historical current where
  historicalJudged : Judged historical
  currentJudged : Judged current
  same : ∀ key, (judgeInputRows historical).lookup key = (judgeInputRows current).lookup key
  nonempty : judgeInputRows historical ≠ []

/-- What an open release gate is evidence of. -/
structure ReleaseEvidence (policy : AuditPolicy) (humanReview historical current : Members) : Prop extends
    FullEvidence py historical current where
  sizes : baselineSize py policy (canonicalProjection historical) = true ∧
    baselineSize py policy (canonicalProjection current) = true
  reviewed : humanReviewComplete py policy humanReview = true
  labels : ∃ n ≥ policy.minimumReviewed, get (reviewStats humanReview) "reviewed_count" = .int n
  unwaived : policy.skipHumanReview = false

/-- The verdicts are given on evidence only. -/
structure FailClosed (historical current : Members) : Prop where
  preserved : (compareStaticBaselines py historical current).status = .invariantPreserved →
    HardEvidence py historical current
  complete : (compareStaticBaselines py historical current).evidenceComplete = true →
    FullEvidence py historical current
  release : ∀ (policy : AuditPolicy) (humanReview : Members) (audit : Audit),
    auditLayeredEvidence py policy humanReview (compareStaticBaselines py historical current) = .ok audit →
      audit.releaseGate = true → ReleaseEvidence py policy humanReview historical current

variable {py} {historical current : Members}

theorem checks_all_iff :
    (compareChecks py (canonicalProjection historical) (canonicalProjection current)).all = true ↔
      Agree py historical current := by
  simp only [Checks.all, compareChecks, canonicalProjection, Bool.and_eq_true]
  constructor
  · rintro ⟨⟨⟨hhash, ⟨⟨hselected, hcompleted⟩, hrepetitions⟩, hattempts⟩, htracks⟩, ⟨hhard, hpassed⟩, hpassed'⟩
    refine ⟨?_, htracks, ?_⟩
    · simp [COMPARED, hhash, hselected, hcompleted, hrepetitions, hattempts, hhard]
    · simp [hpassed, hpassed']
  · rintro ⟨hfields, htracks, hpassed⟩
    -- The hard passes are compared between the reports, and with the selected cases of each.
    have hfield (name : String) (h : name ∈ COMPARED) := hfields name h
    refine ⟨⟨⟨hfield _ (by simp [COMPARED]), ⟨⟨hfield _ (by simp [COMPARED]), hfield _ (by simp [COMPARED])⟩,
      hfield _ (by simp [COMPARED])⟩, hfield _ (by simp [COMPARED])⟩, htracks⟩,
      ⟨hfield _ (by simp [COMPARED]), hpassed _ (by simp)⟩, hpassed _ (by simp)⟩

theorem status_iff : (compareStaticBaselines py historical current).status = .invariantPreserved ↔
    Agree py historical current := by
  rw [← checks_all_iff]
  simp only [compareStaticBaselines]
  split
  · simp [*]
  · simp_all

theorem lookup_eq_none_iff {inputs : JudgeInputs} {key : String × ℕ} :
    inputs.lookup key = none ↔ key ∉ inputs.keys := by
  rw [JudgeInputs.keys, List.mem_toFinset, List.lookup_eq_none_iff]
  constructor
  · intro h hmem
    obtain ⟨entry, hentry, rfl⟩ := List.mem_map.mp hmem
    simpa using h entry hentry
  · intro h entry hentry
    have hne : key ≠ entry.1 := fun heq => h (List.mem_map.mpr ⟨entry, hentry, heq.symm⟩)
    simpa using hne

/-- The comparison of the inputs is complete when the two maps are one. -/
theorem inputs_complete_iff : (compareJudgeInputs historical current).status = .complete ↔
    ∀ key, (judgeInputRows historical).lookup key = (judgeInputRows current).lookup key := by
  generalize hh : judgeInputRows historical = h
  generalize hc : judgeInputRows current = c
  simp only [compareJudgeInputs, hh, hc]
  constructor
  · intro hstatus key
    split at hstatus
    · cases hstatus
    rename_i hcards
    split at hstatus
    · cases hstatus
    rename_i hmatching
    rw [not_or, not_not, not_not] at hcards
    rw [not_not] at hmatching
    -- The intersection is as large as either set of keys, so it is both of them.
    have hleft : h.keys ∩ c.keys = h.keys := Finset.eq_of_subset_of_card_le Finset.inter_subset_left hcards.1.ge
    have hright : h.keys ∩ c.keys = c.keys := Finset.eq_of_subset_of_card_le Finset.inter_subset_right hcards.2.ge
    have hall := Finset.filter_eq_self.mp
      (Finset.eq_of_subset_of_card_le (Finset.filter_subset _ _) hmatching.ge)
    by_cases hkey : key ∈ h.keys
    · refine hall key ?_
      rw [hleft]
      exact hkey
    · have hkey' : key ∉ c.keys := by
        intro hmem
        rw [← hright, Finset.mem_inter] at hmem
        exact hkey hmem.1
      rw [lookup_eq_none_iff.mpr hkey, lookup_eq_none_iff.mpr hkey']
  · intro hsame
    have hkeys : h.keys = c.keys := by
      ext key
      rw [← not_iff_not, ← lookup_eq_none_iff, ← lookup_eq_none_iff, hsame key]
    rw [if_neg (by simp [hkeys]), if_neg]
    rw [not_not, Finset.filter_true_of_mem fun key _ => hsame key]

theorem comparable_iff : (compareStaticBaselines py historical current).comparable = true ↔
    JudgedAlike py historical current := by
  simp only [compareStaticBaselines, Bool.and_eq_true, decide_eq_true_eq, inputs_complete_iff]
  constructor
  · rintro ⟨⟨hsignature, hcompleted⟩, hinputs⟩
    exact ⟨hcompleted, hsignature, hinputs⟩
  · rintro ⟨hcompleted, hsignature, hinputs⟩
    exact ⟨⟨hsignature, hcompleted⟩, hinputs⟩

theorem evidence_iff : (compareStaticBaselines py historical current).evidenceComplete = true ↔
    Agree py historical current ∧ JudgedAlike py historical current := by
  rw [← checks_all_iff, ← comparable_iff]
  simp only [compareStaticBaselines, Bool.and_eq_true]

theorem exists_of_sameTracks {l l' : List (String × TrackShape)} (h : sameTracks py l l' = true)
    {x : String × TrackShape} (hx : x ∈ l) : ∃ y ∈ l', y.1 = x.1 ∧ x.2.same py y.2 = true := by
  obtain ⟨hlength, hall⟩ := Bool.and_eq_true_iff.mp h
  have hlength : l.length = l'.length := of_decide_eq_true hlength
  obtain ⟨i, hi, rfl⟩ := List.getElem_of_mem hx
  have hi' : i < l'.length := hlength ▸ hi
  have hmem : (l[i], l'.get ⟨i, hi'⟩) ∈ l.zip l' := by
    rw [List.mem_iff_getElem]
    exact ⟨i, by simp [← hlength, hi], by simp⟩
  have hpair := List.all_eq_true.mp hall _ hmem
  rw [Bool.and_eq_true, beq_iff_eq] at hpair
  exact ⟨_, List.getElem_mem _, hpair.1.symm, hpair.2⟩

/-- What is there in the one of two equal values is there in the other. -/
theorem PyEq.ne_null {v w : Payload} (hv : v ≠ .null) (h : py.eq v w = true) : w ≠ .null := by
  rintro rfl
  exact hv ((py.eq_null v).mp h)

theorem Present.transfer (h : Present historical) (hagree : Agree py historical current) :
    Present current := by
  constructor
  · exact fun name hname => PyEq.ne_null (h.fields name hname) (hagree.fields name hname)
  · intro name hname
    obtain ⟨shape, hmem, hselected, hattempts, hhard⟩ := h.tracks name hname
    obtain ⟨⟨name', shape'⟩, hmem', hsame, hshape⟩ := exists_of_sameTracks hagree.tracks hmem
    obtain rfl : name' = name := hsame
    simp only [TrackShape.same, Bool.and_eq_true] at hshape
    exact ⟨shape', hmem', PyEq.ne_null hselected hshape.1.1, PyEq.ne_null hattempts hshape.1.2,
      PyEq.ne_null hhard hshape.2⟩

/-- An open gate has found the evidence complete, the sizes as expected and the review done. -/
theorem release_open {policy : AuditPolicy} {humanReview : Members} {audit : Audit} {comparison : Comparison}
    (h : auditLayeredEvidence py policy humanReview comparison = .ok audit)
    (hopen : audit.releaseGate = true) :
    comparison.evidenceComplete = true ∧ baselineSize py policy comparison.historical = true ∧
      baselineSize py policy comparison.current = true ∧ humanReviewComplete py policy humanReview = true ∧
      policy.skipHumanReview = false := by
  unfold auditLayeredEvidence at h
  split at h
  · cases h
  split at h
  · cases h
  split at h
  · cases h
  split at h
  · cases h
  obtain rfl := Except.ok.inj h
  simp only [AuditChecks.automated, Bool.and_eq_true, Bool.or_eq_true, Bool.not_eq_true'] at hopen
  obtain ⟨⟨⟨⟨⟨⟨⟨⟨⟨-, hevidence⟩, -⟩, -⟩, -⟩, hsize, hsize'⟩, -⟩, -⟩, hreview⟩, hskip⟩ := hopen
  -- The review check passes when it is waived, and a waiver closes the gate at the end.
  rw [hskip] at hreview
  exact ⟨hevidence, hsize, hsize', hreview.resolve_left Bool.false_ne_true, hskip⟩

theorem labels_of_complete {policy : AuditPolicy} {humanReview : Members}
    (h : humanReviewComplete py policy humanReview = true) :
    ∃ n ≥ policy.minimumReviewed, get (reviewStats humanReview) "reviewed_count" = .int n := by
  simp only [humanReviewComplete, Bool.and_eq_true] at h
  obtain ⟨⟨⟨⟨⟨⟨⟨⟨-, hcount⟩, -⟩, -⟩, -⟩, -⟩, -⟩, -⟩, -⟩ := h
  unfold integerAtLeast at hcount
  split at hcount
  · rename_i i hi
    exact ⟨i, of_decide_eq_true hcount, hi⟩
  · cases hcount

variable (py historical current) in
/-- The verdicts are given on evidence only exactly if reports that agree have something to agree on: the
historical one has the compared fields, and where the Judge inputs agree as well there are some, and no
attempt is without one. -/
theorem failClosed_iff : FailClosed py historical current ↔
    (Agree py historical current → Present historical ∧
      (JudgedAlike py historical current → judgeInputRows historical ≠ [] ∧
        Judged historical ∧ Judged current)) := by
  constructor
  · intro h hagree
    refine ⟨(h.preserved (status_iff.mpr hagree)).historicalPresent, fun halike => ?_⟩
    have hfull := h.complete (evidence_iff.mpr ⟨hagree, halike⟩)
    exact ⟨hfull.nonempty, hfull.historicalJudged, hfull.currentJudged⟩
  · intro h
    have hhard (hagree : Agree py historical current) : HardEvidence py historical current :=
      ⟨(h hagree).1, (h hagree).1.transfer hagree, hagree⟩
    have hfull (hevidence : (compareStaticBaselines py historical current).evidenceComplete = true) :
        FullEvidence py historical current := by
      obtain ⟨hagree, halike⟩ := evidence_iff.mp hevidence
      obtain ⟨hnonempty, hjudged, hjudged'⟩ := (h hagree).2 halike
      exact ⟨hhard hagree, hjudged, hjudged', halike.inputs, hnonempty⟩
    refine ⟨fun hstatus => hhard (status_iff.mp hstatus), hfull, ?_⟩
    intro policy humanReview audit haudit hopen
    obtain ⟨hevidence, hsize, hsize', hreview, hskip⟩ := release_open haudit hopen
    exact ⟨hfull hevidence, ⟨hsize, hsize'⟩, hreview, labels_of_complete hreview, hskip⟩

end Evidence

section Demo

/-- Equality of the values of the demonstration. -/
def literalEq : Payload → Payload → Bool
  | .null, .null => true
  | .bool a, .bool b => a == b
  | .int a, .int b => a == b
  | .str a, .str b => a == b
  | .arr [], .arr [] => true
  | _, _ => false

def demoEq : PyEq where
  eq := literalEq
  eq_null := by
    intro v
    cases v <;> simp [literalEq]

/-- Two empty reports agree in every absent field. -/
theorem empty_reports_preserved :
    (compareStaticBaselines demoEq [] []).status = .invariantPreserved ∧ ¬ FailClosed demoEq [] [] := by
  have hstatus : (compareStaticBaselines demoEq [] []).status = .invariantPreserved := by decide
  refine ⟨hstatus, fun h => ?_⟩
  have hpresent := (h.preserved hstatus).historicalPresent
  exact hpresent.fields "dataset_hash" (by simp [COMPARED]) rfl

end Demo

end CommerceAgent.Baseline
