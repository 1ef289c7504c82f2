import CommerceAgent.ReviewRounding
import CommerceAgent.Rearrangements

/-! The aggregates of `build_report`: the tracks, the rates and the distributions over the rows. A
dictionary of statistics is the function that looks them up. -/
namespace CommerceAgent.Harness

open Rounding Rearrangements

/-- A case with the evidence that its `expected` names. -/
structure FullCase extends EvalCase where
  evidenceIds : List String := []

/-- What is measured of an attempt, where it is known. -/
structure Measures where
  e2eLatencyMs : Option ℤ := none
  agentInvocationCount : Option ℤ := none
  agentInputTokens : Option ℤ := none
  agentOutputTokens : Option ℤ := none
  agentTotalTokens : Option ℤ := none
  agentCostMicrousd : Option ℤ := none
  agentUsageEstimatedCount : Option ℤ := none

structure FullDriven extends DrivenCase where
  hardFailReasons : List String := []
  dimensions : List (String × Bool) := []
  evidenceIds : List String := []
  measures : Measures := {}

structure FullJudge extends JudgeResult where
  dimensionScores : List (String × ℤ) := []
  weightedScore : Option ℚ := none
  model : Option String := none
  latencyMs : Option ℤ := none
  usageTokens : Option ℤ := none
  judgeCostMicrousd : Option ℤ := none

/-- A row of the report with all that is aggregated. -/
structure FullRow extends CaseReport where
  hardFailReasons : List String
  dimensions : List (String × Bool)
  judgeScore : Option ℚ
  judgeDimensions : List (String × ℤ)
  judgeModel : Option String
  measures : Measures
  judgeLatencyMs : Option ℤ
  judgeTotalTokens : Option ℤ
  judgeCostMicrousd : Option ℤ
  /-- The `evidence_ids` of `expected` and of `actual`. -/
  expectedEvidence : List String
  actualEvidence : List String

/-- What a report is built from. -/
structure FullEvaluation where
  cases : List FullCase
  results : List FullDriven
  judges : List (String × FullJudge) := []
  mode : String := "debug"
  repetitions : ℤ := 1
  cancelled : Bool := false
  judgeEnabled : Option Bool := none
  humanSafetyLabels : Option (List (String × HumanSafetyLabel)) := none
  reviewThresholds : Option ReviewThresholds := none

section Rows

variable (π : Platform) (e : FullEvaluation)

/-- The part of an evaluation that the gate depends on. -/
def FullEvaluation.base : Evaluation where
  cases := e.cases.map FullCase.toEvalCase
  results := e.results.map FullDriven.toDrivenCase
  judges := e.judges.map fun judged => (judged.1, judged.2.toJudgeResult)
  mode := e.mode
  repetitions := e.repetitions
  cancelled := e.cancelled
  judgeEnabled := e.judgeEnabled
  humanSafetyLabels := e.humanSafetyLabels
  reviewThresholds := e.reviewThresholds

def FullEvaluation.judgeRequested : Bool := e.judgeEnabled.getD (!e.judges.isEmpty)

/-- `case_by_id`: the last case with an identifier counts. -/
def FullEvaluation.caseOf (id : String) : Option FullCase := e.cases.reverse.find? fun case => case.id = id

def FullEvaluation.judgeAt (key : String) : Option FullJudge :=
  (e.judges.find? fun judged => judged.1 = key).map Prod.snd

/-- The judge of the n-th attempt of a case. -/
def FullEvaluation.judgeOf (caseId : String) (attemptIndex : ℕ) : Option FullJudge :=
  (e.judgeAt (caseId ++ "#" ++ toString attemptIndex)).or (e.judgeAt caseId)

structure FullAttempt where
  case : FullCase
  driven : FullDriven
  judge : Option FullJudge

def FullAttempt.base (a : FullAttempt) : Attempt :=
  ⟨a.case.toEvalCase, a.driven.toDrivenCase, a.judge.map FullJudge.toJudgeResult⟩

def FullAttempt.row (judgeRequested : Bool) (a : FullAttempt) : FullRow where
  toCaseReport := a.base.row π judgeRequested
  hardFailReasons := a.driven.hardFailReasons
  dimensions := a.driven.dimensions
  judgeScore := a.judge.bind FullJudge.weightedScore
  judgeDimensions := (a.judge.map FullJudge.dimensionScores).getD []
  judgeModel := a.judge.bind FullJudge.model
  measures := a.driven.measures
  judgeLatencyMs := a.judge.bind FullJudge.latencyMs
  judgeTotalTokens := a.judge.bind FullJudge.usageTokens
  judgeCostMicrousd := a.judge.bind FullJudge.judgeCostMicrousd
  expectedEvidence := a.case.evidenceIds.map (sanitize π)
  actualEvidence := a.driven.evidenceIds.map (sanitize π)

/-- The attempts among the results, after those before them. -/
def FullEvaluation.attemptsAfter : List FullAttempt → List FullDriven → List FullAttempt
  | _, [] => []
  | before, driven :: results =>
    match e.caseOf driven.caseId with
    | none => attemptsAfter before results
    | some case =>
      let attemptIndex := (before.countP fun a => a.case.id = case.id) + 1
      let attempt : FullAttempt := ⟨case, driven, e.judgeOf case.id attemptIndex⟩
      attempt :: attemptsAfter (before ++ [attempt]) results

def FullEvaluation.attempts : List FullAttempt := e.attemptsAfter [] e.results

/-- `rows`. -/
def FullEvaluation.rows : List FullRow := e.attempts.map (FullAttempt.row π e.judgeRequested)

end Rows

section Tracks

/-- Every one of the first attempts passes, and there are as many as asked for. -/
def repeatedPass (repetitions : ℤ) (values : List CaseReport) : Bool :=
  decide (repetitions ≤ values.length) && (slice values repetitions).all (·.finalPass = some true)

structure TrackStats where
  selected : ℕ
  attempts : ℕ
  hardPass : ℕ
  judgePass : ℕ
  finalPass : ℕ

/-- The item of a track, over its rows. -/
def trackStats (repetitions : ℤ) (rows : List CaseReport) : TrackStats where
  selected := (grouped rows).length
  attempts := ((grouped rows).map List.length).sum
  hardPass := (grouped rows).countP fun values => values.head?.any (·.hardPass)
  judgePass := (grouped rows).countP fun values => values.head?.any (·.judgePass = some true)
  finalPass := (grouped rows).countP (repeatedPass repetitions)

/-- `tracks`. -/
def tracks (repetitions : ℤ) (rows : List CaseReport) : List (String × TrackStats) :=
  (rows.map CaseReport.track).dedup.map fun name =>
    (name, trackStats repetitions (rows.filter fun row => row.track = name))

/-- A number of cases, as a share of all of them. -/
def caseShare (rows : List CaseReport) (p : List CaseReport → Bool) : ℚ :=
  toDigits 4 (if grouped rows = [] then 0 else (grouped rows).countP p / (grouped rows).length)

end Tracks

section Statistics

variable (rows : List FullRow)

/-- The rows of a scope; one of a track with the name of the overall scope counts there twice. -/
def scopeRows (scope : String) : List FullRow :=
  rows.flatMap fun row => (["overall", row.track].filter (· = scope)).map fun _ => row

structure MeanStats where
  mean : ℚ
  count : ℕ

def meanStats (scores : List ℚ) : Option MeanStats :=
  if scores = [] then none else some ⟨toDigits 4 (scores.sum / scores.length), scores.length⟩

/-- `judge_dimension_stats`. -/
def judgeDimensionStats (scope name : String) : Option MeanStats :=
  meanStats ((scopeRows rows scope).flatMap fun row =>
    (row.judgeDimensions.filter fun dimension => dimension.1 = name).map fun dimension => (dimension.2 : ℚ))

/-- `judge_score_stats`, of the rows with dimensions. -/
def judgeScoreStats (scope : String) : Option MeanStats :=
  meanStats (((scopeRows rows scope).filter fun row => !row.judgeDimensions.isEmpty).filterMap
    FullRow.judgeScore)

structure Distribution where
  count : ℕ
  mean : Option ℚ
  p50 : Option ℚ
  p95 : Option ℚ
  p99 : Option ℚ

/-- `_percentile`, of sorted values. -/
def percentile (values : List ℚ) (quantile : ℚ) : ℚ :=
  if values.length = 1 then toDigits 4 (values.getD 0 0)
  else
    let position : ℚ := (values.length - 1) * quantile
    let lower := ⌊position⌋.toNat
    let upper := min (lower + 1) (values.length - 1)
    toDigits 4 (values.getD lower 0 + (values.getD upper 0 - values.getD lower 0) * (position - lower))

/-- `_distribution`. -/
def distribution (values : List ℚ) : Distribution :=
  if values = [] then ⟨0, none, none, none, none⟩
  else
    let ordered := values.insertionSort (· ≤ ·)
    ⟨ordered.length, some (toDigits 4 (ordered.sum / ordered.length)), some (percentile ordered (50 / 100)),
      some (percentile ordered (95 / 100)), some (percentile ordered (99 / 100))⟩

/-- The share of the invocations whose usage is estimated. -/
def FullRow.estimatedUsageRatio (row : FullRow) : Option ℚ :=
  match row.measures.agentInvocationCount, row.measures.agentUsageEstimatedCount with
  | some invocations, some estimated =>
    if 0 < invocations ∧ 0 ≤ estimated ∧ estimated ≤ invocations then some (estimated / invocations)
    else none
  | _, _ => none

/-- `metric_names`, with the ratio that is computed beside them. -/
def METRICS : List (String × (FullRow → Option ℚ)) :=
  [("e2e_latency_ms", fun row => row.measures.e2eLatencyMs.map Int.cast),
    ("agent_invocation_count", fun row => row.measures.agentInvocationCount.map Int.cast),
    ("agent_input_tokens", fun row => row.measures.agentInputTokens.map Int.cast),
    ("agent_output_tokens", fun row => row.measures.agentOutputTokens.map Int.cast),
    ("agent_total_tokens", fun row => row.measures.agentTotalTokens.map Int.cast),
    ("agent_cost_microusd", fun row => row.measures.agentCostMicrousd.map Int.cast),
    ("judge_latency_ms", fun row => row.judgeLatencyMs.map Int.cast),
    ("judge_total_tokens", fun row => row.judgeTotalTokens.map Int.cast),
    ("judge_cost_microusd", fun row => row.judgeCostMicrousd.map Int.cast),
    ("agent_estimated_usage_ratio", FullRow.estimatedUsageRatio)]

/-- `_performance_stats`. -/
def performanceStats (scope name : String) : Option Distribution :=
  if scopeRows rows scope = [] then none
  else (METRICS.lookup name).map fun metric => distribution ((scopeRows rows scope).filterMap metric)

structure SafetyStats where
  highRiskCases : ℕ
  p0FailureCount : ℕ
  safeNextStepFailureCount : ℕ
  safeNextStepCriticalPass : Bool
  safeNextStepPassRate : ℚ
  handoffCount : ℕ

/-- `_safety_stats`. -/
def safetyStats : Option SafetyStats :=
  let safetyRows := rows.filter fun row => row.track = "safety_response_v2"
  if safetyRows = [] then none
  else
    let safeFailures := safetyRows.countP fun row => row.dimensions.lookup "safe_next_step" = some false
    some {
      highRiskCases := safetyRows.length
      p0FailureCount := safetyRows.countP fun row => !row.hardPass
      safeNextStepFailureCount := safeFailures
      safeNextStepCriticalPass := safeFailures = 0
      safeNextStepPassRate := toDigits 4 ((safetyRows.length - safeFailures) / safetyRows.length)
      handoffCount := safetyRows.countP fun row => row.nextAction = some "handoff" }

structure LongTailStats where
  lowRiskCases : ℕ
  handoffCount : ℕ
  handoffRate : ℚ

/-- `_long_tail_stats`. -/
def longTailStats : Option LongTailStats :=
  let longTailRows := rows.filter fun row => row.track = "long_tail_response_v1"
  if longTailRows = [] then none
  else
    let handoffCount := longTailRows.countP fun row =>
      row.nextAction = some "handoff" ∨ row.nextAction = some "wait_human"
    some ⟨longTailRows.length, handoffCount, toDigits 4 (handoffCount / longTailRows.length)⟩

structure HardDimension where
  passed : ℕ
  total : ℕ
  rate : ℚ

/-- `_hard_dimension_stats`. -/
def hardDimensionStats (track name : String) : Option HardDimension :=
  let values := (rows.filter fun row => row.track = track).flatMap fun row =>
    (row.dimensions.filter fun dimension => dimension.1 = name).map Prod.snd
  if values = [] then none
  else some ⟨values.count true, values.length, toDigits 4 (values.count true / values.length)⟩

/-- `_failure_reason_stats`. -/
def failureReasonStats (reason : String) : ℕ := (rows.flatMap FullRow.hardFailReasons).count reason

structure RagMetric where
  numerator : ℕ
  denominator : ℕ
  rate : Option ℚ

def ragMetric (numerator denominator : ℕ) : RagMetric where
  numerator := numerator
  denominator := denominator
  rate := if denominator = 0 then none else some (toDigits 4 (numerator / denominator))

structure RagStats where
  status : String
  caseCount : ℕ
  recallAtK : Option RagMetric := none
  precisionAtK : Option RagMetric := none
  groundingRate : Option RagMetric := none

/-- The evidence that is both expected and retrieved. -/
def FullRow.evidenceHits (row : FullRow) : ℕ :=
  (row.expectedEvidence.dedup.filter fun id => id ∈ row.actualEvidence).length

/-- `_rag_stats`. -/
def ragStats : RagStats :=
  let ragRows := rows.filter fun row => row.track = "rag_grounding"
  if ragRows = [] then { status := "incomplete", caseCount := 0 }
  else
    let hits := (ragRows.map FullRow.evidenceHits).sum
    let goldTotal := (ragRows.map fun row => row.expectedEvidence.dedup.length).sum
    let retrievedTotal := (ragRows.map fun row => row.actualEvidence.dedup.length).sum
    let groundingPass := ragRows.countP fun row => row.dimensions.lookup "facts" = some true
    { status := if goldTotal = 0 then "incomplete" else "completed"
      caseCount := ragRows.length
      recallAtK := some (ragMetric hits goldTotal)
      precisionAtK := some (ragMetric hits retrievedTotal)
      groundingRate := some (ragMetric groundingPass ragRows.length) }

end Statistics

/-- A report with its aggregates. -/
structure FullReport extends Report where
  firstPassRate : ℚ
  allRepetitionsPassRate : ℚ
  hardPassedCases : ℕ
  judgePassedCases : ℕ
  judgeModels : List String
  tracks : List (String × TrackStats)
  judgeDimensionStats : String → String → Option MeanStats
  judgeScoreStats : String → Option MeanStats
  performanceStats : String → String → Option Distribution
  safetyStats : Option SafetyStats
  longTailStats : Option LongTailStats
  reviewed : Option ReviewedStats
  hardDimensionStats : String → String → Option HardDimension
  failureReasonStats : String → ℕ
  ragStats : RagStats

/-- The review by a person, where there are labels. -/
def FullEvaluation.reviewed (π : Platform) (e : FullEvaluation) : Except String (Option ReviewedStats) :=
  match e.humanSafetyLabels with
  | none => .ok none
  | some labels => some <$> reviewedSafetyStats roundedRate (e.base.rows π) labels e.reviewThresholds

/-- `build_report`, in full. -/
def FullEvaluation.report (π : Platform) (e : FullEvaluation) : Except String FullReport := do
  let base ← buildReport π roundedRate e.base
  let reviewed ← e.reviewed π
  let cases := e.base.rows π
  let rows := e.rows π
  pure {
    toReport := base
    firstPassRate := caseShare cases fun values => values.head?.any (·.finalPass = some true)
    allRepetitionsPassRate := caseShare cases (repeatedPass e.repetitions)
    hardPassedCases := (grouped cases).countP fun values => values.head?.any (·.hardPass)
    judgePassedCases := (grouped cases).countP fun values => values.head?.any (·.judgePass = some true)
    judgeModels := ((rows.filterMap FullRow.judgeModel).filter (· ≠ "")).dedup.insertionSort (· ≤ ·)
    tracks := tracks e.repetitions cases
    judgeDimensionStats := judgeDimensionStats rows
    judgeScoreStats := judgeScoreStats rows
    performanceStats := performanceStats rows
    safetyStats := safetyStats rows
    longTailStats := longTailStats rows
    reviewed := reviewed
    hardDimensionStats := hardDimensionStats rows
    failureReasonStats := failureReasonStats rows
    ragStats := ragStats rows }

end CommerceAgent.Harness
