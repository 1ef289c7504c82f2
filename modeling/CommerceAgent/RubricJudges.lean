import CommerceAgent.Attempts
import CommerceAgent.ProviderBodies
import CommerceAgent.Rounding
import Mathlib.Data.Finset.Dedup
import Mathlib.Data.Int.Log

/-! The two judges that score an answer by a rubric: what they read out of a response, how often
they ask, and when they let a case pass. -/
namespace CommerceAgent.Judging

open Json Provider

/-- A `JudgeOutput`, whose subject is a case, or a `MultiTurnJudgeOutput`, whose subject is a
scenario. The scores are a dictionary. -/
structure JudgeOutput where
  subjectId : String
  rubricId : String
  dimensionScores : List (String × ℤ)
  criticalViolations : List String := []
  evidence : List String := []
  rationale : String := ""
  judgePass : Bool := false
  nodup_dimensionScores : (dimensionScores.map Prod.fst).Nodup

structure Dimension where
  name : String
  weight : ℚ
  critical : Bool := false

structure Rubric where
  id : String
  appliesTo : List String := []
  dimensions : List Dimension := []

/-- A rubric file, with the minimum of its global rules. -/
structure Rubrics where
  rubrics : List Rubric := []
  minimumAverageToPass : ℚ := 3

/-- The JSON decoder, and `model_validate` of the output with none for a `ValidationError`. -/
structure Codec where
  loads : String → Decoded
  rawDecode : String → Decoded
  validate : Members → Option JudgeOutput

structure JudgeConfig where
  maxAttempts : ℕ := 3
  one_le_maxAttempts : 1 ≤ maxAttempts
  maxAttempts_le : maxAttempts ≤ 5

structure JudgeResult where
  subjectId : String
  rubricId : Option String := none
  dimensionScores : List (String × ℤ) := []
  weightedScore : Option ℚ := none
  criticalViolations : List String := []
  judgePass : Option Bool := none
  errorCode : Option String := none
  usageTokens : Option ℤ := none
  rationale : String := ""
  judgeCostMicrousd : Option ℤ := none
  evidence : List String := []

/-- Three backticks. -/
def FENCE : List Char := List.replicate 3 (Char.ofNat 96)

/-- A match of `json` that ignores the case; the long s folds to an s. -/
def isJsonWord : List Char → Bool
  | [j, s, o, n] =>
    (j == 'j' || j == 'J') && (s == 's' || s == 'S' || s.toNat == 0x17F) &&
      (o == 'o' || o == 'O') && (n == 'n' || n == 'N')
  | _ => false

/-- The two `re.sub` of `_parse_json_object`. -/
def withoutFences (text : List Char) : List Char :=
  let opened :=
    if FENCE <+: text then
      let rest := text.drop 3
      (if isJsonWord (rest.take 4) then rest.drop 4 else rest).dropWhile Texts.isSpace
    else text
  if FENCE <:+ opened then
    ((opened.take (opened.length - 3)).reverse.dropWhile Texts.isSpace).reverse
  else opened

/-- The first object that a suffix of the text begins with. -/
def firstObject (rawDecode : String → Decoded) : List Char → Except Fault Members
  | [] => .error .valueError
  | c :: rest =>
    if c = '{' then
      match rawDecode (String.ofList (c :: rest)) with
      | .value (.obj members) => .ok members
      | .value _ | .notJson => firstObject rawDecode rest
      -- Only a `JSONDecodeError` leads to the next brace.
      | .refused => .error .valueError
      | .tooDeep => .error .recursionError
    else firstObject rawDecode rest

/-- `_parse_json_object`. -/
def parseJsonObject (π : Codec) (content : String) : Except Fault Members :=
  let text := withoutFences (Texts.strip content).toList
  match π.loads (String.ofList text) with
  | .value (.obj members) => .ok members
  | .value _ => .error .valueError
  | .notJson => firstObject π.rawDecode text
  | .refused => .error .valueError
  | .tooDeep => .error .recursionError

def Rubric.names (rubric : Rubric) : List String := rubric.dimensions.map Dimension.name

/-- An integer that is no boolean, from 0 to 4. -/
def isScore : Payload → Bool
  | .int i => 0 ≤ i && i ≤ 4
  | _ => false

/-- `_coerce_dimension_only_output`. -/
def coerceDimensionOnlyOutput (caseId : String) (rubric : Rubric) (parsed : Members) : Members :=
  let keys := parsed.map Prod.fst
  if ["case_id", "rubric_id", "dimension_scores"].any (· ∈ keys) then parsed
  else if rubric.names = [] ∨ keys.toFinset ≠ rubric.names.toFinset then parsed
  else if parsed.any fun kv => !isScore kv.2 then parsed
  else
    [("case_id", .str caseId), ("rubric_id", .str rubric.id), ("dimension_scores", .obj parsed),
      ("critical_violations", .arr []), ("evidence", .arr []),
      ("rationale", .str "provider_dimension_shorthand"), ("judge_pass", .bool false)]

def PROVIDER_USAGE : String := "__commerce_agent_provider_usage__"

/-- The body of a response to the one `POST` of an attempt. -/
def bodyOf : HttpOutcome → Except Fault Payload
  | .response status body => if isSuccess status then body.get else .error .httpError
  | .transportError | .requestError => .error .httpError

/-- `_call`, up to what the judge makes of the parsed object. -/
def call (π : Codec) (coerce : Members → Members) (attempt : HttpOutcome) :
    Except Fault Members := do
  let body ← bodyOf attempt
  let content ← contentOf body
  match content with
  | .str text => do
    let parsed ← parseJsonObject π text
    pure (Members.set (coerce parsed) PROVIDER_USAGE ((rawUsage body).getD .null))
  | _ => .error .valueError

/-- `{str(d["name"]): d for d in ...}`: the last dimension of a name counts. -/
def byName : List Dimension → List Dimension
  | [] => []
  | d :: rest => if rest.any (·.name = d.name) then byName rest else d :: byName rest

def JudgeOutput.score (output : JudgeOutput) (name : String) : ℤ :=
  (output.dimensionScores.lookup name).getD 0

def Rubric.weighted (rubric : Rubric) (output : JudgeOutput) : ℚ :=
  ((byName rubric.dimensions).map fun d => (output.score d.name : ℚ) * d.weight).sum

/-- What an accepted output says. -/
structure Judgement where
  scores : List (String × ℤ)
  weighted : ℚ
  violations : List String
  passed : Bool
  rationale : String
  evidence : List String

/-- `_normalize`; the judges differ in the violations that they keep. -/
def normalize (keep : List String → List String) (minimum : ℚ) (subjectId : String)
    (rubric : Rubric) (output : JudgeOutput) : Except Fault Judgement :=
  if output.subjectId ≠ subjectId ∨ output.rubricId ≠ rubric.id then .error .valueError
  else if (output.dimensionScores.map Prod.fst).toFinset ≠ rubric.names.toFinset then
    .error .valueError
  else if output.dimensionScores.any fun score => score.2 < 0 || 4 < score.2 then
    .error .valueError
  else
    let weighted := rubric.weighted output
    let criticalLow := output.dimensionScores.any fun score =>
      ((byName rubric.dimensions).find? (·.name = score.1)).any Dimension.critical && score.2 < 2
    let violations := keep output.criticalViolations
    .ok {
      scores := output.dimensionScores
      weighted := Rounding.toDigits 4 weighted
      violations
      passed := minimum ≤ weighted && !criticalLow && violations.isEmpty
      rationale := Texts.take output.rationale 120
      evidence := (output.evidence.take 8).map fun item => Texts.take item 160 }

/-- An integer or a boolean of the usage that a response reports. -/
def totalTokens : Option Payload → Option ℤ
  | some (.obj usage) => match Members.get? usage "total_tokens" with
    | some (.int i) => some i
    | some (.bool b) => some b.toInt
    | _ => none
  | _ => none

theorem lawfulBEq_tokens : LawfulBEq (Option ℤ) := inferInstance

attribute [local instance] lawfulBEq_tokens

def completeSum (values : List (Option ℤ)) : Option ℤ :=
  if values = [] ∨ none ∈ values then none else some (values.map (·.getD 0)).sum

def tokenCount (raw : Members) (key : String) : Option ℕ :=
  match Members.get? raw key with
  | some (.int i) => if 0 ≤ i then some i.toNat else none
  | _ => none

/-- `_normalize_usage` of the rubric judge. -/
def normalizeUsage : Option Payload → Option Costs.TokenUsage
  | some (.obj raw) =>
    let usage : Costs.TokenUsage := {
      inputTokens := tokenCount raw "prompt_tokens"
      outputTokens := tokenCount raw "completion_tokens"
      totalTokens := tokenCount raw "total_tokens"
      cachedInputTokens := tokenCount raw "cached_tokens"
      reasoningTokens := tokenCount raw "reasoning_tokens" }
    if usage.inputTokens.isNone && usage.outputTokens.isNone && usage.totalTokens.isNone &&
        usage.cachedInputTokens.isNone && usage.reasoningTokens.isNone then none
    else some usage
  | _ => none

/-- A `Decimal` in the 28 digits of the default context, ties to even. -/
def decimal (q : ℚ) : ℚ :=
  let scale : ℚ := 10 ^ (27 - Int.log 10 q)
  Rounding.halfEven (q * scale) / scale

/-- `_charge`; no integer of more than 28 digits can be quantized. -/
def charge (tokens : Option ℕ) (price : ℚ≥0) : Except Fault ℤ :=
  match tokens with
  | none => .ok 0
  | some tokens =>
    let amount := decimal (price * tokens)
    if 10 ^ 28 ≤ amount then .error .arithmeticError else .ok ⌊amount + 1 / 2⌋

/-- Each count with the price that it is charged at. -/
def lines (usage : Costs.TokenUsage) (pricing : Costs.ModelPricing) : List (Option ℕ × ℚ≥0) :=
  [(usage.inputTokens, pricing.inputPerMillion), (usage.cachedInputTokens, pricing.cached),
    (usage.outputTokens, pricing.outputPerMillion), (usage.reasoningTokens, pricing.reasoning)]

/-- `CostCalculator.total_microusd`, with what `Decimal` raises. -/
def totalMicrousd (usage : Option Costs.TokenUsage) (pricing : Option Costs.ModelPricing) :
    Except Fault (Option ℤ) :=
  match usage, pricing with
  | some usage, some pricing =>
    if Costs.usageHasBillableTokens usage then do
      let charges ← (lines usage pricing).mapM fun line => charge line.1 line.2
      pure (some charges.sum)
    else .ok none
  | _, _ => .ok none

/-- The usage and the costs of the attempts that were answered. -/
structure Observed where
  usage : List (Option ℤ) := []
  costs : List (Option ℤ) := []

namespace RubricJudge

variable (π : Codec) (pricing : Option Costs.ModelPricing) (minimum : ℚ) (caseId : String)
  (rubric : Rubric)

/-- One turn of the loop of `evaluate`. -/
def attemptOnce (observed : Observed) (attempt : HttpOutcome) :
    Observed × Except Fault JudgeResult :=
  match call π (coerceDimensionOnlyOutput caseId rubric) attempt with
  | .error e => (observed, .error e)
  | .ok raw =>
    let providerUsage := Members.get? raw PROVIDER_USAGE
    let observed := { observed with usage := observed.usage ++ [totalTokens providerUsage] }
    match totalMicrousd (normalizeUsage providerUsage) pricing with
    | .error e => (observed, .error e)
    | .ok cost =>
      let observed := { observed with costs := observed.costs ++ [cost] }
      (observed, do
        let parsed ← (π.validate (Members.pop raw PROVIDER_USAGE)).elim (.error .valueError) .ok
        let judgement ← normalize id minimum caseId rubric parsed
        pure {
          subjectId := caseId
          rubricId := some rubric.id
          dimensionScores := judgement.scores
          weightedScore := some judgement.weighted
          criticalViolations := judgement.violations
          judgePass := some judgement.passed
          usageTokens := completeSum observed.usage
          rationale := judgement.rationale
          judgeCostMicrousd := completeSum observed.costs
          evidence := judgement.evidence })

end RubricJudge

namespace MultiTurnJudge

/-- The violations that `_normalize` keeps, cut to 160 characters. -/
def keep (violations : List String) : List String :=
  (violations.take 8).map fun violation => Texts.take violation 160

variable (π : Codec) (minimum : ℚ) (scenarioId : String) (rubric : Rubric)

def attemptOnce (_ : Unit) (attempt : HttpOutcome) : Unit × Except Fault JudgeResult :=
  ((), do
    let raw ← call π id attempt
    let usage := Members.get? raw PROVIDER_USAGE
    let parsed ← (π.validate (Members.pop raw PROVIDER_USAGE)).elim (.error .valueError) .ok
    let judgement ← normalize keep minimum scenarioId rubric parsed
    pure {
      subjectId := scenarioId
      rubricId := some rubric.id
      dimensionScores := judgement.scores
      weightedScore := some judgement.weighted
      criticalViolations := judgement.violations
      judgePass := some judgement.passed
      usageTokens := totalTokens usage
      rationale := judgement.rationale
      evidence := judgement.evidence })

end MultiTurnJudge

/-- The loop over the attempts, after the rubric was looked for. -/
def judged {σ : Type} (step : Rubric → σ → HttpOutcome → σ × Except Fault JudgeResult) (start : σ)
    (subjectId : String) (selected : Option Rubric) (attempts : List HttpOutcome) :
    Except Fault JudgeResult :=
  match selected with
  | none => .ok { subjectId, errorCode := some "rubric_unavailable" }
  | some rubric =>
    match Attempts.firstOk (step rubric) Fault.Handled start attempts with
    | .ok (some result) => .ok result
    | .ok none => .ok { subjectId, rubricId := some rubric.id, errorCode := some "judge_error" }
    | .error e => .error e

/-- The outcomes of the attempts that the configuration allows. -/
def JudgeConfig.attempts (config : JudgeConfig) (outcomes : ℕ → HttpOutcome) : List HttpOutcome :=
  (List.range config.maxAttempts).map outcomes

/-- The rubric of a kind of task. -/
def Rubrics.ofTask (rubrics : Rubrics) (taskType : String) : Option Rubric :=
  rubrics.rubrics.find? fun rubric => taskType ∈ rubric.appliesTo

def RubricJudge.evaluate (π : Codec) (config : JudgeConfig) (rubrics : Rubrics)
    (pricing : Option Costs.ModelPricing) (caseId taskType : String)
    (outcomes : ℕ → HttpOutcome) : Except Fault JudgeResult :=
  judged (RubricJudge.attemptOnce π pricing rubrics.minimumAverageToPass caseId) {} caseId
    (rubrics.ofTask taskType) (config.attempts outcomes)

def Rubrics.ofDialogue (rubrics : Rubrics) : Option Rubric :=
  rubrics.rubrics.find? fun rubric => rubric.id = "multiturn_response_v1"

def MultiTurnJudge.evaluate (π : Codec) (config : JudgeConfig) (rubrics : Rubrics)
    (scenarioId : String) (outcomes : ℕ → HttpOutcome) : Except Fault JudgeResult :=
  judged (MultiTurnJudge.attemptOnce π rubrics.minimumAverageToPass scenarioId) () scenarioId
    rubrics.ofDialogue (config.attempts outcomes)

end CommerceAgent.Judging
