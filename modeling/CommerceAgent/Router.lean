import CommerceAgent.Protocols
import Mathlib.Algebra.Order.Field.Rat
import Mathlib.Data.Rat.Floor

/-! Fail-closed conversion from classification candidates to a route. -/
namespace CommerceAgent

inductive RouteOutcome where
  | execute
  | askUser
  | handoff
  deriving DecidableEq, Repr

structure RouteDecision where
  outcome : RouteOutcome
  executionMode : Option ExecutionMode := none
  workflowId : Option String := none
  workflowVersion : Option String := none
  intent : Option String := none
  reasonCode : String
  responsePolicy : ResponsePolicy := .execute
  requestDomain : RequestDomain := .unknown
  requestRiskLevel : RequestRiskLevel := .unknown
  deriving DecidableEq, Repr

/-- The bounds of the fields and `require_complete_execute_target`. -/
def RouteDecision.Valid (d : RouteDecision) : Prop :=
  (∀ w ∈ d.workflowId, 1 ≤ w.length ∧ w.length ≤ 128) ∧
  (∀ v ∈ d.workflowVersion, 1 ≤ v.length ∧ v.length ≤ 64) ∧
  (∀ i ∈ d.intent, 1 ≤ i.length ∧ i.length ≤ 128) ∧
  (1 ≤ d.reasonCode.length ∧ d.reasonCode.length ≤ 128) ∧
  (d.outcome = .execute ↔
    d.executionMode.isSome ∧ d.workflowId.isSome ∧ d.workflowVersion.isSome ∧ d.intent.isSome)

instance (d : RouteDecision) : Decidable d.Valid :=
  inferInstanceAs (Decidable (
    (∀ w ∈ d.workflowId, 1 ≤ w.length ∧ w.length ≤ 128) ∧
    (∀ v ∈ d.workflowVersion, 1 ≤ v.length ∧ v.length ≤ 64) ∧
    (∀ i ∈ d.intent, 1 ≤ i.length ∧ i.length ≤ 128) ∧
    (1 ≤ d.reasonCode.length ∧ d.reasonCode.length ≤ 128) ∧
    (d.outcome = .execute ↔
      d.executionMode.isSome ∧ d.workflowId.isSome ∧ d.workflowVersion.isSome ∧
        d.intent.isSome)))

/-- The constructor of `RouteDecision`. -/
def RouteDecision.validate (d : RouteDecision) : Except Exc RouteDecision :=
  if d.Valid then .ok d else .error .validationError

structure IntentRouteRule where
  intent : String
  executionMode : ExecutionMode
  workflowId : String
  workflowVersion : String
  minConfidence : ℚ := 8 / 10
  forceHandoff : Bool := false
  responsePolicy : ResponsePolicy := .execute
  domain : Option RequestDomain := none
  minDomainConfidence : Option ℚ := none
  minRiskConfidence : Option ℚ := none

def policyIsConversational (policy : ResponsePolicy) : Bool :=
  policy ∈ [ResponsePolicy.conversationalResponse, .gracefulUnsupported]

def conversationalRouteAllowed (policy : ResponsePolicy) (domain : RequestDomain)
    (riskLevel : RequestRiskLevel) : Bool :=
  !policyIsConversational policy ||
    (riskLevel == .low && domain ∈ [RequestDomain.social, .capability, .unsupported])

/-- `round(q, 6)`, ties to even. -/
def round6 (q : ℚ) : ℚ :=
  let scaled := q * 1000000
  let down := ⌊scaled⌋
  let rest := scaled - down
  let n := if rest < 1 / 2 then down else if 1 / 2 < rest then down + 1
    else if down % 2 = 0 then down else down + 1
  n / 1000000

def domainCurve : List (ℚ × ℚ) :=
  [(0, 0), (5/10, 40/100), (7/10, 60/100), (8/10, 72/100), (9/10, 84/100), (95/100, 91/100),
    (1, 97/100)]

def riskCurve : List (ℚ × ℚ) :=
  [(0, 0), (5/10, 35/100), (7/10, 58/100), (8/10, 70/100), (9/10, 84/100), (95/100, 92/100),
    (1, 98/100)]

def onCurve (value : ℚ) : List (ℚ × ℚ) → ℚ
  | (leftX, leftY) :: (rightX, rightY) :: rest =>
    if value ≤ rightX then
      round6 (leftY + (value - leftX) / (rightX - leftX) * (rightY - leftY))
    else onCurve value ((rightX, rightY) :: rest)
  | [(_, lastY)] => lastY
  | [] => 0

def conservativeCurve (points : List (ℚ × ℚ)) (raw : ℚ) : ℚ :=
  onCurve (min 1 (max 0 raw)) points

structure CalibratedConfidence where
  overall : ℚ
  domain : ℚ
  risk : ℚ

def calibrateClassification (candidate : IntentClassification) : CalibratedConfidence where
  overall := candidate.confidence
  domain :=
    if candidate.domain = .unknown then 0
    else conservativeCurve domainCurve (candidate.domainConfidence.getD candidate.confidence)
  risk :=
    if candidate.requestRiskLevel = .unknown then 0
    else conservativeCurve riskCurve (candidate.riskConfidence.getD candidate.confidence)

def handoffDecision (reasonCode : String) : RouteDecision where
  outcome := .handoff
  reasonCode := reasonCode

def askUserDecision (reasonCode : String) : RouteDecision where
  outcome := .askUser
  reasonCode := reasonCode

/-- Why a conversational rule does not apply; `none` for every other rule. -/
def conversationalRefusal (rule : IntentRouteRule) (candidate : IntentClassification) :
    Option RouteDecision :=
  if rule.responsePolicy = .execute then none
  else
    let calibrated := calibrateClassification candidate
    if rule.minDomainConfidence.any fun m => calibrated.domain < m then
      some (askUserDecision "LOW_DOMAIN_CONFIDENCE")
    else if rule.minRiskConfidence.any fun m => calibrated.risk < m then
      some (handoffDecision "LOW_RISK_CONFIDENCE")
    else if !conversationalRouteAllowed rule.responsePolicy candidate.domain
        candidate.requestRiskLevel then
      some (handoffDecision "NON_LOW_RISK_CONVERSATIONAL_REQUEST")
    else if rule.domain.any fun d => candidate.domain ≠ d then
      some (handoffDecision "DOMAIN_ROUTE_CONFLICT")
    else none

/-- `IntentRouter.decide` as the executor calls it, without a target tool risk. -/
def IntentRouter.decide (rules : List IntentRouteRule) (candidate : IntentClassification) : RouteDecision :=
  match rules.find? fun rule => rule.intent = candidate.intent with
  | none => handoffDecision "UNKNOWN_INTENT"
  | some rule =>
    if rule.forceHandoff then handoffDecision "INTENT_REQUIRES_HUMAN"
    else if candidate.confidence < rule.minConfidence then
      askUserDecision "LOW_CLASSIFICATION_CONFIDENCE"
    else match conversationalRefusal rule candidate with
    | some decision => decision
    | none =>
      if candidate.riskHint = .write ∧ rule.executionMode = .readonlyLoop then
        handoffDecision "CLASSIFICATION_RISK_CONFLICT"
      else {
        outcome := .execute
        executionMode :=
          some (if candidate.riskHint = .write then .workflow else rule.executionMode)
        workflowId := some rule.workflowId
        workflowVersion := some rule.workflowVersion
        intent := some rule.intent
        reasonCode := "ROUTE_RULE_MATCHED"
        responsePolicy := rule.responsePolicy
        requestDomain := candidate.domain
        requestRiskLevel := candidate.requestRiskLevel }

end CommerceAgent
