import CommerceAgent.Router
import CommerceAgent.Rounding
import Mathlib.Data.List.Chain
import Mathlib.Data.Option.Basic
import Mathlib.Tactic.NormNum

/-! The router with the risk of the target tool: what has to hold of a request that is executed, and
that more confidence never takes the execution away. -/
namespace CommerceAgent.Routing

open Rounding

section Calibration

theorem round6_eq_toDigits (q : ℚ) : round6 q = toDigits 6 q := by
  have hscale : (10 : ℚ) ^ 6 = 1000000 := by norm_num
  rw [toDigits, hscale]
  rfl

theorem round6_mono : Monotone round6 := by
  have heq : round6 = toDigits 6 := funext round6_eq_toDigits
  exact heq ▸ toDigits_mono 6

/-- The point of a calibration that follows another. -/
def Rises (left right : ℚ × ℚ) : Prop := left.1 < right.1 ∧ left.2 ≤ right.2

/-- A calibration from 0 on, whose points rise and whose scores are rounded already. -/
structure Profile where
  first : ℚ × ℚ
  points : List (ℚ × ℚ)
  starts : first.1 = 0
  rising : (first :: points).IsChain Rises
  rounded : ∀ p ∈ first :: points, round6 p.2 = p.2

theorem round6_hundredths {n : ℤ} : round6 (n / 100) = n / 100 := by
  rw [round6_eq_toDigits]
  apply toDigits_of_int (n := n * 10000)
  push_cast
  ring

def domainProfile : Profile where
  first := (0, 0)
  points := domainCurve.tail
  starts := rfl
  rising := by simp only [domainCurve, List.tail_cons, List.isChain_cons_cons, Rises]; norm_num
  rounded := by
    have hscores : ∀ p ∈ (0, 0) :: domainCurve.tail, ∃ n : ℤ, p.2 = n / 100 := by
      simp only [domainCurve, List.tail_cons, List.forall_mem_cons]
      exact ⟨⟨0, by norm_num⟩, ⟨40, by norm_num⟩, ⟨60, by norm_num⟩, ⟨72, by norm_num⟩,
        ⟨84, by norm_num⟩, ⟨91, by norm_num⟩, ⟨97, by norm_num⟩, fun _ h => absurd h List.not_mem_nil⟩
    intro p hp
    obtain ⟨n, hn⟩ := hscores p hp
    rw [hn, round6_hundredths]

def riskProfile : Profile where
  first := (0, 0)
  points := riskCurve.tail
  starts := rfl
  rising := by simp only [riskCurve, List.tail_cons, List.isChain_cons_cons, Rises]; norm_num
  rounded := by
    have hscores : ∀ p ∈ (0, 0) :: riskCurve.tail, ∃ n : ℤ, p.2 = n / 100 := by
      simp only [riskCurve, List.tail_cons, List.forall_mem_cons]
      exact ⟨⟨0, by norm_num⟩, ⟨35, by norm_num⟩, ⟨58, by norm_num⟩, ⟨70, by norm_num⟩,
        ⟨84, by norm_num⟩, ⟨92, by norm_num⟩, ⟨98, by norm_num⟩, fun _ h => absurd h List.not_mem_nil⟩
    intro p hp
    obtain ⟨n, hn⟩ := hscores p hp
    rw [hn, round6_hundredths]

/-- The score between two points. -/
def onSegment (left right : ℚ × ℚ) (value : ℚ) : ℚ :=
  left.2 + (value - left.1) / (right.1 - left.1) * (right.2 - left.2)

variable {left right : ℚ × ℚ} {points : List (ℚ × ℚ)} {value value' : ℚ}

theorem onSegment_mono (h : Rises left right) (hle : value ≤ value') :
    onSegment left right value ≤ onSegment left right value' := by
  have hwidth : 0 < right.1 - left.1 := sub_pos.mpr h.1
  have hheight : 0 ≤ right.2 - left.2 := sub_nonneg.mpr h.2
  have hfraction : (value - left.1) / (right.1 - left.1) ≤ (value' - left.1) / (right.1 - left.1) :=
    div_le_div_of_nonneg_right (by linarith) hwidth.le
  have := mul_le_mul_of_nonneg_right hfraction hheight
  unfold onSegment
  linarith

theorem onSegment_left : onSegment left right left.1 = left.2 := by
  simp [onSegment]

theorem onSegment_right (h : Rises left right) : onSegment left right right.1 = right.2 := by
  have hwidth : right.1 - left.1 ≠ 0 := (sub_pos.mpr h.1).ne'
  rw [onSegment, div_self hwidth]
  ring

theorem onCurve_cons_cons : onCurve value (left :: right :: points) =
    if value ≤ right.1 then round6 (onSegment left right value) else onCurve value (right :: points) := rfl

/-- No score is below that of the first point. -/
theorem le_onCurve (hrising : (left :: points).IsChain Rises)
    (hrounded : ∀ p ∈ left :: points, round6 p.2 = p.2) (hvalue : left.1 ≤ value) :
    left.2 ≤ onCurve value (left :: points) := by
  induction points generalizing left with
  | nil => exact le_rfl
  | cons right points ih =>
    obtain ⟨hrises, hrising⟩ := List.isChain_cons_cons.mp hrising
    obtain ⟨hleft, hrounded⟩ := List.forall_mem_cons.mp hrounded
    rw [onCurve_cons_cons]
    split
    · calc left.2 = round6 (onSegment left right left.1) := by rw [onSegment_left, hleft]
        _ ≤ round6 (onSegment left right value) := round6_mono (onSegment_mono hrises hvalue)
    · rename_i hlt
      exact hrises.2.trans (ih hrising hrounded (not_le.mp hlt).le)

/-- A rounded piecewise linear curve through points that rise is monotone across all its segments. -/
theorem onCurve_mono (hrising : (left :: points).IsChain Rises)
    (hrounded : ∀ p ∈ left :: points, round6 p.2 = p.2) (hvalue : left.1 ≤ value) (hle : value ≤ value') :
    onCurve value (left :: points) ≤ onCurve value' (left :: points) := by
  induction points generalizing left with
  | nil => exact le_rfl
  | cons right points ih =>
    obtain ⟨hrises, hrising'⟩ := List.isChain_cons_cons.mp hrising
    obtain ⟨_, hrounded'⟩ := List.forall_mem_cons.mp hrounded
    rw [onCurve_cons_cons, onCurve_cons_cons]
    by_cases hlow' : value' ≤ right.1
    · rw [if_pos hlow', if_pos (hle.trans hlow')]
      exact round6_mono (onSegment_mono hrises hle)
    · rw [if_neg hlow']
      have hright' : right.1 ≤ value' := (not_le.mp hlow').le
      by_cases hlow : value ≤ right.1
      · -- The two values are on both sides of the point between the segments.
        rw [if_pos hlow]
        have hpoint : round6 right.2 = right.2 := hrounded' right List.mem_cons_self
        calc round6 (onSegment left right value)
            ≤ round6 (onSegment left right right.1) := round6_mono (onSegment_mono hrises hlow)
          _ = right.2 := by rw [onSegment_right hrises, hpoint]
          _ ≤ onCurve value' (right :: points) := le_onCurve hrising' hrounded' hright'
      · rw [if_neg hlow]
        exact ih hrising' hrounded' (not_le.mp hlow).le

theorem conservativeCurve_mono (profile : Profile) :
    Monotone (conservativeCurve (profile.first :: profile.points)) := by
  intro raw raw' h
  apply onCurve_mono profile.rising profile.rounded
  · rw [profile.starts]
    exact le_min zero_le_one (le_max_left 0 raw)
  · exact min_le_min_left 1 (max_le_max_left 0 h)

/-- The same candidate with scores that are as high at least. -/
structure MoreConfident (candidate candidate' : IntentClassification) : Prop where
  confidence : candidate.confidence ≤ candidate'.confidence
  domainConfidence : Option.Rel (· ≤ ·) candidate.domainConfidence candidate'.domainConfidence
  riskConfidence : Option.Rel (· ≤ ·) candidate.riskConfidence candidate'.riskConfidence
  same : candidate' = { candidate with
    confidence := candidate'.confidence
    domainConfidence := candidate'.domainConfidence
    riskConfidence := candidate'.riskConfidence }

variable {candidate candidate' : IntentClassification}

theorem getD_le_getD {score score' : Option ℚ} (h : Option.Rel (· ≤ ·) score score')
    (hle : value ≤ value') : score.getD value ≤ score'.getD value' := by
  cases h with
  | some h => exact h
  | none => exact hle

theorem calibrated_domain_mono (h : MoreConfident candidate candidate') :
    (calibrateClassification candidate).domain ≤ (calibrateClassification candidate').domain := by
  have hdomain : candidate'.domain = candidate.domain := by rw [h.same]
  unfold calibrateClassification
  dsimp only
  rw [hdomain]
  split
  · exact le_rfl
  · exact conservativeCurve_mono domainProfile (getD_le_getD h.domainConfidence h.confidence)

theorem calibrated_risk_mono (h : MoreConfident candidate candidate') :
    (calibrateClassification candidate).risk ≤ (calibrateClassification candidate').risk := by
  have hrisk : candidate'.requestRiskLevel = candidate.requestRiskLevel := by rw [h.same]
  unfold calibrateClassification
  dsimp only
  rw [hrisk]
  split
  · exact le_rfl
  · exact conservativeCurve_mono riskProfile (getD_le_getD h.riskConfidence h.confidence)

end Calibration

section Router

inductive ToolRisk where
  | readOnly
  | prepare
  | lowWrite
  | commit
  deriving DecidableEq, Repr

/-- A router that its constructor has accepted. -/
structure IntentRouter where
  rules : List IntentRouteRule
  distinct : (rules.map IntentRouteRule.intent).Nodup

/-- `IntentRouter.__init__`. -/
def IntentRouter.create (rules : List IntentRouteRule) : Except String IntentRouter :=
  if h : (rules.map IntentRouteRule.intent).Nodup then .ok ⟨rules, h⟩
  else .error "duplicate intent route rule"

/-- A write takes a workflow, and no readonly rule. -/
def escalate (write : Bool) (reasonCode : String) (mode : ExecutionMode) :
    Except RouteDecision ExecutionMode :=
  if write then
    if mode = .readonlyLoop then .error (handoffDecision reasonCode) else .ok .workflow
  else .ok mode

/-- `required_mode`, or the handoff of a readonly rule that would write. -/
def requiredMode (mode : ExecutionMode) (riskHint : RiskHint) (targetToolRisk : Option ToolRisk) :
    Except RouteDecision ExecutionMode := do
  let mode ← escalate (riskHint == .write) "CLASSIFICATION_RISK_CONFLICT" mode
  escalate (targetToolRisk.any (· ≠ .readOnly)) "TOOL_RISK_CONFLICT" mode

/-- The route of an execution. -/
def executed (rule : IntentRouteRule) (candidate : IntentClassification) (mode : ExecutionMode) :
    RouteDecision where
  outcome := .execute
  executionMode := some mode
  workflowId := some rule.workflowId
  workflowVersion := some rule.workflowVersion
  intent := some rule.intent
  reasonCode := "ROUTE_RULE_MATCHED"
  responsePolicy := rule.responsePolicy
  requestDomain := candidate.domain
  requestRiskLevel := candidate.requestRiskLevel

/-- The decision of `decide`, before it is validated. -/
def IntentRouter.route (router : IntentRouter) (candidate : IntentClassification)
    (targetToolRisk : Option ToolRisk) : RouteDecision :=
  match router.rules.find? fun rule => rule.intent = candidate.intent with
  | none => handoffDecision "UNKNOWN_INTENT"
  | some rule =>
    if rule.forceHandoff then handoffDecision "INTENT_REQUIRES_HUMAN"
    else if candidate.confidence < rule.minConfidence then
      askUserDecision "LOW_CLASSIFICATION_CONFIDENCE"
    else match conversationalRefusal rule candidate with
    | some decision => decision
    | none =>
      match requiredMode rule.executionMode candidate.riskHint targetToolRisk with
      | .error decision => decision
      | .ok mode => executed rule candidate mode

/-- `IntentRouter.decide`. -/
def IntentRouter.decide (router : IntentRouter) (candidate : IntentClassification)
    (targetToolRisk : Option ToolRisk) : Except Exc RouteDecision :=
  (router.route candidate targetToolRisk).validate

variable {router : IntentRouter} {candidate candidate' : IntentClassification}
  {targetToolRisk : Option ToolRisk} {rule : IntentRouteRule} {mode : ExecutionMode}

theorem escalate_eq_ok {write : Bool} {reasonCode : String} {mode' : ExecutionMode} :
    escalate write reasonCode mode = .ok mode' ↔
      (write = true → mode ≠ .readonlyLoop) ∧ mode' = if write then .workflow else mode := by
  unfold escalate
  cases write <;> cases mode <;> simp [eq_comm]

/-- A readonly rule gets its mode only where nothing writes. -/
theorem requiredMode_readonly {riskHint : RiskHint}
    (h : requiredMode .readonlyLoop riskHint targetToolRisk = .ok mode) :
    riskHint ≠ .write ∧ (targetToolRisk = none ∨ targetToolRisk = some .readOnly) := by
  cases hmode : escalate (riskHint == .write) "CLASSIFICATION_RISK_CONFLICT" .readonlyLoop with
  | error decision =>
    rw [requiredMode, hmode] at h
    exact nomatch h
  | ok mode' =>
    rw [requiredMode, hmode] at h
    obtain ⟨hhint, rfl⟩ := escalate_eq_ok.mp hmode
    have hread : ¬ (riskHint == .write) = true := fun hwrite => hhint hwrite rfl
    rw [if_neg hread] at h
    obtain ⟨htool, _⟩ := escalate_eq_ok.mp h
    refine ⟨fun hwrite => hread (by rw [hwrite]; rfl), ?_⟩
    cases targetToolRisk with
    | none => exact .inl rfl
    | some risk =>
      right
      by_contra hne
      exact htool (by simpa using hne) rfl

/-- Without a target tool risk the route is that of `IntentRouter.decide` as the executor calls it. -/
theorem route_none : router.route candidate none = CommerceAgent.IntentRouter.decide router.rules candidate := by
  unfold IntentRouter.route CommerceAgent.IntentRouter.decide
  cases router.rules.find? fun rule => rule.intent = candidate.intent with
  | none => rfl
  | some rule =>
    dsimp only
    split
    · rfl
    · split
      · rfl
      · cases conversationalRefusal rule candidate with
        | some decision => rfl
        | none =>
          cases hmode : rule.executionMode <;> cases hhint : candidate.riskHint <;>
            simp [requiredMode, escalate, executed, bind, Except.bind]

/-- What has to hold of a rule that is not `EXECUTE` itself before it applies. -/
structure Converses (rule : IntentRouteRule) (candidate : IntentClassification) : Prop where
  domainConfidence : ∀ m ∈ rule.minDomainConfidence, m ≤ (calibrateClassification candidate).domain
  riskConfidence : ∀ m ∈ rule.minRiskConfidence, m ≤ (calibrateClassification candidate).risk
  allowed : conversationalRouteAllowed rule.responsePolicy candidate.domain
    candidate.requestRiskLevel = true
  domain : ∀ d ∈ rule.domain, candidate.domain = d

theorem conversationalRefusal_eq_none : conversationalRefusal rule candidate = none ↔
    (rule.responsePolicy ≠ .execute → Converses rule candidate) := by
  have hconverses : Converses rule candidate ↔
      (¬ (rule.minDomainConfidence.any fun m => (calibrateClassification candidate).domain < m) = true) ∧
      (¬ (rule.minRiskConfidence.any fun m => (calibrateClassification candidate).risk < m) = true) ∧
      conversationalRouteAllowed rule.responsePolicy candidate.domain candidate.requestRiskLevel = true ∧
      ¬ (rule.domain.any fun d => candidate.domain ≠ d) = true := by
    constructor
    · rintro ⟨hdomain, hrisk, hallowed, hmatch⟩
      refine ⟨?_, ?_, hallowed, ?_⟩
      · simpa [Option.any_eq_true] using hdomain
      · simpa [Option.any_eq_true] using hrisk
      · simpa [Option.any_eq_true] using hmatch
    · rintro ⟨hdomain, hrisk, hallowed, hmatch⟩
      refine ⟨?_, ?_, hallowed, ?_⟩
      · simpa [Option.any_eq_true] using hdomain
      · simpa [Option.any_eq_true] using hrisk
      · simpa [Option.any_eq_true] using hmatch
  rw [conversationalRefusal]
  split
  · rename_i hexecute
    simp [hexecute]
  · rename_i hother
    rw [hconverses]
    dsimp only
    split_ifs <;> simp_all

/-- What has to hold of a request that is executed under a rule. -/
structure Executes (rule : IntentRouteRule) (candidate : IntentClassification)
    (targetToolRisk : Option ToolRisk) (mode : ExecutionMode) : Prop where
  automatic : rule.forceHandoff = false
  confident : rule.minConfidence ≤ candidate.confidence
  converses : rule.responsePolicy ≠ .execute → Converses rule candidate
  mode : requiredMode rule.executionMode candidate.riskHint targetToolRisk = .ok mode

theorem conversationalRefusal_outcome {decision : RouteDecision}
    (h : conversationalRefusal rule candidate = some decision) : decision.outcome ≠ .execute := by
  rw [conversationalRefusal] at h
  dsimp only at h
  split_ifs at h <;> cases h <;> decide

theorem requiredMode_outcome {riskHint : RiskHint} {decision : RouteDecision}
    (h : requiredMode mode riskHint targetToolRisk = .error decision) : decision.outcome ≠ .execute := by
  have hescalate : ∀ {write reasonCode} {mode' : ExecutionMode},
      escalate write reasonCode mode' = .error decision → decision.outcome ≠ .execute := by
    intro write reasonCode mode' hrefused
    unfold escalate at hrefused
    split_ifs at hrefused
    cases hrefused
    exact nofun
  cases hmode : escalate (riskHint == .write) "CLASSIFICATION_RISK_CONFLICT" mode with
  | error decision' =>
    rw [requiredMode, hmode] at h
    cases h
    exact hescalate hmode
  | ok mode' =>
    rw [requiredMode, hmode] at h
    exact hescalate h

/-- A request is executed exactly under the rule of its intent, when every guard lets it through. -/
theorem route_execute_iff {d : RouteDecision} :
    router.route candidate targetToolRisk = d ∧ d.outcome = .execute ↔
      ∃ rule mode, router.rules.find? (fun rule => rule.intent = candidate.intent) = some rule ∧
        Executes rule candidate targetToolRisk mode ∧ d = executed rule candidate mode := by
  constructor
  · rintro ⟨hroute, hexecute⟩
    rw [IntentRouter.route] at hroute
    cases hrule : router.rules.find? fun rule => rule.intent = candidate.intent with
    | none =>
      rw [hrule] at hroute
      exact absurd hexecute (hroute ▸ nofun)
    | some rule =>
      rw [hrule] at hroute
      dsimp only at hroute
      split at hroute
      · exact absurd hexecute (hroute ▸ nofun)
      · rename_i hautomatic
        split at hroute
        · exact absurd hexecute (hroute ▸ nofun)
        · rename_i hconfident
          cases hrefusal : conversationalRefusal rule candidate with
          | some decision =>
            rw [hrefusal] at hroute
            exact absurd hexecute (hroute ▸ conversationalRefusal_outcome hrefusal)
          | none =>
            rw [hrefusal] at hroute
            cases hmode : requiredMode rule.executionMode candidate.riskHint targetToolRisk with
            | error decision =>
              rw [hmode] at hroute
              exact absurd hexecute (hroute ▸ requiredMode_outcome hmode)
            | ok mode =>
              rw [hmode] at hroute
              exact ⟨rule, mode, rfl, ⟨Bool.not_eq_true _ ▸ hautomatic, not_lt.mp hconfident,
                conversationalRefusal_eq_none.mp hrefusal, hmode⟩, hroute.symm⟩
  · rintro ⟨rule, mode, hrule, ⟨hautomatic, hconfident, hconverses, hmode⟩, rfl⟩
    refine ⟨?_, rfl⟩
    rw [IntentRouter.route, hrule]
    dsimp only
    rw [if_neg (Bool.not_eq_true _ ▸ hautomatic), if_neg (not_lt.mpr hconfident),
      conversationalRefusal_eq_none.mpr hconverses, hmode]

theorem Converses.mono (h : MoreConfident candidate candidate') (hconverses : Converses rule candidate) :
    Converses rule candidate' := by
  obtain ⟨hdomain, hrisk, hallowed, hmatch⟩ := hconverses
  refine ⟨?_, ?_, ?_, ?_⟩
  · intro m hm
    exact (hdomain m hm).trans (calibrated_domain_mono h)
  · intro m hm
    exact (hrisk m hm).trans (calibrated_risk_mono h)
  · rw [h.same]
    exact hallowed
  · rw [h.same]
    exact hmatch

theorem Executes.mono (h : MoreConfident candidate candidate')
    (hexecutes : Executes rule candidate targetToolRisk mode) :
    Executes rule candidate' targetToolRisk mode := by
  obtain ⟨hautomatic, hconfident, hconverses, hmode⟩ := hexecutes
  refine ⟨hautomatic, hconfident.trans h.confidence, fun hother => (hconverses hother).mono h, ?_⟩
  rw [h.same]
  exact hmode

/-- More confidence leaves the route of an execution as it is. -/
theorem route_mono (h : MoreConfident candidate candidate')
    (hexecute : (router.route candidate targetToolRisk).outcome = .execute) :
    router.route candidate' targetToolRisk = router.route candidate targetToolRisk := by
  obtain ⟨rule, mode, hrule, hexecutes, heq⟩ := route_execute_iff.mp ⟨rfl, hexecute⟩
  have hrule' : router.rules.find? (fun rule => rule.intent = candidate'.intent) = some rule := by
    rw [h.same]
    exact hrule
  have hexecuted : executed rule candidate' mode = executed rule candidate mode := by
    rw [h.same]
    rfl
  have heq' : router.route candidate' targetToolRisk = executed rule candidate' mode :=
    (route_execute_iff.mpr ⟨rule, mode, hrule', hexecutes.mono h, rfl⟩).1
  rw [heq', heq, hexecuted]

theorem decide_eq_ok {d : RouteDecision} (h : router.decide candidate targetToolRisk = .ok d) :
    d = router.route candidate targetToolRisk := by
  rw [IntentRouter.decide, RouteDecision.validate] at h
  split_ifs at h
  exact (Except.ok.inj h).symm

theorem conversational_not_execute {policy : ResponsePolicy} (h : policyIsConversational policy = true) :
    policy ≠ .execute := by
  rintro rfl
  exact absurd h (by decide)

/-- An execution under a readonly rule has nothing that writes, one with a conversational policy is of
low risk, in a domain that is not commerce and that its rule names, and confident enough in both, and
a candidate with more confidence is executed in the same way. -/
theorem router_fail_closed_monotone (router : IntentRouter) (candidate : IntentClassification)
    (targetToolRisk : Option ToolRisk) (d : RouteDecision)
    (hdecided : router.decide candidate targetToolRisk = .ok d) (hexecute : d.outcome = .execute) :
    (∃ rule ∈ router.rules, rule.intent = candidate.intent ∧ d.responsePolicy = rule.responsePolicy ∧
      (rule.executionMode = .readonlyLoop →
        candidate.riskHint ≠ .write ∧ (targetToolRisk = none ∨ targetToolRisk = some .readOnly)) ∧
      (policyIsConversational d.responsePolicy = true →
        candidate.requestRiskLevel = .low ∧
        candidate.domain ∈ [RequestDomain.social, .capability, .unsupported] ∧
        (∀ domain ∈ rule.domain, candidate.domain = domain) ∧
        (∀ m ∈ rule.minDomainConfidence, m ≤ (calibrateClassification candidate).domain) ∧
        ∀ m ∈ rule.minRiskConfidence, m ≤ (calibrateClassification candidate).risk)) ∧
    ∀ candidate', MoreConfident candidate candidate' →
      router.decide candidate' targetToolRisk = .ok d := by
  have hroute := decide_eq_ok hdecided
  obtain ⟨rule, mode, hrule, hexecutes, rfl⟩ := route_execute_iff.mp ⟨hroute.symm, hexecute⟩
  refine ⟨⟨rule, List.mem_of_find?_eq_some hrule, ?_, rfl, ?_, ?_⟩, ?_⟩
  · simpa using List.find?_some hrule
  · intro hreadonly
    have hmode := hexecutes.mode
    rw [hreadonly] at hmode
    exact requiredMode_readonly hmode
  · intro hpolicy
    obtain ⟨hdomain, hrisk, hallowed, hmatch⟩ := hexecutes.converses (conversational_not_execute hpolicy)
    have hlow : candidate.requestRiskLevel = .low ∧
        candidate.domain ∈ [RequestDomain.social, .capability, .unsupported] := by
      have hconversational : policyIsConversational rule.responsePolicy = true := hpolicy
      simpa [conversationalRouteAllowed, hconversational] using hallowed
    exact ⟨hlow.1, hlow.2, hmatch, hdomain, hrisk⟩
  · intro candidate' h
    have hmono : router.route candidate' targetToolRisk = router.route candidate targetToolRisk :=
      route_mono h (hroute ▸ rfl)
    rw [IntentRouter.decide, hmono]
    exact hdecided

def demoRule : IntentRouteRule where
  intent := "greeting"
  executionMode := .readonlyLoop
  workflowId := "chat"
  workflowVersion := "1"
  responsePolicy := .conversationalResponse
  domain := some .social
  minDomainConfidence := some (7 / 10)
  minRiskConfidence := some (7 / 10)

def demoRouter : IntentRouter := ⟨[demoRule], by decide⟩

def demoGreeting : IntentClassification where
  intent := "greeting"
  riskHint := .readOnly
  confidence := 9 / 10
  domain := .social
  requestRiskLevel := .low

/-- A greeting is answered in conversation, and with full confidence as well. -/
theorem router_fail_closed_monotone_greeting :
    demoGreeting.riskHint ≠ .write ∧
    demoRouter.decide { demoGreeting with confidence := 1 } none =
      .ok (executed demoRule demoGreeting .readonlyLoop) := by
  have hroute : demoRouter.route demoGreeting none = executed demoRule demoGreeting .readonlyLoop := by
    decide +kernel
  have hdecided : demoRouter.decide demoGreeting none =
      .ok (executed demoRule demoGreeting .readonlyLoop) := by
    rw [IntentRouter.decide, hroute]
    rfl
  obtain ⟨⟨rule, hrule, _, _, hreadonly, _⟩, hmono⟩ :=
    router_fail_closed_monotone demoRouter demoGreeting none _ hdecided rfl
  obtain rfl := List.mem_singleton.mp hrule
  refine ⟨(hreadonly rfl).1, hmono _ ⟨?_, .none, .none, rfl⟩⟩
  norm_num [demoGreeting]

end Router

end CommerceAgent.Routing
