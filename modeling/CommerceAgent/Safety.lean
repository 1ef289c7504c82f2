import Mathlib
import CommerceAgent.Mutations

/-! The deterministic safety boundary: the detector, the router over it and the risk assessment. -/
namespace CommerceAgent

open Json Texts

variable (π : Platform)

inductive SafetyCategory where
  | accountTakeover
  | transactionBypass
  | privacy
  | promptInjection
  | unknownToolState
  | humanSafety
  | none
  deriving DecidableEq, Repr

def SafetyCategory.value : SafetyCategory → String
  | accountTakeover => "account_takeover"
  | transactionBypass => "transaction_bypass"
  | privacy => "privacy"
  | promptInjection => "prompt_injection"
  | unknownToolState => "unknown_tool_state"
  | humanSafety => "human_safety"
  | none => "none"

inductive SafetySeverity where
  | p0
  | p1
  | p2
  deriving DecidableEq, Repr

inductive SafetyDisposition where
  | «continue»
  | deescalate
  | handoff
  | shadow
  deriving DecidableEq, Repr

def SafetyDisposition.value : SafetyDisposition → String
  | «continue» => "continue"
  | deescalate => "deescalate"
  | handoff => "handoff"
  | shadow => "shadow"

structure SafetyAssessment where
  category : SafetyCategory
  severity : SafetySeverity
  riskLevel : RequestRiskLevel
  reasonCode : String
  hardBlock : Bool
  disposition : SafetyDisposition
  safeNextStep : String
  matched : Bool
  deriving DecidableEq, Repr

def DETECTOR_VERSION : String := "deterministic-safety-v1"

/-- One entry of `_RULES`; all of them are P0. -/
structure SafetyRule where
  category : SafetyCategory
  reason : String
  patterns : List String

def SAFETY_RULES : List SafetyRule :=
  [⟨.promptInjection, "PROMPT_INJECTION",
      ["忽略系统规则", "绕过系统", "泄露提示词", "system prompt", "ignore previous"]⟩,
    ⟨.transactionBypass, "CONFIRMATION_BYPASS",
      ["绕过确认", "不要确认", "跳过确认", "忽略确认", "直接退款", "直接帮我退款", "无需确认"]⟩,
    ⟨.privacy, "CREDENTIAL_REQUEST",
      ["验证码", "密码", "银行卡号", "卡号", "支付密码", "登录凭证"]⟩,
    ⟨.accountTakeover, "CROSS_ACCOUNT_ACCESS",
      ["同事的订单", "前任的订单", "客户的订单", "别人的订单", "他人的订单"]⟩,
    ⟨.unknownToolState, "UNKNOWN_TOOL_STATE",
      ["接口超时", "状态未知", "不知道有没有退", "告诉我已经退好了"]⟩]

/-- `any(pattern.lower() in text for pattern in patterns)`. -/
def SafetyRule.matches (rule : SafetyRule) (text : String) : Bool :=
  rule.patterns.any fun pattern => contains text (π.lower pattern)

def SafetyRule.assessment (rule : SafetyRule) : SafetyAssessment where
  category := rule.category
  severity := .p0
  riskLevel := .high
  reasonCode := rule.reason
  hardBlock := true
  disposition := .handoff
  safeNextStep := "停止自动操作并由人工核验"
  matched := true

def detect (content : String) : SafetyAssessment :=
  let text := π.lower (strip content)
  match SAFETY_RULES.find? fun rule => rule.matches π text with
  | some rule => rule.assessment
  | none => {
      category := .none
      severity := .p2
      riskLevel := .unknown
      reasonCode := "RISK_REQUIRES_INTENT_TRIAGE"
      hardBlock := false
      disposition := .continue
      safeNextStep := "继续执行受控意图识别"
      matched := false }

/-- The validated answer of the semantic triage. -/
structure RiskTriageOutput where
  riskLevel : RequestRiskLevel
  category : SafetyCategory

/-- `LLMRiskTriage.classify`: an answer that is not confident or not valid is none. -/
abbrev LLMRiskTriage : Type := String → Except Exc (Option RiskTriageOutput)

structure SafetyRoute where
  assessment : SafetyAssessment
  effectiveDisposition : SafetyDisposition
  shadowOnly : Bool
  deriving DecidableEq, Repr

def SafetyAssessment.escalate (assessment : SafetyAssessment) (semantic : RiskTriageOutput) :
    SafetyAssessment :=
  { assessment with
    category := semantic.category
    severity := .p1
    riskLevel := semantic.riskLevel
    reasonCode := "SEMANTIC_RISK_TRIAGE"
    disposition := .handoff
    safeNextStep := "暂停自动处理并转人工核验"
    matched := true }

/-- What the triage says of a request that needs a human; a router that is off does not ask. -/
def semanticRisk (enabled : Bool) (triage : Option LLMRiskTriage) (content : String) :
    Except Exc (Option RiskTriageOutput) :=
  match triage.filter fun _ => enabled with
  | none => .ok none
  | some classify => do
    let semantic ← classify content
    .ok (semantic.filter fun s => s.riskLevel ∈ [RequestRiskLevel.medium, .high])

/-- `SafetyRouter.route`. -/
def SafetyRouter.route (enabled : Bool) (triage : Option LLMRiskTriage) (content : String) :
    Except Exc SafetyRoute :=
  let assessment := detect π content
  -- Hard blocks are never disabled by the feature flag.
  if assessment.hardBlock then .ok ⟨assessment, .handoff, false⟩
  else do
    let semantic ← semanticRisk enabled triage content
    match semantic with
    | some semantic => .ok ⟨assessment.escalate semantic, .handoff, false⟩
    | none =>
      if enabled then .ok ⟨assessment, assessment.disposition, false⟩
      else .ok ⟨assessment, .shadow, true⟩

structure RiskAssessment where
  domain : RequestDomain
  riskLevel : RequestRiskLevel
  reasonCode : String
  hardBlock : Bool := false
  safetyCategory : SafetyCategory := .none
  deriving DecidableEq, Repr

def assessRequest (content : String) : RiskAssessment :=
  let text := π.lower (strip content)
  let safety := detect π content
  if safety.hardBlock then ⟨.unknown, .high, safety.reasonCode, true, safety.category⟩
  else if ["心情很好", "开心", "夸一夸", "夸夸我", "谢谢", "你好"].any (contains text) then
    ⟨.social, .low, "LOW_RISK_SOCIAL", false, .none⟩
  else if ["你能做什么", "你可以做什么", "能力", "支持哪些服务"].any (contains text) then
    ⟨.capability, .low, "LOW_RISK_CAPABILITY", false, .none⟩
  else ⟨.unknown, .unknown, "RISK_REQUIRES_INTENT_TRIAGE", false, .none⟩

def safeResponseFor : SafetyCategory → String
  | .promptInjection =>
    "我不能提供系统提示或内部凭据。请告诉我你要办理的订单或售后事项，我可以在安全范围内协助。"
  | .transactionBypass =>
    "涉及退款或其他交易变更时不能跳过确认。我会停止自动操作，并请人工核验后再继续。"
  | .privacy =>
    "我不能索取或提供密码、验证码、银行卡号等敏感信息。请通过官方安全渠道完成身份验证。"
  | .accountTakeover =>
    "我只能协助核验你本人有权访问的订单，不能处理他人账户或订单信息。请提供本人订单的公开编号。"
  | .unknownToolState =>
    "当前业务状态无法确认，我不会把未知状态说成已成功。请暂缓重复操作，并由人工核验最终状态。"
  | .humanSafety => "这个问题需要经过人工安全审核。我会先暂停自动处理，并提供人工协助入口。"
  | .none => "我暂时无法安全确认这个请求，会先暂停自动操作并请人工核验。"

/-- The letters of the patterns and their case variants: ASCII and the CJK ideographs. -/
def plain (c : Char) : Bool :=
  c.toNat < 0x80 || (decide (0x4E00 ≤ c.toNat) && decide (c.toNat ≤ 0x9FFF))

/-- `str.lower` treats plain letters one by one, whatever stands around them. -/
structure Platform.LowersPlainly (π : Platform) : Prop where
  alone : ∀ v : List Char, (∀ c ∈ v, plain c) →
    (π.lower (String.ofList v)).toList = v.map Char.toLower
  among : ∀ a v b : List Char, (∀ c ∈ v, plain c) →
    v.map Char.toLower <:+: (π.lower (String.ofList (a ++ v ++ b))).toList

/-- The text holds a P0 pattern, in any letter case, with anything around it. -/
def HoldsPattern (content : String) : Prop :=
  ∃ rule ∈ SAFETY_RULES, ∃ pattern ∈ rule.patterns, ∃ a v b : List Char,
    content.toList = a ++ v ++ b ∧ (∀ c ∈ v, plain c) ∧ v.map Char.toLower = pattern.toList

/-- The patterns are plain, in lower case, and do not begin or end with white space. -/
theorem pattern_shape : ∀ rule ∈ SAFETY_RULES, ∀ pattern ∈ rule.patterns,
    pattern.toList ≠ [] ∧ (∀ c ∈ pattern.toList, plain c ∧ c.toLower = c) ∧
      (∀ c ∈ pattern.toList.head?, isSpace c = false) ∧
      ∀ c ∈ pattern.toList.getLast?, isSpace c = false := by
  -- As a Boolean the search goes over the members, and not over all characters.
  have hshape : (SAFETY_RULES.all fun rule => rule.patterns.all fun pattern =>
      !pattern.toList.isEmpty && (pattern.toList.all fun c => plain c && c.toLower == c) &&
        (pattern.toList.head?.all fun c => !isSpace c) &&
        pattern.toList.getLast?.all fun c => !isSpace c) = true := by
    decide +kernel
  intro rule hrule pattern hpattern
  have hthis := List.all_eq_true.mp (List.all_eq_true.mp hshape rule hrule) pattern hpattern
  simp only [Bool.and_eq_true, Bool.not_eq_true', List.isEmpty_eq_false_iff, List.all_eq_true,
    beq_iff_eq, Option.all_eq_true] at hthis
  obtain ⟨⟨⟨hne, hsmall⟩, hhead⟩, hlast⟩ := hthis
  exact ⟨hne, fun c hc => by simpa using hsmall c hc, hhead, hlast⟩

section Detector

variable {π} {content : String}

/-- A character that becomes no white space in lower case is none. -/
theorem isSpace_of_toLower {c : Char} (h : isSpace c.toLower = false) : isSpace c = false := by
  unfold Char.toLower at h
  split at h
  · rename_i hu
    have hrange : 65 ≤ c.toNat ∧ c.toNat ≤ 90 := hu
    simp only [isSpace, Bool.or_eq_false_iff, Bool.and_eq_false_iff, decide_eq_false_iff_not,
      beq_eq_false_iff_ne]
    omega
  · exact h

theorem holds_rule (hπ : π.LowersPlainly) (h : HoldsPattern content) :
    ∃ rule ∈ SAFETY_RULES, rule.matches π (π.lower (strip content)) := by
  obtain ⟨rule, hrule, pattern, hpattern, a, v, b, hcontent, hplain, hv⟩ := h
  obtain ⟨hne, hsmall, hhead, hlast⟩ := pattern_shape rule hrule pattern hpattern
  refine ⟨rule, hrule, List.any_eq_true.mpr ⟨pattern, hpattern, ?_⟩⟩
  have hlower : (π.lower pattern).toList = pattern.toList := by
    have halone := hπ.alone pattern.toList fun c hc => (hsmall c hc).1
    rw [String.ofList_toList] at halone
    rw [halone]
    exact (List.map_congr_left fun c hc => (hsmall c hc).2).trans (List.map_id _)
  obtain ⟨a', b', hstrip⟩ : ∃ a' b', strip content = String.ofList (a' ++ v ++ b') := by
    rw [← String.ofList_toList (s := content), hcontent]
    refine infix_stripBy ?_ ?_ ?_
    · intro hnil
      exact hne (by rw [← hv, hnil]; rfl)
    · intro c hc
      refine isSpace_of_toLower (hhead _ ?_)
      rw [← hv, List.head?_map]
      exact Option.mem_map_of_mem _ hc
    · intro c hc
      refine isSpace_of_toLower (hlast _ ?_)
      rw [← hv, List.getLast?_map]
      exact Option.mem_map_of_mem _ hc
  have hamong := hπ.among a' v b' hplain
  rw [← hstrip, hv, ← hlower] at hamong
  simpa [contains] using hamong

/-- A text with a P0 pattern is blocked, whatever stands around it. -/
theorem detect_hardBlock (hπ : π.LowersPlainly) (h : HoldsPattern content) :
    (detect π content).hardBlock = true := by
  obtain ⟨rule, hrule, hmatch⟩ := holds_rule hπ h
  unfold detect
  cases hfind : SAFETY_RULES.find? fun rule => rule.matches π (π.lower (strip content)) with
  | some found => simp only [hfind, SafetyRule.assessment]
  | none => exact absurd hmatch (List.find?_eq_none.mp hfind rule hrule)

/-- Neither the flag nor the triage takes part in a hard block. -/
theorem route_hardBlock (h : (detect π content).hardBlock = true) (enabled : Bool)
    (triage : Option LLMRiskTriage) :
    SafetyRouter.route π enabled triage content = .ok ⟨detect π content, .handoff, false⟩ := by
  simp [SafetyRouter.route, h]

/-- Without a hard block, a handoff comes from the triage. -/
theorem route_handoff_iff (h : (detect π content).hardBlock = false) {enabled : Bool}
    {triage : Option LLMRiskTriage} :
    (∃ route, SafetyRouter.route π enabled triage content = .ok route ∧
        route.effectiveDisposition = .handoff) ↔
      ∃ semantic, semanticRisk enabled triage content = .ok (some semantic) := by
  have hcontinue : (detect π content).disposition ≠ .handoff := by
    unfold detect at h ⊢
    cases hfind : SAFETY_RULES.find? fun rule => rule.matches π (π.lower (strip content)) with
    | some rule => simp [hfind, SafetyRule.assessment] at h
    | none => simp only [hfind, ne_eq, reduceCtorEq, not_false_eq_true]
  simp only [SafetyRouter.route, h, Bool.false_eq_true, if_false]
  cases hrisk : semanticRisk enabled triage content with
  | error e => simp [bind, Except.bind]
  | ok semantic =>
    cases semantic with
    | some semantic => simp [bind, Except.bind]
    | none => cases enabled <;> simp [bind, Except.bind, hcontinue]

end Detector

end CommerceAgent
