import CommerceAgent.Safety
import CommerceAgent.Routes
import CommerceAgent.ReadonlyLoop
import CommerceAgent.TerminalResponse

/-! The background worker: `execute_message_run`, from the safety boundary to the workflows. -/
namespace CommerceAgent

open Json Texts Programs

variable (π : Platform)

/-- The settings that the worker reads. -/
structure Settings where
  enableRoutingV2 : Bool := false
  enableConversationalFallback : Bool := false
  enableSafetyRouterV2 : Bool := false
  enableExperienceSkills : Bool := false
  modelTimeoutSeconds : ℕ := 15
  modelMaxTokens : ℕ := 2048

/-- The arguments of a dispatched run. -/
structure Dispatch where
  conversationId : Uuid
  content : String
  actorId : String
  runId : Uuid
  tenantId : String

namespace Dispatch

/-- `observe`: the log must not turn a valid result into a failure. -/
def observe (job : Dispatch) (eventType : EventType) (step : String) (payload : Dict) : Act Unit :=
  let recorded : Act Unit := do
    let _ ← Prog.perform (.runs (.appendEvent job.runId job.tenantId eventType step payload))
    pure ()
  recorded.handle fun _ => pure ()

/-- The context of a run without a checkpoint. -/
def entering (job : Dispatch) : RunContext where
  runId := job.runId
  conversationId := job.conversationId
  tenantId := job.tenantId
  actorId := job.actorId
  status := .created

/-- The context that the worker goes on with: a run that waited for its user works again. -/
def context (job : Dispatch) : Option RunContext → Except Exc RunContext
  | none => .ok job.entering
  | some persisted => do
    let context ← persisted.modelValidate
    .ok (if context.status = .waitingUser then { context with status := .runningWorkflow }
      else context)

/-- `_record_release_assignment`, as far as it decides: whether a canary candidate may execute. -/
def recordRelease (job : Dispatch) (route : Option String) : Act Bool :=
  (Prog.perform (.world (.assignRelease job.runId route))).handle fun _ => pure false

end Dispatch

/-- The risk that the router goes on with; the safety boundary overrides the hints. -/
def effectiveRisk (safety : SafetyRoute) (content : String) : RiskAssessment :=
  if safety.assessment.hardBlock ∨ safety.effectiveDisposition = .handoff then
    ⟨.unknown, safety.assessment.riskLevel, safety.assessment.reasonCode,
      safety.assessment.hardBlock, safety.assessment.category⟩
  else assessRequest π content

section Worker

variable (settings : Settings) (job : Dispatch)

/-- The first decision boundary: what the safety router says, on record. -/
def safetyBoundary (context : RunContext) : Act (SafetyRoute × RiskAssessment) := do
  if context.status = .created then
    job.observe .runCreated "accept" [("message_id", .str "[REDACTED]")]
  let safety ← Prog.ofExcept
    (SafetyRouter.route π settings.enableSafetyRouterV2 none job.content)
  let risk := effectiveRisk π safety job.content
  job.observe .safetyRouted "safety_router"
    [("domain", .str risk.domain.value), ("risk_level", .str risk.riskLevel.value),
      ("category", .str risk.safetyCategory.value),
      ("disposition", .str safety.effectiveDisposition.value),
      ("shadow_only", .bool safety.shadowOnly), ("detector_version", .str DETECTOR_VERSION),
      ("reason_code", .str risk.reasonCode)]
  if safety.assessment.hardBlock then
    (Prog.perform (.world (.auditAppend job.tenantId "safety-router"
      "safety_p0_detected"))).handle fun _ => pure ()
  pure (safety, risk)

/-- The decision for a request that the safety boundary hands over. -/
def safetyDecision (risk : RiskAssessment) : RouteDecision where
  outcome := .handoff
  reasonCode := risk.reasonCode
  responsePolicy := .humanHandoff
  requestDomain := risk.domain
  requestRiskLevel := risk.riskLevel

/-- The route that a paused or interrupted run is pinned to. -/
def RunContext.continuation (context : RunContext) : Except Exc RouteDecision :=
  let intent := ((context.state.get? "intent").filter Value.truthy).getD (.str "continuation")
  RouteDecision.validate {
    outcome := .execute
    executionMode := context.executionMode
    workflowId := context.workflowId
    workflowVersion := context.workflowVersion
    intent := some (π.str intent)
    reasonCode := "CONTINUATION" }

/-- The candidate with the domain and the risk that only the assessment knows. -/
def IntentClassification.withHints (candidate : IntentClassification) (risk : RiskAssessment) :
    IntentClassification :=
  { candidate with
    domain := if candidate.domain = .unknown then risk.domain else candidate.domain
    requestRiskLevel := if candidate.requestRiskLevel = .unknown then risk.riskLevel
      else candidate.requestRiskLevel }

def RouteOutcome.value : RouteOutcome → String
  | .execute => "execute"
  | .askUser => "ask_user"
  | .handoff => "handoff"

/-- The fields in which two decisions differ. -/
def diffFields (routed shadow : RouteDecision) : List String :=
  ((if routed.outcome ≠ shadow.outcome then ["outcome"] else []) ++
    (if routed.workflowId ≠ shadow.workflowId then ["workflow_id"] else []) ++
    (if routed.intent ≠ shadow.intent then ["intent"] else []) ++
    (if routed.reasonCode ≠ shadow.reasonCode then ["reason_code"] else []) ++
    (if routed.responsePolicy ≠ shadow.responsePolicy then ["response_policy"] else []) ++
    (if routed.requestDomain ≠ shadow.requestDomain then ["request_domain"] else []) ++
    (if routed.requestRiskLevel ≠ shadow.requestRiskLevel then ["request_risk_level"] else []))

/-- The payload of the comparison with the shadow router. -/
def shadowComparison (routed shadow : RouteDecision) : Dict :=
  let v2 := settings.enableRoutingV2 && settings.enableConversationalFallback
  [("current_router", .str (if v2 then "v2" else "v1")), ("shadow_router", .str "v2"),
    ("current_outcome", .str routed.outcome.value),
    ("current_reason_code", .str routed.reasonCode),
    ("current_intent", jsonOption routed.intent),
    ("current_response_policy", .str routed.responsePolicy.value),
    ("shadow_outcome", .str shadow.outcome.value), ("shadow_reason_code", .str shadow.reasonCode),
    ("shadow_intent", jsonOption shadow.intent),
    ("shadow_response_policy", .str shadow.responsePolicy.value),
    ("different", .bool !(diffFields routed shadow).isEmpty),
    ("diff_fields", .arr ((diffFields routed shadow).map Value.str)),
    ("shadow_is_observation_only", .bool true)]

/-- The decision of the two routers on a candidate: the current one, and the canary's if the
release lets it execute. -/
def decideRoute (candidate : IntentClassification) : Act RouteDecision := do
  let rules := intentRouteRules settings.enableRoutingV2 settings.enableConversationalFallback
  let routed := IntentRouter.decide rules candidate
  let shadow := IntentRouter.decide (intentRouteRules true true) candidate
  job.observe .routingShadowCompared "route_intent_risk" (shadowComparison settings routed shadow)
  let canary ← job.recordRelease routed.workflowId
  pure (if canary = true ∧ shadow.outcome = .execute then shadow else routed)

/-- The classification of a request that no route is pinned for, and the row's route. -/
def classifyRequest (context : RunContext) (risk : RiskAssessment) : Act RouteDecision := do
  job.observe .modelRequestStarted "route_intent_risk" [("purpose", .str "routing")]
  let rules := intentRouteRules settings.enableRoutingV2 settings.enableConversationalFallback
  -- The bounds of the prompt's message.
  if job.content.length < 1 ∨ 8000 < job.content.length then .raise .validationError
  else do
    let classified ← Prog.perform (.world (.classify job.content
      (rules.map IntentRouteRule.intent)))
    let candidate := IntentClassification.withHints classified risk
    job.observe .modelRequestSucceeded "route_intent_risk"
      [("purpose", .str "routing"), ("outcome", .str "classified"),
        ("intent", .str candidate.intent), ("domain", .str candidate.domain.value),
        ("request_risk_level", .str candidate.requestRiskLevel.value),
        ("confidence_calibration_version", .str "risk-domain-conservative-v1"),
        ("alternative_count", .int candidate.alternatives.length)]
    let routed ← decideRoute settings job candidate
    selectRoute { context with status := .routing } routed
    pure routed

/-- Whether a run goes on with the route that it is pinned to. -/
def RunContext.Pinned (context : RunContext) : Prop :=
  context.status ∈ [RunStatus.runningWorkflow, .runningReadonly] ∧
    ∃ w ∈ context.workflowId, w ≠ ""

instance (context : RunContext) : Decidable context.Pinned :=
  inferInstanceAs (Decidable (context.status ∈ [RunStatus.runningWorkflow, .runningReadonly] ∧
    ∃ w ∈ context.workflowId, w ≠ ""))

def routeRequest (context : RunContext) (safety : SafetyRoute) (risk : RiskAssessment) :
    Act RouteDecision :=
  if safety.effectiveDisposition = .handoff then do
    let routed := safetyDecision risk
    let _ ← job.recordRelease routed.workflowId
    pure routed
  else if context.Pinned then do
    let routed ← Prog.ofExcept (context.continuation π)
    let _ ← job.recordRelease routed.workflowId
    pure routed
  else classifyRequest settings job context risk

/-- What every route leaves in the state. -/
def RouteDecision.policyState (routed : RouteDecision) (policy : ResponsePolicy) : Dict :=
  [("response_policy", .str policy.value), ("request_domain", .str routed.requestDomain.value),
    ("request_risk_level", .str routed.requestRiskLevel.value)]

/-- A handoff ticket for the run of the job. -/
def Dispatch.ticket (reasonCode : String) (operation : Option String) (details : Dict) :
    TicketInput :=
  ⟨job.runId, job.tenantId, job.actorId, reasonCode, operation, details⟩

/-- The checkpoint of a run that is handed over, and its answer. -/
def pauseForHuman (context : RunContext) (state : Dict) (ticketId : Uuid)
    (reasonCode prompt : String) : Act Unit := do
  let _ ← checkpoint context .waitingHuman "terminal" state
    [⟨.handoffCreated, [("handoff_ticket_id", .str ticketId), ("reason", .str reasonCode)]⟩]
  let _ ← publishTerminalResponse π {
    context := { context with status := .waitingHuman, state := state }
    preferredContent := some prompt
    reasonCode := some reasonCode
    retryable := some false }
  pure ()

/-- The branch of a handoff decision. -/
def handoffRun (context : RunContext) (risk : RiskAssessment) (routed : RouteDecision) :
    Act Unit := do
  let ticketId ← Prog.perform (.tickets (.create (job.ticket routed.reasonCode routed.workflowId
    [("message", .str "请求需要人工处理"), ("route_reason", .str routed.reasonCode)])))
  let state := (context.state.set "handoff_ticket_id" (.str ticketId)).update
    (routed.policyState routed.responsePolicy)
  pauseForHuman π context state ticketId routed.reasonCode
    (if risk.hardBlock then safeResponseFor risk.safetyCategory
      else "该请求需要人工审核，请查看右侧的人工处理窗口并选择审核结果。")

/-- The branch of a decision to ask the user. -/
def clarifyRun (context : RunContext) (routed : RouteDecision) : Act Unit := do
  let state := context.state.update
    (("route_reason", .str routed.reasonCode) :: routed.policyState .askUser)
  let _ ← checkpoint context .waitingUser "clarify" state
    [⟨.waitingForUser, [("reason", .str routed.reasonCode)]⟩]
  let _ ← publishTerminalResponse π {
    context := { context with status := .waitingUser, state := state }
    preferredContent := some "我还不确定你的具体需求，可以补充一下你想查询或办理的事项吗？"
    reasonCode := some routed.reasonCode
    retryable := some false }
  pure ()

/-- The skill side path: the entries of a matched skill, and nothing if the registry fails. -/
def matchSkill (route : String) : Act Dict :=
  if settings.enableExperienceSkills then do
    let matched ← (Prog.perform (.world (.matchSkill job.content route))).handle fun _ =>
      pure none
    match matched with
    | some entries => do
      let entry (key : String) : Value := (entries.get? key).getD .null
      job.observe .skillMatched "skill_match" [("skill_id", entry "skill_id"),
        ("skill_version_id", entry "skill_version_id"), ("mode", entry "skill_match_mode")]
      pure entries
    | none => pure []
  else pure []

/-- The context that a route is executed with. -/
def RunContext.routedWith (context : RunContext) (routed : RouteDecision) (mode : ExecutionMode)
    (state : Dict) : RunContext :=
  { context with
    status := if mode = .readonlyLoop then .runningReadonly else .runningWorkflow
    executionMode := some mode
    workflowId := routed.workflowId
    workflowVersion := routed.workflowVersion
    state := state }

/-- A conversational reply, which ends the run. -/
def converse (context : RunContext) (routed : RouteDecision) (route : String) : Act Unit := do
  let _ ← checkpoint context .completed "terminal" context.state
    [⟨.stepCompleted, [("route", .str route),
      ("response_policy", .str routed.responsePolicy.value)]⟩]
  let _ ← publishTerminalResponse π {
    context := { context with status := .completed }
    preferredContent := some (responseFor ((routed.intent.filter (· ≠ "")).getD
      "unsupported_low_risk") job.content)
    retryable := some false }
  pure ()

/-- What a readonly loop that left its status behind leaves to the user. -/
def concludeReadonly (context : RunContext) (response : Option String) : Act Unit :=
  if context.status = .runningReadonly then pure ()
  else do
    let reason := context.state.getStr? "last_step_reason"
    match reason.filter (· ≠ "") with
    | some reason =>
      Prog.perform (.runs (.setTerminalReason job.runId job.tenantId (some reason)))
    | none => pure ()
    let _ ← publishTerminalResponse π {
      context := context
      preferredContent := response
      reasonCode := reason }
    pure ()

def runReadonly (context : RunContext) : Act Unit :=
  let loop : Act Unit := do
    let (context, response) ← executeReadonlyRun settings.modelTimeoutSeconds
      settings.modelMaxTokens context
    concludeReadonly π job context response
  loop.handle fun _ => do
    job.observe .modelRequestFailed "readonly_loop"
      [("purpose", .str "agent"), ("error_code", .str "UPSTREAM_UNAVAILABLE")]
    markFailed π job.observe context "UPSTREAM_UNAVAILABLE"

/-- The arguments of a write route: those of an earlier attempt, and what the message adds. -/
def writeArguments (context : RunContext) (route : String) (intent : Option String) : Dict :=
  match mutationTypeForRoute route with
  | some mutationType =>
    (((context.state.get? "mutation_args").bind Value.asObj?).getD []).update
      (extractArguments mutationType job.content)
  | none =>
    if route ∈ LOW_RISK_ROUTES then extractLowRiskArguments π route job.content intent else []

/-- The body of the write branch. -/
def executeWrite (context : RunContext) (route : String) (arguments : Dict) : Act Unit :=
  match mutationTypeForRoute route with
  | some mutationType => do
    let (prepared, preview, _) ← prepareMutation π context mutationType arguments
    job.observe .toolRequestSucceeded "prepare_confirmation"
      [("tool", .str mutationType), ("status", .str "prepared")]
    let _ ← publishTerminalResponse π {
      context := prepared
      preferredContent := some ("已生成操作预览：" ++ preview.summary ++
        "。请在确认卡片中选择是否继续。")
      retryable := some false }
    pure ()
  | none =>
    if route ∈ LOW_RISK_ROUTES then do
      let executed ← executeLowRisk π ⟨true, true⟩ context route arguments
      let _ ← publishTerminalResponse π {
        context := executed
        preferredContent := some (if executed.status = .completed then "已提交请求，系统已记录。"
          else "请求状态暂时无法确认，已转人工处理。")
        retryable := some false }
      pure ()
    else .raise (.mutationWorkflow "UNKNOWN_MUTATION" "暂不支持该操作" [])

/-- The details of the ticket for a write that its workflow refused. -/
def refusalDetails (code message : String) (arguments : Dict) : Dict :=
  let named (key : String) : Dict := match slot arguments key with
    | some v => [(key, .str (π.str v))]
    | none => []
  [("mutation_error", .str code), ("message", .str message)] ++ named "order_id" ++ named "item_id"

/-- The handler of a refused write. Missing slots are to be asked for, everything else is to be
handed over; but the events of either checkpoint mention `handoff_id`, which this branch never
binds. -/
def refuseWrite (route code message : String) (arguments : Dict) : Act Unit := do
  if code ≠ "MISSING_SLOTS" then
    let _ ← Prog.perform (.tickets (.create (job.ticket code (mutationTypeForRoute route)
      (refusalDetails π code message arguments))))
  .raise (.unboundLocal "handoff_id")

def runWrite (context : RunContext) (route : String) (intent : Option String) : Act Unit :=
  let arguments := writeArguments π job context route intent
  (executeWrite π job context route arguments).handle fun
    | .mutationWorkflow code message _ => refuseWrite π job route code message arguments
    | .lowRiskWorkflow code message _ => refuseWrite π job route code message arguments
    | e => .raise e

/-- The branch of a decision to execute. -/
def executeRoute (context : RunContext) (routed : RouteDecision) : Act Unit :=
  match routed.executionMode, routed.workflowId with
  | some mode, some route => do
    let state := context.state.update (("intent", .str (routed.intent.getD "")) ::
      ("route", .str route) :: routed.policyState routed.responsePolicy)
    let skill ← matchSkill settings job route
    let context := context.routedWith routed mode (state.update skill)
    if policyIsConversational routed.responsePolicy then converse π job context routed route
    else if mode = .readonlyLoop then runReadonly π settings job context
    else runWrite π job context route routed.intent
  | _, _ => .raise .assertion

def runRoute (context : RunContext) (risk : RiskAssessment) (routed : RouteDecision) : Act Unit :=
  match routed.outcome with
  | .handoff => handoffRun π job context risk routed
  | .askUser => clarifyRun π context routed
  | .execute => executeRoute π settings job context routed

/-- The handler of a model gateway that does not answer. -/
def classifierUnavailable (context : RunContext) : Act Unit := do
  let decision := handoffDecision "CLASSIFIER_UNAVAILABLE"
  selectRoute { context with status := .routing } decision
  let ticketId ← Prog.perform (.tickets (.create (job.ticket decision.reasonCode none
    [("message", .str "请求需要人工处理"), ("route_reason", .str decision.reasonCode)])))
  pauseForHuman π context (context.state.set "handoff_ticket_id" (.str ticketId)) ticketId
    decision.reasonCode "当前请求需要人工审核，请查看右侧的人工处理窗口并选择审核结果。"
  job.observe .modelRequestFailed "route_intent_risk"
    [("error_code", .str "CLASSIFIER_UNAVAILABLE")]

/-- The body of the worker, once it has a context. -/
def runMessage (context : RunContext) : Act Unit := do
  let (safety, risk) ← safetyBoundary π settings job context
  let routed ← routeRequest π settings job context safety risk
  runRoute π settings job context risk routed

/-- `_execute_message_run`. -/
def executeMessage : Act Unit := do
  (Prog.perform (.runs (.markDispatchStarted job.runId job.tenantId))).handle fun _ => pure ()
  let persisted ← Prog.perform (.runs (.loadLatestCheckpoint job.runId job.tenantId))
  let context ← Prog.ofExcept (job.context persisted)
  (runMessage π settings job context).handle fun
    | .modelGateway => classifierUnavailable π job context
    | _ => markFailed π job.observe context "UNEXPECTED_EXECUTION_ERROR"

/-- The context with which the outer boundary fails a run. -/
def Dispatch.recovery (persisted : Option RunContext) : RunContext :=
  match persisted.map RunContext.modelValidate with
  | some (.ok context) => context
  | _ => job.entering

/-- `execute_message_run`. -/
def executeMessageRun : Act Unit :=
  (executeMessage π settings job).handle fun _ => do
    let persisted ← Prog.perform (.runs (.loadLatestCheckpoint job.runId job.tenantId))
    (markFailed π (fun _ _ _ => pure ()) (job.recovery persisted)
      "UNEXPECTED_EXECUTION_ERROR").handle fun _ => pure ()

end Worker

end CommerceAgent
