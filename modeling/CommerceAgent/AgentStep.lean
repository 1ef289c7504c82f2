import CommerceAgent.ReadonlyLoop

/-! One readonly step in full: the gateway of the model, the validation of its decision, the tool
executor, and the pipeline that checkpoints what came out. Whatever lies outside answers as it
likes. -/
namespace CommerceAgent.Agent

open Json Programs

inductive DecisionType where
  | respond
  | askUser
  | callTool
  | handoff
  | finish
  deriving DecidableEq, Repr

structure Decision where
  type : DecisionType
  route : String
  tool : Option String := none
  args : Dict := []
  evidenceIds : List String := []
  response : Option String := none

structure ModelDecision where
  decision : Decision
  usageTokens : Option ℕ := none

structure PromptView where
  workflowId : Option String
  workflowVersion : Option String
  currentStep : String
  allowedDecisions : List DecisionType
  allowedTools : List String
  remainingSteps : ℕ

structure ToolContext where
  runId : Uuid
  conversationId : Uuid
  tenantId : String
  actorId : String
  scopes : List String
  workflowId : Option String := none
  workflowVersion : Option String := none
  currentStep : Option String := none

inductive ToolRisk where
  | readOnly
  | write
  deriving DecidableEq, Repr

structure ResourceBinding where
  argument : String
  ownerCheck : String

structure ToolSpec where
  name : String
  version : String
  inputSchema : Dict
  outputSchema : Dict
  risk : ToolRisk
  requiredScopes : List String
  timeoutMs : ℕ
  maxAttempts : ℕ
  modelVisible : Bool
  allowedWorkflows : List String := []
  allowedSteps : List String := []
  resourceBinding : Option ResourceBinding := none

structure ToolResult where
  toolName : String
  toolVersion : String
  data : Option Dict := none
  error : Option (String × Bool) := none

/-- What became of an adapter call. -/
inductive AdapterAnswer where
  | timedOut
  | raised
  | returned (result : ToolResult)
  /-- Something that is not a `ToolResult`. -/
  | other

/-- What the provider sent back: the usage it reports, and the decision if there is one to parse. -/
structure ProviderResponse where
  usage : Option ℕ
  decision : Option Decision

structure DecisionBoundary where
  route : String
  allowedTypes : List DecisionType
  allowedTools : List String
  trustedEvidenceIds : List String
  allowedRoutes : List String := []

inductive Failure where
  | modelGateway
  /-- A transport error of the HTTP client. -/
  | http
  /-- A `ValueError`, `KeyError` or `TypeError`. -/
  | format
  | pipelineInput (message : String)
  | pipelineSequence
  | stateTransition (current target : RunStatus)
  | runtimeError (message : String)
  | raised
  deriving DecidableEq, Repr

/-- What a step asks of its surroundings. -/
inductive AgentOp : Type → Type
  | cancelled : AgentOp Bool
  | now : AgentOp ℕ
  | toolContext (context : RunContext) : AgentOp ToolContext
  | buildPrompt (context : RunContext) : AgentOp PromptView
  | post (prompt : PromptView) (repair : Bool) : AgentOp ProviderResponse
  | recordInvocation (success : Bool) : AgentOp Unit
  | appendTrace (kind : String) : AgentOp Unit
  | authorize (ownerCheck : String) (resourceId : Value) : AgentOp Bool
  | evaluatePolicy (action : String) : AgentOp Bool
  | clock : AgentOp ℕ
  | adapter (name : String) (arguments : Dict) : AgentOp AdapterAnswer
  | checkpoint (context : RunContext) (status : RunStatus) (nextStep : String) (state : Dict)
      (events : List DomainEvent) : AgentOp ℕ

abbrev Act (α : Type) : Type 1 := Prog AgentOp Failure α

/-- The calls with which a model gateway reaches its provider. -/
def AgentOp.Provider {α : Type} : AgentOp α → Prop
  | .post _ _ => True
  | _ => False

/-- A gateway has nothing to ask but its provider. -/
structure ModelGateway where
  decide : PromptView → Act ModelDecision
  provider : ∀ prompt, Uses AgentOp.Provider (decide prompt)
  /-- `conservative_decision_token_charge`. -/
  tokenCharge : ℕ

/-- What a composition of the loop is built from. -/
structure Composition where
  model : ModelGateway
  tools : List ToolSpec
  boundary : DecisionBoundary
  deadlineAt : ℕ
  deadlineAware : Bool := true
  /-- What stands for a type, a tool and its sorted arguments, equal for those that are equal. -/
  signature : DecisionType → Option String → Dict → String

def Decision.signature (agent : Composition) (decision : Decision) : String :=
  agent.signature decision.type decision.tool decision.args

section Gateway

/-- `OpenAICompatibleGateway._request`. -/
def request (maxTokens : ℕ) (prompt : PromptView) (repair : Bool) : Act ModelDecision := do
  let response ← Prog.perform (.post prompt repair)
  match response.decision with
  | none => .raise .format
  | some decision => pure ⟨decision, some (response.usage.getD maxTokens)⟩

/-- `OpenAICompatibleGateway.decide`: one request, and one more if its answer has no decision. -/
def gatewayDecide (maxTokens : ℕ) (prompt : PromptView) : Act ModelDecision :=
  (request maxTokens prompt false).handle fun
    | .format => (request maxTokens prompt true).handle fun
      | .format => .raise .modelGateway
      | .http => .raise .modelGateway
      | e => .raise e
    | .http => .raise .modelGateway
    | e => .raise e

theorem uses_request (maxTokens : ℕ) (prompt : PromptView) (repair : Bool) :
    Uses AgentOp.Provider (request maxTokens prompt repair) := by
  refine .bind (.perform trivial) fun response => ?_
  split
  · exact .raise _
  · exact .pure _

/-- The gateway of an OpenAI-compatible provider. -/
def OpenAICompatibleGateway (maxTokens : ℕ) : ModelGateway where
  decide := gatewayDecide maxTokens
  provider prompt := by
    refine .handle (uses_request _ _ _) fun e => ?_
    split
    · refine .handle (uses_request _ _ _) fun e => ?_
      split <;> exact .raise _
    · exact .raise _
    · exact .raise _
  tokenCharge := maxTokens

end Gateway

section Validation

def SYSTEM_ARGUMENT_FIELDS : List String :=
  ["tenant_id", "actor_id", "owner_id", "scopes", "idempotency_key", "confirmation_token",
    "policy_version"]

/-- The `required` names and the `properties` of a schema. -/
def schemaShape (schema : Dict) : Option (List Value × Dict) :=
  match (schema.get? "required").getD (.arr []), (schema.get? "properties").getD (.obj []) with
  | .arr required, .obj properties => some (required, properties)
  | _, _ => none

def hasType (expected : String) (value : Value) : Bool :=
  match expected, value with
  | "string", .str _ => true
  | "string", _ => false
  | "integer", .int _ => true
  | "integer", _ => false
  | "boolean", .bool _ => true
  | "boolean", _ => false
  | "number", .int _ => true
  | "number", _ => false
  | "array", .arr _ => true
  | "array", _ => false
  | "object", .obj _ => true
  | "object", _ => false
  | _, _ => true

/-- The type that the properties declare for a name. -/
def declaredType (properties : Dict) (name : String) : Option String :=
  ((properties.get? name).bind Value.asObj?).bind fun definition => definition.getStr? "type"

/-- `_validate_arguments`, which looks at strings and integers only. -/
def validateArguments (arguments schema : Dict) : Except String Unit :=
  match schemaShape schema with
  | none => .error "tool schema is invalid"
  | some (required, properties) =>
    if required.any fun name => (name.asStr?.bind arguments.get?).isNone then
      .error "tool argument is missing"
    else if schema.get? "additionalProperties" matches some (.bool false) ∧
        arguments.any (fun kv => (properties.get? kv.1).isNone) then
      .error "tool argument is unknown"
    else if arguments.any fun kv => (declaredType properties kv.1).any fun expected =>
        expected ∈ ["string", "integer"] ∧ ¬ hasType expected kv.2 then
      .error "tool argument type is invalid"
    else .ok ()

/-- `DecisionValidator.validate`. -/
def validate (decision : Decision) (boundary : DecisionBoundary) (spec : Option ToolSpec) :
    Except String Unit :=
  if decision.type ∉ boundary.allowedTypes then .error "decision type is not allowed"
  else if decision.route ≠ boundary.route ∧ decision.route ∉ boundary.allowedRoutes then
    .error "decision route does not match runtime route"
  else if decision.evidenceIds.any (· ∉ boundary.trustedEvidenceIds) then
    .error "decision references untrusted evidence"
  else if decision.args.any (·.1 ∈ SYSTEM_ARGUMENT_FIELDS) then
    .error "decision attempted to set a system argument"
  else if decision.type = .callTool then
    if decision.tool.all (· ∉ boundary.allowedTools) then .error "decision tool is not allowed"
    else match spec with
    | none => .error "decision tool specification is unavailable"
    | some spec =>
      if decision.tool ≠ some spec.name then .error "decision tool specification is unavailable"
      else validateArguments decision.args spec.inputSchema
  else if decision.tool.isSome ∨ decision.args ≠ [] then
    .error "non-tool decision includes tool data"
  else .ok ()

/-- The workflow binding that a tool may ask for. -/
def ToolContext.workflow (context : ToolContext) : Option String :=
  match context.workflowId, context.workflowVersion with
  | some workflowId, some version => some (workflowId ++ "@" ++ version)
  | _, _ => none

/-- `ToolRegistry.resolve`, for a model-visible tool. -/
def resolve (tools : List ToolSpec) (name version : String) (context : ToolContext) :
    Except String ToolSpec :=
  match tools.find? fun spec => spec.name = name ∧ spec.version = version with
  | none => .error "unknown tool version"
  | some spec =>
    if ¬ spec.modelVisible then .error "tool is not model visible"
    else if spec.allowedWorkflows ≠ [] ∧ context.workflow.all (· ∉ spec.allowedWorkflows) then
      .error "tool is not allowed in the current workflow"
    else if spec.allowedSteps ≠ [] ∧ context.currentStep.all (· ∉ spec.allowedSteps) then
      .error "tool is not allowed in the current step"
    else if spec.requiredScopes.any (· ∉ context.scopes) then
      .error "tool scopes are unavailable"
    else .ok spec

end Validation

section Executor

/-- `_valid_object`. -/
def validObject (data : Option Dict) (schema : Dict) : Bool :=
  match data, schemaShape schema with
  | some data, some (required, properties) =>
    (required.all fun name => (name.asStr?.bind data.get?).isSome) &&
      !(decide (schema.get? "additionalProperties" matches some (.bool false)) &&
        data.any fun kv => (properties.get? kv.1).isNone) &&
      data.all fun kv => (declaredType properties kv.1).all fun expected => hasType expected kv.2
  | _, _ => false

/-- An execution that ended with an error of the executor itself. -/
def toolError (spec : ToolSpec) (code : String) (retryable : Bool) (attempts : ℕ) : ToolExecution where
  toolName := spec.name
  toolVersion := spec.version
  attempts := attempts
  error := some (code, retryable)

def ToolResult.execution (result : ToolResult) (attempts : ℕ) : ToolExecution where
  toolName := result.toolName
  toolVersion := result.toolVersion
  attempts := attempts
  error := result.error
  data := result.data

/-- A result of the executor's own for an adapter that did not answer with one. -/
def ToolSpec.errorResult (spec : ToolSpec) (code : String) (retryable : Bool) : ToolResult where
  toolName := spec.name
  toolVersion := spec.version
  error := some (code, retryable)

/-- The error of a call that ran out of time. -/
def ToolSpec.timeoutResult (spec : ToolSpec) : ToolResult :=
  spec.errorResult (if spec.risk = .readOnly then "UPSTREAM_TIMEOUT" else "STATUS_UNKNOWN")
    (spec.risk = .readOnly)

/-- What an attempt leaves: the execution to return, or the result to try again after. -/
def settleAttempt (spec : ToolSpec) (result : ToolResult) (attempts : ℕ) :
    ToolExecution ⊕ ToolResult :=
  if result.toolName ≠ spec.name ∨ result.toolVersion ≠ spec.version then
    .inl (toolError spec "INTERNAL_ERROR" false attempts)
  else if result.data.isNone = result.error.isNone then
    .inl (toolError spec "INTERNAL_ERROR" false attempts)
  else if result.error.isNone ∧ ¬ validObject result.data spec.outputSchema then
    .inl (toolError spec "INTERNAL_ERROR" false attempts)
  else
    let result := if spec.risk ≠ .readOnly ∧ result.error.any (·.1 = "UPSTREAM_TIMEOUT") then
      spec.errorResult "STATUS_UNKNOWN" false else result
    if result.error.all fun error => ¬ error.2 ∨ error.1 = "STATUS_UNKNOWN" then
      .inl (result.execution attempts)
    else .inr result

/-- The attempts of `ToolExecutor.execute`, at most `n` more after the first `attempts`, the last of
which left `last`. -/
def attemptTool (spec : ToolSpec) (arguments : Dict) (deadlineAt : ℕ) :
    ℕ → ℕ → ToolResult → Act ToolExecution
  | 0, attempts, last => pure (last.execution attempts)
  | n + 1, attempts, _ => do
    let now ← Prog.perform .now
    if deadlineAt ≤ now then pure (toolError spec "UPSTREAM_TIMEOUT" false attempts)
    else do
      let started ← Prog.perform .clock
      let now ← Prog.perform .now
      let answer ← if min spec.timeoutMs (deadlineAt - now) = 0 then pure .timedOut
        else Prog.perform (.adapter spec.name arguments)
      let result? := match answer with
        | .timedOut => some spec.timeoutResult
        | .raised => some (spec.errorResult
            (if spec.risk = .readOnly then "INTERNAL_ERROR" else "STATUS_UNKNOWN") false)
        | .returned result => some result
        | .other => none
      match result? with
      | none => pure (toolError spec "INTERNAL_ERROR" false (attempts + 1))
      | some result => do
        let ended ← Prog.perform .clock
        let result := if spec.timeoutMs < ended - started then spec.timeoutResult else result
        match settleAttempt spec result (attempts + 1) with
        | .inl execution => pure execution
        | .inr result => attemptTool spec arguments deadlineAt n (attempts + 1) result

/-- What an attempt that began at `started` goes on with after its adapter has answered. -/
def attemptAfter (spec : ToolSpec) (arguments : Dict) (deadlineAt n attempts started : ℕ)
    (result : ToolResult) : Act ToolExecution := do
  let ended ← Prog.perform .clock
  match settleAttempt spec
      (if spec.timeoutMs < ended - started then spec.timeoutResult else result) (attempts + 1) with
  | .inl execution => pure execution
  | .inr result => attemptTool spec arguments deadlineAt n (attempts + 1) result

/-- The owner check of a tool on a resource. -/
def ownsResource (spec : ToolSpec) (arguments : Dict) : Act Bool :=
  match spec.resourceBinding with
  | none => pure true
  | some binding =>
    match arguments.get? binding.argument with
    | none => pure false
    | some .null => pure false
    | some resourceId =>
      (Prog.perform (.authorize binding.ownerCheck resourceId)).handle fun _ => pure false

/-- The policy check; a `ValueError` of the policy denies. -/
def policyAllows (spec : ToolSpec) : Act Bool :=
  (Prog.perform (.evaluatePolicy spec.name)).handle fun e =>
    if e = .format then pure false else .raise e

/-- `ToolExecutor.execute`; the trace it appends cannot change the outcome. -/
def executeTool (spec : ToolSpec) (context : ToolContext) (arguments : Dict) (deadlineAt : ℕ) :
    Act ToolExecution := do
  let denied (code : String) : ToolExecution := toolError spec code false 0
  if ¬ validObject (some arguments) spec.inputSchema then pure (denied "INVALID_ARGUMENT")
  else if arguments.any (·.1 ∈ SYSTEM_ARGUMENT_FIELDS) then pure (denied "INVALID_ARGUMENT")
  else if (spec.allowedWorkflows ≠ [] ∧ context.workflow.all (· ∉ spec.allowedWorkflows)) ∨
      (spec.allowedSteps ≠ [] ∧ context.currentStep.all (· ∉ spec.allowedSteps)) then
    pure (denied "PERMISSION_DENIED")
  else do
    let now ← Prog.perform .now
    if deadlineAt ≤ now then pure (denied "UPSTREAM_TIMEOUT")
    else if spec.requiredScopes.any (· ∉ context.scopes) then pure (denied "PERMISSION_DENIED")
    else do
      let authorized ← ownsResource spec arguments
      if ¬ authorized then pure (denied "RESOURCE_NOT_FOUND")
      else do
        let allowed ← policyAllows spec
        if ¬ allowed then pure (denied "POLICY_DENIED")
        else do
          let attempts := if spec.risk = .readOnly then spec.maxAttempts else 1
          attemptTool spec arguments deadlineAt attempts 0 (spec.errorResult "INTERNAL_ERROR" false)

end Executor

section Step

inductive PipelineStage where
  | buildPrompt
  | requestDecision
  | validate
  | execute
  | observe
  | reduce
  | checkpoint
  | terminate
  deriving DecidableEq, Repr

inductive StageOutcome where
  | completed
  | failed
  | skipped
  deriving DecidableEq, Repr

abbrev StageRecord : Type := PipelineStage × StageOutcome

/-- The result of `execute_step`, with the stages that it recorded. -/
structure StepResult where
  status : StepStatus
  response : Option String := none
  decision : Option Decision := none
  execution : Option ToolExecution := none
  reason : Option String := none
  usageTokens : Option ℕ := none
  stages : List StageRecord

def skippedStep : List StageRecord :=
  [(.requestDecision, .skipped), (.validate, .skipped), (.execute, .skipped), (.observe, .completed)]

def failedRequest : List StageRecord :=
  [(.requestDecision, .failed), (.validate, .skipped), (.execute, .skipped), (.observe, .completed)]

def decidedStep (validate execute : StageOutcome) : List StageRecord :=
  [(.requestDecision, .completed), (.validate, validate), (.execute, execute), (.observe, .completed)]

def StepResult.stopped (reason : String) (stages : List StageRecord) : StepResult where
  status := .fail
  reason := some reason
  stages := stages

def StepResult.rejected (decision : Decision) : StepResult where
  status := .fail
  decision := some decision
  reason := some "decision_rejected"
  stages := decidedStep .failed .skipped

/-- The result of a tool call. -/
def StepResult.called (decision : Decision) (usage : Option ℕ) (execution : ToolExecution) :
    StepResult where
  status := .continue
  decision := some decision
  execution := some execution
  usageTokens := usage
  stages := decidedStep .completed .completed

/-- The result of a tool call whose executor raised. -/
def StepResult.callFailed (decision : Decision) : StepResult where
  status := .fail
  decision := some decision
  reason := some "tool_execution_failed"
  stages := decidedStep .completed .failed

/-- `_bind_compound_delivery_order`. -/
def bindDeliveryOrder (decision : Decision) (context : RunContext) : Decision :=
  if decision.type ≠ .callTool ∨ decision.tool ≠ some "get_delivery_tracking" then decision
  else
    let arguments := Dict.pop decision.args "tracking_id"
    let orderId := ((((context.state.get? "tool_data_by_name").bind Value.asObj?).bind
      fun byTool => (Dict.get? byTool "get_order_status").bind Value.asObj?).bind
      fun data => (Dict.get? data "order").bind Value.asObj?).bind
      fun order => (Dict.getStr? order "order_id").filter (· ≠ "")
    let arguments := if (Dict.get? arguments "order_id").isSome then arguments
      else match orderId with
      | some orderId => Dict.set arguments "order_id" (.str orderId)
      | none => arguments
    { decision with args := arguments }

variable (agent : Composition)

/-- A tool call of the model, after its decision. -/
def callTool (decision : Decision) (usage : Option ℕ) (boundary : DecisionBoundary)
    (toolContext : ToolContext) : Act StepResult :=
  match resolve agent.tools (decision.tool.getD "") "1" toolContext with
  | .error _ => pure (.rejected decision)
  | .ok spec =>
    if spec.risk ≠ .readOnly then
      pure {
        status := .waitHuman
        decision := some decision
        reason := some "readonly_write_tool_forbidden"
        usageTokens := usage
        stages := decidedStep .failed .skipped }
    else match validate decision boundary (some spec) with
    | .error _ => pure (.rejected decision)
    | .ok () => do
      let execution ← (executeTool spec toolContext decision.args agent.deadlineAt).attempt
      match execution with
      | .error _ => pure (.callFailed decision)
      | .ok execution => pure (.called decision usage execution)

/-- The result of a valid decision that calls no tool. -/
def conclude (decision : Decision) (usage : Option ℕ) : StepResult :=
  let status : StepStatus := match decision.type with
    | .askUser => .waitUser
    | .handoff => .waitHuman
    | .respond => .complete
    | .finish => .complete
    | .callTool => .fail
  { status := status
    response := if status = .fail then none else decision.response
    decision := some decision
    reason := if status = .fail then some "unsupported_decision" else none
    usageTokens := usage
    stages := decidedStep .completed .skipped }

/-- The one semantic retry, for a terminal decision that cites untrusted evidence. -/
def retryDecision (prompt : PromptView) (decision : Decision) (boundary : DecisionBoundary) :
    Act StepResult := do
  let retried ← (agent.model.decide prompt).attempt
  match retried with
  | .error .modelGateway => pure (.rejected decision)
  | .error e => .raise e
  | .ok retried => do
    let recorded ← (Prog.perform (.recordInvocation true)).attempt
    match recorded with
    | .error _ => pure (.stopped "model_audit_failed" (decidedStep .skipped .skipped))
    | .ok () =>
      match validate retried.decision boundary none with
      | .error _ => pure (.rejected decision)
      | .ok () => pure (conclude retried.decision retried.usageTokens)

/-- What `execute_step` does with a decision. -/
def actOn (prompt : PromptView) (context : RunContext) (boundary : DecisionBoundary)
    (toolContext : ToolContext) (answer : ModelDecision) : Act StepResult := do
  let decision := bindDeliveryOrder answer.decision context
  let cancelled ← Prog.perform .cancelled
  if cancelled then pure (.stopped "cancelled" (decidedStep .skipped .skipped))
  else do
    let traced ← (Prog.perform (.appendTrace "decision")).attempt
    match traced with
    | .error _ => pure (.stopped "trace_persistence_failed" (decidedStep .skipped .skipped))
    | .ok () =>
      if decision.type = .callTool then
        callTool agent decision answer.usageTokens boundary toolContext
      else match validate decision boundary none with
      | .ok () => pure (conclude decision answer.usageTokens)
      | .error message =>
        if message = "decision references untrusted evidence" then
          retryDecision agent prompt decision boundary
        else pure (.rejected decision)

/-- `AgentStepExecutor.execute_step`. -/
def executeStep (context : RunContext) (prompt : PromptView) (boundary : DecisionBoundary)
    (toolContext : ToolContext) (tokenBudget : Option ℕ) : Act StepResult := do
  let cancelled ← Prog.perform .cancelled
  if cancelled then pure (.stopped "cancelled" skippedStep)
  else if 6 ≤ context.stepCount then pure (.stopped "max_steps_exceeded" skippedStep)
  else if tokenBudget = some 0 then pure (.stopped "token_budget_exhausted" skippedStep)
  else do
    let now ← Prog.perform .now
    if agent.deadlineAt ≤ now then pure (.stopped "deadline_exceeded" skippedStep)
    else do
      let answer ← (agent.model.decide prompt).attempt
      match answer with
      | .error .modelGateway => do
        let recorded ← (Prog.perform (.recordInvocation false)).attempt
        match recorded with
        | .error _ => pure (.stopped "model_audit_failed" failedRequest)
        | .ok () => pure (.stopped "model_unavailable" failedRequest)
      | .error e => .raise e
      | .ok answer => do
        let recorded ← (Prog.perform (.recordInvocation true)).attempt
        match recorded with
        | .error _ => pure (.stopped "model_audit_failed" (decidedStep .skipped .skipped))
        | .ok () => actOn agent prompt context boundary toolContext answer

end Step

section Pipeline

variable (agent : Composition)

/-- The result as the reduction of a step looks at it. -/
def StepResult.loopResult (result : StepResult) : LoopResult where
  status := result.status
  response := result.response
  decision := result.decision.map fun decision => ⟨decision.signature agent, decision.evidenceIds⟩
  execution := result.execution
  reason := result.reason
  usageTokens := result.usageTokens

/-- `validate_step_inputs`. -/
def validateStepInputs (context : RunContext) (prompt : PromptView) (boundary : DecisionBoundary)
    (toolContext : ToolContext) : Except Failure Unit :=
  if context.status ∉ [RunStatus.runningReadonly, .runningWorkflow] then
    .error (.pipelineInput "run status cannot be advanced")
  else if (prompt.workflowId, prompt.workflowVersion) ≠ (context.workflowId, context.workflowVersion) then
    .error (.pipelineInput "prompt workflow does not match locked run workflow")
  else if MAX_STEPS < context.stepCount + prompt.remainingSteps then
    .error (.pipelineInput "prompt exceeds the runtime step budget")
  else if prompt.allowedDecisions.any (· ∉ boundary.allowedTypes) ∨
      boundary.allowedTypes.any (· ∉ prompt.allowedDecisions) then
    .error (.pipelineInput "prompt decision boundary is inconsistent")
  else if prompt.allowedTools.any (· ∉ boundary.allowedTools) ∨
      boundary.allowedTools.any (· ∉ prompt.allowedTools) then
    .error (.pipelineInput "prompt tool boundary is inconsistent")
  else if (toolContext.runId, toolContext.conversationId, toolContext.tenantId, toolContext.actorId) ≠
      (context.runId, context.conversationId, context.tenantId, context.actorId) then
    .error (.pipelineInput "tool context identity does not match run context")
  else if toolContext.workflowId.isSome ∧ toolContext.workflowId ≠ context.workflowId then
    .error (.pipelineInput "tool context workflow does not match run context")
  else if toolContext.workflowVersion.isSome ∧ toolContext.workflowVersion ≠ context.workflowVersion then
    .error (.pipelineInput "tool context workflow version does not match run context")
  else if toolContext.currentStep.any (· ≠ prompt.currentStep) then
    .error (.pipelineInput "tool context step does not match prompt")
  else if ¬ agent.deadlineAware then .error (.pipelineInput "deadline must be timezone-aware")
  else .ok ()

/-- The boundary with the evidence that earlier steps have persisted. -/
def DecisionBoundary.withEvidence (boundary : DecisionBoundary) (state : Dict) : DecisionBoundary :=
  match state.get? "evidence_ids" with
  | some (.arr ids) =>
    { boundary with trustedEvidenceIds := boundary.trustedEvidenceIds ++ ids.filterMap Value.asStr? }
  | _ => boundary

/-- `require_transition`. -/
def checkTransition (current target : RunStatus) : Act Unit :=
  match requireTransition current target with
  | .ok () => pure ()
  | .error _ => .raise (.stateTransition current target)

/-- The stages of a journal in which nothing is missing after those of the step. -/
def stagesInOrder (stages : List StageRecord) : Prop :=
  stages.map Prod.fst = [.requestDecision, .validate, .execute, .observe]

instance (stages : List StageRecord) : Decidable (stagesInOrder stages) :=
  inferInstanceAs (Decidable (_ = _))

/-- `StepPipeline.advance`. -/
def advance (context : RunContext) (toolContext : ToolContext) (tokenBudget : Option ℕ) :
    Act (RunContext × StepResult) := do
  let boundary := agent.boundary.withEvidence context.state
  let prompt ← Prog.perform (.buildPrompt context)
  Prog.ofExcept (validateStepInputs agent context prompt boundary toolContext)
  let result ← executeStep agent context prompt boundary toolContext tokenBudget
  let status := targetStatus context.status (result.loopResult agent)
  let state := reduceState context (result.loopResult agent)
  checkTransition context.status status
  if ¬ stagesInOrder result.stages then .raise .pipelineSequence
  else do
    let nextStep := if status ∈ [RunStatus.runningReadonly, .runningWorkflow] then prompt.currentStep
      else "terminal"
    let version ← Prog.perform
      (.checkpoint context status nextStep state (eventsFor (result.loopResult agent)))
    pure (context.copy status state (context.stepCount + 1) version, result)

/-- `StepPipeline.handoff`. -/
def handoff (context : RunContext) (reason : String) : Act (RunContext × StepResult) := do
  checkTransition context.status .waitingHuman
  let state := context.state.set "last_step_reason" (.str reason)
  let version ← Prog.perform (.checkpoint context .waitingHuman "terminal" state
    [⟨.failed, [("reason", .str reason)]⟩])
  pure (context.copy .waitingHuman state (context.stepCount + 1) version,
    { status := .waitHuman, reason := some reason, stages := [] })

/-- `_decision_signature`. -/
def StepResult.signature? (result : StepResult) : Option String :=
  if result.status = .continue then result.decision.map (Decision.signature agent) else none

/-- The usage that the loop charges for a step. -/
def chargedTokens (result : StepResult) : Act ℕ :=
  match result.usageTokens with
  | some usage => pure usage
  | none => if agent.model.tokenCharge = 0 then .raise (.runtimeError "model gateway has no safe token charge")
    else pure agent.model.tokenCharge

structure AgentRunResult where
  context : RunContext
  exitReason : String
  steps : List StepResult

/-- `AgentLoop.run`: the iterations of its loop, at most `n`; `none` stands for a loop that goes on
after these. -/
def run : ℕ → RunContext → Option ℕ → Option String → List StepResult → Act (Option AgentRunResult)
  | 0, _, _, _, _ => pure none
  | n + 1, context, tokenBudget, previous, steps =>
    if context.status ≠ .runningReadonly then
      pure (some ⟨context, context.status.value, steps⟩)
    else do
      let toolContext ← Prog.perform (.toolContext context)
      let (current, result) ← advance agent context toolContext tokenBudget
      let remaining ← match tokenBudget with
        | none => pure none
        | some budget => do
          let usage ← chargedTokens agent result
          pure (some (budget - usage))
      if current.status ≠ .runningReadonly then
        pure (some ⟨current, current.status.value, steps ++ [result]⟩)
      else if (result.signature? agent).isSome ∧ result.signature? agent = previous then do
        let (stopped, last) ← handoff current "readonly_loop_no_progress"
        pure (some ⟨stopped, stopped.status.value, steps ++ [result] ++ [last]⟩)
      else run n current remaining (result.signature? agent) (steps ++ [result])

/-- What the loop goes on with after a step and its charge. -/
def runAfter (n : ℕ) (previous : Option String) (steps : List StepResult) (current : RunContext)
    (result : StepResult) (remaining : Option ℕ) : Act (Option AgentRunResult) :=
  if current.status ≠ .runningReadonly then
    pure (some ⟨current, current.status.value, steps ++ [result]⟩)
  else if (result.signature? agent).isSome ∧ result.signature? agent = previous then do
    let (stopped, last) ← handoff current "readonly_loop_no_progress"
    pure (some ⟨stopped, stopped.status.value, steps ++ [result] ++ [last]⟩)
  else run agent n current remaining (result.signature? agent) (steps ++ [result])

end Pipeline

end CommerceAgent.Agent
