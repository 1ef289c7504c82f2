import CommerceAgent.Json
import Mathlib.Data.Rat.Defs
import Mathlib.Data.Rat.Init

/-! The contracts of `protocols.py` that the run lifecycle reads and writes, with the exceptions
that the runtime raises. -/
namespace CommerceAgent

open Json

abbrev Uuid : Type := String

inductive RunStatus where
  | created
  | routing
  | runningReadonly
  | runningWorkflow
  | waitingUser
  | waitingConfirmation
  | committing
  | verifying
  | waitingHuman
  | completed
  | failed
  | cancelled
  | expired
  deriving DecidableEq, Repr

def RunStatus.value : RunStatus → String
  | created => "created"
  | routing => "routing"
  | runningReadonly => "running_readonly"
  | runningWorkflow => "running_workflow"
  | waitingUser => "waiting_user"
  | waitingConfirmation => "waiting_confirmation"
  | committing => "committing"
  | verifying => "verifying"
  | waitingHuman => "waiting_human"
  | completed => "completed"
  | failed => "failed"
  | cancelled => "cancelled"
  | expired => "expired"

inductive RiskHint where
  | readOnly
  | write
  | unknown
  deriving DecidableEq, Repr

inductive RequestDomain where
  | commerce
  | social
  | capability
  | unsupported
  | unknown
  deriving DecidableEq, Repr

def RequestDomain.value : RequestDomain → String
  | commerce => "commerce"
  | social => "social"
  | capability => "capability"
  | unsupported => "unsupported"
  | unknown => "unknown"

inductive RequestRiskLevel where
  | low
  | medium
  | high
  | unknown
  deriving DecidableEq, Repr

def RequestRiskLevel.value : RequestRiskLevel → String
  | low => "low"
  | medium => "medium"
  | high => "high"
  | unknown => "unknown"

inductive ResponsePolicy where
  | execute
  | askUser
  | conversationalResponse
  | gracefulUnsupported
  | safetyDeescalation
  | humanHandoff
  deriving DecidableEq, Repr

def ResponsePolicy.value : ResponsePolicy → String
  | execute => "execute"
  | askUser => "ask_user"
  | conversationalResponse => "conversational_response"
  | gracefulUnsupported => "graceful_unsupported"
  | safetyDeescalation => "safety_deescalation"
  | humanHandoff => "human_handoff"

/-- The candidate of the model; confidences are exact rationals. -/
structure IntentClassification where
  intent : String
  riskHint : RiskHint
  confidence : ℚ
  domainConfidence : Option ℚ := none
  riskConfidence : Option ℚ := none
  domain : RequestDomain := .unknown
  requestRiskLevel : RequestRiskLevel := .unknown
  alternatives : List String := []

inductive ExecutionMode where
  | readonlyLoop
  | workflow
  deriving DecidableEq, Repr

structure RunContext where
  runId : Uuid
  conversationId : Uuid
  tenantId : String
  actorId : String
  executionMode : Option ExecutionMode := none
  workflowId : Option String := none
  workflowVersion : Option String := none
  status : RunStatus
  state : Dict := []
  stepCount : ℕ := 0
  checkpointVersion : ℕ := 0

/-- The field bounds of the `RunContext` contract, apart from `step_count`. -/
structure RunContext.Bounded (context : RunContext) : Prop where
  tenant : 1 ≤ context.tenantId.length ∧ context.tenantId.length ≤ 64
  actor : 1 ≤ context.actorId.length ∧ context.actorId.length ≤ 128
  workflow : ∀ w ∈ context.workflowId, 1 ≤ w.length ∧ w.length ≤ 128
  version : ∀ v ∈ context.workflowVersion, 1 ≤ v.length ∧ v.length ≤ 64

instance (context : RunContext) : Decidable context.Bounded :=
  decidable_of_iff
    ((1 ≤ context.tenantId.length ∧ context.tenantId.length ≤ 64) ∧
      (1 ≤ context.actorId.length ∧ context.actorId.length ≤ 128) ∧
      (∀ w ∈ context.workflowId, 1 ≤ w.length ∧ w.length ≤ 128) ∧
      (∀ v ∈ context.workflowVersion, 1 ≤ v.length ∧ v.length ≤ 64))
    ⟨fun ⟨ht, ha, hw, hv⟩ => ⟨ht, ha, hw, hv⟩, fun ⟨ht, ha, hw, hv⟩ => ⟨ht, ha, hw, hv⟩⟩

inductive EventType where
  | runCreated
  | modelRequestStarted
  | modelRequestSucceeded
  | modelRequestFailed
  | stepCompleted
  | toolCalled
  | toolObserved
  | toolRequestStarted
  | toolRequestSucceeded
  | toolRequestFailed
  | assistantResponse
  | decisionValidationFailed
  | recoveryAttemptStarted
  | recoveryAttemptSucceeded
  | recoveryAttemptFailed
  | terminalResponsePublished
  | terminalResponsePublishFailed
  | waitingForUser
  | failed
  | mutationPrepared
  | userConfirmed
  | commitStarted
  | commitObserved
  | stateVerified
  | mutationUncertain
  | handoffCreated
  | handoffResolved
  | safetyRouted
  | routingShadowCompared
  | skillMatched
  | releaseAssigned
  deriving DecidableEq, Repr

def EventType.value : EventType → String
  | runCreated => "run_created"
  | modelRequestStarted => "model_request_started"
  | modelRequestSucceeded => "model_request_succeeded"
  | modelRequestFailed => "model_request_failed"
  | stepCompleted => "step_completed"
  | toolCalled => "tool_called"
  | toolObserved => "tool_observed"
  | toolRequestStarted => "tool_request_started"
  | toolRequestSucceeded => "tool_request_succeeded"
  | toolRequestFailed => "tool_request_failed"
  | assistantResponse => "assistant_response"
  | decisionValidationFailed => "decision_validation_failed"
  | recoveryAttemptStarted => "recovery_attempt_started"
  | recoveryAttemptSucceeded => "recovery_attempt_succeeded"
  | recoveryAttemptFailed => "recovery_attempt_failed"
  | terminalResponsePublished => "terminal_response_published"
  | terminalResponsePublishFailed => "terminal_response_publish_failed"
  | waitingForUser => "waiting_for_user"
  | failed => "failed"
  | mutationPrepared => "mutation_prepared"
  | userConfirmed => "user_confirmed"
  | commitStarted => "commit_started"
  | commitObserved => "commit_observed"
  | stateVerified => "state_verified"
  | mutationUncertain => "mutation_uncertain"
  | handoffCreated => "handoff_created"
  | handoffResolved => "handoff_resolved"
  | safetyRouted => "safety_routed"
  | routingShadowCompared => "routing_shadow_compared"
  | skillMatched => "skill_matched"
  | releaseAssigned => "release_assigned"

def EventType.all : List EventType :=
  [runCreated, modelRequestStarted, modelRequestSucceeded, modelRequestFailed, stepCompleted,
    toolCalled, toolObserved, toolRequestStarted, toolRequestSucceeded, toolRequestFailed,
    assistantResponse, decisionValidationFailed, recoveryAttemptStarted, recoveryAttemptSucceeded,
    recoveryAttemptFailed, terminalResponsePublished, terminalResponsePublishFailed,
    waitingForUser, failed, mutationPrepared, userConfirmed, commitStarted, commitObserved,
    stateVerified, mutationUncertain, handoffCreated, handoffResolved, safetyRouted,
    routingShadowCompared, skillMatched, releaseAssigned]

/-- `EventType(value)`. -/
def EventType.ofValue? (value : String) : Option EventType :=
  EventType.all.find? fun eventType => eventType.value = value

theorem EventType.ofValue?_value (eventType : EventType) :
    ofValue? eventType.value = some eventType := by
  cases eventType <;> rfl

structure DomainEvent where
  eventType : EventType
  payload : Dict := []

/-- The exceptions that the modelled code raises or lets through. -/
inductive StepStatus where
  | «continue»
  | waitUser
  | waitHuman
  | complete
  | fail
  deriving DecidableEq, Repr

def StepStatus.value : StepStatus → String
  | «continue» => "continue"
  | waitUser => "wait_user"
  | waitHuman => "wait_human"
  | complete => "complete"
  | fail => "fail"

/-- What a tool call left: an error code with its retryable mark, or data. -/
structure ToolExecution where
  toolName : String
  toolVersion : String
  attempts : ℕ
  error : Option (String × Bool) := none
  data : Option Dict := none

/-- The decision of the model, as far as the loop looks at it. -/
structure AgentDecision where
  signature : String
  evidenceIds : List String := []

/-- The result of one agent step. -/
structure LoopResult where
  status : StepStatus
  response : Option String := none
  decision : Option AgentDecision := none
  execution : Option ToolExecution := none
  reason : Option String := none
  usageTokens : Option ℕ := none

inductive Exc where
  | valueError (message : String)
  | validationError
  | keyError (key : String)
  | unboundLocal (name : String)
  | assertion
  | database
  | integrity
  | adapter
  | messageConflict
  | activeRunConflict (runId : Uuid) (status : RunStatus)
  | versionConflict (message : String)
  | mutationCompletionConflict
  | confirmationUnavailable
  | idempotencyConflict
  | mutationExecutionUnavailable
  | mutationExecution (message : String)
  | mutationWorkflow (code message : String) (missingSlots : List String)
  | lowRiskWorkflow (code message : String) (missingSlots : List String)
  | mutationPlanning (code message : String) (missingSlots : List String)
  | stateTransition (current target : RunStatus)
  | modelGateway
  | eventReplay (message : String)
  | http (statusCode : ℕ) (detail : String)
  /-- The 409 answer `ACTIVE_RUN_EXISTS`, whose detail names the run in the way. -/
  | httpActiveRun (runId : Uuid) (status : RunStatus)
  deriving DecidableEq, Repr

/-- `RunContext.model_validate`. -/
def RunContext.modelValidate (context : RunContext) : Except Exc RunContext :=
  if context.Bounded ∧ context.stepCount ≤ 6 then .ok context else .error .validationError

theorem RunContext.modelValidate_eq_ok {context context' : RunContext} :
    context.modelValidate = .ok context' ↔
      context' = context ∧ context.Bounded ∧ context.stepCount ≤ 6 := by
  unfold modelValidate
  split
  · rename_i h
    simp only [Except.ok.injEq]
    exact ⟨fun he => ⟨he.symm, h⟩, fun he => he.1.symm⟩
  · rename_i h
    simp only [reduceCtorEq, false_iff]
    exact fun he => h he.2

end CommerceAgent
