import CommerceAgent.MutationWorkflow
import CommerceAgent.StateMachine

/-! The readonly loop: one checkpointed step after the other, until the run pauses or ends. -/
namespace CommerceAgent

open Json Programs

def MAX_STEPS : ℕ := 6

/-- A step that ended before it asked the model. -/
def LoopResult.stopped (reason : String) : LoopResult where
  status := .fail
  reason := some reason

/-- `execute_step`, with the prompt that it is given. -/
def executeStep (context : RunContext) (tokenBudget deadlineAt : ℕ) : Act LoopResult :=
  if 6 ≤ context.stepCount then pure (.stopped "max_steps_exceeded")
  else if tokenBudget = 0 then pure (.stopped "token_budget_exhausted")
  else do
    let now ← Prog.perform (.world .now)
    if deadlineAt ≤ now then pure (.stopped "deadline_exceeded")
    else Prog.perform (.world (.agentStep context))

/-- `_target_status`. -/
def targetStatus (current : RunStatus) (result : LoopResult) : RunStatus :=
  if result.reason = some "cancelled" then .cancelled
  else match result.status with
  | .continue => current
  | .waitUser => .waitingUser
  | .waitHuman => .waitingHuman
  | .complete => .completed
  | .fail =>
    if result.reason ∈ [some "max_steps_exceeded", some "token_budget_exhausted",
        some "deadline_exceeded"] then .waitingHuman
    else .failed

/-- The identifiers of a list that holds nothing but strings. -/
def evidenceIds (data : Dict) : Option (List Value) :=
  match data.get? "evidence_ids" with
  | some (.arr ids) => if ids.all fun id => id.asStr?.isSome then some ids else none
  | _ => none

/-- What a tool call leaves in the state: its data, if it has any, and the observation. -/
def ToolExecution.observe (execution : ToolExecution) (state : Dict) : Dict :=
  let outcome := if execution.error.isSome then "failed" else "succeeded"
  let observation : Dict :=
    [("tool_name", .str execution.toolName), ("tool_version", .str execution.toolVersion),
      ("attempts", .int execution.attempts), ("outcome", .str outcome)]
  match execution.error, execution.data with
  | some (code, retryable), _ =>
    state.set "last_observation" (.obj (observation ++
      [("error_code", .str code), ("retryable", .bool retryable)]))
  | none, some data =>
    let byTool := ((state.get? "tool_data_by_name").bind Value.asObj?).getD []
    let state := (state.set "last_tool_data" (.obj data)).set "tool_data_by_name"
      (.obj (Dict.set byTool execution.toolName (.obj data)))
    let state := match evidenceIds data with
      | some ids => state.set "evidence_ids" (.arr ids)
      | none => state
    state.set "last_observation" (.obj observation)
  | none, none => state.set "last_observation" (.obj observation)

/-- The state that `reduce_step` persists. -/
def reduceState (context : RunContext) (result : LoopResult) : Dict :=
  let state := (context.state.set "last_step_status" (.str result.status.value)).pop
    "last_step_reason"
  let state := match result.reason with
    | some reason => state.set "last_step_reason" (.str reason)
    | none => state
  match result.execution with
  | some execution => execution.observe state
  | none => state

/-- The events of a tool call; one that was stopped before the adapter is not announced. -/
def ToolExecution.events (execution : ToolExecution) : List DomainEvent :=
  let outcome := if execution.error.isSome then "failed" else "succeeded"
  let observed : Dict :=
    [("tool_name", .str execution.toolName), ("tool_version", .str execution.toolVersion),
      ("attempts", .int execution.attempts), ("outcome", .str outcome)]
  let observed : Dict := match execution.error with
    | some (code, _) => observed ++ [("error_code", .str code)]
    | none => observed ++ ((execution.data.bind evidenceIds).map fun ids =>
        ("evidence_ids", Value.arr ids)).toList
  let called : List DomainEvent :=
    if 0 < execution.attempts then
      [⟨.toolCalled, [("tool_name", .str execution.toolName),
        ("tool_version", .str execution.toolVersion)]⟩]
    else []
  called ++ [⟨.toolObserved, observed⟩,
    ⟨.stepCompleted, [("tool_called", .bool (decide (0 < execution.attempts)))]⟩]

/-- `_events_for`. -/
def eventsFor (result : LoopResult) : List DomainEvent :=
  match result.execution with
  | some execution => execution.events
  | none =>
    match result.status with
    | .waitUser => [⟨.waitingForUser, []⟩]
    | .fail =>
      [⟨.failed, [("reason", .str ((result.reason.filter (· ≠ "")).getD "failed"))]⟩]
    | status => [⟨.stepCompleted, [("status", .str status.value), ("evidence_ids",
        .arr ((result.decision.map AgentDecision.evidenceIds).getD [] |>.map Value.str))]⟩]

/-- `StepPipeline.advance`: one step and its checkpoint. -/
def advance (context : RunContext) (tokenBudget deadlineAt : ℕ) : Act (RunContext × LoopResult) :=
  if MAX_STEPS < context.stepCount then
    .raise (.valueError "prompt exceeds the runtime step budget")
  else do
    let result ← executeStep context tokenBudget deadlineAt
    let status := targetStatus context.status result
    let state := reduceState context result
    Prog.ofExcept (requireTransition context.status status)
    let nextStep := if status ∈ [RunStatus.runningReadonly, .runningWorkflow] then "retrieve"
      else "terminal"
    let version ← checkpoint context status nextStep state (eventsFor result)
    pure (context.copy status state (context.stepCount + 1) version, result)

/-- `StepPipeline.handoff`. -/
def loopHandoff (context : RunContext) (reason : String) : Act (RunContext × LoopResult) := do
  Prog.ofExcept (requireTransition context.status .waitingHuman)
  let state := context.state.set "last_step_reason" (.str reason)
  let version ← checkpoint context .waitingHuman "terminal" state
    [⟨.failed, [("reason", .str reason)]⟩]
  pure (context.copy .waitingHuman state (context.stepCount + 1) version,
    { status := .waitHuman, reason := some reason })

/-- `_decision_signature`. -/
def LoopResult.signature? (result : LoopResult) : Option String :=
  if result.status = .continue then result.decision.map AgentDecision.signature else none

/-- The token charge of a step. -/
def tokenUsage (result : LoopResult) : Act ℕ :=
  match result.usageTokens with
  | some usage => pure usage
  | none => .perform (.world .tokenCharge)

/-- The loop of `AgentLoop.run`, with the last response that a step gave. A step at the step limit
does not continue, so that `n` steps suffice for a context that has less than `n` to go. -/
def agentLoop (deadlineAt : ℕ) : ℕ → RunContext → ℕ → Option String → Option String →
    Act (RunContext × Option String)
  | 0, context, _, _, response => pure (context, response)
  | n + 1, context, tokenBudget, previous, response =>
    if context.status ≠ .runningReadonly then pure (context, response)
    else do
      let (current, result) ← advance context tokenBudget deadlineAt
      let response := (result.response.filter (· ≠ "")).or response
      let usage ← tokenUsage result
      if current.status ≠ .runningReadonly then pure (current, response)
      else if result.signature?.isSome ∧ result.signature? = previous then do
        let (stopped, _) ← loopHandoff current "readonly_loop_no_progress"
        pure (stopped, response)
      else agentLoop deadlineAt n current (tokenBudget - usage) result.signature? response

/-- `execute_readonly_run`, for the timeout and the token limit of the settings. -/
def executeReadonlyRun (modelTimeout modelMaxTokens : ℕ) (context : RunContext) :
    Act (RunContext × Option String) := do
  let now ← Prog.perform (.world .now)
  agentLoop (now + (modelTimeout * 4 + 10)) (MAX_STEPS + 1) context (modelMaxTokens * 3) none none

end CommerceAgent
