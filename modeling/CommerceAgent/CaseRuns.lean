import CommerceAgent.HardGates
import CommerceAgent.ToolDiscipline
import CommerceAgent.AgentLoop

/-! `AgentLoopCaseRuntime` and `RunDriver` of `harness/run_driver.py`: the trace of a case is put
together from the decisions of its steps, while the tools are called by the executor. -/
namespace CommerceAgent.HardEval

open Json Agent Operators Policies Tools

section Steps

/-- A decision with all that a trace shows of it. -/
structure CaseDecision extends Agent.Decision where
  intent : String

structure ModelAnswer where
  decision : CaseDecision
  usageTokens : Option ℕ := none

inductive ModelFailure where
  | modelGateway
  | other

/-- What one step of a case reads from its surroundings. -/
structure StepInputs where
  /-- The prompt, unless its builder raises. -/
  prompt : Option Agent.PromptView
  cancelled : Bool := false
  now : ℕ
  answer : Except ModelFailure ModelAnswer
  /-- Whether the recorder of the model's answers accepts. -/
  recorded : Bool := true
  cancelledAfter : Bool := false
  /-- Whether the trace store accepts. -/
  traced : Bool := true
  /-- The answer to a second request, and whether it is recorded. -/
  retry : Except ModelFailure ModelAnswer := .error .modelGateway
  retryRecorded : Bool := true
  tool : Tools.Surroundings
  /-- The versions that the checkpoints of the step and of a stop after it return. -/
  version : Option ℕ
  stopVersion : Option ℕ := none

/-- The result of a step, as the trace reads it. -/
structure CaseStep where
  status : StepStatus
  response : Option String := none
  decision : Option CaseDecision := none
  execution : Option ToolExecution := none
  reason : Option String := none
  usageTokens : Option ℕ := none

def CaseStep.stopped (reason : String) : CaseStep where
  status := .fail
  reason := some reason

def CaseStep.rejected (decision : CaseDecision) : CaseStep where
  status := .fail
  decision := some decision
  reason := some "decision_rejected"

def CaseStep.called (decision : CaseDecision) (usage : Option ℕ) :
    Except Raised ToolExecution → CaseStep
  | .error _ => {
      status := .fail
      decision := some decision
      reason := some "tool_execution_failed" }
  | .ok execution => {
      status := .continue
      decision := some decision
      execution := some execution
      usageTokens := usage }

/-- The result of a valid decision that calls no tool. -/
def CaseStep.concluded (answer : ModelAnswer) : CaseStep :=
  let step (status : StepStatus) : CaseStep := {
    status := status
    response := answer.decision.response
    decision := some answer.decision
    usageTokens := answer.usageTokens }
  match answer.decision.type with
  | .askUser => step .waitUser
  | .handoff => step .waitHuman
  | .respond => step .complete
  | .finish => step .complete
  | .callTool => {
      status := .fail
      decision := some answer.decision
      reason := some "unsupported_decision"
      usageTokens := answer.usageTokens }

variable {V : Type} [Comparable V]

/-- The loop of a harness, with the contracts of its tools. -/
structure CaseLoop (V : Type) [Comparable V] where
  agent : Composition
  executor : ToolExecutor V
  policyFacts : Option (Facts V) := none
  contract : ∀ spec ∈ agent.tools, Contract spec
  named : ∀ spec ∈ agent.tools, spec.name ≠ ""

/-- What a planner makes of a case. -/
structure AgentLoopPlan where
  context : RunContext
  toolContext : ToolContext
  policyVersion : Option String := none
  tokenBudget : Option ℕ := none
  traceNextAction : Option String := none
  /-- Whether the case runs through a pipeline, and not for one step only. -/
  pipelined : Bool := true

theorem mem_of_resolve {tools : List ToolSpec} {name version : String} {context : ToolContext}
    {spec : ToolSpec} (h : resolve tools name version context = .ok spec) : spec ∈ tools := by
  unfold resolve at h
  cases hfound : tools.find? fun spec => spec.name = name ∧ spec.version = version with
  | none =>
    rw [hfound] at h
    cases h
  | some found =>
    rw [hfound] at h
    have hmem := List.mem_of_find?_eq_some hfound
    dsimp only at h
    split at h
    · cases h
    split at h
    · cases h
    split at h
    · cases h
    split at h
    · cases h
    · exact Except.ok.inj h ▸ hmem

variable (π : Platform) (loop : CaseLoop V) (plan : AgentLoopPlan)

/-- The request that the executor gets for a decision. -/
def CaseLoop.request (decision : CaseDecision) (spec : ToolSpec) (h : spec ∈ loop.agent.tools) :
    Request V where
  spec := spec
  contract := loop.contract spec h
  context := plan.toolContext
  policyVersion := plan.policyVersion
  arguments := decision.args
  policyFacts := loop.policyFacts
  deadlineAt := some loop.agent.deadlineAt

/-- What a step leaves, unless it raises, and the tools whose adapters it called. -/
structure Stepped where
  result : Option CaseStep
  invoked : List String := []

/-- A tool call that was let through. -/
def carryOut (answer : ModelAnswer) (spec : ToolSpec) (h : spec ∈ loop.agent.tools)
    (tool : Tools.Surroundings) : Stepped :=
  let run := loop.executor.execute π (loop.request plan answer.decision spec h) tool
  { result := some (.called answer.decision answer.usageTokens run.result)
    invoked := if run.calls = [] then [] else [spec.name] }

/-- The tool call of a decision. -/
def callTool (answer : ModelAnswer) (boundary : DecisionBoundary) (tool : Tools.Surroundings) :
    Stepped :=
  match h : resolve loop.agent.tools (answer.decision.tool.getD "") "1" plan.toolContext with
  | .error _ => { result := some (.rejected answer.decision) }
  | .ok spec =>
    if spec.risk ≠ .readOnly then
      { result := some {
          status := .waitHuman
          decision := some answer.decision
          reason := some "readonly_write_tool_forbidden"
          usageTokens := answer.usageTokens } }
    else match validate answer.decision.toDecision boundary (some spec) with
    | .error _ => { result := some (.rejected answer.decision) }
    | .ok () => carryOut π loop plan answer spec (mem_of_resolve h) tool

/-- The second request, after a decision that cites untrusted evidence. -/
def retryDecision (decision : CaseDecision) (boundary : DecisionBoundary) (i : StepInputs) :
    Option CaseStep :=
  match i.retry with
  | .error .modelGateway => some (.rejected decision)
  | .error .other => none
  | .ok answer =>
    if ¬ i.retryRecorded then some (.stopped "model_audit_failed")
    else match validate answer.decision.toDecision boundary none with
    | .error _ => some (.rejected decision)
    | .ok () => some (.concluded answer)

/-- The decision that a step acts on. -/
def ModelAnswer.bound (answer : ModelAnswer) (context : RunContext) : ModelAnswer :=
  { answer with
    decision := { answer.decision with
      toDecision := bindDeliveryOrder answer.decision.toDecision context } }

/-- What `execute_step` does with a decision. -/
def actOn (answer : ModelAnswer) (boundary : DecisionBoundary) (i : StepInputs) : Stepped :=
  if i.cancelledAfter then { result := some (.stopped "cancelled") }
  else if ¬ i.traced then { result := some (.stopped "trace_persistence_failed") }
  else if answer.decision.type = .callTool then callTool π loop plan answer boundary i.tool
  else match validate answer.decision.toDecision boundary none with
  | .ok () => { result := some (.concluded answer) }
  | .error message =>
    if message = "decision references untrusted evidence" then
      { result := retryDecision answer.decision boundary i }
    else { result := some (.rejected answer.decision) }

/-- `AgentStepExecutor.execute_step`. -/
def executeStep (context : RunContext) (boundary : DecisionBoundary) (tokenBudget : Option ℕ)
    (i : StepInputs) : Stepped :=
  if i.cancelled then { result := some (.stopped "cancelled") }
  else if 6 ≤ context.stepCount then { result := some (.stopped "max_steps_exceeded") }
  else if tokenBudget = some 0 then { result := some (.stopped "token_budget_exhausted") }
  else if loop.agent.deadlineAt ≤ i.now then { result := some (.stopped "deadline_exceeded") }
  else match i.answer with
  | .error .modelGateway =>
    { result := some (.stopped (if i.recorded then "model_unavailable" else "model_audit_failed")) }
  | .error .other => { result := none }
  | .ok answer =>
    if ¬ i.recorded then { result := some (.stopped "model_audit_failed") }
    else actOn π loop plan (answer.bound context) boundary i

end Steps

section Loop

variable {V : Type} [Comparable V] (π : Platform) (loop : CaseLoop V) (plan : AgentLoopPlan)

/-- The result as the reduction of a step looks at it. -/
def CaseStep.loopResult (step : CaseStep) : LoopResult where
  status := step.status
  response := step.response
  decision := step.decision.map fun decision =>
    ⟨decision.toDecision.signature loop.agent, decision.evidenceIds⟩
  execution := step.execution
  reason := step.reason
  usageTokens := step.usageTokens

/-- `_decision_signature`. -/
def CaseStep.signature? (step : CaseStep) : Option String :=
  if step.status = .continue then
    step.decision.map fun decision => decision.toDecision.signature loop.agent
  else none

/-- What a step of the pipeline leaves, and the tools whose adapters it called. -/
structure Advanced where
  result : Option (RunContext × CaseStep)
  invoked : List String := []

/-- `StepPipeline.advance`. -/
def advance (context : RunContext) (tokenBudget : Option ℕ) (i : StepInputs) : Advanced :=
  let boundary := loop.agent.boundary.withEvidence context.state
  match i.prompt with
  | none => { result := none }
  | some prompt =>
    match validateStepInputs loop.agent context prompt boundary plan.toolContext with
    | .error _ => { result := none }
    | .ok () =>
      let stepped := executeStep π loop plan context boundary tokenBudget i
      match stepped.result with
      | none => { result := none, invoked := stepped.invoked }
      | some step =>
        let status := targetStatus context.status (step.loopResult loop)
        let state := reduceState context (step.loopResult loop)
        match requireTransition context.status status, i.version with
        | .ok (), some version =>
          { result := some (context.copy status state (context.stepCount + 1) version, step)
            invoked := stepped.invoked }
        | _, _ => { result := none, invoked := stepped.invoked }

/-- The budget after a step, unless the gateway has no charge for a step without usage. -/
def charged (tokenBudget : Option ℕ) (step : CaseStep) : Option (Option ℕ) :=
  match tokenBudget, step.usageTokens with
  | none, _ => some none
  | some budget, some usage => some (some (budget - usage))
  | some budget, none =>
    if loop.agent.model.tokenCharge = 0 then none
    else some (some (budget - loop.agent.model.tokenCharge))

/-- How a run ended: with the status of its context and its steps, or with an exception. A run may
also still be going on. -/
inductive RunEnd where
  | returned (status : RunStatus) (steps : List CaseStep)
  | raised
  | unfinished

structure CaseRun where
  ending : RunEnd
  invoked : List String

/-- `AgentLoop.run`, over what its steps read, for as long as something is given. -/
def run : List StepInputs → RunContext → Option ℕ → Option String → List CaseStep → List String →
    CaseRun
  | inputs, context, tokenBudget, previous, steps, invoked =>
    if context.status ≠ .runningReadonly then ⟨.returned context.status steps, invoked⟩
    else match inputs with
    | [] => ⟨.unfinished, invoked⟩
    | i :: inputs =>
      let advanced := advance π loop plan context tokenBudget i
      let invoked := invoked ++ advanced.invoked
      match advanced.result with
      | none => ⟨.raised, invoked⟩
      | some (current, step) =>
        match charged loop tokenBudget step with
        | none => ⟨.raised, invoked⟩
        | some remaining =>
          if current.status ≠ .runningReadonly then
            ⟨.returned current.status (steps ++ [step]), invoked⟩
          else if (step.signature? loop).isSome ∧ step.signature? loop = previous then
            -- `handoff`
            match requireTransition current.status .waitingHuman, i.stopVersion with
            | .ok (), some _ =>
              ⟨.returned .waitingHuman (steps ++ [step] ++ [{
                  status := .waitHuman
                  reason := some "readonly_loop_no_progress" }]), invoked⟩
            | _, _ => ⟨.raised, invoked⟩
          else run inputs current remaining (step.signature? loop) (steps ++ [step]) invoked

end Loop

section Traces

structure RuntimeTrace where
  route : Option String := none
  intent : Option String := none
  nextAction : Option String := none
  args : Dict := []
  toolsCalled : List String := []
  evidenceIds : List String := []
  response : String := ""
  status : TraceStatus

/-- The value of a decision type. -/
def typeValue : DecisionType → String
  | .respond => "respond"
  | .askUser => "ask_user"
  | .callTool => "call_tool"
  | .handoff => "handoff"
  | .finish => "finish"

/-- `_trace_status`. -/
def traceStatus : StepStatus → TraceStatus
  | .complete => .complete
  | .waitUser => .waitUser
  | .waitHuman => .waitHuman
  | .continue => .complete
  | .fail => .fail

/-- `_run_trace_status`. -/
def runTraceStatus : RunStatus → TraceStatus
  | .completed => .complete
  | .waitingUser => .waitUser
  | .waitingHuman => .waitHuman
  | _ => .fail

/-- The trace of a run that went through a pipeline. -/
def RuntimeTrace.ofRun (nextAction : Option String) (status : RunStatus) (steps : List CaseStep) :
    RuntimeTrace :=
  let last := steps.getLast?
  let decision := last.bind CaseStep.decision
  let decisions := steps.filterMap CaseStep.decision
  let toolArgs := ((decisions.reverse.find? fun d => d.type = .callTool).map (·.args)).getD []
  { route := decision.map (·.route)
    intent := decision.map (·.intent)
    nextAction := (nextAction.filter (· ≠ "")).or (decision.map fun d => typeValue d.type)
    args := if toolArgs ≠ [] then toolArgs else (decision.map (·.args)).getD []
    toolsCalled := decisions.filterMap (·.tool)
    evidenceIds := (decision.map (·.evidenceIds)).getD []
    response := (last.bind CaseStep.response).getD ""
    status := runTraceStatus status }

/-- The trace of a single step. -/
def RuntimeTrace.ofStep (nextAction : Option String) (step : CaseStep) : RuntimeTrace where
  route := step.decision.map (·.route)
  intent := step.decision.map (·.intent)
  nextAction := (nextAction.filter (· ≠ "")).or (step.decision.map fun d => typeValue d.type)
  args := (step.decision.map (·.args)).getD []
  toolsCalled := ((step.decision.bind (·.tool)).filter (· ≠ "")).toList
  evidenceIds := (step.decision.map (·.evidenceIds)).getD []
  response := step.response.getD ""
  status := traceStatus step.status

/-- The trace that stands for a timeout or an exception. -/
def RuntimeTrace.failed : RuntimeTrace where
  status := .fail

/-- `TraceAdapter.normalize`. -/
def RuntimeTrace.normalize (trace : RuntimeTrace) (caseId : String) : NormalizedTrace where
  caseId := caseId
  route := trace.route
  intent := trace.intent
  nextAction := trace.nextAction
  args := trace.args
  toolsCalled := trace.toolsCalled
  evidenceIds := trace.evidenceIds
  response := trace.response
  status := trace.status

variable {V : Type} [Comparable V] (π : Platform) (loop : CaseLoop V) (plan : AgentLoopPlan)

/-- What a case leaves: its trace, unless it raises or goes on, and the tools whose adapters were
called. -/
structure Executed where
  trace : Option RuntimeTrace
  invoked : List String

/-- `AgentLoopCaseRuntime.execute_case`, for a plan. -/
def executeCase (inputs : List StepInputs) : Executed :=
  if plan.pipelined then
    let run := run π loop plan inputs plan.context plan.tokenBudget none [] []
    match run.ending with
    | .returned status steps => ⟨some (.ofRun plan.traceNextAction status steps), run.invoked⟩
    | _ => ⟨none, run.invoked⟩
  else match inputs with
  | [] => ⟨none, []⟩
  | i :: _ =>
    -- here the flag is read once, before the step
    let stepped := executeStep π loop plan plan.context loop.agent.boundary plan.tokenBudget
      { i with cancelledAfter := i.cancelled }
    ⟨stepped.result.map (.ofStep plan.traceNextAction), stepped.invoked⟩

/-- `RunDriver.run_case`: the trace that is evaluated. -/
def drivenTrace (case : EvalCase) (inputs : List StepInputs) (inTime : Bool) : NormalizedTrace :=
  let executed := executeCase π loop plan inputs
  ((if inTime then executed.trace else none).getD .failed).normalize case.id

end Traces

section Reports

variable {V : Type} [Comparable V] (π : Platform) (loop : CaseLoop V) (plan : AgentLoopPlan)

/-- The tool that a step names in its decision. -/
def CaseStep.tools (step : CaseStep) : List String := (step.decision.bind (·.tool)).toList

/-- What every step says about its tool call and its response. -/
structure CaseStep.Reports (step : CaseStep) (invoked : List String) : Prop where
  called : invoked.Sublist step.tools
  named : "" ∉ invoked
  response : ∀ text ∈ step.response, step.reason = none ∧
    step.status ∈ [StepStatus.complete, .waitUser, .waitHuman]

def Stepped.Reports (stepped : Stepped) : Prop :=
  ∀ step ∈ stepped.result, step.Reports stepped.invoked

/-- A step without a response that called nothing. -/
theorem reports_silent {step : CaseStep} (h : step.response = none) :
    Stepped.Reports { result := some step } := by
  intro step' hstep
  obtain rfl := Option.some.inj hstep
  refine ⟨List.nil_sublist _, List.not_mem_nil, fun text htext => ?_⟩
  rw [h] at htext
  exact absurd htext (Option.not_mem_none text)

theorem reports_concluded (answer : ModelAnswer) :
    Stepped.Reports { result := some (.concluded answer) } := by
  intro step hstep
  obtain rfl := Option.some.inj hstep
  refine ⟨List.nil_sublist _, List.not_mem_nil, ?_⟩
  cases htype : answer.decision.type <;> simp [CaseStep.concluded, htype]

theorem tools_called (decision : CaseDecision) (usage : Option ℕ)
    (result : Except Raised ToolExecution) :
    (CaseStep.called decision usage result).tools = decision.tool.toList := by
  cases result <;> rfl

/-- The adapter that may be called is the one of the tool that the decision names. -/
theorem reports_carryOut {answer : ModelAnswer} {spec : ToolSpec} (h : spec ∈ loop.agent.tools)
    (htool : answer.decision.tool = some spec.name) (tool : Tools.Surroundings) :
    (carryOut π loop plan answer spec h tool).Reports := by
  have hname := loop.named spec h
  unfold carryOut
  generalize loop.executor.execute π (loop.request plan answer.decision spec h) tool = run
  intro step hstep
  obtain rfl := Option.some.inj hstep
  refine ⟨?_, ?_, ?_⟩
  · rw [tools_called, htool]
    dsimp only
    split
    · exact List.nil_sublist _
    · exact List.Sublist.refl _
  · dsimp only
    split
    · exact List.not_mem_nil
    · exact fun h => hname (List.mem_singleton.mp h).symm
  · cases run.result <;> simp [CaseStep.called]

theorem reports_callTool {answer : ModelAnswer} (htype : answer.decision.type = .callTool)
    (boundary : DecisionBoundary) (tool : Tools.Surroundings) :
    (callTool π loop plan answer boundary tool).Reports := by
  unfold callTool
  split
  · exact reports_silent rfl
  rename_i spec hresolve
  split
  · exact reports_silent rfl
  split
  · exact reports_silent rfl
  rename_i hvalid
  exact reports_carryOut π loop plan _ (validate_callTool htype hvalid) tool

theorem reports_retry (decision : CaseDecision) (boundary : DecisionBoundary) (i : StepInputs) :
    Stepped.Reports { result := retryDecision decision boundary i } := by
  unfold retryDecision
  split
  · exact reports_silent rfl
  · exact fun _ h => absurd h (Option.not_mem_none _)
  · split
    · exact reports_silent rfl
    · split
      · exact reports_silent rfl
      · exact reports_concluded _

theorem reports_actOn (answer : ModelAnswer) (boundary : DecisionBoundary) (i : StepInputs) :
    (actOn π loop plan answer boundary i).Reports := by
  unfold actOn
  split
  · exact reports_silent rfl
  split
  · exact reports_silent rfl
  split
  · rename_i htype
    exact reports_callTool π loop plan htype boundary i.tool
  split
  · exact reports_concluded answer
  split
  · exact reports_retry answer.decision boundary i
  · exact reports_silent rfl

/-- No step calls an adapter that its decision does not name, and only a step that ends well or
waits has a response. -/
theorem reports_executeStep (context : RunContext) (boundary : DecisionBoundary)
    (tokenBudget : Option ℕ) (i : StepInputs) :
    (executeStep π loop plan context boundary tokenBudget i).Reports := by
  unfold executeStep
  split
  · exact reports_silent rfl
  split
  · exact reports_silent rfl
  split
  · exact reports_silent rfl
  split
  · exact reports_silent rfl
  split
  · exact reports_silent rfl
  · exact fun _ h => absurd h (Option.not_mem_none _)
  · split
    · exact reports_silent rfl
    · exact reports_actOn π loop plan _ boundary i

end Reports

section Conditions

variable {V : Type} [Comparable V] (π : Platform) (loop : CaseLoop V) (plan : AgentLoopPlan)

/-- A decision is carried out: its tool is allowed and read-only, and the executor gets as far as the
adapter; or it calls no tool and is valid, or the answer to the second request is. -/
inductive CarriedOut (boundary : DecisionBoundary) (i : StepInputs) (answer : ModelAnswer) : Prop
  | tool {spec : ToolSpec} (htype : answer.decision.type = .callTool)
    (hresolve : resolve loop.agent.tools (answer.decision.tool.getD "") "1" plan.toolContext = .ok spec)
    (hrisk : spec.risk = .readOnly)
    (hvalid : validate answer.decision.toDecision boundary (some spec) = .ok ())
    (hbegins : Begins π loop.executor
      (loop.request plan answer.decision spec (mem_of_resolve hresolve)) i.tool)
    (hreaches : (loop.request plan answer.decision spec (mem_of_resolve hresolve)).Reaches i.tool
      ((loop.request plan answer.decision spec (mem_of_resolve hresolve)).maxAttempts - 1) 0) :
    CarriedOut boundary i answer
  | answered (hvalid : validate answer.decision.toDecision boundary none = .ok ()) :
    CarriedOut boundary i answer
  | second {again : ModelAnswer} (htype : answer.decision.type ≠ .callTool)
    (hvalid : validate answer.decision.toDecision boundary none =
      .error "decision references untrusted evidence")
    (hretry : i.retry = .ok again) (hrecorded : i.retryRecorded = true)
    (hagain : validate again.decision.toDecision boundary none = .ok ()) :
    CarriedOut boundary i answer

/-- A step that is neither cancelled nor late, and whose decision is carried out. -/
structure Decides (context : RunContext) (boundary : DecisionBoundary) (tokenBudget : Option ℕ)
    (i : StepInputs) : Prop where
  notCancelled : i.cancelled = false
  stepsLeft : context.stepCount < 6
  budgetLeft : tokenBudget ≠ some 0
  inTime : i.now < loop.agent.deadlineAt
  recorded : i.recorded = true
  goesOn : i.cancelledAfter = false
  traced : i.traced = true
  carriedOut : ∃ answer, i.answer = .ok answer ∧
    CarriedOut π loop plan boundary i (answer.bound context)

/-- A step of a run that hands over for want of steps, tokens or time before it asks the model. -/
structure HandsOver (context : RunContext) (tokenBudget : Option ℕ) (i : StepInputs) : Prop where
  notCancelled : i.cancelled = false
  exhausted : 6 ≤ context.stepCount ∨ tokenBudget = some 0 ∨ loop.agent.deadlineAt ≤ i.now

/-- What a step of a run has to meet. -/
structure Meets (context : RunContext) (tokenBudget : Option ℕ) (i : StepInputs) : Prop where
  prompt : ∃ prompt, i.prompt = some prompt ∧ validateStepInputs loop.agent context prompt
    (loop.agent.boundary.withEvidence context.state) plan.toolContext = .ok ()
  stored : i.version.isSome ∧ i.stopVersion.isSome
  step : HandsOver loop context tokenBudget i ∨
    Decides π loop plan context (loop.agent.boundary.withEvidence context.state) tokenBudget i

/-- A step whose outcome bears out what its decision says. -/
structure Stepped.Ran (stepped : Stepped) (step : CaseStep) : Prop where
  result : stepped.result = some step
  invoked : stepped.invoked = step.tools
  status : step.status ≠ .fail
  reason : step.reason = none

/-- A valid decision that calls no tool names none. -/
theorem validate_no_tool {decision : Agent.Decision} {boundary : DecisionBoundary}
    (h : validate decision boundary none = .ok ()) :
    decision.type ≠ .callTool ∧ decision.tool = none := by
  unfold validate at h
  split at h
  · cases h
  split at h
  · cases h
  split at h
  · cases h
  split at h
  · cases h
  split at h
  · split at h <;> cases h
  · rename_i htype
    split at h
    · cases h
    · rename_i hdata
      rw [not_or, Option.not_isSome_iff_eq_none] at hdata
      exact ⟨htype, hdata.1⟩

theorem ran_concluded {answer : ModelAnswer} {boundary : DecisionBoundary}
    (h : validate answer.decision.toDecision boundary none = .ok ()) :
    Stepped.Ran { result := some (.concluded answer) } (.concluded answer) := by
  obtain ⟨htype, htool⟩ := validate_no_tool h
  refine ⟨rfl, ?_, ?_, ?_⟩
  all_goals
    cases hcase : answer.decision.type <;>
      simp_all [CaseStep.concluded, CaseStep.tools]

theorem ran_carryOut {answer : ModelAnswer} {spec : ToolSpec} {tool : Tools.Surroundings}
    (h : spec ∈ loop.agent.tools) (htool : answer.decision.tool = some spec.name)
    (hbegins : Begins π loop.executor (loop.request plan answer.decision spec h) tool)
    (hreaches : (loop.request plan answer.decision spec h).Reaches tool
      ((loop.request plan answer.decision spec h).maxAttempts - 1) 0) :
    ∃ step, (carryOut π loop plan answer spec h tool).Ran step := by
  have hattempted := attempts_attempted (loop.request plan answer.decision spec h) tool
    ((loop.request plan answer.decision spec h).maxAttempts - 1) 0
  obtain ⟨execution, hresult, -⟩ := hattempted.disciplined.1
  have hcalls := (hattempted.calls_iff (readOnly_or_once _)).mpr hreaches
  unfold carryOut
  rw [execute_of_begins π loop.executor _ hbegins]
  dsimp only
  rw [hresult, if_neg hcalls]
  refine ⟨_, rfl, ?_, ?_, rfl⟩
  · rw [tools_called, htool]
    rfl
  · exact StepStatus.noConfusion

theorem callTool_eq {answer : ModelAnswer} {boundary : DecisionBoundary} {spec : ToolSpec}
    (tool : Tools.Surroundings)
    (hresolve : resolve loop.agent.tools (answer.decision.tool.getD "") "1" plan.toolContext = .ok spec)
    (hrisk : spec.risk = .readOnly)
    (hvalid : validate answer.decision.toDecision boundary (some spec) = .ok ()) :
    callTool π loop plan answer boundary tool =
      carryOut π loop plan answer spec (mem_of_resolve hresolve) tool := by
  unfold callTool
  split
  · rename_i e herror
    exact nomatch hresolve.symm.trans herror
  · rename_i spec' hspec
    obtain rfl := Except.ok.inj (hresolve.symm.trans hspec)
    rw [if_neg (not_not.mpr hrisk), hvalid]

theorem ran_actOn {answer : ModelAnswer} {boundary : DecisionBoundary} {i : StepInputs}
    (hgoesOn : i.cancelledAfter = false) (htraced : i.traced = true)
    (h : CarriedOut π loop plan boundary i answer) :
    ∃ step, (actOn π loop plan answer boundary i).Ran step := by
  unfold actOn
  rw [hgoesOn, htraced, if_neg Bool.false_ne_true, if_neg (not_not.mpr rfl)]
  cases h with
  | tool htype hresolve hrisk hvalid hbegins hreaches =>
    rw [if_pos htype, callTool_eq π loop plan i.tool hresolve hrisk hvalid]
    exact ran_carryOut π loop plan _ (validate_callTool htype hvalid) hbegins hreaches
  | answered hvalid =>
    rw [if_neg (validate_no_tool hvalid).1, hvalid]
    exact ⟨_, ran_concluded hvalid⟩
  | second htype hvalid hretry hrecorded hagain =>
    rw [if_neg htype, hvalid]
    dsimp only
    rw [if_pos rfl]
    unfold retryDecision
    rw [hretry, hrecorded]
    dsimp only
    rw [if_neg (not_not.mpr rfl), hagain]
    exact ⟨_, ran_concluded hagain⟩

theorem ran_executeStep {context : RunContext} {boundary : DecisionBoundary}
    {tokenBudget : Option ℕ} {i : StepInputs} (h : Decides π loop plan context boundary tokenBudget i) :
    ∃ step, (executeStep π loop plan context boundary tokenBudget i).Ran step := by
  obtain ⟨answer, hanswer, hcarried⟩ := h.carriedOut
  unfold executeStep
  rw [h.notCancelled, if_neg Bool.false_ne_true, if_neg (Nat.not_le.mpr h.stepsLeft),
    if_neg h.budgetLeft, if_neg (Nat.not_le.mpr h.inTime), hanswer]
  dsimp only
  rw [h.recorded, if_neg (not_not.mpr rfl)]
  exact ran_actOn π loop plan h.goesOn h.traced hcarried

end Conditions

section Runs

variable {V : Type} [Comparable V] (π : Platform) (loop : CaseLoop V) (plan : AgentLoopPlan)

/-- The statuses of a run that neither goes on nor has failed. -/
def SETTLED : List RunStatus := [.completed, .waitingUser, .waitingHuman]

theorem runTraceStatus_settled {status : RunStatus} (h : status ∈ SETTLED) :
    runTraceStatus status ≠ .fail := by
  cases status <;> revert h <;> decide

/-- The steps that a run begins, each with its context and its budget. -/
def begun : List StepInputs → RunContext → Option ℕ → Option String →
    List (RunContext × Option ℕ × StepInputs)
  | inputs, context, tokenBudget, previous =>
    if context.status ≠ .runningReadonly then []
    else match inputs with
    | [] => []
    | i :: inputs =>
      (context, tokenBudget, i) :: match (advance π loop plan context tokenBudget i).result with
      | none => []
      | some (current, step) =>
        match charged loop tokenBudget step with
        | none => []
        | some remaining =>
          if current.status ≠ .runningReadonly then []
          else if (step.signature? loop).isSome ∧ step.signature? loop = previous then []
          else begun inputs current remaining (step.signature? loop)

/-- What a step of a run that goes well leaves: its context has settled, or the run goes on. -/
structure Advances (context : RunContext) (advanced : Advanced) (current : RunContext)
    (step : CaseStep) : Prop where
  result : advanced.result = some (current, step)
  invoked : advanced.invoked = step.tools
  settled : current.status ∈ SETTLED ∨ current.status = .runningReadonly ∧
    context.stepCount < 6 ∧ current.stepCount = context.stepCount + 1

/-- A step without a reason that has not failed keeps the run going or settles it. -/
theorem targetStatus_mem (result : LoopResult) (hreason : result.reason = none)
    (hstatus : result.status ≠ .fail) :
    targetStatus .runningReadonly result ∈ .runningReadonly :: SETTLED := by
  obtain ⟨status, _, _, _, reason, _⟩ := result
  obtain rfl : reason = none := hreason
  cases status with
  | fail => exact absurd rfl hstatus
  | «continue» => exact List.mem_cons_self
  | waitUser => exact (by decide : RunStatus.waitingUser ∈ RunStatus.runningReadonly :: SETTLED)
  | waitHuman => exact (by decide : RunStatus.waitingHuman ∈ RunStatus.runningReadonly :: SETTLED)
  | complete => exact (by decide : RunStatus.completed ∈ RunStatus.runningReadonly :: SETTLED)

theorem requireTransition_of_running : ∀ status ∈ RunStatus.runningReadonly :: SETTLED,
    requireTransition .runningReadonly status = .ok () := by
  decide

/-- The pipeline takes over the result of a step that leads to a status it may lead to. -/
theorem advance_eq {context : RunContext} {tokenBudget : Option ℕ} {i : StepInputs}
    {prompt : Agent.PromptView} {step : CaseStep} {version : ℕ} (hprompt : i.prompt = some prompt)
    (hinputs : validateStepInputs loop.agent context prompt
      (loop.agent.boundary.withEvidence context.state) plan.toolContext = .ok ())
    (hversion : i.version = some version)
    (hresult : (executeStep π loop plan context (loop.agent.boundary.withEvidence context.state)
      tokenBudget i).result = some step)
    (htarget : requireTransition context.status (targetStatus context.status (step.loopResult loop)) =
      .ok ()) :
    advance π loop plan context tokenBudget i =
      { result := some (context.copy (targetStatus context.status (step.loopResult loop))
          (reduceState context (step.loopResult loop)) (context.stepCount + 1) version, step)
        invoked := (executeStep π loop plan context
          (loop.agent.boundary.withEvidence context.state) tokenBudget i).invoked } := by
  unfold advance
  rw [hprompt]
  dsimp only
  rw [hinputs]
  dsimp only
  rw [hresult]
  dsimp only
  rw [htarget, hversion]

theorem executeStep_of_handsOver {context : RunContext} (boundary : DecisionBoundary)
    {tokenBudget : Option ℕ} {i : StepInputs} (h : HandsOver loop context tokenBudget i) :
    ∃ reason ∈ ["max_steps_exceeded", "token_budget_exhausted", "deadline_exceeded"],
      executeStep π loop plan context boundary tokenBudget i =
        { result := some (.stopped reason) } := by
  unfold executeStep
  rw [h.notCancelled, if_neg Bool.false_ne_true]
  split
  · exact ⟨_, by decide, rfl⟩
  rename_i hsteps
  split
  · exact ⟨_, by decide, rfl⟩
  rename_i hbudget
  split
  · exact ⟨_, by decide, rfl⟩
  rename_i htime
  rcases h.exhausted with hgone | hgone | hgone
  · exact absurd hgone hsteps
  · exact absurd hgone hbudget
  · exact absurd hgone htime

theorem targetStatus_of_handsOver : ∀ reason ∈
    ["max_steps_exceeded", "token_budget_exhausted", "deadline_exceeded"],
    targetStatus .runningReadonly ((CaseStep.stopped reason).loopResult loop) = .waitingHuman := by
  intro reason hreason
  simp only [List.mem_cons, List.not_mem_nil, or_false] at hreason
  rcases hreason with rfl | rfl | rfl <;> rfl

theorem advances_of_meets {context : RunContext} {tokenBudget : Option ℕ} {i : StepInputs}
    (hstatus : context.status = .runningReadonly) (h : Meets π loop plan context tokenBudget i) :
    ∃ current step, Advances context (advance π loop plan context tokenBudget i) current step := by
  obtain ⟨prompt, hprompt, hinputs⟩ := h.prompt
  obtain ⟨version, hversion⟩ := Option.isSome_iff_exists.mp h.stored.1
  rcases h.step with hover | hdecides
  · obtain ⟨reason, hreason, hstep⟩ := executeStep_of_handsOver π loop plan
      (loop.agent.boundary.withEvidence context.state) hover
    have htarget := targetStatus_of_handsOver loop reason hreason
    rw [← hstatus] at htarget
    have hresult := congrArg Stepped.result hstep
    have hadvance := advance_eq π loop plan hprompt hinputs hversion hresult
      (by rw [htarget, hstatus]; decide)
    refine ⟨_, _, congrArg Advanced.result hadvance, ?_, .inl ?_⟩
    · rw [hadvance, hstep]
      rfl
    · rw [RunContext.copy, htarget]
      exact (by decide : RunStatus.waitingHuman ∈ SETTLED)
  · obtain ⟨step, hran⟩ := ran_executeStep π loop plan hdecides
    have htarget := targetStatus_mem (step.loopResult loop) hran.reason hran.status
    have hadvance := advance_eq π loop plan hprompt hinputs hversion hran.result
      (by rw [hstatus]; exact requireTransition_of_running _ htarget)
    refine ⟨_, step, congrArg Advanced.result hadvance, ?_, ?_⟩
    · rw [hadvance]
      exact hran.invoked
    · rw [RunContext.copy, hstatus]
      rcases List.mem_cons.mp htarget with hgoes | hsettled
      · exact .inr ⟨hgoes, hdecides.stepsLeft, rfl⟩
      · exact .inl hsettled

end Runs

section Ends

variable {V : Type} [Comparable V] (π : Platform) (loop : CaseLoop V) (plan : AgentLoopPlan)

theorem charged_of_charge {tokenBudget : Option ℕ} (step : CaseStep)
    (h : tokenBudget = none ∨ loop.agent.model.tokenCharge ≠ 0) :
    ∃ remaining, charged loop tokenBudget step = some remaining ∧
      (remaining = none ∨ loop.agent.model.tokenCharge ≠ 0) := by
  unfold charged
  rcases h with rfl | h
  · exact ⟨none, rfl, .inl rfl⟩
  · split
    · exact ⟨none, rfl, .inr h⟩
    · exact ⟨_, rfl, .inr h⟩
    · rw [if_neg h]
      exact ⟨_, rfl, .inr h⟩

/-- The tools that the steps of a run name. -/
def toolsOf (steps : List CaseStep) : List String := steps.flatMap CaseStep.tools

theorem toolsOf_append (steps steps' : List CaseStep) :
    toolsOf (steps ++ steps') = toolsOf steps ++ toolsOf steps' := List.flatMap_append

theorem toolsOf_singleton (step : CaseStep) : toolsOf [step] = step.tools := List.flatMap_singleton _ _

theorem toolsOf_stopped (reason : String) :
    toolsOf [{ status := .waitHuman, reason := some reason }] = [] := rfl

theorem settled_ne {status : RunStatus} (h : status ∈ SETTLED) : status ≠ .runningReadonly := by
  rintro rfl
  exact absurd h (by decide)

/-- One turn of a run whose step leaves a context and whose gateway charges for it. -/
theorem run_cons {i : StepInputs} {inputs : List StepInputs} {context current : RunContext}
    {tokenBudget remaining : Option ℕ} {previous : Option String} {steps : List CaseStep}
    {invoked : List String} {step : CaseStep} (hrunning : context.status = .runningReadonly)
    (hresult : (advance π loop plan context tokenBudget i).result = some (current, step))
    (hremaining : charged loop tokenBudget step = some remaining) :
    run π loop plan (i :: inputs) context tokenBudget previous steps invoked =
      let invoked := invoked ++ (advance π loop plan context tokenBudget i).invoked
      if current.status ≠ .runningReadonly then ⟨.returned current.status (steps ++ [step]), invoked⟩
      else if (step.signature? loop).isSome ∧ step.signature? loop = previous then
        match requireTransition current.status .waitingHuman, i.stopVersion with
        | .ok (), some _ =>
          ⟨.returned .waitingHuman (steps ++ [step] ++ [{
              status := .waitHuman
              reason := some "readonly_loop_no_progress" }]), invoked⟩
        | _, _ => ⟨.raised, invoked⟩
      else run π loop plan inputs current remaining (step.signature? loop) (steps ++ [step])
        invoked := by
  rw [run, if_neg (not_not.mpr hrunning)]
  simp only [hresult, hremaining]

theorem run_settled {inputs : List StepInputs} {context : RunContext} {tokenBudget : Option ℕ}
    {previous : Option String} {steps : List CaseStep} {invoked : List String}
    (h : context.status ≠ .runningReadonly) :
    run π loop plan inputs context tokenBudget previous steps invoked =
      ⟨.returned context.status steps, invoked⟩ := by
  cases inputs <;> rw [run, if_pos h]

/-- A run that goes on begins the steps of its tail. -/
theorem begun_cons {i : StepInputs} {inputs : List StepInputs} {context current : RunContext}
    {tokenBudget remaining : Option ℕ} {previous : Option String} {step : CaseStep}
    (hrunning : context.status = .runningReadonly)
    (hresult : (advance π loop plan context tokenBudget i).result = some (current, step))
    (hremaining : charged loop tokenBudget step = some remaining)
    (hgoes : current.status = .runningReadonly)
    (hnew : ¬((step.signature? loop).isSome ∧ step.signature? loop = previous)) :
    begun π loop plan (i :: inputs) context tokenBudget previous =
      (context, tokenBudget, i) :: begun π loop plan inputs current remaining
        (step.signature? loop) := by
  rw [begun, if_neg (not_not.mpr hrunning)]
  simp only [hresult, hremaining]
  rw [if_neg (not_not.mpr hgoes), if_neg hnew]

theorem mem_begun (i : StepInputs) (inputs : List StepInputs) {context : RunContext}
    (tokenBudget : Option ℕ) (previous : Option String)
    (hrunning : context.status = .runningReadonly) :
    (context, tokenBudget, i) ∈ begun π loop plan (i :: inputs) context tokenBudget previous := by
  rw [begun, if_neg (not_not.mpr hrunning)]
  exact List.mem_cons_self

/-- A run whose steps all meet what they have to returns, its context has settled, and its steps
name the tools whose adapters were called. -/
theorem run_of_meets {inputs : List StepInputs} {context : RunContext} {tokenBudget : Option ℕ}
    {previous : Option String} {steps : List CaseStep} {invoked : List String}
    (hsteps : toolsOf steps = invoked)
    (hstatus : context.status ∈ .runningReadonly :: SETTLED)
    (hlong : 1 ≤ inputs.length ∧ 7 ≤ context.stepCount + inputs.length)
    (hcharge : tokenBudget = none ∨ loop.agent.model.tokenCharge ≠ 0)
    (hmeets : ∀ b ∈ begun π loop plan inputs context tokenBudget previous,
      Meets π loop plan b.1 b.2.1 b.2.2) :
    ∃ status steps', (run π loop plan inputs context tokenBudget previous steps invoked).ending =
        .returned status steps' ∧ status ∈ SETTLED ∧
      toolsOf steps' = (run π loop plan inputs context tokenBudget previous steps invoked).invoked := by
  -- the seventh step at the latest hands over, so the inputs do not run out
  induction inputs generalizing context tokenBudget previous steps invoked with
  | nil => exact absurd hlong.1 (by simp)
  | cons i inputs ih =>
    by_cases hrunning : context.status = .runningReadonly
    · have hfirst := hmeets _ (mem_begun π loop plan i inputs tokenBudget previous hrunning)
      obtain ⟨current, step, hadvances⟩ := advances_of_meets π loop plan hrunning hfirst
      obtain ⟨remaining, hremaining, hcharge'⟩ := charged_of_charge loop step hcharge
      have htools : toolsOf (steps ++ [step]) =
          invoked ++ (advance π loop plan context tokenBudget i).invoked := by
        rw [toolsOf_append, toolsOf_singleton, hsteps, hadvances.invoked]
      rw [run_cons π loop plan hrunning hadvances.result hremaining]
      dsimp only
      rcases hadvances.settled with hsettled | ⟨hgoes, hleft, hcount⟩
      · rw [if_pos (settled_ne hsettled)]
        exact ⟨_, _, rfl, hsettled, htools⟩
      · rw [if_neg (not_not.mpr hgoes)]
        by_cases hsame : (step.signature? loop).isSome ∧ step.signature? loop = previous
        · -- the loop stops without progress, with a step that names no tool
          obtain ⟨version, hversion⟩ := Option.isSome_iff_exists.mp hfirst.stored.2
          have hhuman : requireTransition current.status .waitingHuman = .ok () := by
            rw [hgoes]
            decide
          rw [if_pos hsame, hhuman, hversion]
          refine ⟨.waitingHuman, _, rfl, by decide, ?_⟩
          rw [toolsOf_append, htools, toolsOf_stopped, List.append_nil]
        · rw [if_neg hsame]
          rw [begun_cons π loop plan hrunning hadvances.result hremaining hgoes hsame] at hmeets
          refine ih htools (by rw [hgoes]; exact List.mem_cons_self) ?_ hcharge'
            fun b hb => hmeets b (List.mem_cons_of_mem _ hb)
          rw [List.length_cons] at hlong
          omega
    · rw [run_settled π loop plan hrunning]
      rcases List.mem_cons.mp hstatus with heq | hsettled
      · exact absurd heq hrunning
      · exact ⟨_, _, rfl, hsettled, hsteps⟩

/-- What the pipeline hands on of a step: its result, with the status it leads to. -/
theorem advance_some {context current : RunContext} {tokenBudget : Option ℕ} {i : StepInputs}
    {step : CaseStep}
    (h : (advance π loop plan context tokenBudget i).result = some (current, step)) :
    (executeStep π loop plan context (loop.agent.boundary.withEvidence context.state) tokenBudget
        i).result = some step ∧
      (advance π loop plan context tokenBudget i).invoked = (executeStep π loop plan context
        (loop.agent.boundary.withEvidence context.state) tokenBudget i).invoked ∧
      current.status = targetStatus context.status (step.loopResult loop) := by
  unfold advance at h ⊢
  cases hprompt : i.prompt with
  | none =>
    rw [hprompt] at h
    cases h
  | some prompt =>
    simp only [hprompt] at h ⊢
    split at h
    · cases h
    · rename_i hinputs
      split at h
      · cases h
      · rename_i step' hstep
        split at h
        · obtain ⟨rfl, rfl⟩ := Prod.mk.inj (Option.some.inj h)
          exact ⟨hstep, rfl, rfl⟩
        · cases h

/-- A step with a response settles the run. -/
theorem settled_of_response {context current : RunContext} {tokenBudget : Option ℕ}
    {i : StepInputs} {step : CaseStep} {text : String}
    (hrunning : context.status = .runningReadonly)
    (h : (advance π loop plan context tokenBudget i).result = some (current, step))
    (htext : text ∈ step.response) : current.status ∈ SETTLED := by
  obtain ⟨hresult, -, hstatus⟩ := advance_some π loop plan h
  obtain ⟨hreason, hends⟩ := (reports_executeStep π loop plan context _ tokenBudget i step
    hresult).response text htext
  rw [hstatus, hrunning]
  have hne : step.status ≠ .fail := by
    intro hfail
    rw [hfail] at hends
    exact absurd hends (by decide)
  rcases List.mem_cons.mp (targetStatus_mem (step.loopResult loop) hreason hne) with hgoes | hsettled
  · -- only a step that continues keeps the run going
    have hends' : (step.loopResult loop).status ∈ [StepStatus.complete, .waitUser, .waitHuman] := hends
    have hreason' : (step.loopResult loop).reason = none := hreason
    revert hgoes hends'
    unfold targetStatus
    rw [hreason', if_neg (by decide)]
    cases (step.loopResult loop).status <;> decide
  · exact hsettled

/-- A run that returns has called adapters of tools its steps name and of no others, in order; and
if its last step has a response, its context has settled. -/
structure Returns (run : CaseRun) (status : RunStatus) (steps : List CaseStep) : Prop where
  called : run.invoked.Sublist (toolsOf steps)
  settled : ∀ last ∈ steps.getLast?, ∀ text ∈ last.response, status ∈ SETTLED

theorem run_returned {inputs : List StepInputs} {context : RunContext} {tokenBudget : Option ℕ}
    {previous : Option String} {steps : List CaseStep} {invoked : List String}
    (hsteps : invoked.Sublist (toolsOf steps))
    (hbegins : steps = [] ∨ context.status = .runningReadonly)
    {status : RunStatus} {steps' : List CaseStep}
    (hend : (run π loop plan inputs context tokenBudget previous steps invoked).ending =
      .returned status steps') :
    Returns (run π loop plan inputs context tokenBudget previous steps invoked) status steps' := by
  induction inputs generalizing context tokenBudget previous steps invoked with
  | nil =>
    by_cases hrunning : context.status = .runningReadonly
    · rw [run, if_neg (not_not.mpr hrunning)] at hend
      cases hend
    · rw [run_settled π loop plan hrunning] at hend ⊢
      obtain ⟨rfl, rfl⟩ := RunEnd.returned.inj hend
      obtain rfl := hbegins.resolve_right hrunning
      exact ⟨hsteps, fun last hlast => absurd hlast (Option.not_mem_none _)⟩
  | cons i inputs ih =>
    by_cases hrunning : context.status = .runningReadonly
    · cases hadvance : (advance π loop plan context tokenBudget i).result with
      | none =>
        rw [run, if_neg (not_not.mpr hrunning)] at hend
        simp only [hadvance] at hend
        cases hend
      | some left =>
        obtain ⟨current, step⟩ := left
        cases hcharged : charged loop tokenBudget step with
        | none =>
          rw [run, if_neg (not_not.mpr hrunning)] at hend
          simp only [hadvance, hcharged] at hend
          cases hend
        | some remaining =>
          obtain ⟨hresult, hinvoked, -⟩ := advance_some π loop plan hadvance
          have hreports := reports_executeStep π loop plan context _ tokenBudget i step hresult
          have hcalled : (invoked ++ (advance π loop plan context tokenBudget i).invoked).Sublist
              (toolsOf (steps ++ [step])) := by
            rw [toolsOf_append, toolsOf_singleton, hinvoked]
            exact hsteps.append hreports.called
          rw [run_cons π loop plan hrunning hadvance hcharged] at hend ⊢
          dsimp only at hend ⊢
          by_cases hgoes : current.status = .runningReadonly
          · rw [if_neg (not_not.mpr hgoes)] at hend ⊢
            by_cases hsame : (step.signature? loop).isSome ∧ step.signature? loop = previous
            · rw [if_pos hsame] at hend ⊢
              split at hend
              · obtain ⟨rfl, rfl⟩ := RunEnd.returned.inj hend
                refine ⟨?_, fun last hlast text htext => ?_⟩
                · rw [toolsOf_append, toolsOf_stopped, List.append_nil]
                  exact hcalled
                · exact (by decide : RunStatus.waitingHuman ∈ SETTLED)
              · cases hend
            · rw [if_neg hsame] at hend ⊢
              exact ih hcalled (.inr hgoes) hend
          · rw [if_pos hgoes] at hend ⊢
            obtain ⟨rfl, rfl⟩ := RunEnd.returned.inj hend
            refine ⟨hcalled, fun last hlast text htext => ?_⟩
            rw [List.getLast?_concat] at hlast
            obtain rfl := Option.some.inj hlast
            exact settled_of_response π loop plan hrunning hadvance htext
    · rw [run_settled π loop plan hrunning] at hend ⊢
      obtain ⟨rfl, rfl⟩ := RunEnd.returned.inj hend
      obtain rfl := hbegins.resolve_right hrunning
      exact ⟨hsteps, fun last hlast => absurd hlast (Option.not_mem_none _)⟩

end Ends

end CommerceAgent.HardEval
