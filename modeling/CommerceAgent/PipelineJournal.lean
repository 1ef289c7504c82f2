import CommerceAgent.AgentStep

/-! The journal of `orchestration/pipeline.py`, and one step with the records that it makes by hand on
every path out. A step calls its surroundings, any of which may raise, and records its stages in between;
the journal accepts these in one fixed order only. -/
namespace CommerceAgent.Agent

def PipelineStage.value : PipelineStage → String
  | buildPrompt => "build_prompt"
  | requestDecision => "request_decision"
  | validate => "validate"
  | execute => "execute"
  | observe => "observe"
  | reduce => "reduce"
  | checkpoint => "checkpoint"
  | terminate => "terminate"

def StageOutcome.value : StageOutcome → String
  | completed => "completed"
  | failed => "failed"
  | skipped => "skipped"

def PIPELINE_ORDER : List PipelineStage :=
  [.buildPrompt, .requestDecision, .validate, .execute, .observe, .reduce, .checkpoint, .terminate]

def PipelineStage.ofValue? (value : String) : Option PipelineStage :=
  PIPELINE_ORDER.find? fun stage => stage.value = value

def StageOutcome.ofValue? (value : String) : Option StageOutcome :=
  [completed, failed, skipped].find? fun outcome => outcome.value = value

/-- How many stages come before this one. -/
def PipelineStage.position (stage : PipelineStage) : ℕ := PIPELINE_ORDER.idxOf stage

end CommerceAgent.Agent

namespace CommerceAgent.Pipeline

open Json Programs Agent

structure PipelineStageRecord where
  sequence : ℕ
  stage : PipelineStage
  outcome : StageOutcome
  deriving DecidableEq

/-- `PipelineJournal`, with the records that its observer has been given. -/
structure Journal where
  records : List PipelineStageRecord := []
  seen : List PipelineStageRecord := []

/-- The record that `PipelineJournal.record` appends, or the message of its `PipelineSequenceError`. -/
def Journal.next (journal : Journal) (stage outcome : String) : Except String PipelineStageRecord :=
  match PipelineStage.ofValue? stage, StageOutcome.ofValue? outcome with
  | some stage, some outcome =>
    match PIPELINE_ORDER[journal.records.length]? with
    | none => .error ("pipeline stage out of order: expected end, got " ++ stage.value)
    | some expected =>
      if stage ≠ expected then
        .error ("pipeline stage out of order: expected " ++ expected.value ++ ", got " ++ stage.value)
      else .ok ⟨journal.records.length + 1, stage, outcome⟩
  | _, _ => .error "unknown pipeline stage record"

inductive StepFailure where
  | decisionValidation (message : String)
  | toolRegistry (message : String)
  | failure (e : Failure)

/-- What a step raises: an error of the journal, or what a call of the given stage has raised. -/
inductive StepError where
  | sequence (message : String)
  | raised (stage : PipelineStage) (e : StepFailure)

/-- What a step calls. The journal's own calls come last; a call that is made in two stages says in which. -/
inductive StepOp : Type → Type
  | buildPrompt (context : RunContext) : StepOp PromptView
  | cancelled (stage : PipelineStage) : StepOp Bool
  | now : StepOp ℕ
  | decide (stage : PipelineStage) (prompt : PromptView) : StepOp ModelDecision
  /-- The recorder of the model's answers, or of their absence; without a recorder nothing happens. -/
  | recordInvocation (answer : Option ModelDecision) : StepOp Unit
  | appendTrace (decision : Decision) : StepOp Unit
  | action (name : String) (payload : Dict) : StepOp Unit
  | resolve (name version : String) (context : ToolContext) : StepOp ToolSpec
  | validate (decision : Decision) (boundary : DecisionBoundary) (spec : Option ToolSpec) : StepOp Unit
  | execute (spec : ToolSpec) (context : ToolContext) (arguments : Dict) (deadlineAt : ℕ) : StepOp ToolExecution
  | checkpoint (context : RunContext) (status : RunStatus) (nextStep : String) (state : Dict)
      (events : List DomainEvent) : StepOp ℕ
  | append (stage outcome : String) : StepOp PipelineStageRecord
  | observe (record : PipelineStageRecord) : StepOp Unit
  | records : StepOp (List PipelineStageRecord)

/-- The stage in which a call is made. -/
def StepOp.stage {α : Type} : StepOp α → PipelineStage
  | .buildPrompt _ => .buildPrompt
  | .cancelled stage => stage
  | .now => .requestDecision
  | .decide stage _ => stage
  | .resolve _ _ _ => .validate
  | .validate _ _ _ => .validate
  | .execute _ _ _ _ => .execute
  | .checkpoint _ _ _ _ _ => .checkpoint
  -- The step swallows what the others raise.
  | _ => .terminate

abbrev Step (α : Type) : Type 1 := Prog StepOp StepError α

/-- What raises in its stage, or answers. -/
def StepOp.Answers {α : Type} (o : StepOp α) : Except StepError α → Prop
  | .ok _ => True
  | .error e => ∃ failure, e = .raised o.stage failure

/-- The journal does what its code does. Everything else answers or raises as it likes; a
`PipelineSequenceError` is nobody's but the journal's. -/
def journaling : Machine StepOp StepError Journal
  | journal, _, .append stage outcome, r, journal' =>
    match journal.next stage outcome with
    | .ok record => r = .ok record ∧ journal' = { journal with records := journal.records ++ [record] }
    | .error message => r = .error (.sequence message) ∧ journal' = journal
  | journal, _, .observe record, r, journal' =>
    (StepOp.observe record).Answers r ∧ journal' = { journal with seen := journal.seen ++ [record] }
  | journal, _, .records, r, journal' => r = .ok journal.records ∧ journal' = journal
  | journal, _, o, r, journal' => o.Answers r ∧ journal' = journal

section Records

/-- `PipelineJournal.record`: what the observer raises is swallowed, and a journal without an observer has
one that does nothing. -/
def record (stage outcome : String) : Step Unit := do
  let record ← Prog.perform (.append stage outcome)
  let _ ← (Prog.perform (.observe record)).attempt
  pure ()

/-- The iterations of `skip_remaining`, at most `n`. -/
def skipFrom : ℕ → Step Unit
  | 0 => pure ()
  | n + 1 => do
    let records ← Prog.perform .records
    match PIPELINE_ORDER[records.length]? with
    | none => pure ()
    | some stage => do
      record stage.value StageOutcome.skipped.value
      skipFrom n

/-- `PipelineJournal.skip_remaining`; every iteration adds a record, so that there are eight at most. -/
def skipRemaining : Step Unit := skipFrom PIPELINE_ORDER.length

/-- `_record_action`: what the observer raises is swallowed. -/
def recordAction (name : String) (payload : Dict) : Step Unit := do
  let _ ← (Prog.perform (.action name payload)).attempt
  pure ()

def recordSkippedAction : Step Unit := do
  record "request_decision" "skipped"
  record "validate" "skipped"
  record "execute" "skipped"
  record "observe" "completed"

/-- `_record_post_request_failure`, and `_record_skipped_action_after_model` word for word. -/
def recordPostRequestFailure : Step Unit := do
  record "validate" "skipped"
  record "execute" "skipped"
  record "observe" "completed"

/-- The stages of a decision that was turned down. -/
def recordRejection : Step Unit := do
  record "validate" "failed"
  record "execute" "skipped"
  record "observe" "completed"

end Records

section Step

variable (agent : Composition)

/-- The decision as the reduction of a step looks at it. -/
def agentDecision (decision : Decision) : AgentDecision := ⟨decision.signature agent, decision.evidenceIds⟩

/-- A failed step with nothing to show but its reason. -/
def failedStep (reason : String) : LoopResult := { status := .fail, reason := some reason }

/-- A failed step whose decision is kept. -/
def failedDecision (decision : Decision) (reason : String) : LoopResult :=
  { status := .fail, decision := some (agentDecision agent decision), reason := some reason }

def skippedStep (reason : String) : Step LoopResult := do
  recordSkippedAction
  pure (failedStep reason)

def failedRequest (reason : String) : Step LoopResult := do
  recordPostRequestFailure
  pure (failedStep reason)

/-- `DecisionValidationError.error_code`. -/
def errorCode (message : String) : String :=
  if Texts.contains message "evidence" then "UNTRUSTED_EVIDENCE"
  else if Texts.contains message "route" then "ROUTE_MISMATCH"
  else if Texts.contains message "argument" then "INVALID_TOOL_ARGUMENT"
  else if Texts.contains message "tool" then "TOOL_NOT_ALLOWED"
  else "DECISION_REJECTED"

def optional : Option String → Value
  | some s => .str s
  | none => .null

/-- The handler of a tool call whose registry or validator turned it down. -/
def rejectedCall (decision : Decision) (code : String) : Step LoopResult := do
  recordAction "decision_validation_failed"
    [("error_code", .str code), ("tool_name", optional decision.tool)]
  recordRejection
  pure (failedDecision agent decision "decision_rejected")

/-- The execution of a call that was let through. -/
def executeCall (decision : Decision) (usage : Option ℕ) (spec : ToolSpec) (toolContext : ToolContext) :
    Step LoopResult := do
  record "validate" "completed"
  recordAction "tool_request_started" [("tool_name", .str spec.name), ("tool_version", .str spec.version)]
  let execution ← (Prog.perform (.execute spec toolContext decision.args agent.deadlineAt)).attempt
  match execution with
  | .error _ => do
    recordAction "tool_request_failed"
      [("tool_name", .str spec.name), ("error_code", .str "TOOL_EXECUTION_FAILED")]
    record "execute" "failed"
    record "observe" "completed"
    pure (failedDecision agent decision "tool_execution_failed")
  | .ok execution => do
    recordAction (if execution.error.isNone then "tool_request_succeeded" else "tool_request_failed")
      [("tool_name", .str spec.name), ("error_code", optional (execution.error.map Prod.fst))]
    record "execute" "completed"
    record "observe" "completed"
    pure {
      status := .continue
      decision := some (agentDecision agent decision)
      execution := some execution
      usageTokens := usage }

/-- A tool call of the model, after its decision. -/
def callTool (decision : Decision) (usage : Option ℕ) (boundary : DecisionBoundary)
    (toolContext : ToolContext) : Step LoopResult := do
  let resolved ← (Prog.perform (.resolve (decision.tool.getD "") "1" toolContext)).attempt
  match resolved with
  | .error (.raised _ (.toolRegistry _)) => rejectedCall agent decision "TOOL_NOT_ALLOWED"
  | .error (.raised _ (.decisionValidation message)) => rejectedCall agent decision (errorCode message)
  | .error e => .raise e
  | .ok spec =>
    if spec.risk ≠ .readOnly then do
      recordRejection
      pure {
        status := .waitHuman
        decision := some (agentDecision agent decision)
        reason := some "readonly_write_tool_forbidden"
        usageTokens := usage }
    else do
      let validated ← (Prog.perform (.validate decision boundary (some spec))).attempt
      match validated with
      | .error (.raised _ (.toolRegistry _)) => rejectedCall agent decision "TOOL_NOT_ALLOWED"
      | .error (.raised _ (.decisionValidation message)) => rejectedCall agent decision (errorCode message)
      | .error e => .raise e
      | .ok () => executeCall agent decision usage spec toolContext

/-- The end of a step with a valid decision that calls no tool. -/
def conclude (decision : Decision) (usage : Option ℕ) : Step LoopResult := do
  record "validate" "completed"
  record "execute" "skipped"
  record "observe" "completed"
  let concluded (status : StepStatus) : LoopResult :=
    { status := status
      response := decision.response
      decision := some (agentDecision agent decision)
      usageTokens := usage }
  match decision.type with
  | .askUser => pure (concluded .waitUser)
  | .handoff => pure (concluded .waitHuman)
  | .respond => pure (concluded .complete)
  | .finish => pure (concluded .complete)
  | .callTool => pure { failedDecision agent decision "unsupported_decision" with usageTokens := usage }

/-- The one semantic retry, for a terminal decision that cites untrusted evidence. -/
def retryDecision (prompt : PromptView) (decision : Decision) (boundary : DecisionBoundary) :
    Step LoopResult := do
  let rejected : Step LoopResult := do
    recordRejection
    pure (failedDecision agent decision "decision_rejected")
  let retried ← (Prog.perform (.decide .validate prompt)).attempt
  match retried with
  | .error (.raised _ (.failure .modelGateway)) => rejected
  | .error (.raised _ (.decisionValidation message)) => do
    recordAction "decision_validation_failed" [("error_code", .str (errorCode message)), ("retry", .bool true)]
    rejected
  | .error e => .raise e
  | .ok retried => do
    let audited ← (Prog.perform (.recordInvocation (some retried))).attempt
    match audited with
    | .error _ => failedRequest "model_audit_failed"
    | .ok () => do
      let validated ← (Prog.perform (.validate retried.decision boundary none)).attempt
      match validated with
      | .error (.raised _ (.failure .modelGateway)) => rejected
      | .error (.raised _ (.decisionValidation message)) => do
        recordAction "decision_validation_failed"
          [("error_code", .str (errorCode message)), ("retry", .bool true)]
        rejected
      | .error e => .raise e
      | .ok () => conclude agent retried.decision retried.usageTokens

/-- What `execute_step` does with a decision. -/
def actOn (prompt : PromptView) (context : RunContext) (boundary : DecisionBoundary)
    (toolContext : ToolContext) (answer : ModelDecision) : Step LoopResult := do
  let decision := bindDeliveryOrder answer.decision context
  let cancelled ← Prog.perform (.cancelled .validate)
  if cancelled then failedRequest "cancelled"
  else do
    let traced ← (Prog.perform (.appendTrace decision)).attempt
    match traced with
    | .error _ => failedRequest "trace_persistence_failed"
    | .ok () =>
      if decision.type = .callTool then
        callTool agent decision answer.usageTokens boundary toolContext
      else do
        let validated ← (Prog.perform (.validate decision boundary none)).attempt
        match validated with
        | .error (.raised _ (.decisionValidation message)) =>
          if message = "decision references untrusted evidence" then
            retryDecision agent prompt decision boundary
          else do
            recordAction "decision_validation_failed" [("error_code", .str (errorCode message))]
            recordRejection
            pure (failedDecision agent decision "decision_rejected")
        | .error e => .raise e
        | .ok () => conclude agent decision answer.usageTokens

/-- The handler of a request that the gateway gave up. -/
def modelUnavailable (prompt : PromptView) : Step LoopResult := do
  recordAction "model_request_failed"
    [("step", .str prompt.currentStep), ("error_code", .str "MODEL_GATEWAY_ERROR")]
  record "request_decision" "failed"
  let audited ← (Prog.perform (.recordInvocation none)).attempt
  match audited with
  | .error _ => failedRequest "model_audit_failed"
  | .ok () => failedRequest "model_unavailable"

/-- `AgentStepExecutor.execute_step`. -/
def executeStep (context : RunContext) (prompt : PromptView) (boundary : DecisionBoundary)
    (toolContext : ToolContext) (tokenBudget : Option ℤ) : Step LoopResult := do
  let cancelled ← Prog.perform (.cancelled .requestDecision)
  if cancelled then skippedStep "cancelled"
  else if 6 ≤ context.stepCount then skippedStep "max_steps_exceeded"
  else if tokenBudget.any (· ≤ 0) then skippedStep "token_budget_exhausted"
  else do
    let now ← Prog.perform .now
    if agent.deadlineAt ≤ now then skippedStep "deadline_exceeded"
    else do
      recordAction "model_request_started" [("step", .str prompt.currentStep)]
      let answer ← (Prog.perform (.decide .requestDecision prompt)).attempt
      match answer with
      | .error (.raised _ (.failure .modelGateway)) => modelUnavailable prompt
      | .error e => .raise e
      | .ok answer => do
        recordAction "model_request_succeeded"
          [("step", .str prompt.currentStep), ("outcome", .str "decision_received")]
        record "request_decision" "completed"
        let audited ← (Prog.perform (.recordInvocation (some answer))).attempt
        match audited with
        | .error _ => failedRequest "model_audit_failed"
        | .ok () => actOn agent prompt context boundary toolContext answer

end Step

section Advance

variable (agent : Composition)

structure StepPipelineResult where
  context : RunContext
  loop : LoopResult
  stages : List PipelineStageRecord

/-- The prompt of a step, with the inputs validated. -/
def buildPrompt (context : RunContext) (boundary : DecisionBoundary) (toolContext : ToolContext) :
    Step PromptView := do
  let prompt ← Prog.perform (.buildPrompt context)
  match validateStepInputs agent context prompt boundary toolContext with
  | .error e => .raise (.raised .buildPrompt (.failure e))
  | .ok () => pure prompt

/-- The status that a step leads to, by `reduce_step` and `require_transition`. -/
def reduceStatus (context : RunContext) (result : LoopResult) : Step RunStatus :=
  let status := targetStatus context.status result
  match requireTransition context.status status with
  | .error _ => .raise (.raised .reduce (.failure (.stateTransition context.status status)))
  | .ok () => pure status

/-- `PipelineJournal.require_complete`. -/
def requireComplete : Step (List PipelineStageRecord) := do
  let records ← Prog.perform .records
  if records.length ≠ PIPELINE_ORDER.length then .raise (.sequence "pipeline did not reach every phase")
  else pure records

/-- `StepPipeline.advance`. -/
def advance (context : RunContext) (boundary : DecisionBoundary) (toolContext : ToolContext)
    (tokenBudget : Option ℤ) : Step StepPipelineResult := do
  let boundary := boundary.withEvidence context.state
  let prompt ← (buildPrompt agent context boundary toolContext).handle fun e => do
    record "build_prompt" "failed"
    skipRemaining
    .raise e
  record "build_prompt" "completed"
  let loop ← (executeStep agent context prompt boundary toolContext tokenBudget).handle fun e => do
    skipRemaining
    .raise e
  let status ← (reduceStatus context loop).handle fun e => do
    record "reduce" "failed"
    record "checkpoint" "skipped"
    record "terminate" "skipped"
    .raise e
  record "reduce" "completed"
  let state := reduceState context loop
  let nextStep := if status ∈ [RunStatus.runningReadonly, .runningWorkflow] then prompt.currentStep
    else "terminal"
  let version ← (Prog.perform (.checkpoint context status nextStep state (eventsFor loop))).handle fun e => do
    record "checkpoint" "failed"
    record "terminate" "skipped"
    .raise e
  record "checkpoint" "completed"
  record "terminate" "completed"
  let records ← requireComplete
  pure {
    context := context.copy status state (context.stepCount + 1) version
    loop := loop
    stages := records }

end Advance

section Journals

variable {α β : Type} {Q : Except StepError α → Journal → Prop} {journal : Journal} {n : ℕ}

/-- The journal has the first `n` stages, in order and numbered, and its observer has seen them. -/
structure Journal.Upto (journal : Journal) (n : ℕ) : Prop where
  stages : journal.records.map PipelineStageRecord.stage = PIPELINE_ORDER.take n
  sequences : journal.records.map PipelineStageRecord.sequence = List.range' 1 n
  seen : journal.seen = journal.records

theorem Journal.Upto.length (h : journal.Upto n) : journal.records.length = n := by
  simpa using congrArg List.length h.sequences

theorem Journal.Upto.next (h : journal.Upto n) {stage outcome : String} {s : PipelineStage} {o : StageOutcome}
    (hstage : PipelineStage.ofValue? stage = some s) (houtcome : StageOutcome.ofValue? outcome = some o)
    (horder : PIPELINE_ORDER[n]? = some s) : journal.next stage outcome = .ok ⟨n + 1, s, o⟩ := by
  simp [Journal.next, hstage, houtcome, h.length, horder]

/-- The stage that is due is recorded, and then the next one is due. -/
theorem Journal.Upto.snoc (h : journal.Upto n) {s : PipelineStage} (o : StageOutcome)
    (horder : PIPELINE_ORDER[n]? = some s) :
    Journal.Upto ⟨journal.records ++ [⟨n + 1, s, o⟩], journal.seen ++ [⟨n + 1, s, o⟩]⟩ (n + 1) where
  stages := by
    rw [List.map_append, h.stages, List.take_add_one, horder]
    rfl
  sequences := by
    rw [List.map_append, h.sequences, List.range'_1_concat, Nat.add_comm 1 n]
    rfl
  seen := by rw [h.seen]

/-- Whatever the surroundings do, `p` ends as `Q` says. -/
abbrev Ends (Q : Except StepError α → Journal → Prop) (p : Step α) (journal : Journal) : Prop :=
  Safe journaling (fun _ {_} _ => True) Q p journal

/-- A call whose exceptions go through. -/
theorem ends_perform {o : StepOp β} {f : β → Step α}
    (hquiet : ∀ r journal', journaling journal o r journal' → o.Answers r ∧ journal' = journal)
    (hok : ∀ b, Ends Q (f b) journal) (herror : ∀ e, Q (.error (.raised o.stage e)) journal) :
    Ends Q (Prog.perform o >>= f) journal := by
  refine (safe_bind _ _ _).mpr ((safe_perform _ _).mpr ⟨trivial, fun r journal' hm => ?_⟩)
  obtain ⟨hanswers, rfl⟩ := hquiet r journal' hm
  cases r with
  | ok b => exact hok b
  | error e =>
    obtain ⟨failure, rfl⟩ := hanswers
    exact herror failure

/-- A call whose exceptions are caught. -/
theorem ends_attempt {o : StepOp β} {f : Except StepError β → Step α}
    (hquiet : ∀ r journal', journaling journal o r journal' → o.Answers r ∧ journal' = journal)
    (hok : ∀ b, Ends Q (f (.ok b)) journal) (herror : ∀ e, Ends Q (f (.error (.raised o.stage e))) journal) :
    Ends Q ((Prog.perform o).attempt >>= f) journal := by
  refine (safe_bind _ _ _).mpr ((safe_attempt _ _).mpr ((safe_perform _ _).mpr ⟨trivial, fun r journal' hm => ?_⟩))
  obtain ⟨hanswers, rfl⟩ := hquiet r journal' hm
  cases r with
  | ok b => exact hok b
  | error e =>
    obtain ⟨failure, rfl⟩ := hanswers
    exact herror failure

theorem ends_recordAction {name : String} {payload : Dict} {f : Unit → Step α} (h : Ends Q (f ()) journal) :
    Ends Q (recordAction name payload >>= f) journal := by
  refine (safe_bind _ _ _).mpr ?_
  exact ends_attempt (fun _ _ hm => hm) (fun _ => h) fun _ => h

/-- The stage that is due is the one that `record` accepts. -/
theorem ends_record {Q : Except StepError Unit → Journal → Prop} (hjournal : journal.Upto n)
    {stage outcome : String} {s : PipelineStage} {o : StageOutcome}
    (hstage : PipelineStage.ofValue? stage = some s) (houtcome : StageOutcome.ofValue? outcome = some o)
    (horder : PIPELINE_ORDER[n]? = some s)
    (h : ∀ journal', journal'.Upto (n + 1) → journal'.records = journal.records ++ [⟨n + 1, s, o⟩] →
      Q (.ok ()) journal') :
    Ends Q (record stage outcome) journal := by
  refine (safe_bind _ _ _).mpr ((safe_perform _ _).mpr ⟨trivial, fun r journal' hm => ?_⟩)
  simp only [journaling, hjournal.next hstage houtcome horder] at hm
  obtain ⟨rfl, rfl⟩ := hm
  refine (safe_bind _ _ _).mpr ((safe_attempt _ _).mpr ((safe_perform _ _).mpr ⟨trivial, fun r journal' hm => ?_⟩))
  obtain ⟨_, rfl⟩ := hm
  exact h _ (hjournal.snoc o horder) rfl

theorem ends_record_bind (hjournal : journal.Upto n) {stage outcome : String} {s : PipelineStage}
    {o : StageOutcome} (hstage : PipelineStage.ofValue? stage = some s)
    (houtcome : StageOutcome.ofValue? outcome = some o) (horder : PIPELINE_ORDER[n]? = some s)
    {f : Unit → Step α}
    (h : ∀ journal', journal'.Upto (n + 1) → journal'.records = journal.records ++ [⟨n + 1, s, o⟩] →
      Ends Q (f ()) journal') :
    Ends Q (record stage outcome >>= f) journal :=
  (safe_bind _ _ _).mpr (ends_record hjournal hstage houtcome horder h)

end Journals

section Steps

variable {agent : Composition} {journal : Journal} {context : RunContext} {prompt : PromptView}
  {boundary : DecisionBoundary} {toolContext : ToolContext} {decision : Decision} {usage : Option ℕ}

/-- How a step ends: with the stages up to `observe`, or with an exception of the stage that is due. -/
def StepEnds {α : Type} : Except StepError α → Journal → Prop
  | .ok _, journal => journal.Upto 5
  | .error (.sequence _), _ => False
  | .error (.raised stage _), journal => journal.Upto stage.position

theorem ends_skippedStep (h : journal.Upto 1) (reason : String) :
    Ends StepEnds (skippedStep reason) journal := by
  refine (safe_bind _ _ _).mpr ?_
  refine ends_record_bind h rfl rfl rfl fun _ h _ => ?_
  refine ends_record_bind h rfl rfl rfl fun _ h _ => ?_
  refine ends_record_bind h rfl rfl rfl fun _ h _ => ?_
  exact ends_record h rfl rfl rfl fun _ h _ => h

theorem ends_failedRequest (h : journal.Upto 2) (reason : String) :
    Ends StepEnds (failedRequest reason) journal := by
  refine (safe_bind _ _ _).mpr ?_
  refine ends_record_bind h rfl rfl rfl fun _ h _ => ?_
  refine ends_record_bind h rfl rfl rfl fun _ h _ => ?_
  exact ends_record h rfl rfl rfl fun _ h _ => h

theorem ends_rejection (h : journal.Upto 2) (result : LoopResult) :
    Ends StepEnds (do recordRejection; pure result) journal := by
  refine (safe_bind _ _ _).mpr ?_
  refine ends_record_bind h rfl rfl rfl fun _ h _ => ?_
  refine ends_record_bind h rfl rfl rfl fun _ h _ => ?_
  exact ends_record h rfl rfl rfl fun _ h _ => h

theorem ends_rejectedCall (h : journal.Upto 2) (code : String) :
    Ends StepEnds (rejectedCall agent decision code) journal :=
  ends_recordAction (ends_rejection h _)

theorem ends_executeCall (h : journal.Upto 2) (spec : ToolSpec) :
    Ends StepEnds (executeCall agent decision usage spec toolContext) journal := by
  refine ends_record_bind h rfl rfl rfl fun journal h _ => ?_
  refine ends_recordAction (ends_attempt (fun _ _ hm => hm) (fun execution => ?_) fun e => ?_)
  · refine ends_recordAction (ends_record_bind h rfl rfl rfl fun _ h _ => ?_)
    exact ends_record_bind h rfl rfl rfl fun _ h _ => h
  · refine ends_recordAction (ends_record_bind h rfl rfl rfl fun _ h _ => ?_)
    exact ends_record_bind h rfl rfl rfl fun _ h _ => h

theorem ends_callTool (h : journal.Upto 2) :
    Ends StepEnds (callTool agent decision usage boundary toolContext) journal := by
  refine ends_attempt (fun _ _ hm => hm) (fun spec => ?_) fun e => ?_
  · refine (safe_ite _ _ _ _).mpr ⟨fun _ => ends_rejection h _, fun _ => ?_⟩
    refine ends_attempt (fun _ _ hm => hm) (fun _ => ends_executeCall h spec) fun e => ?_
    cases e with
    | toolRegistry message => exact ends_rejectedCall h _
    | decisionValidation message => exact ends_rejectedCall h _
    | failure e => exact h
  · cases e with
    | toolRegistry message => exact ends_rejectedCall h _
    | decisionValidation message => exact ends_rejectedCall h _
    | failure e => exact h

theorem ends_conclude (h : journal.Upto 2) : Ends StepEnds (conclude agent decision usage) journal := by
  refine ends_record_bind h rfl rfl rfl fun _ h _ => ?_
  refine ends_record_bind h rfl rfl rfl fun _ h _ => ?_
  refine ends_record_bind h rfl rfl rfl fun _ h _ => ?_
  cases htype : decision.type <;> exact h

theorem ends_retryDecision (h : journal.Upto 2) :
    Ends StepEnds (retryDecision agent prompt decision boundary) journal := by
  refine ends_attempt (fun _ _ hm => hm) (fun retried => ?_) fun e => ?_
  · refine ends_attempt (fun _ _ hm => hm) (fun _ => ?_) fun e => ends_failedRequest h _
    refine ends_attempt (fun _ _ hm => hm) (fun _ => ends_conclude h) fun e => ?_
    cases e with
    | toolRegistry message => exact h
    | decisionValidation message => exact ends_recordAction (ends_rejection h _)
    | failure e => cases e <;> first | exact ends_rejection h _ | exact h
  · cases e with
    | toolRegistry message => exact h
    | decisionValidation message => exact ends_recordAction (ends_rejection h _)
    | failure e => cases e <;> first | exact ends_rejection h _ | exact h

theorem ends_actOn (h : journal.Upto 2) (answer : ModelDecision) :
    Ends StepEnds (actOn agent prompt context boundary toolContext answer) journal := by
  refine ends_perform (fun _ _ hm => hm) (fun cancelled => ?_) fun e => h
  refine (safe_ite _ _ _ _).mpr ⟨fun _ => ends_failedRequest h _, fun _ => ?_⟩
  refine ends_attempt (fun _ _ hm => hm) (fun _ => ?_) fun e => ends_failedRequest h _
  refine (safe_ite _ _ _ _).mpr ⟨fun _ => ends_callTool h, fun _ => ?_⟩
  refine ends_attempt (fun _ _ hm => hm) (fun _ => ends_conclude h) fun e => ?_
  cases e with
  | decisionValidation message =>
    refine (safe_ite _ _ _ _).mpr ⟨fun _ => ends_retryDecision h, fun _ => ?_⟩
    exact ends_recordAction (ends_rejection h _)
  | toolRegistry message => exact h
  | failure e => exact h

theorem ends_modelUnavailable (h : journal.Upto 1) : Ends StepEnds (modelUnavailable prompt) journal := by
  refine ends_recordAction (ends_record_bind h rfl rfl rfl fun journal h _ => ?_)
  exact ends_attempt (fun _ _ hm => hm) (fun _ => ends_failedRequest h _) fun e => ends_failedRequest h _

/-- Every path through a step records the stages from `request_decision` to `observe`, each once. -/
theorem ends_executeStep (h : journal.Upto 1) (tokenBudget : Option ℤ) :
    Ends StepEnds (executeStep agent context prompt boundary toolContext tokenBudget) journal := by
  refine ends_perform (fun _ _ hm => hm) (fun cancelled => ?_) fun e => h
  refine (safe_ite _ _ _ _).mpr ⟨fun _ => ends_skippedStep h _, fun _ => ?_⟩
  refine (safe_ite _ _ _ _).mpr ⟨fun _ => ends_skippedStep h _, fun _ => ?_⟩
  refine (safe_ite _ _ _ _).mpr ⟨fun _ => ends_skippedStep h _, fun _ => ?_⟩
  refine ends_perform (fun _ _ hm => hm) (fun now => ?_) fun e => h
  refine (safe_ite _ _ _ _).mpr ⟨fun _ => ends_skippedStep h _, fun _ => ?_⟩
  refine ends_recordAction (ends_attempt (fun _ _ hm => hm) (fun answer => ?_) fun e => ?_)
  · refine ends_recordAction (ends_record_bind h rfl rfl rfl fun journal h _ => ?_)
    exact ends_attempt (fun _ _ hm => hm) (fun _ => ends_actOn h answer) fun e => ends_failedRequest h _
  · cases e with
    | toolRegistry message => exact h
    | decisionValidation message => exact h
    | failure e => cases e <;> first | exact ends_modelUnavailable h | exact h

end Steps

section Advance

variable {agent : Composition} {journal journal' : Journal} {context : RunContext} {boundary : DecisionBoundary}
  {toolContext : ToolContext}

/-- The eight stages in order, numbered from one. -/
structure Complete (records : List PipelineStageRecord) : Prop where
  stages : records.map PipelineStageRecord.stage = PIPELINE_ORDER
  sequences : records.map PipelineStageRecord.sequence = [1, 2, 3, 4, 5, 6, 7, 8]

/-- How an advance ends: never with an error of the journal, and otherwise with all stages, those after one
that raised as skipped. -/
def Journaled : Except StepError StepPipelineResult → Journal → Prop
  | .ok result, journal => Complete result.stages ∧ journal.seen = result.stages
  | .error (.sequence _), _ => False
  | .error (.raised stage _), journal => Complete journal.seen ∧
    (∀ record ∈ journal.seen, stage.position < record.stage.position → record.outcome = .skipped) ∧
    ∀ record ∈ journal.seen, record.stage = stage → record.outcome ≠ .completed

theorem Journal.Upto.complete (h : journal.Upto 8) : Complete journal.records := ⟨h.stages, h.sequences⟩

theorem position_of_mem_take : ∀ {s stage : PipelineStage}, s ∈ PIPELINE_ORDER.take stage.position →
    s.position < stage.position := by
  intro s stage
  cases s <;> cases stage <;> decide

/-- A journal that is completed after an exception of the stage that was due. -/
theorem Journal.Upto.aborted {stage : PipelineStage} (h : journal.Upto stage.position) (h' : journal'.Upto 8)
    (rest : List PipelineStageRecord) (hrecords : journal'.records = journal.records ++ rest)
    (hrest : ∀ record ∈ rest, record.outcome = .skipped ∨ record.stage = stage ∧ record.outcome = .failed)
    (e : StepFailure) : Journaled (.error (.raised stage e)) journal' := by
  have hbefore : ∀ record ∈ journal.records, record.stage.position < stage.position := by
    intro record hmem
    refine position_of_mem_take ?_
    rw [← h.stages]
    exact List.mem_map_of_mem hmem
  refine ⟨h'.seen ▸ h'.complete, fun record hmem hlater => ?_, fun record hmem hstage => ?_⟩
  · rw [h'.seen, hrecords] at hmem
    rcases List.mem_append.mp hmem with hmem | hmem
    · exact absurd (hbefore record hmem) (by omega)
    · rcases hrest record hmem with hskipped | ⟨hstage, _⟩
      · exact hskipped
      · exact absurd hlater (by rw [hstage]; omega)
  · rw [h'.seen, hrecords] at hmem
    rcases List.mem_append.mp hmem with hmem | hmem
    · exact absurd (hbefore record hmem) (by rw [hstage]; omega)
    · rcases hrest record hmem with hskipped | ⟨_, hfailed⟩
      · rw [hskipped]
        decide
      · rw [hfailed]
        decide

/-- The loop of `skip_remaining`, by induction on the iterations: each of them records the stage that is
due. -/
theorem ends_skipFrom {Q : Except StepError Unit → Journal → Prop} {k n : ℕ} (h : journal.Upto n) (hn : n ≤ 8)
    (hk : 8 ≤ n + k)
    (hQ : ∀ journal', journal'.Upto 8 → ∀ rest, journal'.records = journal.records ++ rest →
      (∀ record ∈ rest, record.outcome = .skipped) → Q (.ok ()) journal') :
    Ends Q (skipFrom k) journal := by
  induction k generalizing n journal with
  | zero =>
    obtain rfl : n = 8 := by omega
    exact hQ journal h [] (by simp) (by simp)
  | succ k ih =>
    refine (safe_bind _ _ _).mpr ((safe_perform _ _).mpr ⟨trivial, ?_⟩)
    rintro _ journal ⟨rfl, rfl⟩
    simp only [thenSafe_ok, h.length]
    cases hdue : PIPELINE_ORDER[n]? with
    | none =>
      have hlength : PIPELINE_ORDER.length ≤ n := List.getElem?_eq_none_iff.mp hdue
      obtain rfl : n = 8 := le_antisymm hn hlength
      exact hQ _ h [] (by simp) (by simp)
    | some stage =>
      have hlt : n < 8 := (List.getElem?_eq_some_iff.mp hdue).1
      have hvalue : PipelineStage.ofValue? stage.value = some stage := by cases stage <;> decide
      refine ends_record_bind h hvalue rfl hdue fun journal' h' hrecords => ?_
      refine ih h' hlt (by omega) fun journal'' h'' rest hrest hskipped => ?_
      refine hQ journal'' h'' (⟨n + 1, stage, .skipped⟩ :: rest) ?_ ?_
      · rw [hrest, hrecords, List.append_assoc]
        rfl
      · exact List.forall_mem_cons.mpr ⟨rfl, hskipped⟩

theorem ends_skipRemaining {Q : Except StepError Unit → Journal → Prop} {n : ℕ} (h : journal.Upto n)
    (hn : n ≤ 8)
    (hQ : ∀ journal', journal'.Upto 8 → ∀ rest, journal'.records = journal.records ++ rest →
      (∀ record ∈ rest, record.outcome = .skipped) → Q (.ok ()) journal') :
    Ends Q skipRemaining journal :=
  ends_skipFrom h hn (by simp [PIPELINE_ORDER]) hQ

/-- The first stage records nothing by itself. -/
theorem ends_buildPrompt (h : journal.Upto 0) :
    Ends (fun r journal' => journal'.Upto 0 ∧ ∀ e, r = .error e → ∃ failure, e = .raised .buildPrompt failure)
      (buildPrompt agent context boundary toolContext) journal := by
  refine ends_perform (fun _ _ hm => hm) (fun prompt => ?_) fun e => ⟨h, fun _ he => ⟨e, ?_⟩⟩
  · cases validateStepInputs agent context prompt boundary toolContext with
    | error e => exact ⟨h, fun _ he => ⟨_, (Except.error.inj he).symm⟩⟩
    | ok => exact ⟨h, fun _ he => absurd he (by simp)⟩
  · exact (Except.error.inj he).symm

theorem ends_reduceStatus (h : journal.Upto 5) (result : LoopResult) :
    Ends (fun r journal' => journal'.Upto 5 ∧ ∀ e, r = .error e → ∃ failure, e = .raised .reduce failure)
      (reduceStatus context result) journal := by
  unfold reduceStatus
  dsimp only
  cases requireTransition context.status (targetStatus context.status result) with
  | error e => exact ⟨h, fun _ he => ⟨_, (Except.error.inj he).symm⟩⟩
  | ok => exact ⟨h, fun _ he => absurd he (by simp)⟩

theorem ends_requireComplete {Q : Except StepError (List PipelineStageRecord) → Journal → Prop}
    (h : journal.Upto 8) (hQ : Q (.ok journal.records) journal) : Ends Q requireComplete journal := by
  refine (safe_bind _ _ _).mpr ((safe_perform _ _).mpr ⟨trivial, ?_⟩)
  rintro _ journal ⟨rfl, rfl⟩
  have hlength : ¬ journal.records.length ≠ PIPELINE_ORDER.length := not_not.mpr h.length
  refine (safe_ite _ _ _ _).mpr ⟨fun hne => absurd hne hlength, fun _ => hQ⟩

/-- The journal of an advance is complete on every way out, whatever its surroundings do. -/
theorem advance_journaled (agent : Composition) (context : RunContext) (boundary : DecisionBoundary)
    (toolContext : ToolContext) (tokenBudget : Option ℤ) :
    Ends Journaled (advance agent context boundary toolContext tokenBudget) {} := by
  have hempty : Journal.Upto {} 0 := ⟨rfl, rfl, rfl⟩
  refine (safe_bind _ _ _).mpr ((safe_handle _ _ _).mpr ((ends_buildPrompt hempty).post ?_))
  rintro (e | prompt) journal ⟨h, he⟩
  · obtain ⟨failure, rfl⟩ := he e rfl
    refine ends_record_bind h rfl rfl rfl fun journal' h' hrecords => ?_
    refine (safe_bind _ _ _).mpr (ends_skipRemaining h' (by decide) fun journal'' h'' rest hrest hskipped => ?_)
    refine h.aborted h'' (⟨1, .buildPrompt, .failed⟩ :: rest) ?_ ?_ failure
    · rw [hrest, hrecords, List.append_assoc]
      rfl
    · exact List.forall_mem_cons.mpr ⟨.inr ⟨rfl, rfl⟩, fun record hmem => .inl (hskipped record hmem)⟩
  refine ends_record_bind h rfl rfl rfl fun journal h _ => ?_
  refine (safe_bind _ _ _).mpr ((safe_handle _ _ _).mpr ((ends_executeStep h tokenBudget).post ?_))
  rintro (e | loop) journal h
  · cases e with
    | sequence message => exact False.elim h
    | raised stage failure =>
      have hstage : stage.position ≤ 8 := by cases stage <;> decide
      refine (safe_bind _ _ _).mpr (ends_skipRemaining h hstage fun journal' h' rest hrest hskipped => ?_)
      exact h.aborted h' rest hrest (fun record hmem => .inl (hskipped record hmem)) failure
  refine (safe_bind _ _ _).mpr ((safe_handle _ _ _).mpr ((ends_reduceStatus h loop).post ?_))
  rintro (e | status) journal ⟨h, he⟩
  · obtain ⟨failure, rfl⟩ := he e rfl
    refine ends_record_bind h rfl rfl rfl fun journal₁ h₁ hrecords₁ => ?_
    refine ends_record_bind h₁ rfl rfl rfl fun journal₂ h₂ hrecords₂ => ?_
    refine ends_record_bind h₂ rfl rfl rfl fun journal₃ h₃ hrecords₃ => ?_
    refine h.aborted h₃ [⟨6, .reduce, .failed⟩, ⟨7, .checkpoint, .skipped⟩, ⟨8, .terminate, .skipped⟩] ?_
      (by decide) failure
    simp [hrecords₃, hrecords₂, hrecords₁]
  refine ends_record_bind h rfl rfl rfl fun journal h _ => ?_
  refine (safe_bind _ _ _).mpr ((safe_handle _ _ _).mpr ((safe_perform _ _).mpr ⟨trivial, ?_⟩))
  rintro (e | version) _ ⟨hanswers, rfl⟩
  · obtain ⟨failure, rfl⟩ := hanswers
    refine ends_record_bind h rfl rfl rfl fun journal₁ h₁ hrecords₁ => ?_
    refine ends_record_bind h₁ rfl rfl rfl fun journal₂ h₂ hrecords₂ => ?_
    refine h.aborted h₂ [⟨7, .checkpoint, .failed⟩, ⟨8, .terminate, .skipped⟩] ?_ (by simp [StepOp.stage]) failure
    simp [hrecords₂, hrecords₁]
  refine ends_record_bind h rfl rfl rfl fun journal h _ => ?_
  refine ends_record_bind h rfl rfl rfl fun journal h _ => ?_
  refine (safe_bind _ _ _).mpr (ends_requireComplete h ?_)
  exact ⟨h.complete, h.seen⟩

end Advance

end CommerceAgent.Pipeline
