import CommerceAgent.CaseRuns
import CommerceAgent.MutationWorkflow

/-! What a passed hard evaluation says about the run behind its trace. `evaluate` compares what the
trace lists and never its status, so it says no more than the steps of the run bear out. -/
namespace CommerceAgent.HardEval

open Json Agent Operators Policies Tools Texts

section Evaluation

@[simp] theorem reasons_demand (gates : Gates) (ok : Bool) (reason : String) :
    (gates.demand ok reason).reasons = [] ↔ gates.reasons = [] ∧ ok = true := by
  cases ok <;> simp [Gates.demand]

@[simp] theorem reasons_record (gates : Gates) (dimension : String) (ok : Bool) (reason : String) :
    (gates.record dimension ok reason).reasons = [] ↔ gates.reasons = [] ∧ ok = true :=
  reasons_demand _ ok reason

@[simp] theorem reasons_same (gates : Gates) (name : String) (actual : Option String)
    (expected : Value) :
    (gates.same name actual expected).reasons = [] ↔
      gates.reasons = [] ∧ equalsText actual expected = true :=
  reasons_record gates name _ _

/-- The gates of the track of a passed case record no reason. -/
theorem track_of_passed {case : EvalCase} {trace : NormalizedTrace} {result : HardEvalResult}
    (heval : evaluate case trace = .ok result) (hpassed : result.passed = true) :
    ∃ gates gates' : Gates, track case trace gates = .ok gates' ∧ gates'.reasons = [] := by
  unfold evaluate at heval
  dsimp only at heval
  generalize Gates.demand _ _ _ = gates at heval
  cases htrack : track case trace gates with
  | error e =>
    rw [htrack] at heval
    cases heval
  | ok gates' =>
    rw [htrack] at heval
    obtain rfl := Except.ok.inj heval
    exact ⟨gates, gates', htrack, List.isEmpty_iff.mp hpassed⟩

/-- A long-tail case passes only with a response and without tools. -/
theorem longTail_of_passed {case : EvalCase} {trace : NormalizedTrace} {result : HardEvalResult}
    (hlong : case.taskType = "long_tail_response_v1") (heval : evaluate case trace = .ok result)
    (hpassed : result.passed = true) : trace.toolsCalled = [] ∧ strip trace.response ≠ "" := by
  obtain ⟨gates, gates', htrack, hreasons⟩ := track_of_passed heval hpassed
  rw [track, hlong] at htrack
  obtain rfl := Except.ok.inj htrack
  unfold longTailResponse at hreasons
  rw [reasons_record, reasons_record, List.isEmpty_iff, bne_iff_ne] at hreasons
  exact ⟨hreasons.1.2, hreasons.2⟩

/-- The verdict is the same whether a run completed or failed. -/
theorem evaluate_status (case : EvalCase) (trace : NormalizedTrace) (status : TraceStatus) :
    evaluate case { trace with status := status } = evaluate case trace := rfl

end Evaluation

section Listed

variable {V : Type} [Comparable V] (π : Platform) (loop : CaseLoop V) (plan : AgentLoopPlan)

theorem toolsCalled_ofRun (nextAction : Option String) (status : RunStatus)
    (steps : List CaseStep) :
    (RuntimeTrace.ofRun nextAction status steps).toolsCalled = toolsOf steps := by
  unfold RuntimeTrace.ofRun toolsOf CaseStep.tools
  dsimp only
  rw [List.filterMap_filterMap, List.filterMap_eq_flatMap_toList]

theorem toolsCalled_ofStep (nextAction : Option String) (step : CaseStep) :
    (RuntimeTrace.ofStep nextAction step).toolsCalled = step.tools.filter (· ≠ "") := by
  unfold RuntimeTrace.ofStep CaseStep.tools
  cases step.decision.bind (·.tool) with
  | none => rfl
  | some tool => by_cases htool : tool = "" <;> simp [htool]

theorem filter_of_named {names : List String} (h : "" ∉ names) : names.filter (· ≠ "") = names :=
  List.filter_eq_self.mpr fun _ hname => decide_eq_true fun hempty => h (hempty ▸ hname)

theorem traceStatus_ne : ∀ status ∈ [StepStatus.complete, .waitUser, .waitHuman],
    traceStatus status ≠ .fail := by
  decide

/-- The adapters that a case called are listed in its trace, in order; and a trace with a response
has not failed. -/
theorem listed_of_trace {inputs : List StepInputs} {trace : RuntimeTrace}
    (h : (executeCase π loop plan inputs).trace = some trace) :
    (executeCase π loop plan inputs).invoked.Sublist trace.toolsCalled ∧
      (trace.response ≠ "" → trace.status ≠ .fail) := by
  unfold executeCase at h ⊢
  by_cases hpipelined : plan.pipelined = true
  · rw [if_pos hpipelined] at h ⊢
    dsimp only at h ⊢
    cases hend : (run π loop plan inputs plan.context plan.tokenBudget none [] []).ending with
    | raised =>
      rw [hend] at h
      cases h
    | unfinished =>
      rw [hend] at h
      cases h
    | returned status steps =>
      rw [hend] at h
      obtain rfl := Option.some.inj h
      have hreturns := run_returned π loop plan (List.Sublist.refl _) (.inl rfl) hend
      refine ⟨by rw [toolsCalled_ofRun]; exact hreturns.called, fun hresponse => ?_⟩
      -- the response of the trace is the one of its last step
      cases hlast : steps.getLast? with
      | none => simp [RuntimeTrace.ofRun, hlast] at hresponse
      | some last =>
        cases htext : last.response with
        | none => simp [RuntimeTrace.ofRun, hlast, htext] at hresponse
        | some text => exact runTraceStatus_settled (hreturns.settled last hlast text htext)
  · rw [if_neg hpipelined] at h ⊢
    cases inputs with
    | nil => cases h
    | cons i rest =>
      dsimp only at h ⊢
      obtain ⟨step, hstep, rfl⟩ := Option.map_eq_some_iff.mp h
      have hreports := reports_executeStep π loop plan plan.context loop.agent.boundary
        plan.tokenBudget { i with cancelledAfter := i.cancelled } step hstep
      refine ⟨?_, fun hresponse => ?_⟩
      · have hcalled := hreports.called.filter (· ≠ "")
        rw [filter_of_named hreports.named] at hcalled
        rw [toolsCalled_ofStep]
        exact hcalled
      · cases htext : step.response with
        | none => simp [RuntimeTrace.ofStep, htext] at hresponse
        | some text => exact traceStatus_ne _ (hreports.response text htext).2

end Listed

section Passed

variable {V : Type} [Comparable V] (π : Platform) (loop : CaseLoop V) (plan : AgentLoopPlan)

/-- What a run has to meet for its trace to list what ran: the steps that it begins meet what a step
has to, and it can go on until it ends. A loop with steps left takes at most seven turns, of which
the seventh hands over. -/
inductive WellRun (inputs : List StepInputs) : Prop
  | pipeline (hpipelined : plan.pipelined = true)
    (hstatus : plan.context.status ∈ .runningReadonly :: SETTLED)
    (hlong : 1 ≤ inputs.length ∧ 7 ≤ plan.context.stepCount + inputs.length)
    (hcharge : plan.tokenBudget = none ∨ loop.agent.model.tokenCharge ≠ 0)
    (hmeets : ∀ b ∈ begun π loop plan inputs plan.context plan.tokenBudget none,
      Meets π loop plan b.1 b.2.1 b.2.2) :
    WellRun inputs
  | step {i : StepInputs} {rest : List StepInputs} (hpipelined : plan.pipelined = false)
    (hinputs : inputs = i :: rest)
    (hdecides : Decides π loop plan plan.context loop.agent.boundary plan.tokenBudget
      { i with cancelledAfter := i.cancelled }) :
    WellRun inputs

theorem traceStatus_ne_fail {status : StepStatus} (h : status ≠ .fail) :
    traceStatus status ≠ .fail := by
  cases status <;> revert h <;> decide

theorem trace_of_wellRun {inputs : List StepInputs} (h : WellRun π loop plan inputs) :
    ∃ trace, (executeCase π loop plan inputs).trace = some trace ∧ trace.status ≠ .fail ∧
      trace.toolsCalled = (executeCase π loop plan inputs).invoked := by
  unfold executeCase
  cases h with
  | pipeline hpipelined hstatus hlong hcharge hmeets =>
    obtain ⟨status, steps, hend, hsettled, htools⟩ := run_of_meets π loop plan
      (show toolsOf [] = [] from rfl) hstatus hlong hcharge hmeets
    rw [if_pos hpipelined]
    dsimp only
    rw [hend]
    refine ⟨_, rfl, runTraceStatus_settled hsettled, ?_⟩
    rw [toolsCalled_ofRun]
    exact htools
  | step hpipelined hinputs hdecides =>
    subst hinputs
    obtain ⟨step, hran⟩ := ran_executeStep π loop plan hdecides
    have hnamed := (reports_executeStep π loop plan _ _ _ _ step hran.result).named
    rw [if_neg (by rw [hpipelined]; exact Bool.false_ne_true)]
    dsimp only
    rw [hran.result]
    refine ⟨_, rfl, traceStatus_ne_fail hran.status, ?_⟩
    rw [toolsCalled_ofStep, ← hran.invoked, filter_of_named hnamed]

/-- A case of the long-tail track, or one in time whose run meets its condition, passes only on what
ran: its trace has not failed, and lists the tools whose adapters were called, in order. -/
theorem hard_pass_ran (case : EvalCase) (inputs : List StepInputs) (inTime : Bool)
    {result : HardEvalResult}
    (hcase : case.taskType = "long_tail_response_v1" ∨ inTime = true ∧ WellRun π loop plan inputs)
    (heval : evaluate case (drivenTrace π loop plan case inputs inTime) = .ok result)
    (hpassed : result.passed = true) :
    (drivenTrace π loop plan case inputs inTime).status ≠ .fail ∧
      (drivenTrace π loop plan case inputs inTime).toolsCalled =
        (executeCase π loop plan inputs).invoked := by
  rcases hcase with hlong | ⟨rfl, hwell⟩
  · -- a response and no tools are enough, since every tool that was called would be listed
    obtain ⟨htools, hresponse⟩ := longTail_of_passed hlong heval hpassed
    clear heval
    unfold drivenTrace at htools hresponse ⊢
    dsimp only at htools hresponse ⊢
    cases inTime with
    | false => exact absurd (by decide : strip RuntimeTrace.failed.response = "") hresponse
    | true =>
      rw [if_pos rfl] at htools hresponse ⊢
      cases htrace : (executeCase π loop plan inputs).trace with
      | none =>
        rw [htrace] at hresponse
        exact absurd (by decide : strip RuntimeTrace.failed.response = "") hresponse
      | some trace =>
        rw [htrace] at htools hresponse
        obtain ⟨hlisted, hstatus⟩ := listed_of_trace π loop plan htrace
        refine ⟨hstatus fun hempty => hresponse ?_, htools.trans ?_⟩
        · rw [Option.getD_some, RuntimeTrace.normalize, hempty]
          exact (by decide : strip "" = "")
        · have hnone : trace.toolsCalled = [] := htools
          rw [hnone] at hlisted
          exact (List.sublist_nil.mp hlisted).symm
  · obtain ⟨trace, htrace, hstatus, htools⟩ := trace_of_wellRun π loop plan hwell
    unfold drivenTrace
    dsimp only
    rw [if_pos rfl, htrace]
    exact ⟨hstatus, htools⟩

end Passed

section Demo

/-- A static workflow case: the status of one's own order. -/
def demoCase : EvalCase where
  id := "workflow_track_order_001"
  taskType := "tool_workflow"
  context := [("authenticated_user_id", .str "USER-001"),
    ("orders", .arr [.obj [("items", .arr [.str "SKU-100"]), ("order_id", .str "ORD-SELF-TRA-01"),
      ("owner_id", .str "USER-001"), ("status", .str "delivered")]])]
  expected := [("args", .obj [("order_id", .str "ORD-SELF-TRA-01")]),
    ("confirmation_required", .bool false), ("intent", .str "track_order"),
    ("next_action", .str "call_tool"), ("required_slots", .arr []), ("route", .str "order_query"),
    ("tool", .str "get_order_status")]

/-- The tool of the fixture of the case. -/
def demoSpec : ToolSpec where
  name := "get_order_status"
  version := "1"
  inputSchema := [("type", .str "object"),
    ("properties", .obj [("order_id", .obj [("type", .str "string")])]),
    ("required", .arr [.str "order_id"]), ("additionalProperties", .bool false)]
  outputSchema := [("type", .str "object"),
    ("properties", .obj [("status", .obj [("type", .str "string")])]),
    ("required", .arr [.str "status"]), ("additionalProperties", .bool false)]
  risk := .readOnly
  requiredScopes := ["order:read"]
  timeoutMs := 1000
  maxAttempts := 1
  modelVisible := true

/-- The boundary of the fixture allows nothing but a tool call. -/
def demoBoundary (allowed : List DecisionType) : DecisionBoundary where
  route := "order_query"
  allowedTypes := allowed
  allowedTools := ["get_order_status"]
  trustedEvidenceIds := []

def demoLoop (allowed : List DecisionType) : CaseLoop Value where
  agent := {
    model := OpenAICompatibleGateway 100
    tools := [demoSpec]
    boundary := demoBoundary allowed
    deadlineAt := 1000
    signature := fun _ tool _ => tool.getD "" }
  executor := { adapters := ["get_order_status"] }
  contract spec hspec := by
    obtain rfl := List.mem_singleton.mp hspec
    exact ⟨by decide, by decide⟩
  named spec hspec := by
    obtain rfl := List.mem_singleton.mp hspec
    decide

def demoPlan (scopes : List String) : AgentLoopPlan where
  context := {
    runId := "run"
    conversationId := "conversation"
    tenantId := "harness"
    actorId := "deterministic-fixture"
    workflowId := some "order_query"
    workflowVersion := some "1"
    status := .runningReadonly }
  toolContext := {
    runId := "run"
    conversationId := "conversation"
    tenantId := "harness"
    actorId := "deterministic-fixture"
    scopes := scopes }
  tokenBudget := some 1024
  traceNextAction := some "call_tool"

/-- The answer of the model to a step, with everything else in order. -/
def demoInput (allowed : List DecisionType) (remaining : ℕ) (decision : CaseDecision) : StepInputs where
  prompt := some {
    workflowId := some "order_query"
    workflowVersion := some "1"
    currentStep := "lookup"
    allowedDecisions := allowed
    allowedTools := ["get_order_status"]
    remainingSteps := remaining }
  now := 0
  answer := .ok ⟨decision, some 40⟩
  tool := {
    enteredAt := 0
    authorize := fun _ _ _ => true
    attempt := fun _ => ⟨0, 0, 0, .returned ⟨"get_order_status", "1",
      some [("status", .str "accepted")], none⟩, 1 / 10⟩ }
  version := some 1
  stopVersion := some 1

/-- The two decisions of the fixture. -/
def demoCall : CaseDecision where
  type := .callTool
  intent := "track_order"
  route := "order_query"
  tool := some "get_order_status"
  args := [("order_id", .str "ORD-SELF-TRA-01")]

def demoReply : CaseDecision where
  type := .respond
  intent := "track_order"
  route := "order_query"
  response := some "已完成请求处理。"

/-- As many inputs as a run can take; the two decisions are all that it gets. -/
def demoInputs (allowed : List DecisionType) : List StepInputs :=
  [demoInput allowed 6 demoCall, demoInput allowed 5 demoReply] ++
    List.replicate 5 (demoInput allowed 0 demoReply)

/-- A pass of the case is about what ran: the run has not failed, and its trace lists the tools
whose adapters were called. -/
def PassesOnWhatRan (allowed : List DecisionType) (scopes : List String) : Prop :=
  ∀ result, evaluate demoCase (drivenTrace demoPlatform (demoLoop allowed) (demoPlan scopes) demoCase
      (demoInputs allowed) true) = .ok result → result.passed = true →
    (drivenTrace demoPlatform (demoLoop allowed) (demoPlan scopes) demoCase (demoInputs allowed)
        true).status ≠ .fail ∧
      (drivenTrace demoPlatform (demoLoop allowed) (demoPlan scopes) demoCase (demoInputs allowed)
        true).toolsCalled =
        (executeCase demoPlatform (demoLoop allowed) (demoPlan scopes) (demoInputs allowed)).invoked

theorem passed_of_any (case : EvalCase) (trace : NormalizedTrace)
    (h : (evaluate case trace).toOption.any (·.passed) = true) :
    ∃ result, evaluate case trace = .ok result ∧ result.passed = true := by
  cases heval : evaluate case trace with
  | error e => simp [heval, Except.toOption] at h
  | ok result =>
    rw [heval] at h
    exact ⟨result, rfl, h⟩

instance failedRun_facts : Fact (((evaluate demoCase (drivenTrace demoPlatform (demoLoop [.callTool])
      (demoPlan ["order:read"]) demoCase (demoInputs [.callTool]) true)).toOption.any (·.passed)) = true ∧
    (drivenTrace demoPlatform (demoLoop [.callTool]) (demoPlan ["order:read"]) demoCase
      (demoInputs [.callTool]) true).status = .fail) := ⟨by decide +kernel⟩

/-- The fixture of a workflow case: its second decision is of a type that it does not allow, the run
fails, and the case passes. -/
theorem failed_run_passes : ¬ PassesOnWhatRan [.callTool] ["order:read"] := by
  intro h
  obtain ⟨result, heval, hpassed⟩ := passed_of_any demoCase (drivenTrace
    demoPlatform (demoLoop [.callTool]) (demoPlan ["order:read"]) demoCase (demoInputs [.callTool])
    true) failedRun_facts.out.1
  exact (h result heval hpassed).1 failedRun_facts.out.2

instance uncalledTool_facts : Fact (((evaluate demoCase (drivenTrace demoPlatform
      (demoLoop [.callTool, .respond]) (demoPlan []) demoCase (demoInputs [.callTool, .respond])
      true)).toOption.any (·.passed)) = true ∧
    (drivenTrace demoPlatform (demoLoop [.callTool, .respond]) (demoPlan []) demoCase
      (demoInputs [.callTool, .respond]) true).toolsCalled ≠
      (executeCase demoPlatform (demoLoop [.callTool, .respond]) (demoPlan [])
        (demoInputs [.callTool, .respond])).invoked) := ⟨by decide +kernel⟩

/-- Without its scope the tool is never called; the trace lists it, and the case passes. -/
theorem uncalled_tool_passes : ¬ PassesOnWhatRan [.callTool, .respond] [] := by
  intro h
  obtain ⟨result, heval, hpassed⟩ := passed_of_any demoCase (drivenTrace
    demoPlatform (demoLoop [.callTool, .respond]) (demoPlan []) demoCase
    (demoInputs [.callTool, .respond]) true) uncalledTool_facts.out.1
  exact uncalledTool_facts.out.2 (h result heval hpassed).2

/-- The plan of a case that takes one step. -/
def demoStepPlan : AgentLoopPlan := { demoPlan ["order:read"] with pipelined := false }

theorem resolve_demo : resolve [demoSpec] "get_order_status" "1" demoStepPlan.toolContext =
    .ok demoSpec := rfl

theorem wellRun_demo : WellRun demoPlatform (demoLoop [.callTool]) demoStepPlan
    [demoInput [.callTool] 6 demoCall] := by
  refine .step rfl rfl ⟨rfl, by decide, by decide, by decide, rfl, rfl, rfl, _, rfl, ?_⟩
  refine .tool rfl resolve_demo rfl ?_ ⟨?_, ?_, ?_, ?_⟩ (reaches_of_time _ _ ?_ ?_)
  all_goals decide +kernel

instance wellRun_facts : Fact ((evaluate demoCase (drivenTrace demoPlatform (demoLoop [.callTool])
    demoStepPlan demoCase [demoInput [.callTool] 6 demoCall] true)).toOption.any (·.passed) = true) :=
  ⟨by decide +kernel⟩

/-- The step carries out its tool call, and the pass says so. -/
theorem hard_pass_ran_demo :
    (drivenTrace demoPlatform (demoLoop [.callTool]) demoStepPlan demoCase
        [demoInput [.callTool] 6 demoCall] true).status ≠ .fail ∧
      (drivenTrace demoPlatform (demoLoop [.callTool]) demoStepPlan demoCase
        [demoInput [.callTool] 6 demoCall] true).toolsCalled =
        (executeCase demoPlatform (demoLoop [.callTool]) demoStepPlan
          [demoInput [.callTool] 6 demoCall]).invoked := by
  obtain ⟨result, heval, hpassed⟩ := passed_of_any demoCase (drivenTrace demoPlatform
    (demoLoop [.callTool]) demoStepPlan demoCase [demoInput [.callTool] 6 demoCall] true)
    wellRun_facts.out
  exact hard_pass_ran demoPlatform (demoLoop [.callTool]) demoStepPlan demoCase
    [demoInput [.callTool] 6 demoCall] true (.inr ⟨rfl, wellRun_demo⟩) heval hpassed

end Demo

end CommerceAgent.HardEval
