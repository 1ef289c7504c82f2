import CommerceAgent.Confirmations
import CommerceAgent.Standing

/-! The statuses that each program writes to its run. -/
namespace CommerceAgent

open Json Programs

/-- The calls of a program for one run: its checkpoints keep the mode of the run and are of these
statuses, and it selects no route. -/
def Op.Moves (runId : Uuid) (mode : Option ExecutionMode) (allowed : List RunStatus) :
    {α : Type} → Op α → Prop
  | _, .runs (.commitStep p) => p.runId = runId ∧ p.checkpoint.runId = runId ∧
      p.checkpoint.executionMode = mode ∧ p.checkpoint.status = p.nextStatus ∧ p.nextStatus ∈ allowed
  | _, .runs (.selectRoute _ _ _) => False
  | _, _ => True

/-- The context is one of the run. -/
structure RunContext.Of (context : RunContext) (runId : Uuid) (mode : Option ExecutionMode) : Prop where
  run : context.runId = runId
  mode : context.executionMode = mode

theorem RunContext.Of.rfl {context : RunContext} : context.Of context.runId context.executionMode :=
  ⟨by rfl, by rfl⟩

section Moves

variable {runId : Uuid} {mode : Option ExecutionMode} {allowed : List RunStatus} {context : RunContext}
  {π : Platform}

theorem Op.Moves.widen {α : Type} {o : Op α} {wider : List RunStatus} (ho : o.Moves runId mode allowed)
    (hwider : allowed ⊆ wider) : o.Moves runId mode wider := by
  cases o with
  | runs t =>
    cases t with
    | commitStep p =>
      obtain ⟨hrun, hcheckpoint, hmode, hstatus, hallowed⟩ := ho
      exact ⟨hrun, hcheckpoint, hmode, hstatus, hwider hallowed⟩
    | selectRoute => exact absurd ho id
    | _ => trivial
  | _ => trivial

theorem Op.Publishes.moves {α : Type} {o : Op α} (ho : o.Publishes) : o.Moves runId mode allowed := by
  cases o with
  | runs t =>
    cases t with
    | commitStep | selectRoute => exact absurd ho id
    | _ => trivial
  | _ => trivial

theorem moves_commitCheckpoint (h : context.Of runId mode) {status : RunStatus} {nextStep : String}
    {state : Dict} {events : List DomainEvent} {completion : Option MutationCompletion}
    (hallowed : status ∈ allowed) :
    Uses (Op.Moves runId mode allowed)
      (commitCheckpoint context status nextStep state events completion) :=
  uses_commitCheckpoint_of (fun _ => ⟨h.run, h.run, h.mode, rfl, hallowed⟩) trivial

theorem moves_checkpoint (h : context.Of runId mode) {status : RunStatus} {nextStep : String}
    {state : Dict} {events : List DomainEvent} (hallowed : status ∈ allowed) :
    Uses (Op.Moves runId mode allowed) (checkpoint context status nextStep state events) :=
  moves_commitCheckpoint h hallowed

theorem moves_publish (p : Publication) :
    Uses (Op.Moves runId mode allowed) (publishTerminalResponse π p) :=
  (uses_publishTerminalResponse p).mono fun _ ho => ho.moves

attribute [local irreducible] publishTerminalResponse checkpoint commitCheckpoint

section Mutations

theorem moves_prepareMutation (h : context.Of runId mode) {mutationType : String} {arguments : Dict} :
    Uses (Op.Moves runId mode [.waitingConfirmation])
      (prepareMutation π context mutationType arguments) := by
  unfold prepareMutation
  refine .bind (uses_planMutation _ _ _ _) fun preview => .bind (.perform trivial) fun now => ?_
  refine .bind (.perform trivial) fun token => .bind (.perform trivial) fun _ => ?_
  exact .bind (moves_checkpoint h (by simp)) fun version => .pure _

theorem moves_refreshMutationToken (h : context.Of runId mode) :
    Uses (Op.Moves runId mode [.waitingConfirmation]) (refreshMutationToken π context) := by
  unfold refreshMutationToken
  refine .ite (.raise _) (.bind (.perform trivial) fun record => ?_)
  split
  · refine .ite (.raise _) (.bind (.perform trivial) fun now => .bind (.perform trivial) fun token => ?_)
    refine .bind (.perform trivial) fun _ => ?_
    exact .bind (moves_checkpoint h (by simp)) fun version => .pure _
  · exact .raise _

theorem moves_rejectMutation (h : context.Of runId mode) {tokenHash : String} :
    Uses (Op.Moves runId mode [.cancelled]) (rejectMutation context tokenHash) := by
  unfold rejectMutation
  refine .bind (uses_requireWaiting (fun _ => trivial) _ _ _) fun record => ?_
  refine .bind (uses_rejectToken (fun _ => trivial) _ _ _ _) fun _ => ?_
  exact .bind (moves_checkpoint h (by simp)) fun version => .pure _

theorem moves_createHandoff {options : ConfirmOptions} {operation reasonCode : String}
    {details : Dict} :
    Uses (Op.Moves runId mode allowed) (createHandoff options context operation reasonCode details) :=
  uses_createHandoff (fun _ => trivial) (fun _ _ _ => trivial) _ _ _ _ _

/-- What a confirmation checkpoints. -/
def CONFIRMED : List RunStatus := [.committing, .verifying, .failed, .waitingHuman, .completed]

theorem moves_confirmation {c : Confirmation} (h : c.committing.Of runId mode)
    {options : ConfirmOptions} : Uses (Op.Moves runId mode CONFIRMED) (c.run π options) := by
  have hadapter : ∀ key, Uses (Op.Moves runId mode CONFIRMED) (c.adapter π key) := by
    intro key
    unfold Confirmation.adapter
    split
    · exact .raise _
    · exact .perform trivial
  have hcheckpoint : ∀ completion, Yields (Op.Moves runId mode CONFIRMED) (fun _ => True)
      (c.checkpointCompletion completion) := by
    intro completion
    have hstatus : completion.runStatus ∈ CONFIRMED := by
      unfold MutationCompletion.runStatus
      split <;> decide
    exact Uses.bind (moves_commitCheckpoint h hstatus) fun version => .pure _
  have hverifying : ∀ state steps version, (c.committing.copy .verifying state steps version).Of runId
      mode := fun _ _ _ => ⟨h.run, h.mode⟩
  refine Yields.bind (yields_execute (fun _ => trivial) hadapter hcheckpoint) fun executed _ => ?_
  obtain ⟨outcome, left⟩ := executed
  refine .ite (fun _ => ?_) fun _ => ?_
  · unfold Confirmation.settleUnsuccessful Confirmation.readback Confirmation.handOver
    refine Uses.bind (.ite (.perform trivial) (.pure _)) fun readback => ?_
    refine .bind (.ite moves_createHandoff (.pure _)) fun ticketId => ?_
    cases left with
    | none => exact .raise _
    | some left =>
      have hstatus : (if outcome.status = .unknown then RunStatus.waitingHuman else .failed) ∈
          CONFIRMED := by
        split <;> decide
      have hbase : RunContext.Of { c.committing with status := .verifying, checkpointVersion := left.1 }
        runId mode := ⟨h.run, h.mode⟩
      rw [requireOutcomeVersion, Prog.pure_eq_ret, Prog.ret_bind]
      exact .bind (moves_checkpoint hbase hstatus) fun version => .pure _
  · unfold Confirmation.settleSucceeded
    cases left with
    | none => exact Uses.raise _
    | some left =>
      rw [requireOutcomeVersion, Prog.pure_eq_ret, Prog.ret_bind]
      refine Uses.bind (.perform trivial) fun verified => .ite ?_ ?_
      · refine .bind moves_createHandoff fun ticketId => ?_
        exact .bind (moves_checkpoint (hverifying _ _ _) (by decide)) fun version => .pure _
      · exact .bind (moves_checkpoint (hverifying _ _ _) (by decide)) fun version => .pure _

theorem moves_confirmMutation (h : context.Of runId mode) {options : ConfirmOptions}
    {tokenPlaintext idempotencyKey : String} :
    Uses (Op.Moves runId mode CONFIRMED)
      (confirmMutation π options context tokenPlaintext idempotencyKey) := by
  unfold confirmMutation
  refine .bind (uses_requireWaiting (fun _ => trivial) _ _ _) fun record => .ite (.raise _) ?_
  refine .bind (uses_reserveConfirmation (fun _ => trivial) _) fun reservation => .ite (.pure _) ?_
  have hstart : Yields (Op.Moves runId mode CONFIRMED) (fun c => c.committing.Of runId mode)
      (startCommitting π context idempotencyKey reservation) :=
    Yields.bind (moves_checkpoint h (by decide)) fun version _ => .pure ⟨h.run, h.mode⟩
  exact Yields.bind hstart fun c hc => moves_confirmation hc

/-- What a low-risk operation checkpoints. -/
def LOW_RISK_LEFT : List RunStatus := [.completed, .waitingHuman, .failed]

theorem moves_executeLowRisk (h : context.Of runId mode) {options : ConfirmOptions} {route : String}
    {arguments : Dict} :
    Uses (Op.Moves runId mode LOW_RISK_LEFT) (executeLowRisk π options context route arguments) := by
  have hcheckpoint : ∀ completion, Yields (Op.Moves runId mode LOW_RISK_LEFT) (fun _ => True)
      (lowRiskCheckpoint context route arguments completion) := by
    intro completion
    have hstatus : completion.lowRiskStatus ∈ LOW_RISK_LEFT := by
      unfold MutationCompletion.lowRiskStatus
      split
      · decide
      · split <;> decide
    exact Uses.bind (moves_commitCheckpoint h hstatus) fun version => .pure _
  unfold executeLowRisk
  refine .ite (.raise _) (.ite (.raise _) ?_)
  refine .bind (uses_reserve π (fun _ => trivial) _ _) fun _ => ?_
  refine Yields.bind (yields_execute (fun _ => trivial) (fun _ => .perform trivial) hcheckpoint)
    fun executed _ => ?_
  obtain ⟨outcome, left⟩ := executed
  refine Uses.ite ?_ (.ite (.pure _) (.pure _))
  unfold lowRiskUnknown lowRiskHandoff
  refine .bind (.bind (uses_createTicket (fun _ => trivial) _ _) fun ticketId => ?_) fun ticketId => ?_
  · exact .ite (.bind (.perform trivial) fun _ => .pure _) (.pure _)
  · have hbase : RunContext.Of { context with
        status := .verifying
        checkpointVersion := (left.getD (context.checkpointVersion,
          lowRiskState context route arguments)).1 } runId mode := ⟨h.run, h.mode⟩
    exact .bind (moves_checkpoint hbase (by decide)) fun version => .pure _

end Mutations

section Loop

/-- What a step of the readonly loop checkpoints. -/
def STEPPED : List RunStatus :=
  [.runningReadonly, .cancelled, .waitingUser, .waitingHuman, .completed, .failed]

theorem targetStatus_stepped (result : LoopResult) : targetStatus .runningReadonly result ∈ STEPPED := by
  unfold targetStatus
  split
  · decide
  · split
    · decide
    · decide
    · decide
    · decide
    · split <;> decide

theorem moves_requireTransition (current next : RunStatus) :
    Uses (Op.Moves runId mode allowed) (Prog.ofExcept (requireTransition current next) : Act Unit) := by
  cases requireTransition current next with
  | error e => exact .raise _
  | ok u => exact .pure _

theorem moves_advance (h : context.Of runId mode) (hrunning : context.status = .runningReadonly)
    {tokenBudget deadlineAt : ℕ} :
    Yields (Op.Moves runId mode STEPPED) (fun r => r.1.Of runId mode)
      (advance context tokenBudget deadlineAt) := by
  have hstep : Uses (Op.Moves runId mode STEPPED) (executeStep context tokenBudget deadlineAt) := by
    unfold executeStep
    refine .ite (.pure _) (.ite (.pure _) (.bind (.perform trivial) fun now => ?_))
    exact .ite (.pure _) (.perform trivial)
  unfold advance
  refine .ite (fun _ => .raise _) fun _ => Yields.bind hstep fun result _ => ?_
  refine Yields.bind (moves_requireTransition _ _) fun _ _ => ?_
  have hstatus : targetStatus context.status result ∈ STEPPED := by
    rw [hrunning]
    exact targetStatus_stepped result
  exact Yields.bind (moves_checkpoint h hstatus) fun version _ => .pure ⟨h.run, h.mode⟩

theorem moves_loopHandoff (h : context.Of runId mode) {reason : String} :
    Yields (Op.Moves runId mode STEPPED) (fun r => r.1.Of runId mode) (loopHandoff context reason) := by
  unfold loopHandoff
  refine Yields.bind (moves_requireTransition _ _) fun _ _ => ?_
  exact Yields.bind (moves_checkpoint h (by decide)) fun version _ => .pure ⟨h.run, h.mode⟩

attribute [local irreducible] advance loopHandoff

/-- By induction on the steps that are left. -/
theorem moves_agentLoop (deadlineAt n : ℕ) : ∀ (context : RunContext) (tokenBudget : ℕ)
    (previous response : Option String), context.Of runId mode →
    Yields (Op.Moves runId mode STEPPED) (fun r => r.1.Of runId mode)
      (agentLoop deadlineAt n context tokenBudget previous response) := by
  induction n with
  | zero => exact fun context _ _ _ h => .pure h
  | succ n ih =>
    intro context tokenBudget previous response h
    have husage : ∀ result, Uses (Op.Moves runId mode STEPPED) (tokenUsage result) := by
      intro result
      unfold tokenUsage
      cases result.usageTokens with
      | some usage => exact .pure _
      | none => exact .perform trivial
    unfold agentLoop
    refine .ite (fun _ => .pure h) fun hrunning => ?_
    refine Yields.bind (moves_advance h (not_not.mp hrunning)) fun stepped hstepped => ?_
    obtain ⟨current, result⟩ := stepped
    refine Yields.bind (husage result) fun usage _ => .ite (fun _ => .pure hstepped) fun _ => ?_
    refine .ite (fun _ => ?_) fun _ => ih _ _ _ _ hstepped
    exact Yields.bind (moves_loopHandoff hstepped) fun stopped hstopped => .pure hstopped

theorem moves_executeReadonlyRun (h : context.Of runId mode) {modelTimeout modelMaxTokens : ℕ} :
    Yields (Op.Moves runId mode STEPPED) (fun r => r.1.Of runId mode)
      (executeReadonlyRun modelTimeout modelMaxTokens context) := by
  have hnow : Uses (Op.Moves runId mode STEPPED) (Prog.perform (.world .now) : Act ℕ) := .perform trivial
  exact Yields.bind hnow fun now _ => moves_agentLoop _ _ _ _ _ _ h

end Loop

section Worker

variable {settings : Settings} {job : Dispatch}

attribute [local irreducible] executeReadonlyRun prepareMutation executeLowRisk

theorem moves_observe (eventType : EventType) (step : String) (payload : Dict) :
    Uses (Op.Moves runId mode allowed) (job.observe eventType step payload) :=
  uses_observe_of job (fun _ _ _ => trivial) _ _ _

theorem moves_safetyBoundary :
    Uses (Op.Moves runId mode allowed) (safetyBoundary π settings job context) := by
  have haudit : Uses (Op.Moves runId mode allowed) ((Prog.perform (.world (.auditAppend job.tenantId
      "safety-router" "safety_p0_detected")) : Act Unit).handle fun _ => pure ()) :=
    .handle (.perform trivial) fun _ => .pure _
  unfold safetyBoundary
  dsimp only
  split
  · refine .bind (moves_observe _ _ _) fun _ => uses_ofExcept fun safety => ?_
    exact .bind (moves_observe _ _ _) fun _ => .ite (.bind haudit fun _ => .pure _) (.pure _)
  · refine uses_ofExcept fun safety => ?_
    exact .bind (moves_observe _ _ _) fun _ => .ite (.bind haudit fun _ => .pure _) (.pure _)

theorem moves_markFailed {reason : String} :
    Uses (Op.Moves runId mode allowed) (markFailed π job.observe context reason) :=
  uses_markFailed_of trivial (fun _ ho => ho.moves) moves_observe

theorem moves_pauseForHuman (h : context.Of runId mode) {state : Dict} {ticketId : Uuid}
    {reasonCode prompt : String} :
    Uses (Op.Moves runId mode [.waitingHuman])
      (pauseForHuman π context state ticketId reasonCode prompt) := by
  unfold pauseForHuman
  refine .bind (moves_checkpoint h (by simp)) fun _ => ?_
  exact .bind (moves_publish _) fun _ => .pure _

theorem moves_handoffRun (h : context.Of runId mode) {risk : RiskAssessment} {routed : RouteDecision} :
    Uses (Op.Moves runId mode [.waitingHuman]) (handoffRun π job context risk routed) :=
  .bind (.perform trivial) fun _ => moves_pauseForHuman h

theorem moves_clarifyRun (h : context.Of runId mode) {routed : RouteDecision} :
    Uses (Op.Moves runId mode [.waitingUser]) (clarifyRun π context routed) := by
  unfold clarifyRun
  refine .bind (moves_checkpoint h (by simp)) fun _ => ?_
  exact .bind (moves_publish _) fun _ => .pure _

/-- What a write route checkpoints. -/
def WRITTEN : List RunStatus := [.waitingConfirmation, .completed, .waitingHuman, .failed]

theorem moves_runWrite (h : context.Of runId mode) {route : String} {intent : Option String} :
    Uses (Op.Moves runId mode WRITTEN) (runWrite π job context route intent) := by
  have hrefuse : ∀ code message arguments, Uses (Op.Moves runId mode WRITTEN)
      (refuseWrite π job route code message arguments) := by
    intro code message arguments
    unfold refuseWrite
    exact .ite (.bind (.perform trivial) fun _ => .raise _) (.raise _)
  have hprepare : ∀ mutationType arguments, Uses (Op.Moves runId mode WRITTEN)
      (prepareMutation π context mutationType arguments) := fun _ _ =>
    (moves_prepareMutation h).mono fun _ ho => ho.widen (by decide)
  have hlow : ∀ arguments, Uses (Op.Moves runId mode WRITTEN)
      (executeLowRisk π ⟨true, true⟩ context route arguments) := fun _ =>
    (moves_executeLowRisk h).mono fun _ ho => ho.widen (by decide)
  have hexecute : ∀ arguments, Uses (Op.Moves runId mode WRITTEN)
      (executeWrite π job context route arguments) := by
    intro arguments
    unfold executeWrite
    split
    · refine .bind (hprepare _ _) fun prepared => .bind (moves_observe _ _ _) fun _ => ?_
      exact .bind (moves_publish _) fun _ => .pure _
    · exact .ite (.bind (hlow _) fun executed => .bind (moves_publish _) fun _ => .pure _) (.raise _)
  refine .handle (hexecute _) fun e => ?_
  cases e with
  | mutationWorkflow => exact hrefuse _ _ _
  | lowRiskWorkflow => exact hrefuse _ _ _
  | _ => exact .raise _

theorem moves_runReadonly (h : context.Of runId mode) :
    Uses (Op.Moves runId mode STEPPED) (runReadonly π settings job context) := by
  have hconclude : ∀ context response, Uses (Op.Moves runId mode STEPPED)
      (concludeReadonly π job context response) := by
    intro context response
    unfold concludeReadonly
    refine .ite (.pure _) ?_
    dsimp only
    split
    · exact .bind (.perform trivial) fun _ => .bind (moves_publish _) fun _ => .pure _
    · exact .bind (moves_publish _) fun _ => .pure _
  unfold runReadonly
  refine .handle (Yields.bind (moves_executeReadonlyRun h) fun left _ => hconclude _ _) fun _ => ?_
  exact .bind (moves_observe _ _ _) fun _ => moves_markFailed

/-- What a route of this mode checkpoints. -/
def worked : ExecutionMode → List RunStatus
  | .readonlyLoop => STEPPED
  | .workflow => WRITTEN

theorem moves_executeRoute (hrun : context.runId = runId) {routed : RouteDecision} {m : ExecutionMode}
    (hmode : routed.executionMode = some m) :
    Uses (Op.Moves runId (some m) (worked m)) (executeRoute π settings job context routed) := by
  have hskill : ∀ route, Uses (Op.Moves runId (some m) (worked m)) (matchSkill settings job route) := by
    intro route
    unfold matchSkill
    refine .ite (.bind (.handle (.perform trivial) fun _ => .pure _) fun found => ?_) (.pure _)
    cases found with
    | none => exact .pure _
    | some entries => exact .bind (moves_observe _ _ _) fun _ => .pure _
  have hof : ∀ state, (context.routedWith routed m state).Of runId (some m) := fun _ => ⟨hrun, rfl⟩
  have hconverse : ∀ state route, Uses (Op.Moves runId (some m) (worked m))
      (converse π job (context.routedWith routed m state) routed route) := by
    intro state route
    have hcompleted : RunStatus.completed ∈ worked m := by cases m <;> decide
    unfold converse
    exact .bind (moves_checkpoint (hof state) hcompleted) fun _ => .bind (moves_publish _) fun _ => .pure _
  unfold executeRoute
  rw [hmode]
  cases routed.workflowId with
  | none => exact .raise _
  | some route =>
    refine .bind (hskill route) fun skill => .ite (hconverse _ _) ?_
    cases m with
    | readonlyLoop =>
      exact Yields.ite (fun _ => moves_runReadonly (hof _)) fun hne => absurd rfl hne
    | workflow =>
      exact Yields.ite (fun heq => absurd heq (by decide)) fun _ => moves_runWrite (hof _)

end Worker

end Moves

end CommerceAgent
