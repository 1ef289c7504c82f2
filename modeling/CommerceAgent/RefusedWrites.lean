import CommerceAgent.SafetyBlock

/-! What is left of a write that its planning refuses. The worker is to ask for missing slots and to
hand over everything else; it fails the run instead. -/
namespace CommerceAgent

open Json Tables Programs

variable (π : Platform)

/-- The planning of a write raises: nothing has been called yet. -/
def RefusedWith (job : Dispatch) (context : RunContext) (route : String) (arguments : Dict)
    (code message : String) (missing : List String) : Prop :=
  executeWrite π job context route arguments = .raise (.mutationWorkflow code message missing) ∨
    executeWrite π job context route arguments = .raise (.lowRiskWorkflow code message missing)

/-- The write branch of the worker, under the handlers of its inner boundary. -/
def writeBranch (job : Dispatch) (context routed : RunContext) (route : String)
    (intent : Option String) : Act Unit :=
  (runWrite π job routed route intent).handle fun
    | .modelGateway => classifierUnavailable π job context
    | _ => markFailed π job.observe context "UNEXPECTED_EXECUTION_ERROR"

/-- What the handler of a refused write is to leave: a run that waits for the missing slots, beside the
arguments so far, or one that waits for a human, beside its only ticket. -/
def AskedOrHandedOver (runId : Uuid) (code : String) (missing : List String) (arguments : Dict)
    (db : DB) : Prop :=
  ∃ row context, db.run runId = some row ∧
    (db.latestCheckpoint runId).map RunCheckpoint.stateJson = some context ∧
    row.status = context.status ∧
    if code = "MISSING_SLOTS" then
      context.status = .waitingUser ∧
        context.state.get? "missing_slots" = some (.arr (missing.map Value.str)) ∧
        context.state.get? "mutation_args" = some (.obj arguments)
    else
      context.status = .waitingHuman ∧ ∃ ticket,
        db.tickets.rows.filter (fun t => t.runId = runId) = [ticket] ∧
        context.state.get? "handoff_ticket_id" = some (.str ticket.ticketId)

section Refused

variable {π} {job : Dispatch} {status : RunStatus} {version : ℕ} {latest : Option RunContext}
  {owned : Bool} {db : DB} {context routed : RunContext} {route code message : String}
  {intent : Option String} {missing : List String}

theorem EndedAs.not_askedOrHandedOver {runId : Uuid} {arguments : Dict} (h : EndedAs runId status db)
    (hended : status.IsTerminal) : ¬ AskedOrHandedOver runId code missing arguments db := by
  obtain ⟨row, hrow, rfl⟩ := h
  rintro ⟨row', context, hrow', _, hstatus, hleft⟩
  obtain rfl := Option.some.inj (hrow.symm.trans hrow')
  rw [hstatus] at hended
  split at hleft
  · rw [hleft.1] at hended
    exact absurd hended (by decide)
  · rw [hleft.1] at hended
    exact absurd hended (by decide)

/-- A refused write goes to the handler, which makes at most a ticket before it raises. -/
theorem runWrite_refused (h : RefusedWith π job routed route (writeArguments π job routed route intent) code
    message missing) :
    runWrite π job routed route intent =
      refuseWrite π job route code message (writeArguments π job routed route intent) := by
  rcases h with h | h <;> simp only [runWrite, h] <;> rfl

attribute [local irreducible] markFailed

theorem Held.safe_writeBranch (h : Held job status version latest owned [] db) (howns : job.Owns context)
    (hrefused : RefusedWith π job routed route (writeArguments π job routed route intent) code message
      missing) :
    Safe serving (fun _ {_} _ => True) (fun _ db' => EndedAs job.runId status.failing db')
      (writeBranch π job context routed route intent) db := by
  have hfail : ∀ {tickets db'}, Held job status version latest owned tickets db' →
      Safe serving (fun _ {_} _ => True) (fun _ db' => EndedAs job.runId status.failing db')
        (markFailed π job.observe context "UNEXPECTED_EXECUTION_ERROR") db' := fun h' =>
    h'.stands.safe_markFailed howns.run howns.tenant uses_observe_uncommitting
  unfold writeBranch
  rw [runWrite_refused hrefused, safe_handle]
  refine (safe_ite _ _ _ _).mpr ⟨fun _ => ?_, fun _ => hfail h⟩
  refine h.safe_ticket rfl fun ticket db' h' _ _ => hfail h'

/-- The errors of the planner reach the handler. -/
theorem refusedWith_of_prepare {mutationType : String} {arguments : Dict}
    (hroute : mutationTypeForRoute route = some mutationType)
    (h : prepare π mutationType context.actorId arguments = .error (.mutationPlanning code message missing)) :
    RefusedWith π job context route arguments code message missing := by
  refine .inl ?_
  simp only [executeWrite, hroute, prepareMutation, planMutation, h]
  rfl

/-- So do the missing slots of a low-risk route. -/
theorem refusedWith_of_lowRiskMissing {arguments : Dict} (hroute : route ∈ LOW_RISK_ROUTES)
    (h : lowRiskMissing route arguments ≠ []) :
    RefusedWith π job context route arguments "MISSING_SLOTS" "还需要补充必要信息"
      (lowRiskMissing route arguments) := by
  have hnone : mutationTypeForRoute route = none := by
    simp only [LOW_RISK_ROUTES, List.mem_cons, List.not_mem_nil, or_false] at hroute
    rcases hroute with rfl | rfl <;> rfl
  refine .inr ?_
  simp only [executeWrite, hnone, hroute, if_true, executeLowRisk, not_true_eq_false, if_false, h,
    ne_eq, not_false_eq_true]
  rfl

/-- Whatever the route, its arguments and the error of their planning: a worker that reaches its write
branch leaves a run that is neither asked for slots nor handed over, but failed unless it had ended. -/
theorem refused_write_fails {t : List (Happened Op Exc DB)} {q : Act Unit} {db' : DB} {row : AgentRun}
    (hreaches : job.Reaches db) (hrow : db.run job.runId = some row) (howns : job.Owns context)
    (hrefused : RefusedWith π job routed route (writeArguments π job routed route intent) code message
      missing)
    (he : Exec serving (writeBranch π job context routed route intent) db t q db')
    (hdone : q.outcome?.isSome) :
    ¬ AskedOrHandedOver job.runId code missing (writeArguments π job routed route intent) db' ∧
      EndedAs job.runId row.status.failing db' := by
  have hsafe := (((hreaches.held hrow).safe_writeBranch howns hrefused).exec he).2
  have hended : EndedAs job.runId row.status.failing db' := by
    cases q with
    | ret a => exact hsafe
    | raise e => exact hsafe
    | call o k => exact absurd hdone (by simp [Prog.outcome?])
  exact ⟨hended.not_askedOrHandedOver row.status.failing_terminal, hended⟩

end Refused

section Demo

/-- A world in which every request is classified as a cancellation. -/
def cancelChoice (uuid : Uuid) : Choice :=
  ⟨⟨100, uuid, fun _ => 0⟩, false, fun
    | .classify _ _ =>
      .ok ⟨"cancel_order", .write, 1, none, none, .commerce, .low, []⟩
    | w => demoWorld 100 "" w⟩

/-- The whole worker for a first message that names no order. -/
def demoCancelled : List (Happened Op Exc DB) × Act Unit × DB :=
  drive respond (List.replicate 40 (cancelChoice "message-1"))
    (executeMessageRun demoPlatform {} (demoJob "取消订单")) createdDB

def demoRouted : RunContext :=
  { (demoJob "取消订单").entering with
    status := .runningWorkflow
    executionMode := some .workflow
    workflowId := some "cancel_order"
    workflowVersion := some "1" }

def demoRefused : List (Happened Op Exc DB) × Act Unit × DB :=
  drive respond (List.replicate 10 (cancelChoice "message-1"))
    (writeBranch demoPlatform (demoJob "取消订单") (demoJob "取消订单").entering demoRouted "cancel_order"
      (some "cancel_order")) createdDB

theorem demo_refusedWith : RefusedWith demoPlatform (demoJob "取消订单") demoRouted "cancel_order"
    (writeArguments demoPlatform (demoJob "取消订单") demoRouted "cancel_order" (some "cancel_order"))
    "MISSING_SLOTS" "还需要补充必要信息" ["order_id", "reason"] := by
  have hempty : (writeArguments demoPlatform (demoJob "取消订单") demoRouted "cancel_order"
      (some "cancel_order")).isEmpty = true := by decide +kernel
  rw [List.isEmpty_iff.mp hempty]
  exact refusedWith_of_prepare rfl rfl

instance demoRefused_facts : Fact ((demoRefused.2.1.outcome?.isSome &&
    demoRefused.1.all fun e => !Event.outage e.toCall) = true) :=
  ⟨by decide +kernel⟩

theorem refused_write_fails_demo : EndedAs "run" .failed demoRefused.2.2 := by
  obtain ⟨hdone, hup⟩ := Bool.and_eq_true_iff.mp demoRefused_facts.out
  have hreaches : (demoJob "取消订单").Reaches createdDB :=
    ⟨⟨_, rfl, rfl, fun c hc => absurd hc List.not_mem_nil⟩, fun c hc => absurd hc (by
      simp [createdDB, DB.latestCheckpoint, Table.select, Table.empty, latestBy])⟩
  have he : Exec serving _ createdDB demoRefused.1 demoRefused.2.1 demoRefused.2.2 :=
    (exec_of_drive (Eq.refl demoRefused)).restrict fun e he => by simpa using List.all_eq_true.mp hup e he
  exact (refused_write_fails hreaches rfl (demoJob "取消订单").owns_entering demo_refusedWith he hdone).2

instance demoCancelled_facts : Fact ((demoCancelled.2.1.outcome?.isSome &&
      demoCancelled.1.all fun e => !Event.outage e.toCall) = true ∧
    (demoCancelled.2.2.run "run").map (fun row => (row.status, row.workflowId)) =
      some (.failed, some "cancel_order")) :=
  ⟨by decide +kernel⟩

/-- The slots of a cancellation are missing: nobody asks for them. -/
theorem missing_slots_fail_run :
    (demoCancelled.2.1.outcome?.isSome &&
      demoCancelled.1.all fun e => !Event.outage e.toCall) = true ∧
    (demoCancelled.2.2.run "run").map (fun row => (row.status, row.workflowId)) =
      some (.failed, some "cancel_order") ∧
    ¬ AskedOrHandedOver "run" "MISSING_SLOTS" ["order_id", "reason"]
      (writeArguments demoPlatform (demoJob "取消订单") demoRouted "cancel_order" (some "cancel_order"))
      demoCancelled.2.2 := by
  have hfacts := demoCancelled_facts.out
  refine ⟨hfacts.1, hfacts.2, ?_⟩
  obtain ⟨row, hrow, hstatus⟩ := Option.map_eq_some_iff.mp hfacts.2
  exact EndedAs.not_askedOrHandedOver ⟨row, hrow, (Prod.mk.inj hstatus).1⟩ (by decide)

end Demo

end CommerceAgent
