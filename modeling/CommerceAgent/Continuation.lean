import CommerceAgent.SafetyBlock
import CommerceAgent.RunMoves

/-! What a further message does to a run that waits for its user. -/
namespace CommerceAgent

open Json Tables Programs

/-- What an operation may raise, where only the calls of the model raise a failure of its gateway. -/
def Op.MayRaise : {α : Type} → Op α → Exc → Prop
  | _, .world (.classify _ _), _ | _, .world (.agentStep _), _ => True
  | _, _, e => e ≠ .modelGateway

/-- The program blames no model gateway. -/
abbrev Blameless {α : Type} (p : Act α) : Prop := Raises Op.MayRaise (fun e => e ≠ .modelGateway) p

section Parts

variable {π : Platform} {settings : Settings} {job : Dispatch} {context : RunContext}

theorem blameless_observe (eventType : EventType) (step : String) (payload : Dict) :
    Blameless (job.observe eventType step payload) :=
  .handle (.any _) fun _ _ => .pure _

theorem blameless_recordRelease (route : Option String) : Blameless (job.recordRelease route) :=
  .handle (.any _) fun _ _ => .pure _

theorem blameless_commitCheckpoint (context : RunContext) (status : RunStatus) (nextStep : String)
    (state : Dict) (events : List DomainEvent) (completion : Option MutationCompletion) :
    Blameless (commitCheckpoint context status nextStep state events completion) := by
  unfold commitCheckpoint commitStep
  refine .ite (fun _ => .raise (by simp)) fun _ => .bind (.ite (fun _ => .raise (by simp))
    fun _ => .ite (fun _ => .raise (by simp)) fun _ => ?_) fun _ => .pure _
  refine .bind (.perform fun _ he => he) fun _ => .bind (.perform fun _ he => he) fun snapshot => ?_
  cases snapshot with
  | none => exact .raise (by simp)
  | some run => exact .pure _

theorem blameless_checkpoint (context : RunContext) (status : RunStatus) (nextStep : String)
    (state : Dict) (events : List DomainEvent) :
    Blameless (checkpoint context status nextStep state events) :=
  blameless_commitCheckpoint _ _ _ _ _ _

theorem blameless_assistantInput {content : String} :
    ∀ e, assistantInput π context content = .error e → e ≠ .modelGateway := by
  intro e he
  unfold assistantInput at he
  split at he
  · obtain rfl := Except.error.inj he
    simp
  · exact absurd he (by simp)

theorem blameless_announce (p : Publication) : Blameless (p.announce π) := by
  have hevent : Blameless (p.terminalEvent π) := by
    unfold Publication.terminalEvent
    exact .ite (fun _ => .bind (.perform fun _ he => he) fun _ => .pure _) fun _ => .pure _
  unfold Publication.announce
  refine .bind (.handle (.any _) fun _ _ => .pure _) fun _ => ?_
  exact .bind (.perform fun _ he => he) fun _ => hevent

theorem blameless_recordReason (p : Publication) : Blameless (p.recordReason π) := by
  unfold Publication.recordReason
  split
  · exact .perform fun _ he => he
  · exact .pure _

theorem blameless_publish (p : Publication) : Blameless (publishTerminalResponse π p) := by
  have happend : Blameless (p.appendResponse π) := by
    unfold Publication.appendResponse appendAssistantOnceForRun appendAssistant
    have hinput := @blameless_assistantInput π p.context (p.content π)
    generalize assistantInput π p.context (p.content π) = input at hinput ⊢
    refine .ite (fun _ => ?_) fun _ => .bind ?_ fun _ => .pure _
    · exact .bind (.ofExcept hinput) fun _ => .perform fun _ he => he
    · exact .bind (.ofExcept hinput) fun _ => .perform fun _ he => he
  unfold publishTerminalResponse Publication.announceIf
  refine .bind happend fun appended => .bind (blameless_recordReason p) fun _ => ?_
  exact .bind (.ite (fun _ => blameless_announce p) fun _ => .pure _) fun _ => .pure _

attribute [local irreducible] publishTerminalResponse checkpoint

theorem blameless_markFailed {reason : String} :
    Blameless (markFailed π job.observe context reason) := by
  unfold markFailed
  refine .bind (.perform fun _ he => he) fun _ => .bind (.handle (.any _) fun _ _ =>
    .handle (.any _) fun _ _ => .pure _) fun _ => blameless_observe _ _ _

theorem blameless_prepareMutation {mutationType : String} {arguments : Dict} :
    Blameless (prepareMutation π context mutationType arguments) := by
  have hplan : Blameless (planMutation π mutationType context.actorId arguments) := by
    unfold planMutation
    split
    · exact .pure _
    · exact .raise (by simp)
    · rename_i e hplan
      obtain ⟨code, message, missing, rfl⟩ := prepare_error hplan
      exact .raise (by simp)
  unfold prepareMutation
  refine .bind hplan fun preview => .bind (.perform fun _ he => he) fun now => ?_
  refine .bind (.perform fun _ he => he) fun token => .bind (.perform fun _ he => he) fun _ => ?_
  exact .bind (blameless_checkpoint _ _ _ _ _) fun _ => .pure _

theorem blameless_reserve (intent : MutationExecutionIntent) (expiresAt : Option ℕ) :
    Blameless (reserve π intent expiresAt) := by
  refine .bind (.perform fun _ he => he) fun _ => .bind (.perform fun _ he => he) fun stored => ?_
  cases stored with
  | none => exact .raise (by simp)
  | some stored => exact .pure _

theorem blameless_execute {γ : Type} {intent : MutationExecutionIntent}
    {adapter : String → Act MutationAdapterResult} {checkpoint : MutationCompletion → Act γ}
    (hcheckpoint : ∀ completion, Blameless (checkpoint completion)) :
    Blameless (execute intent adapter checkpoint) := by
  have hintent : Blameless (requireIntent intent) := by
    refine .bind (.perform fun _ he => he) fun stored => ?_
    cases stored with
    | none => exact .raise (by simp)
    | some stored => exact .pure _
  have hclaim : Blameless (claim intent) := by
    refine .bind (.perform fun _ he => he) fun row => ?_
    cases row with
    | some execution => exact .pure _
    | none =>
      refine .bind (.perform fun _ he => he) fun stored => ?_
      cases stored with
      | none => exact .raise (by simp)
      | some stored => exact .pure _
  refine .bind hintent fun current => ?_
  cases replay current with
  | some outcome => exact .pure _
  | none =>
    refine .bind hclaim fun claimed => .ite (fun _ => ?_) fun _ => .ite (fun _ => .raise (by simp))
      fun _ => ?_
    · cases replay claimed.execution with
      | some outcome => exact .pure _
      | none => exact .pure _
    · refine .bind (.handle (.any _) fun _ _ => .pure _) fun result => ?_
      exact .bind (.pure _) fun _ => .bind (hcheckpoint _) fun left => .pure _

theorem blameless_executeLowRisk {options : ConfirmOptions} {route : String} {arguments : Dict} :
    Blameless (executeLowRisk π options context route arguments) := by
  have hticket : ∀ ticket, Blameless (options.createTicket ticket) := by
    intro ticket
    unfold ConfirmOptions.createTicket
    exact .ite (fun _ => .bind (.perform fun _ he => he) fun _ => .pure _) fun _ => .pure _
  have hhandoff : ∀ operation, Blameless (lowRiskHandoff options context operation) := by
    intro operation
    unfold lowRiskHandoff
    refine .bind (hticket _) fun ticketId => .ite (fun _ => ?_) fun _ => .pure _
    exact .bind (.perform fun _ he => he) fun _ => .pure _
  have hunknown : ∀ outcome state version,
      Blameless (lowRiskUnknown options context route outcome state version) := by
    intro outcome state version
    unfold lowRiskUnknown
    exact .bind (hhandoff _) fun ticketId => .bind (blameless_checkpoint _ _ _ _ _) fun _ => .pure _
  unfold executeLowRisk
  refine .ite (fun _ => .raise (by simp)) fun _ => .ite (fun _ => .raise (by simp)) fun _ => ?_
  refine .bind (blameless_reserve _ _) fun _ => .bind (blameless_execute fun completion => ?_)
    fun executed => ?_
  · exact .bind (blameless_commitCheckpoint _ _ _ _ _ _) fun version => .pure _
  · obtain ⟨outcome, left⟩ := executed
    exact .ite (fun _ => hunknown _ _ _) fun _ => .ite (fun _ => .pure _) fun _ => .pure _

theorem blameless_matchSkill {route : String} : Blameless (matchSkill settings job route) := by
  unfold matchSkill
  refine .ite (fun _ => ?_) fun _ => .pure _
  refine .bind (.handle (.any _) fun _ _ => .pure _) fun found => ?_
  cases found with
  | none => exact .pure _
  | some entries => exact .bind (blameless_observe _ _ _) fun _ => .pure _

theorem blameless_converse {routed : RouteDecision} {route : String} :
    Blameless (converse π job context routed route) := by
  unfold converse
  exact .bind (blameless_checkpoint _ _ _ _ _) fun _ => .bind (blameless_publish _) fun _ => .pure _

/-- The readonly loop is tried as a whole. -/
theorem blameless_runReadonly : Blameless (runReadonly π settings job context) := by
  unfold runReadonly
  exact .handle (.any _) fun _ _ => .bind (blameless_observe _ _ _) fun _ => blameless_markFailed

attribute [local irreducible] prepareMutation executeLowRisk

theorem blameless_runWrite {route : String} {intent : Option String} :
    Blameless (runWrite π job context route intent) := by
  have hrefuse : ∀ code message arguments,
      Blameless (refuseWrite π job route code message arguments) := by
    intro code message arguments
    unfold refuseWrite
    refine .ite (fun _ => ?_) fun _ => .raise (by simp)
    exact .bind (.perform fun _ he => he) fun _ => .raise (by simp)
  have hexecute : ∀ arguments, Blameless (executeWrite π job context route arguments) := by
    intro arguments
    unfold executeWrite
    split
    · refine .bind blameless_prepareMutation fun prepared => .bind (blameless_observe _ _ _) fun _ => ?_
      exact .bind (blameless_publish _) fun _ => .pure _
    · refine .ite (fun _ => ?_) fun _ => .raise (by simp)
      exact .bind blameless_executeLowRisk fun executed => .bind (blameless_publish _) fun _ => .pure _
  refine .handle (hexecute _) fun e he => ?_
  cases e with
  | mutationWorkflow => exact hrefuse _ _ _
  | lowRiskWorkflow => exact hrefuse _ _ _
  | modelGateway => exact absurd rfl he
  | _ => exact .raise (by simp)

attribute [local irreducible] runReadonly runWrite converse matchSkill

theorem blameless_executeRoute {routed : RouteDecision} :
    Blameless (executeRoute π settings job context routed) := by
  unfold executeRoute
  split
  · refine .bind blameless_matchSkill fun skill => .ite (fun _ => blameless_converse) fun _ => ?_
    exact .ite (fun _ => blameless_runReadonly) fun _ => blameless_runWrite
  · exact .raise (by simp)

end Parts


section Resume

variable {π : Platform} {settings : Settings} {job : Dispatch} {context : RunContext}
  {d : RouteDecision} {safety : SafetyRoute}

/-- The context of a waiting run, once the worker has taken it up again. -/
def RunContext.resumed (context : RunContext) : RunContext :=
  { context with status := .runningWorkflow }

/-- The context keeps the route of a decision. -/
structure RunContext.RoutedBy (context : RunContext) (d : RouteDecision) : Prop where
  valid : d.Valid
  executes : d.outcome = .execute
  mode : context.executionMode = d.executionMode
  workflow : context.workflowId = d.workflowId
  version : context.workflowVersion = d.workflowVersion
  intent : context.state.get? "intent" = d.intent.map Value.str

/-- The decision with which a run goes on after its pause. -/
def RouteDecision.continued (d : RouteDecision) : RouteDecision where
  outcome := .execute
  executionMode := d.executionMode
  workflowId := d.workflowId
  workflowVersion := d.workflowVersion
  intent := d.intent
  reasonCode := "CONTINUATION"

theorem RunContext.RoutedBy.complete (h : context.RoutedBy d) :
    ∃ m w v i, d.executionMode = some m ∧ d.workflowId = some w ∧ d.workflowVersion = some v ∧
      d.intent = some i ∧ w ≠ "" ∧ i ≠ "" := by
  obtain ⟨hworkflow, _, hintent, _, hcomplete⟩ := h.valid
  obtain ⟨hm, hw, hv, hi⟩ := hcomplete.mp h.executes
  obtain ⟨m, hm⟩ := Option.isSome_iff_exists.mp hm
  obtain ⟨w, hw⟩ := Option.isSome_iff_exists.mp hw
  obtain ⟨v, hv⟩ := Option.isSome_iff_exists.mp hv
  obtain ⟨i, hi⟩ := Option.isSome_iff_exists.mp hi
  refine ⟨m, w, v, i, hm, hw, hv, hi, ?_, ?_⟩
  · rintro rfl
    exact absurd (hworkflow "" hw).1 (by decide)
  · rintro rfl
    exact absurd (hintent "" hi).1 (by decide)

theorem RunContext.RoutedBy.pinned (h : context.RoutedBy d) : context.resumed.Pinned := by
  obtain ⟨_, w, _, _, _, hw, _, _, hne, _⟩ := h.complete
  exact ⟨List.mem_cons_self, w, h.workflow.trans hw, hne⟩

theorem RunContext.RoutedBy.continuation (h : context.RoutedBy d) :
    context.resumed.continuation π = .ok d.continued := by
  obtain ⟨m, w, v, i, hm, hw, hv, hi, _, hne⟩ := h.complete
  have hintent : π.str (((context.resumed.state.get? "intent").filter Value.truthy).getD
      (.str "continuation")) = i := by
    have hstate : context.resumed.state.get? "intent" = some (.str i) := by
      rw [show context.resumed.state = context.state from rfl, h.intent, hi, Option.map_some]
    rw [hstate]
    simp [Option.filter, Value.truthy, hne, Platform.str]
  have hvalid : d.continued.Valid := by
    obtain ⟨hworkflow, hversion, hlength, _, _⟩ := h.valid
    have hreason : 1 ≤ "CONTINUATION".length ∧ "CONTINUATION".length ≤ 128 := by decide
    refine ⟨hworkflow, hversion, hlength, hreason, ?_⟩
    simp [RouteDecision.continued, hm, hw, hv, hi]
  have hsame : context.resumed.continuation π = d.continued.validate := by
    simp only [RunContext.continuation, hintent, RouteDecision.continued]
    rw [show context.resumed.executionMode = context.executionMode from rfl,
      show context.resumed.workflowId = context.workflowId from rfl,
      show context.resumed.workflowVersion = context.workflowVersion from rfl, h.mode, h.workflow,
      h.version, hi]
  rw [hsame, RouteDecision.validate, if_pos hvalid]

/-- What is left of the worker for a run that keeps its route. -/
def resumeRoute (π : Platform) (settings : Settings) (job : Dispatch) (context : RunContext)
    (routed : RouteDecision) : Act Unit := do
  let _ ← safetyBoundary π settings job context
  let _ ← job.recordRelease routed.workflowId
  executeRoute π settings job context routed

theorem runMessage_routed (hroute : SafetyRouter.route π settings.enableSafetyRouterV2 none job.content =
      .ok safety)
    (hsafe : safety.effectiveDisposition ≠ .handoff) (h : context.RoutedBy d) :
    runMessage π settings job context.resumed = resumeRoute π settings job context.resumed d.continued := by
  have hrequest : ∀ risk, routeRequest π settings job context.resumed safety risk = (do
      let _ ← job.recordRelease d.continued.workflowId
      pure d.continued) := by
    intro risk
    rw [routeRequest, if_neg hsafe, if_pos h.pinned, h.continuation]
    rfl
  have hexecute : ∀ risk, runRoute π settings job context.resumed risk d.continued =
      executeRoute π settings job context.resumed d.continued := fun _ => rfl
  have hstarted : ¬ context.resumed.status = .created := by simp [RunContext.resumed]
  by_cases hblock : safety.assessment.hardBlock = true
  · simp only [runMessage, resumeRoute, safetyBoundary, hroute, Prog.ofExcept, Prog.ret_bind,
      if_neg hstarted, hblock, if_true, bind_assoc, pure_bind, hrequest, hexecute]
  · simp only [runMessage, resumeRoute, safetyBoundary, hroute, Prog.ofExcept, Prog.ret_bind,
      if_neg hstarted, hblock, if_false, bind_assoc, pure_bind, hrequest, hexecute, Bool.false_eq_true]

end Resume


/-- The router classifies the request to a route that can be executed, and only the calls of the model
raise a failure of its gateway. -/
def Event.routes (settings : Settings) (risk : RiskAssessment) : Event → Bool
  | ⟨.world (.classify _ _), .ok candidate⟩ => (IntentRouter.decide (intentRouteRules
      settings.enableRoutingV2 settings.enableConversationalFallback) (candidate.withHints risk)).outcome = .execute
  | ⟨.world (.classify _ _), .error _⟩ => false
  | ⟨.world (.agentStep _), _⟩ => true
  | ⟨_, .error .modelGateway⟩ => false
  | _ => true

/-- A selection of a route that comes too late. -/
def Event.Stale (runId : Uuid) : Event → Prop
  | ⟨.runs (.selectRoute run _ _), answer⟩ => run = runId ∧ ∃ n, answer = .ok n ∧ n ≠ 1
  | _ => False

theorem Event.raises_of_routes {settings : Settings} {risk : RiskAssessment} {α : Type} {o : Op α}
    {r : Except Exc α} (h : Event.routes settings risk ⟨o, r⟩ = true) : ∀ e, r = .error e → o.MayRaise e := by
  rintro e rfl
  cases o with
  | world w =>
    cases w with
    | classify _ _ | agentStep _ => trivial
    | _ =>
      rintro rfl
      exact absurd h (by simp [Event.routes])
  | _ =>
    rintro rfl
    exact absurd h (by simp [Event.routes])

/-- The classifier answers. -/
theorem Event.classified_of_routes {settings : Settings} {risk : RiskAssessment} {content : String}
    {intents : List String} {r : Except Exc IntentClassification}
    (h : Event.routes settings risk ⟨.world (.classify content intents), r⟩ = true) : ∃ candidate, r = .ok candidate := by
  rcases r with e | candidate
  · exact absurd h (by simp [Event.routes])
  · exact ⟨candidate, rfl⟩

/-- The run waits for its user, on record in its row and in its latest checkpoint, which keeps no
route or a whole one. -/
structure Paused (job : Dispatch) (context : RunContext) (db : DB) : Prop where
  stands : ∃ version, Stands job.runId job.tenantId .waitingUser version (some context) db
  owns : job.Owns context
  waiting : context.status = .waitingUser
  readable : context.Bounded ∧ context.stepCount ≤ 6
  route : context.workflowId = none ∨ ∃ d, context.RoutedBy d

section Sequence

variable {α β : Type} {P : Event → Prop} {G : {β : Type} → Op β → Prop} {runId : Uuid} {tenantId : String}
  {status : RunStatus} {version : ℕ} {latest : Option RunContext} {db : DB}
  {Q : Except Exc β → DB → Prop}

/-- The calls of a program, whatever the answers. -/
theorem safe_calls {p : Act α} (hG : Uses G p) :
    Safe (serving.restrict P) (fun _ {_} o => G o) (fun _ _ => True) p db :=
  (Yields.keeps (J := fun _ => True) hG (fun _ _ _ _ _ _ _ _ => trivial) trivial).mono
    (fun _ _ _ hg => hg.2) fun _ _ _ => trivial

/-- What comes after a program that leaves the run where it stands and raises nothing. -/
theorem Stands.seq {R : α → Prop} {p : Act α} {f : α → Act β}
    (h : Stands runId tenantId status version latest db) (hkeeps : Yields Op.KeepsRow R p) (hG : Uses G p)
    (hraises : Raises (fun _ _ => True) (fun _ => False) p)
    (hf : ∀ a db', R a → Stands runId tenantId status version latest db' →
      Safe (serving.restrict P) (fun _ {_} o => G o) Q (f a) db') :
    Safe (serving.restrict P) (fun _ {_} o => G o) Q (p >>= f) db := by
  rw [safe_bind]
  have hsilent := @Raises.safe _ _ _ _ (serving.restrict P) db _ _ p hraises
    fun _ _ _ _ _ _ _ _ => trivial
  have hstands := @Yields.keeps _ _ _ _ (serving.restrict P) db _ _
    (fun db => Stands runId tenantId status version latest db) p hkeeps
    (fun _ _ _ _ _ hs ho hm => hs.effect (serving_effect hm.1) ho) h
  refine ((hstands.and hsilent).and (safe_calls hG)).mono (fun _ _ _ hg => hg.2) ?_
  rintro (e | a) db' ⟨⟨⟨hs, hr⟩, he⟩, _⟩
  · exact absurd rfl (he e)
  · exact hf a db' hr hs

theorem Stands.load_seq {f : Option RunContext → Act β} (h : Stands runId tenantId status version latest db)
    (hG : G (Op.runs (.loadLatestCheckpoint runId tenantId)))
    (hf : Safe (serving.restrict P) (fun _ {_} o => G o) Q (f latest) db) :
    Safe (serving.restrict P) (fun _ {_} o => G o) Q
      (Prog.perform (.runs (.loadLatestCheckpoint runId tenantId)) >>= f) db := by
  rw [safe_bind]
  have hcalls : Uses G (Prog.perform (.runs (.loadLatestCheckpoint runId tenantId)) :
      Act (Option RunContext)) := .perform hG
  refine ((h.safe_load.restrict P).and (safe_calls hcalls)).mono (fun _ _ _ hg => hg.2) ?_
  rintro r db' ⟨⟨rfl, rfl⟩, _⟩
  exact hf

end Sequence


section Moves

variable {α : Type} {o : Op α} {runId : Uuid} {mode : Option ExecutionMode} {allowed : List RunStatus}

theorem Op.Moves.not_stale {r : Except Exc α} {run : Uuid} (h : o.Moves runId mode allowed) :
    ¬ Event.Stale run ⟨o, r⟩ := by
  intro hstale
  cases o with
  | runs t =>
    cases t with
    | selectRoute _ _ _ => exact h
    | _ => exact hstale
  | _ => exact hstale

theorem Op.Moves.commit {p : CommitStep} (h : o.Moves runId mode allowed) (hp : p ∈ o.commit?) :
    p.runId = runId ∧ p.checkpoint.runId = runId ∧ p.checkpoint.executionMode = mode ∧
      p.checkpoint.status = p.nextStatus ∧ p.nextStatus ∈ allowed := by
  cases o with
  | runs t =>
    cases t with
    | commitStep p' =>
      obtain rfl := Option.some.inj hp
      exact h
    | _ => exact absurd hp (by simp [Op.commit?, RunTx.commit?])
  | _ => exact absurd hp (by simp [Op.commit?])

end Moves

section Resumed

variable {π : Platform} {settings : Settings} {job : Dispatch} {context : RunContext} {db : DB}
  {d : RouteDecision} {safety : SafetyRoute} {risk : RiskAssessment} {P : Event → Prop}

/-- The worker takes the waiting run up again. -/
theorem Paused.takenUp (h : Paused job context db) : job.context (some context) = .ok context.resumed := by
  have hvalid : context.modelValidate = .ok context := RunContext.modelValidate_eq_ok.mpr ⟨rfl, h.readable⟩
  simp only [Dispatch.context, hvalid, bind, Except.bind, h.waiting, if_true, RunContext.resumed]

theorem moves_resumeRoute {m : ExecutionMode} (hrun : context.runId = job.runId)
    (hmode : d.executionMode = some m) :
    Uses (Op.Moves job.runId (some m) (worked m)) (resumeRoute π settings job context d) :=
  .bind moves_safetyBoundary fun _ => .bind (uses_recordRelease_of job trivial) fun _ =>
    moves_executeRoute hrun hmode

theorem blameless_resumeRoute (hroute : SafetyRouter.route π settings.enableSafetyRouterV2 none job.content =
    .ok safety) : Blameless (resumeRoute π settings job context d) := by
  have haudit : Blameless ((Prog.perform (.world (.auditAppend
      job.tenantId "safety-router" "safety_p0_detected")) : Act Unit).handle fun _ => pure ()) :=
    .handle (.any _) fun _ _ => .pure _
  have hboundary : Blameless (safetyBoundary π settings job context) := by
    unfold safetyBoundary
    rw [hroute]
    refine .ite (fun _ => .bind (blameless_observe _ _ _) fun _ => .bind (.pure _) fun safety => ?_)
      (fun _ => .bind (.pure _) fun safety => ?_)
    · exact .bind (blameless_observe _ _ _) fun _ => .ite (fun _ => .bind haudit fun _ => .pure _)
        fun _ => .pure _
    · exact .bind (blameless_observe _ _ _) fun _ => .ite (fun _ => .bind haudit fun _ => .pure _)
        fun _ => .pure _
  exact .bind hboundary fun _ => .bind (blameless_recordRelease _) fun _ => blameless_executeRoute

attribute [local irreducible] runMessage resumeRoute markFailed classifierUnavailable

/-- A run that keeps its route goes on with it: it selects none, and each of its checkpoints is one of
the route's mode. -/
theorem Paused.safe_routed (h : Paused job context db) (hd : context.RoutedBy d) {m : ExecutionMode}
    (hm : d.executionMode = some m)
    (hroute : SafetyRouter.route π settings.enableSafetyRouterV2 none job.content = .ok safety)
    (hsafe : safety.effectiveDisposition ≠ .handoff) (hP : ∀ c, P c → Event.routes settings risk c = true) :
    Safe (serving.restrict P) (fun _ {_} o => o.Moves job.runId (some m) (worked m)) (fun _ _ => True)
      (executeMessageRun π settings job) db := by
  obtain ⟨version, hstands⟩ := h.stands
  have hraises : ∀ (db : DB) {β : Type} (o : Op β) r db', (serving.restrict P) db o r db' →
      ∀ e, r = .error e → o.MayRaise e := fun _ _ _ _ _ hm =>
    Event.raises_of_routes (hP _ hm.2)
  have hfail : ∀ context db', Safe (serving.restrict P)
      (fun _ {_} o => o.Moves job.runId (some m) (worked m)) (fun _ _ => True)
      (markFailed π job.observe context "UNEXPECTED_EXECUTION_ERROR") db' :=
    fun _ _ => safe_calls moves_markFailed
  have hrecover : ∀ db', Safe (serving.restrict P)
      (fun _ {_} o => o.Moves job.runId (some m) (worked m)) (fun _ _ => True) (do
        let persisted ← Prog.perform (.runs (.loadLatestCheckpoint job.runId job.tenantId))
        (markFailed π (fun _ _ _ => pure ()) (job.recovery persisted)
          "UNEXPECTED_EXECUTION_ERROR").handle fun _ => pure ()) db' := by
    intro db'
    refine safe_calls (.bind (.perform trivial) fun persisted => .handle ?_ fun _ => .pure _)
    exact uses_markFailed_of trivial (fun _ ho => ho.moves) fun _ _ _ => .pure _
  unfold executeMessageRun
  rw [safe_handle]
  refine Safe.post (Q := fun _ _ => True) ?_ ?_
  · unfold executeMessage
    refine hstands.seq (Uses.handle (.perform trivial) fun _ => .pure _)
      (.handle (.perform trivial) fun _ => .pure _) (.handle (.any _) fun _ _ => .pure _)
      fun _ db₁ _ h₁ => h₁.load_seq trivial ?_
    rw [h.takenUp, Prog.ofExcept, Prog.ret_bind, safe_handle, runMessage_routed hroute hsafe hd]
    have hmoves := @moves_resumeRoute π settings job context.resumed d.continued m h.owns.run hm
    have hblame := @Raises.safe _ _ _ _ (serving.restrict P) db₁ _ _ _
      (@blameless_resumeRoute π settings job context.resumed d.continued _ hroute) hraises
    refine (hblame.and (safe_calls hmoves)).mono (fun _ _ _ hg => hg.2) ?_
    rintro (e | u) db₂ ⟨he, _⟩
    · cases e with
      | modelGateway => exact absurd rfl (he _ rfl)
      | _ => exact hfail _ _
    · trivial
  · rintro (e | u) db' _
    · exact hrecover db'
    · trivial


theorem keeps_observe (eventType : EventType) (step : String) (payload : Dict) :
    Uses Op.KeepsRow (job.observe eventType step payload) :=
  uses_observe_of job (fun _ _ _ => trivial) _ _ _

theorem silent_observe (eventType : EventType) (step : String) (payload : Dict) :
    Raises (fun _ _ => True) (fun _ => False) (job.observe eventType step payload) :=
  .handle (.any _) fun _ _ => .pure _

/-- The selection of a route for a run that waits for its user finds no row. -/
theorem Stands.safe_selectRoute {version : ℕ} {latest : Option RunContext} {decision : RouteDecision}
    (h : Stands job.runId job.tenantId .waitingUser version latest db) (hrun : context.runId = job.runId)
    (htenant : context.tenantId = job.tenantId) (hstatus : context.status = .routing) :
    Safe (serving.restrict P) (fun _ {_} _ => True)
      (fun r db' => (∃ m, r = .error (.valueError m)) ∧ (∃ c, P c ∧ c.Stale job.runId) ∧
        Stands job.runId job.tenantId .waitingUser version latest db')
      (selectRoute context decision) db := by
  obtain ⟨row, hrow, ht, hs, hv, hseq⟩ := h.row
  have hopen : context.status ∈ [RunStatus.created, RunStatus.routing] := by simp [hstatus]
  unfold selectRoute
  rw [if_neg (not_not.mpr hopen), hrun, htenant, safe_bind, safe_perform]
  refine ⟨trivial, ?_⟩
  intro r db' hm
  rcases serving_tx hm.1 rfl with ⟨env, n, rfl, hx⟩ | ⟨env, e, rfl, hx, _, hdown, hrefused⟩
  · obtain rfl : n = 0 := by
      by_contra hn
      obtain ⟨run, hfound, _, _, hselectable, _⟩ := @selectRouteTx_found _ _ _ env _ _ _ hx (Nat.pos_of_ne_zero hn)
      obtain rfl := Option.some.inj (hrow.symm.trans hfound)
      rw [hs] at hselectable
      exact absurd hselectable (by decide)
    have hsame : db'.run job.runId = some row := by
      rw [RunTx.run_after hx hrow, RunTx.rowAfter, if_neg]
      rintro ⟨_, _, hselectable, _⟩
      rw [hs] at hselectable
      exact absurd hselectable (by decide)
    obtain ⟨runs, events, rfl⟩ := RunTx.frame hx rfl
    refine ⟨⟨_, rfl⟩, ⟨_, hm.2, rfl, 0, rfl, by decide⟩, ⟨row, hsame, ht, hs, hv, hseq⟩, h.latest⟩
  · have herror : e.Refusal := by
      rcases Except.bind_eq_error hx with hx | ⟨_, _, hx⟩
      · exact DB.updateRuns_error hx
      · exact absurd hx (by simp)
    rcases herror with rfl | rfl
    · exact absurd rfl hdown
    · exact absurd rfl hrefused


theorem keeps_decideRoute {candidate : IntentClassification} :
    Uses Op.KeepsRow (decideRoute settings job candidate) := by
  unfold decideRoute
  refine .bind (keeps_observe _ _ _) fun _ => ?_
  exact .bind (uses_recordRelease_of job trivial) fun canary => .pure _

theorem silent_decideRoute {candidate : IntentClassification} :
    Raises (fun _ _ => True) (fun _ => False) (decideRoute settings job candidate) := by
  unfold decideRoute
  refine .bind (silent_observe _ _ _) fun _ => .bind ?_ fun canary => .pure _
  exact .handle (.any _) fun _ _ => .pure _

attribute [local irreducible] decideRoute selectRoute

/-- The classification of a message for a run that waits: its route comes too late. -/
theorem Stands.safe_classifyRequest {version : ℕ} {latest : Option RunContext}
    (h : Stands job.runId job.tenantId .waitingUser version latest db) (howns : job.Owns context)
    (hlength : 1 ≤ job.content.length ∧ job.content.length ≤ 8000)
    (hP : ∀ c, P c → Event.routes settings risk c = true) :
    Safe (serving.restrict P) (fun _ {_} _ => True)
      (fun r db' => (∃ m, r = .error (.valueError m)) ∧ (∃ c, P c ∧ c.Stale job.runId) ∧
        Stands job.runId job.tenantId .waitingUser version latest db')
      (classifyRequest settings job context risk) db := by
  unfold classifyRequest
  refine h.seq (keeps_observe _ _ _) (.all _) (silent_observe _ _ _) fun _ db₁ _ h₁ => ?_
  rw [if_neg (by omega), safe_bind, safe_perform]
  refine ⟨trivial, ?_⟩
  intro r db₂ hm
  obtain ⟨candidate, rfl⟩ := Event.classified_of_routes (hP _ hm.2)
  have h₂ := h₁.effect (serving_effect hm.1) trivial
  rw [thenSafe_ok]
  refine h₂.seq (keeps_observe _ _ _) (.all _) (silent_observe _ _ _) fun _ db₃ _ h₃ => ?_
  refine h₃.seq keeps_decideRoute (.all _) silent_decideRoute fun routed db₄ _ h₄ => ?_
  rw [safe_bind]
  have hselect := @Stands.safe_selectRoute job { context with status := .routing } db₄ P version latest
    routed h₄ howns.run howns.tenant rfl
  refine hselect.post ?_
  rintro r db₅ ⟨⟨m, rfl⟩, hstale, hs⟩
  exact ⟨⟨m, rfl⟩, hstale, hs⟩

theorem keeps_safetyBoundary (hroute : SafetyRouter.route π settings.enableSafetyRouterV2 none job.content =
    .ok safety) :
    Yields Op.KeepsRow (fun outcome => outcome = (safety, effectiveRisk π safety job.content))
      (safetyBoundary π settings job context) := by
  have haudit : Uses Op.KeepsRow ((Prog.perform (.world (.auditAppend job.tenantId "safety-router"
      "safety_p0_detected")) : Act Unit).handle fun _ => pure ()) :=
    .handle (.perform trivial) fun _ => .pure _
  unfold safetyBoundary
  rw [hroute]
  have hrest : ∀ payload, Yields Op.KeepsRow
      (fun outcome => outcome = (safety, effectiveRisk π safety job.content)) (do
        job.observe .safetyRouted "safety_router" payload
        if safety.assessment.hardBlock then
          (Prog.perform (.world (.auditAppend job.tenantId "safety-router"
            "safety_p0_detected"))).handle fun _ => pure ()
        pure (safety, effectiveRisk π safety job.content)) := by
    intro payload
    refine Yields.bind (keeps_observe _ _ _) fun _ _ => .ite (fun _ => ?_) fun _ => .pure rfl
    exact Yields.bind haudit fun _ _ => .pure rfl
  refine .ite (fun _ => Yields.bind (keeps_observe _ _ _) fun _ _ => ?_) fun _ => ?_
  · exact hrest _
  · exact hrest _

theorem silent_safetyBoundary (hroute : SafetyRouter.route π settings.enableSafetyRouterV2 none job.content =
    .ok safety) :
    Raises (fun _ _ => True) (fun _ => False) (safetyBoundary π settings job context) := by
  have haudit : Raises (fun _ _ => True) (fun _ => False) ((Prog.perform (.world (.auditAppend
      job.tenantId "safety-router" "safety_p0_detected")) : Act Unit).handle fun _ => pure ()) :=
    .handle (.any _) fun _ _ => .pure _
  unfold safetyBoundary
  rw [hroute]
  refine .ite (fun _ => .bind (silent_observe _ _ _) fun _ => .bind (.pure _) fun safety => ?_)
    (fun _ => .bind (.pure _) fun safety => ?_)
  · exact .bind (silent_observe _ _ _) fun _ => .ite (fun _ => .bind haudit fun _ => .pure _)
      fun _ => .pure _
  · exact .bind (silent_observe _ _ _) fun _ => .ite (fun _ => .bind haudit fun _ => .pure _)
      fun _ => .pure _


attribute [local irreducible] safetyBoundary classifyRequest runRoute

/-- A run that keeps no route is failed by the selection of one. -/
theorem Paused.safe_unrouted (h : Paused job context db) (hnone : context.workflowId = none)
    (hroute : SafetyRouter.route π settings.enableSafetyRouterV2 none job.content = .ok safety)
    (hsafe : safety.effectiveDisposition ≠ .handoff)
    (hlength : 1 ≤ job.content.length ∧ job.content.length ≤ 8000)
    (hP : ∀ c, P c → Event.routes settings (effectiveRisk π safety job.content) c = true) :
    Safe (serving.restrict P) (fun _ {_} _ => True)
      (fun _ db' => (∃ c, P c ∧ c.Stale job.runId) ∧ EndedAs job.runId .failed db')
      (executeMessageRun π settings job) db := by
  obtain ⟨version, hstands⟩ := h.stands
  have howns : job.Owns context.resumed := ⟨h.owns.run, h.owns.tenant, h.owns.conversation, h.owns.actor⟩
  have hunpinned : ¬ context.resumed.Pinned := by
    rintro ⟨_, w, hw, _⟩
    rw [show context.resumed.workflowId = context.workflowId from rfl, hnone] at hw
    exact absurd hw (by simp)
  have hbody : ∀ db', Stands job.runId job.tenantId .waitingUser version (some context) db' →
      Safe (serving.restrict P) (fun _ {_} _ => True)
        (fun r db' => (∃ m, r = .error (.valueError m)) ∧ (∃ c, P c ∧ c.Stale job.runId) ∧
          Stands job.runId job.tenantId .waitingUser version (some context) db')
        (runMessage π settings job context.resumed) db' := by
    intro db' h'
    unfold runMessage
    refine h'.seq (keeps_safetyBoundary hroute) (.all _) (silent_safetyBoundary hroute) ?_
    rintro _ db₁ rfl h₁
    dsimp only
    rw [routeRequest, if_neg hsafe, if_neg hunpinned, safe_bind]
    refine (h₁.safe_classifyRequest howns hlength hP).post ?_
    rintro r db₂ ⟨⟨m, rfl⟩, hstale, hs⟩
    exact ⟨⟨m, rfl⟩, hstale, hs⟩
  have hexecute : Safe (serving.restrict P) (fun _ {_} _ => True)
      (fun _ db' => (∃ c, P c ∧ c.Stale job.runId) ∧ EndedAs job.runId .failed db')
      (executeMessage π settings job) db := by
    unfold executeMessage
    refine hstands.seq (Uses.handle (.perform trivial) fun _ => .pure _) (.all _)
      (.handle (.any _) fun _ _ => .pure _) fun _ db₁ _ h₁ => h₁.load_seq trivial ?_
    rw [h.takenUp, Prog.ofExcept, Prog.ret_bind, safe_handle]
    refine (hbody db₁ h₁).post ?_
    rintro r db₂ ⟨⟨m, rfl⟩, hstale, hs⟩
    have hfailed := (@Stands.safe_markFailed _ _ _ _ _ _ π job.observe context.resumed
      "UNEXPECTED_EXECUTION_ERROR" hs howns.run howns.tenant uses_observe_uncommitting).restrict P
    exact hfailed.post fun _ _ hended => ⟨hstale, hended⟩
  unfold executeMessageRun
  rw [safe_handle]
  refine hexecute.post ?_
  rintro (e | u) db₁ ⟨hstale, hended⟩
  · have hload : Op.Uncommitting (Op.runs (.loadLatestCheckpoint job.runId job.tenantId)) := rfl
    have hrecover := hended.keeps (p := do
        let persisted ← Prog.perform (.runs (.loadLatestCheckpoint job.runId job.tenantId))
        (markFailed π (fun _ _ _ => pure ()) (job.recovery persisted)
          "UNEXPECTED_EXECUTION_ERROR").handle fun _ => pure ()) (by decide)
      (.bind (.perform hload) fun persisted => .handle
        (uses_markFailed_of rfl (fun _ ho => ho.uncommitting) fun _ _ _ => .pure _) fun _ => .pure _)
    exact (hrecover.restrict P).post fun _ _ hs => ⟨hstale, hs⟩
  · exact ⟨hstale, hended⟩

/-- The run is failed by a selection that came too late. -/
def StaleFailure (runId : Uuid) (t : List (Happened Op Exc DB)) (db : DB) : Prop :=
  (∃ e ∈ t, Event.Stale runId e.toCall) ∧ EndedAs runId .failed db

/-- The worker goes on with the route that the run keeps. -/
def Continues (π : Platform) (settings : Settings) (job : Dispatch) (context : RunContext) : Prop :=
  ∃ d : RouteDecision, d.outcome = .execute ∧ d.executionMode = context.executionMode ∧
    d.workflowId = context.workflowId ∧ d.workflowVersion = context.workflowVersion ∧
    runMessage π settings job context.resumed = resumeRoute π settings job context.resumed d

/-- Every checkpoint of the run is one of the mode that the run keeps. -/
def KeepsMode (job : Dispatch) (context : RunContext) (t : List (Happened Op Exc DB)) : Prop :=
  ∀ e ∈ t, ∀ p ∈ e.op.commit?, p.runId = job.runId ∧ p.checkpoint.executionMode = context.executionMode

/-- For every paused run, every further message that the safety boundary lets pass and every execution in
which the router classifies it to a route: the run goes on, if and only if it keeps a route. -/
theorem continued_iff_routed (h : Paused job context db)
    (hroute : SafetyRouter.route π settings.enableSafetyRouterV2 none job.content = .ok safety)
    (hsafe : safety.effectiveDisposition ≠ .handoff)
    (hlength : 1 ≤ job.content.length ∧ job.content.length ≤ 8000)
    {t : List (Happened Op Exc DB)} {q : Act Unit} {db' : DB}
    (he : Exec serving (executeMessageRun π settings job) db t q db') (hdone : q.outcome?.isSome)
    (hroutes : ∀ e ∈ t, Event.routes settings (effectiveRisk π safety job.content) e.toCall = true) :
    (¬ StaleFailure job.runId t db' ∧ Continues π settings job context ∧ KeepsMode job context t) ↔
      ∃ d, context.RoutedBy d := by
  have hown : Exec (serving.restrict fun c => ∃ e ∈ t, e.toCall = c) (executeMessageRun π settings job) db
      t q db' := he.restrict fun e he => ⟨e, he, rfl⟩
  have hP : ∀ c, (∃ e ∈ t, e.toCall = c) →
      Event.routes settings (effectiveRisk π safety job.content) c = true := by
    rintro c ⟨e, he, rfl⟩
    exact hroutes e he
  constructor
  · rintro ⟨hfresh, _⟩
    rcases h.route with hnone | hrouted
    · exfalso
      apply hfresh
      have hfinal := ((h.safe_unrouted hnone hroute hsafe hlength hP).exec hown).2
      have hend : (∃ c, (∃ e ∈ t, e.toCall = c) ∧ Event.Stale job.runId c) ∧ EndedAs job.runId .failed db' := by
        cases q with
        | ret a => exact hfinal
        | raise e => exact hfinal
        | call o k => exact absurd hdone (by simp [Prog.outcome?])
      obtain ⟨⟨_, ⟨e, he, rfl⟩, hstale⟩, hended⟩ := hend
      exact ⟨⟨e, he, hstale⟩, hended⟩
    · exact hrouted
  · rintro ⟨d, hd⟩
    obtain ⟨m, _, _, _, hm, _⟩ := hd.complete
    have hmoves := ((h.safe_routed hd hm hroute hsafe hP).exec hown).1
    refine ⟨?_, ⟨d.continued, rfl, hd.mode.symm, hd.workflow.symm, hd.version.symm,
      runMessage_routed hroute hsafe hd⟩, ?_⟩
    · rintro ⟨⟨e, he, hstale⟩, _⟩
      exact (hmoves e he).not_stale hstale
    · intro e he p hp
      obtain ⟨hrun, _, hmode, _⟩ := (hmoves e he).commit hp
      exact ⟨hrun, hmode.trans (hd.mode.trans hm).symm⟩

end Resumed


section Pauses

variable {α : Type} {Φ : RunContext → Prop} {π : Platform} {context : RunContext} {d : RouteDecision}

/-- Every checkpoint that the operation writes satisfies `Φ`. -/
def Op.Saves (Φ : RunContext → Prop) (o : Op α) : Prop := ∀ p ∈ o.commit?, Φ p.checkpoint

theorem Op.Uncommitting.saves {o : Op α} (h : o.Uncommitting) : o.Saves Φ := by
  intro p hp
  rw [show o.commit? = none from h] at hp
  exact absurd hp (by simp)

theorem saves_checkpoint {status : RunStatus} {nextStep : String} {state : Dict} {events : List DomainEvent}
    (h : Φ (context.next status state)) :
    Uses (Op.Saves Φ) (checkpoint context status nextStep state events) := by
  unfold checkpoint
  refine uses_commitCheckpoint_of (fun _ p hp => ?_) (Op.Uncommitting.saves rfl)
  obtain rfl := Option.some.inj hp
  exact h

attribute [local irreducible] publishTerminalResponse checkpoint

/-- A run that is asked what it is about keeps no route. -/
theorem clarifyRun_keeps_unrouted (h : context.workflowId = none) {routed : RouteDecision} :
    Uses (Op.Saves fun c => c.workflowId = none) (clarifyRun π context routed) := by
  have hcheckpoint : ∀ state events, Uses (Op.Saves fun c => c.workflowId = none)
      (checkpoint context .waitingUser "clarify" state events) := fun _ _ => saves_checkpoint h
  have hpublish : ∀ p, Uses (Op.Saves fun c => c.workflowId = none) (publishTerminalResponse π p) :=
    fun p => (uses_publishTerminalResponse p).mono fun _ ho => ho.uncommitting.saves
  unfold clarifyRun
  exact .bind (hcheckpoint _ _) fun _ => .bind (hpublish _) fun _ => .pure _

theorem observe_intent (execution : ToolExecution) (state : Dict) :
    (execution.observe state).get? "intent" = state.get? "intent" := by
  unfold ToolExecution.observe
  dsimp only
  split
  · exact Dict.get?_set_of_ne _ _ (by decide)
  · rw [Dict.get?_set_of_ne _ _ (by decide)]
    split
    · rw [Dict.get?_set_of_ne _ _ (by decide), Dict.get?_set_of_ne _ _ (by decide),
        Dict.get?_set_of_ne _ _ (by decide)]
    · rw [Dict.get?_set_of_ne _ _ (by decide), Dict.get?_set_of_ne _ _ (by decide)]
  · exact Dict.get?_set_of_ne _ _ (by decide)

theorem reduceState_intent (context : RunContext) (result : LoopResult) :
    (reduceState context result).get? "intent" = context.state.get? "intent" := by
  have hstatus : ((context.state.set "last_step_status" (.str result.status.value)).pop
      "last_step_reason").get? "intent" = context.state.get? "intent" := by
    rw [Dict.get?_pop _ (by decide), Dict.get?_set_of_ne _ _ (by decide)]
  unfold reduceState
  cases result.reason with
  | none =>
    cases result.execution with
    | none => exact hstatus
    | some execution => exact (observe_intent execution _).trans hstatus
  | some reason =>
    have hreason := (Dict.get?_set_of_ne (((context.state.set "last_step_status"
      (.str result.status.value)).pop "last_step_reason")) (.str reason)
      (show "last_step_reason" ≠ "intent" by decide)).trans hstatus
    cases result.execution with
    | none => exact hreason
    | some execution => exact (observe_intent execution _).trans hreason

theorem RunContext.RoutedBy.kept (h : context.RoutedBy d) {status : RunStatus} {state : Dict}
    (hstate : state.get? "intent" = context.state.get? "intent") {stepCount version : ℕ} :
    (context.copy status state stepCount version).RoutedBy d :=
  ⟨h.valid, h.executes, h.mode, h.workflow, h.version, hstate.trans h.intent⟩

theorem saves_advance (h : context.RoutedBy d) {tokenBudget deadlineAt : ℕ} :
    Yields (Op.Saves fun c => c.RoutedBy d) (fun r => r.1.RoutedBy d)
      (advance context tokenBudget deadlineAt) := by
  have hstep : Uses (Op.Saves fun c => c.RoutedBy d) (executeStep context tokenBudget deadlineAt) := by
    unfold executeStep
    refine .ite (.pure _) (.ite (.pure _) (.bind (.perform (Op.Uncommitting.saves rfl)) fun now => ?_))
    exact .ite (.pure _) (.perform (Op.Uncommitting.saves rfl))
  unfold advance
  refine .ite (fun _ => .raise _) fun _ => Yields.bind hstep fun result _ => ?_
  have hlegal : Uses (Op.Saves fun c => c.RoutedBy d)
      (Prog.ofExcept (requireTransition context.status (targetStatus context.status result)) : Act Unit) := by
    cases requireTransition context.status (targetStatus context.status result) with
    | error e => exact .raise _
    | ok u => exact .pure _
  refine Yields.bind hlegal fun _ _ => Yields.bind (saves_checkpoint ?_) fun version _ => .pure ?_
  · exact h.kept (reduceState_intent context result)
  · exact h.kept (reduceState_intent context result)

theorem saves_loopHandoff (h : context.RoutedBy d) {reason : String} :
    Yields (Op.Saves fun c => c.RoutedBy d) (fun r => r.1.RoutedBy d) (loopHandoff context reason) := by
  have hstate : (context.state.set "last_step_reason" (.str reason)).get? "intent" =
      context.state.get? "intent" := Dict.get?_set_of_ne _ _ (by decide)
  have hlegal : Uses (Op.Saves fun c => c.RoutedBy d)
      (Prog.ofExcept (requireTransition context.status .waitingHuman) : Act Unit) := by
    cases requireTransition context.status .waitingHuman with
    | error e => exact .raise _
    | ok u => exact .pure _
  unfold loopHandoff
  refine Yields.bind hlegal fun _ _ => Yields.bind (saves_checkpoint ?_) fun version _ => .pure ?_
  · exact h.kept hstate
  · exact h.kept hstate

attribute [local irreducible] advance loopHandoff

/-- A run that the readonly loop pauses keeps its route, by induction on the steps that are left. -/
theorem saves_agentLoop (deadlineAt n : ℕ) : ∀ (context : RunContext) (tokenBudget : ℕ)
    (previous response : Option String), context.RoutedBy d →
    Yields (Op.Saves fun c => c.RoutedBy d) (fun r => r.1.RoutedBy d)
      (agentLoop deadlineAt n context tokenBudget previous response) := by
  induction n with
  | zero => exact fun context _ _ _ h => .pure h
  | succ n ih =>
    intro context tokenBudget previous response h
    have husage : ∀ result, Uses (Op.Saves fun c => c.RoutedBy d) (tokenUsage result) := by
      intro result
      unfold tokenUsage
      cases result.usageTokens with
      | some usage => exact .pure _
      | none => exact .perform (Op.Uncommitting.saves rfl)
    unfold agentLoop
    refine .ite (fun _ => .pure h) fun hrunning => ?_
    refine Yields.bind (saves_advance h) fun stepped hstepped => ?_
    obtain ⟨current, result⟩ := stepped
    refine Yields.bind (husage result) fun usage _ => .ite (fun _ => .pure hstepped) fun _ => ?_
    refine .ite (fun _ => ?_) fun _ => ih _ _ _ _ hstepped
    exact Yields.bind (saves_loopHandoff hstepped) fun stopped hstopped => .pure hstopped

end Pauses

section Demo

/-- A world in which the agent asks the user back. -/
def askChoice (uuid : Uuid) : Choice :=
  ⟨⟨100, uuid, fun _ => 0⟩, false, fun
    | .agentStep _ => .ok { status := .waitUser, response := some "请提供订单号" }
    | w => (queryChoice uuid 1).world w⟩

/-- The run after a message to whose query the agent asked back. -/
def askedDB : DB :=
  (drive respond (List.replicate 40 (askChoice "message-1"))
    (executeMessageRun demoPlatform {} (demoJob "查订单")) createdDB).2.2

/-- The context that the latest checkpoint of a run keeps. -/
def demoPause (db : DB) : RunContext :=
  ((db.latestCheckpoint "run").map RunCheckpoint.stateJson).getD (demoJob "").entering

/-- The route that the run was asked back on. -/
def demoAsked : RouteDecision where
  outcome := .execute
  executionMode := some .readonlyLoop
  workflowId := some "order_query"
  workflowVersion := (demoPause askedDB).workflowVersion
  intent := some "track_order"
  reasonCode := "CLASSIFIED"

/-- The next message. -/
def demoContinued (db : DB) : List (Happened Op Exc DB) × Act Unit × DB :=
  demoExecuted "message-2" 1 "查订单" db

def demoSafety : SafetyRoute :=
  ⟨detect demoPlatform "查订单", .shadow, true⟩

/-- Whether the run waits, on record in its row and in its latest checkpoint. -/
def demoWaits (db : DB) : Prop :=
  (db.run "run").map (fun row => (row.tenantId, row.status, row.lastCheckpointSeq)) =
      some (DEMO_TENANT_ID, .waitingUser, 1) ∧
    (db.checkpoints.rows.all fun c => decide (c.checkpointSeq ≤ 1)) = true ∧
    (db.latestCheckpoint "run").isSome = true ∧
    ((demoPause db).runId, (demoPause db).tenantId, (demoPause db).conversationId,
      (demoPause db).actorId, (demoPause db).status) =
        ("run", DEMO_TENANT_ID, "conv", "demo-user-001", .waitingUser) ∧
    (demoPause db).Bounded ∧ (demoPause db).stepCount ≤ 6

theorem demoWaits_paused {db : DB} (content : String) (h : demoWaits db)
    (hroute : (demoPause db).workflowId = none ∨ ∃ d, (demoPause db).RoutedBy d) :
    Paused (demoJob content) (demoPause db) db := by
  obtain ⟨hrow, hseq, hsome, hfields, hreadable⟩ := h
  obtain ⟨row, hrow, hfacts⟩ := Option.map_eq_some_iff.mp hrow
  simp only [Prod.mk.injEq] at hfacts hfields
  obtain ⟨ht, hs, hl⟩ := hfacts
  obtain ⟨hrun, htenant, hconv, hactor, hwaiting⟩ := hfields
  obtain ⟨latest, hlatest⟩ := Option.isSome_iff_exists.mp hsome
  refine ⟨⟨row.rowVersion, ⟨row, hrow, ht, hs, rfl, fun c hc _ => ?_⟩, ?_⟩, ⟨hrun, htenant, hconv, hactor⟩,
    hwaiting, hreadable, hroute⟩
  · rw [hl]
    exact of_decide_eq_true (List.all_eq_true.mp hseq c hc)
  · change (db.latestCheckpoint "run").map RunCheckpoint.stateJson = some (demoPause db)
    rw [demoPause, hlatest]
    rfl

/-- Whether the next message is executed to its end, with a router that classifies it. -/
def demoExecutes (db : DB) : Prop :=
  ((demoContinued db).1.all fun e => !Event.outage e.toCall && Event.routes {}
    (effectiveRisk demoPlatform demoSafety "查订单") e.toCall) = true ∧
    (demoContinued db).2.1.outcome?.isSome = true

theorem demoExecutes_exec {db : DB} (h : demoExecutes db) :
    Exec serving (executeMessageRun demoPlatform {} (demoJob "查订单")) db (demoContinued db).1
      (demoContinued db).2.1 (demoContinued db).2.2 := by
  refine (exec_of_drive (Eq.refl (demoContinued db))).restrict fun e he => ?_
  have hup := (Bool.and_eq_true_iff.mp (List.all_eq_true.mp h.1 e he)).1
  simpa using hup

theorem demo_route (h : (detect demoPlatform "查订单").hardBlock = false) :
    SafetyRouter.route demoPlatform ({} : Settings).enableSafetyRouterV2 none "查订单" = .ok demoSafety := by
  simp only [SafetyRouter.route, h, Bool.false_eq_true, if_false]
  rfl

instance demo_facts : Fact (demoWaits pausedDB ∧ demoWaits askedDB ∧ demoExecutes pausedDB ∧ demoExecutes askedDB ∧
    (demoPause pausedDB).workflowId = none ∧
    (demoPause askedDB).executionMode = some .readonlyLoop ∧
    (demoPause askedDB).workflowId = some "order_query" ∧
    ((demoPause askedDB).state.get? "intent").bind Value.asStr? = some "track_order" ∧ demoAsked.Valid ∧
    (detect demoPlatform "查订单").hardBlock = false ∧
    ((demoContinued pausedDB).2.2.run "run").map AgentRun.status = some .failed ∧
    ((demoContinued askedDB).2.2.run "run").map AgentRun.status = some .completed) := by
  unfold demoWaits demoExecutes
  exact ⟨by decide +kernel⟩

/-- The run that was asked back on its route goes on with it. -/
theorem continued_iff_routed_demo :
    ¬ StaleFailure "run" (demoContinued askedDB).1 (demoContinued askedDB).2.2 ∧
      Continues demoPlatform {} (demoJob "查订单") (demoPause askedDB) ∧
      KeepsMode (demoJob "查订单") (demoPause askedDB) (demoContinued askedDB).1 := by
  obtain ⟨_, hwaits, _, hexecutes, _, hmode, hworkflow, hintent, hvalid, hopen, _, _⟩ := demo_facts.out
  have hkept : (demoPause askedDB).state.get? "intent" = some (.str "track_order") := by
    obtain ⟨v, hv, hs⟩ := Option.bind_eq_some_iff.mp hintent
    cases v with
    | str s => rw [hv, ← Option.some.inj hs]
    | _ => exact absurd hs (by simp [Value.asStr?])
  have hrouted : (demoPause askedDB).RoutedBy demoAsked := ⟨hvalid, rfl, hmode, hworkflow, rfl, hkept⟩
  have hpaused := demoWaits_paused "查订单" hwaits (.inr ⟨_, hrouted⟩)
  refine (continued_iff_routed hpaused (demo_route hopen) (by decide) (by decide)
    (demoExecutes_exec hexecutes) hexecutes.2 fun e he => ?_).mpr ⟨_, hrouted⟩
  exact (Bool.and_eq_true_iff.mp (List.all_eq_true.mp hexecutes.1 e he)).2

/-- The run whose first message was not understood is failed by the next one, which is. -/
theorem clarified_run_fails : ¬ ∀ (π : Platform) (settings : Settings) (job : Dispatch) (context : RunContext)
    (db : DB) (safety : SafetyRoute), Paused job context db →
    SafetyRouter.route π settings.enableSafetyRouterV2 none job.content = .ok safety →
    safety.effectiveDisposition ≠ .handoff → 1 ≤ job.content.length ∧ job.content.length ≤ 8000 →
    ∀ (t : List (Happened Op Exc DB)) (q : Act Unit) (db' : DB),
      Exec serving (executeMessageRun π settings job) db t q db' → q.outcome?.isSome →
      (∀ e ∈ t, Event.routes settings (effectiveRisk π safety job.content) e.toCall = true) →
      ¬ EndedAs job.runId .failed db' := by
  intro hclaim
  obtain ⟨hwaits, _, hexecutes, _, hnone, _, _, _, _, hopen, hfailed, _⟩ := demo_facts.out
  have hpaused := demoWaits_paused "查订单" hwaits (.inl hnone)
  obtain ⟨row, hrow, hstatus⟩ := Option.map_eq_some_iff.mp hfailed
  refine hclaim demoPlatform {} (demoJob "查订单") _ _ demoSafety hpaused (demo_route hopen) (by decide)
    (by decide) _ _ _ (demoExecutes_exec hexecutes) hexecutes.2 (fun e he => ?_) ⟨row, hrow, hstatus⟩
  exact (Bool.and_eq_true_iff.mp (List.all_eq_true.mp hexecutes.1 e he)).2

end Demo

end CommerceAgent
