import CommerceAgent.ConfirmOutcome
import CommerceAgent.LowRisk
import CommerceAgent.ReadonlyLoop
import CommerceAgent.Standing

/-! The context that a workflow returns, beside the one that its last checkpoint saved. -/
namespace CommerceAgent

open Json Tables Programs

/-- The functions that return a context after their checkpoints. -/
inductive ContextWriter where
  | prepareMutation (mutationType : String) (arguments : Dict) (orders : List DemoOrder)
  | confirmMutation (options : ConfirmOptions) (tokenPlaintext idempotencyKey : String)
  | rejectMutation (tokenHash : String)
  | executeLowRisk (options : ConfirmOptions) (route : String) (arguments : Dict)
  | advance (tokenBudget deadlineAt : ℕ)
  | handoff (reason : String)

def ContextWriter.run (π : Platform) (context : RunContext) : ContextWriter → Act RunContext
  | .prepareMutation mutationType arguments orders => do
    let (prepared, _) ← CommerceAgent.prepareMutation π context mutationType arguments orders
    pure prepared
  | .confirmMutation options tokenPlaintext idempotencyKey =>
    CommerceAgent.confirmMutation π options context tokenPlaintext idempotencyKey
  | .rejectMutation tokenHash => CommerceAgent.rejectMutation context tokenHash
  | .executeLowRisk options route arguments =>
    CommerceAgent.executeLowRisk π options context route arguments
  | .advance tokenBudget deadlineAt => do
    let (advanced, _) ← CommerceAgent.advance context tokenBudget deadlineAt
    pure advanced
  | .handoff reason => do
    let (stopped, _) ← loopHandoff context reason
    pure stopped

/-- The business system answered a commit with such a status. -/
def Event.answers (good : MutationAdapterStatus → Bool) : Event → Bool
  | ⟨.world (.commit _ _ _ _ _ _), .ok result⟩ => good result.status
  | _ => false

/-- The answers after which a confirmed change is verified. -/
def confirmDone (status : MutationAdapterStatus) : Bool := status = .succeeded

/-- The answers after which a low-risk operation is finished. -/
def lowRiskKnown (status : MutationAdapterStatus) : Bool := status ≠ .unknown

/-- The business system gave such an answer, where the function asks for one. -/
def ContextWriter.Answered (t : List (Happened Op Exc DB)) : ContextWriter → Prop
  | .confirmMutation _ _ _ => saw (Event.answers confirmDone) t = true
  | .executeLowRisk _ _ _ => saw (Event.answers lowRiskKnown) t = true
  | _ => True

/-- The checkpoints that it then writes. -/
def ContextWriter.checkpoints : ContextWriter → ℕ
  | .confirmMutation _ _ _ => 3
  | _ => 1

/-- What `resume` makes of a database that answers. -/
def DB.resumes (db : DB) (runId : Uuid) (tenantId : String) : Except Exc (Option RunContext) :=
  match (db.run runId).filter fun run => run.tenantId = tenantId with
  | none => .ok none
  | some _ => match (db.latestCheckpoint runId).map RunCheckpoint.stateJson with
    | none => .ok none
    | some state => state.modelValidate.map some

/-- The two contexts agree in what a checkpoint changes. -/
structure RunContext.Matches (returned loaded : RunContext) : Prop where
  status : returned.status = loaded.status
  state : returned.state = loaded.state
  stepCount : returned.stepCount = loaded.stepCount
  checkpointVersion : returned.checkpointVersion = loaded.checkpointVersion

/-- The returned context is the one that `resume` loads. -/
def ReturnsSaved (db : DB) (returned : RunContext) : Prop :=
  ∃ loaded, db.resumes returned.runId returned.tenantId = .ok (some loaded) ∧
    returned.Matches loaded

section Standing

/-- The operations that move no run and ask for no commit. -/
def Op.Aside : {α : Type} → Op α → Prop
  | _, .world (.commit _ _ _ _ _ _) => False
  | _, .runs t => t.KeepsRow
  | _, _ => True

variable {good : MutationAdapterStatus → Bool} {runId : Uuid} {tenantId : String}
  {latest : Option RunContext} {wrote answered : Bool} {s : Recorded} {α : Type}

theorem Op.Aside.quiet {o : Op α} (ho : o.Aside) :
    o.KeepsRow ∧ ∀ r, Event.commits ⟨o, r⟩ = false ∧
      ∀ good, Event.answers good ⟨o, r⟩ = false := by
  cases o with
  | runs t =>
    refine ⟨ho, fun r => ⟨?_, fun _ => rfl⟩⟩
    cases t with
    | commitStep p => exact absurd ho id
    | _ => rfl
  | world w =>
    refine ⟨trivial, fun r => ⟨rfl, fun good => ?_⟩⟩
    cases w with
    | commit => exact absurd ho id
    | _ => rfl
  | _ => exact ⟨trivial, fun r => ⟨rfl, fun _ => rfl⟩⟩

/-- The latest checkpoint of a run, whether one was written, and what the business system said. -/
structure LatestIs (good : MutationAdapterStatus → Bool) (runId : Uuid) (tenantId : String)
    (latest : Option RunContext) (wrote answered : Bool) (s : Recorded) : Prop where
  stands : ∃ status version, Stands runId tenantId status version latest s.1
  wrote : saw Event.commits s.2 = wrote
  answered : saw (Event.answers good) s.2 = answered

theorem LatestIs.keeps {p : Act α} (h : LatestIs good runId tenantId latest wrote answered s)
    (hp : Uses Op.Aside p) :
    Safe store.recording Unguarded
      (Returns fun _ s' => LatestIs good runId tenantId latest wrote answered s') p s := by
  have hkept : Safe store.recording Unguarded
      (fun _ s' => LatestIs good runId tenantId latest wrote answered s') p s := by
    refine safe_retains hp ?_ (fun _ _ _ _ => trivial) h
    intro db db' t β o r hs ho heff
    obtain ⟨⟨status, version, hstands⟩, hwrote, hanswered⟩ := hs
    obtain ⟨hrow, hquiet⟩ := ho.quiet
    obtain ⟨hcommits, hanswers⟩ := hquiet r
    refine ⟨⟨status, version, hstands.effect heff hrow⟩, ?_, ?_⟩
    · rw [saw_snoc, hwrote, hcommits, Bool.or_false]
    · rw [saw_snoc, hanswered, hanswers good, Bool.or_false]
  exact hkept.returns

theorem LatestIs.asks {β : Type} {o : Op α} {f : α → Act β} {R : β → Recorded → Prop}
    (h : LatestIs good runId tenantId latest wrote answered s)
    (hf : ∀ a s', LatestIs good runId tenantId latest wrote answered s' →
      Safe store.recording Unguarded (Returns R) (f a) s') (ho : o.Aside) :
    Safe store.recording Unguarded (Returns R) (Prog.perform o >>= f) s :=
  (h.keeps (.perform ho)).seq hf

/-- A checkpoint that returns is the latest one, and returns the version that it saved. -/
theorem LatestIs.safe_commitCheckpoint {context : RunContext} {next : RunStatus} {nextStep : String}
    {state : Dict} {events : List DomainEvent} {completion : Option MutationCompletion}
    (h : LatestIs good context.runId tenantId latest wrote answered s) :
    Safe store.recording Unguarded
      (Returns fun version s' => version = context.checkpointVersion + 1 ∧
        context.tenantId = tenantId ∧
        LatestIs good context.runId tenantId (some (context.next next state)) true answered s')
      (commitCheckpoint context next nextStep state events completion) s := by
  obtain ⟨db, t⟩ := s
  obtain ⟨⟨status, version, hstands⟩, hwrote, hanswered⟩ := h
  obtain ⟨row, hrow, htenant, _, hv, _⟩ := hstands.row
  unfold commitCheckpoint commitStep
  refine (safe_ite _ _ _ _).mpr ⟨fun _ => trivial, fun _ => ?_⟩
  rw [safe_bind]
  refine (safe_ite _ _ _ _).mpr ⟨fun _ => trivial, fun _ => ?_⟩
  refine (safe_ite _ _ _ _).mpr ⟨fun _ => trivial, fun _ => ?_⟩
  rw [safe_bind]
  refine safe_tx rfl trivial (fun e => trivial) ?_
  intro env a db' hx
  obtain ⟨run, hc⟩ := commitStepTx_committed hx
  obtain rfl := Option.some.inj (hc.found.symm.trans hrow)
  have hafter := hstands.commit hc rfl
  have hsame : context.tenantId = tenantId := hc.tenant.symm.trans htenant
  have hversion : version = context.checkpointVersion := hv.symm.trans hc.version
  obtain ⟨row', hrow', htenant', _, hversion', _⟩ := hafter.row
  rw [thenSafe_ok, safe_bind]
  refine safe_tx rfl trivial (fun e => trivial) ?_
  intro env snapshot db'' hx
  obtain ⟨hsnapshot, hdb⟩ := Prod.mk.inj (Except.ok.inj hx)
  have hfound : snapshot = some row' := by
    rw [← hsnapshot]
    change (db'.run context.runId).filter _ = some row'
    rw [hrow', Option.filter_some, if_pos]
    simpa [checkpointStep] using htenant'.trans hsame.symm
  subst hfound hdb
  refine ⟨hversion'.trans (congrArg (· + 1) hversion), hsame, ⟨_, _, hafter⟩, ?_, ?_⟩
  · rw [saw_snoc, saw_snoc]
    simp [Event.commits]
  · rw [saw_snoc, saw_snoc, hanswered]
    simp [Event.answers]

end Standing

section Endings

/-- The fields that no checkpoint changes. -/
structure RunContext.Kin (a b : RunContext) : Prop where
  run : a.runId = b.runId
  tenant : a.tenantId = b.tenantId
  actor : a.actorId = b.actorId
  workflow : a.workflowId = b.workflowId
  version : a.workflowVersion = b.workflowVersion

/-- How the returned context and the saved one go with the one that the function got. -/
structure SavedAs (context returned saved : RunContext) (steps : ℕ) (planned : Prop) : Prop where
  returnedKin : returned.Kin context
  savedKin : saved.Kin context
  status : returned.status = saved.status
  state : returned.state = saved.state
  checkpointVersion : returned.checkpointVersion = saved.checkpointVersion
  steps : planned → returned.stepCount = saved.stepCount ∧ saved.stepCount = context.stepCount + steps
  drift : ¬ planned → returned.stepCount ≠ saved.stepCount

/-- What a function leaves that wrote a checkpoint before it returned. -/
def Ends (good : MutationAdapterStatus → Bool) (context : RunContext) (steps : ℕ)
    (planned : Bool → Prop) (returned : RunContext) (s : Recorded) : Prop :=
  saw Event.commits s.2 = true → ∃ saved answered,
    LatestIs good context.runId context.tenantId (some saved) true answered s ∧
      SavedAs context returned saved steps (planned answered)

variable {good : MutationAdapterStatus → Bool} {tenantId : String} {latest : Option RunContext}
  {wrote answered : Bool} {s : Recorded} {context : RunContext} {steps : ℕ} {planned : Bool → Prop}

theorem RunContext.Kin.bounded {a b : RunContext} (h : a.Kin b) : a.Bounded ↔ b.Bounded := by
  have hone : ∀ {x y : RunContext}, x.Kin y → x.Bounded → y.Bounded := by
    intro x y hxy hx
    refine ⟨?_, ?_, ?_, ?_⟩
    · rw [← hxy.tenant]
      exact hx.tenant
    · rw [← hxy.actor]
      exact hx.actor
    · rw [← hxy.workflow]
      exact hx.workflow
    · rw [← hxy.version]
      exact hx.version
  exact ⟨hone h, hone ⟨h.run.symm, h.tenant.symm, h.actor.symm, h.workflow.symm, h.version.symm⟩⟩

/-- The last checkpoint of a function, and the context that it returns with the version. -/
theorem LatestIs.safe_last {base kept : RunContext} {next : RunStatus} {nextStep : String}
    {state : Dict} {events : List DomainEvent} {n : ℕ}
    (h : LatestIs good base.runId tenantId latest wrote answered s) (hbase : base.Kin context)
    (hkept : kept.Kin context)
    (hsteps : planned answered → n = base.stepCount + 1 ∧ n = context.stepCount + steps)
    (hdrift : ¬ planned answered → n ≠ base.stepCount + 1) :
    Safe store.recording Unguarded
      (Returns fun version s' => Ends good context steps planned (kept.copy next state n version) s')
      (checkpoint base next nextStep state events) s := by
  refine h.safe_commitCheckpoint.post ?_
  rintro (e | version) s' hs
  · trivial
  obtain ⟨rfl, rfl, hlast⟩ := hs
  rw [hbase.run, hbase.tenant] at hlast
  intro _
  refine ⟨base.next next state, answered, hlast, ⟨?_, ?_, rfl, rfl, rfl, ?_, hdrift⟩⟩
  · exact ⟨hkept.run, hkept.tenant, hkept.actor, hkept.workflow, hkept.version⟩
  · exact ⟨hbase.run, hbase.tenant, hbase.actor, hbase.workflow, hbase.version⟩
  · intro hplanned
    obtain ⟨hn, hn'⟩ := hsteps hplanned
    exact ⟨hn, hn.symm.trans hn'⟩

theorem RunContext.Kin.rfl {a : RunContext} : a.Kin a := ⟨by rfl, by rfl, by rfl, by rfl, by rfl⟩

/-- One checkpoint of the context itself, as most of the functions end. -/
theorem LatestIs.safe_only {next : RunStatus} {nextStep : String} {state : Dict}
    {events : List DomainEvent} (h : LatestIs good context.runId tenantId latest wrote answered s) :
    Safe store.recording Unguarded
      (Returns fun version s' => Ends good context 1 (fun _ => True)
        (context.copy next state (context.stepCount + 1) version) s')
      (checkpoint context next nextStep state events) s := by
  apply h.safe_last .rfl .rfl
  · exact fun _ => ⟨rfl, rfl⟩
  · exact fun hno => absurd trivial hno

end Endings

section Single

variable {π : Platform} {good : MutationAdapterStatus → Bool} {tenantId : String}
  {latest : Option RunContext} {wrote answered : Bool} {s : Recorded} {context : RunContext}

theorem safe_prepareMutation {mutationType : String} {arguments : Dict} {orders : List DemoOrder}
    (h : LatestIs good context.runId tenantId latest wrote answered s) :
    Safe store.recording Unguarded
      (Returns fun prepared s' => Ends good context 1 (fun _ => True) prepared.1 s')
      (prepareMutation π context mutationType arguments orders) s := by
  unfold prepareMutation
  refine (h.keeps (uses_planMutation mutationType context.actorId arguments orders)).seq ?_
  intro preview s h
  refine h.asks (fun now s h => ?_) trivial
  refine h.asks (fun tokenPlaintext s h => ?_) trivial
  refine h.asks (fun _ s h => ?_) trivial
  exact h.safe_only.seq fun version s hends => hends

theorem safe_rejectMutation {tokenHash : String}
    (h : LatestIs good context.runId tenantId latest wrote answered s) :
    Safe store.recording Unguarded
      (Returns fun rejected s' => Ends good context 1 (fun _ => True) rejected s')
      (rejectMutation context tokenHash) s := by
  unfold rejectMutation
  refine (h.keeps (uses_requireWaiting (fun _ => trivial) _ _ _)).seq fun record s h => ?_
  refine (h.keeps (uses_rejectToken (fun _ => trivial) _ _ _ _)).seq fun _ s h => ?_
  exact h.safe_only.seq fun version s hends => hends

theorem uses_executeStep {tokenBudget deadlineAt : ℕ} :
    Uses Op.Aside (executeStep context tokenBudget deadlineAt) := by
  unfold executeStep
  refine .ite (.pure _) (.ite (.pure _) (.bind (.perform trivial) fun now => ?_))
  exact .ite (.pure _) (.perform trivial)

theorem safe_advance {tokenBudget deadlineAt : ℕ}
    (h : LatestIs good context.runId tenantId latest wrote answered s) :
    Safe store.recording Unguarded
      (Returns fun advanced s' => Ends good context 1 (fun _ => True) advanced.1 s')
      (advance context tokenBudget deadlineAt) s := by
  unfold advance
  refine (safe_ite _ _ _ _).mpr ⟨fun _ => trivial, fun _ => ?_⟩
  refine (h.keeps uses_executeStep).seq fun result s h => ?_
  have hmoves : Uses Op.Aside (Prog.ofExcept (requireTransition context.status
      (targetStatus context.status result)) : Act Unit) := by
    cases requireTransition context.status (targetStatus context.status result) with
    | error e => exact .raise _
    | ok u => exact .pure _
  refine (h.keeps hmoves).seq fun _ s h => ?_
  exact h.safe_only.seq fun version s hends => hends

theorem safe_loopHandoff {reason : String}
    (h : LatestIs good context.runId tenantId latest wrote answered s) :
    Safe store.recording Unguarded
      (Returns fun stopped s' => Ends good context 1 (fun _ => True) stopped.1 s')
      (loopHandoff context reason) s := by
  unfold loopHandoff
  have hmoves : Uses Op.Aside (Prog.ofExcept (requireTransition context.status .waitingHuman) :
      Act Unit) := by
    cases requireTransition context.status .waitingHuman with
    | error e => exact .raise _
    | ok u => exact .pure _
  refine (h.keeps hmoves).seq fun _ s h => ?_
  exact h.safe_only.seq fun version s hends => hends

end Single

section Boundary

variable {π : Platform} {good : MutationAdapterStatus → Bool} {runId : Uuid} {tenantId : String}
  {latest : Option RunContext} {wrote : Bool} {s : Recorded} {γ : Type}

/-- The adapter whose only call is a commit: what it raises counts as an unknown answer. -/
theorem LatestIs.safe_commit {o : WorldOp MutationAdapterResult} (hgood : good .unknown = false)
    (h : LatestIs good runId tenantId latest wrote false s)
    (ho : ∃ system operation actorId resourceRef arguments key,
      o = .commit system operation actorId resourceRef arguments key) :
    Safe store.recording Unguarded
      (Returns fun result s' => LatestIs good runId tenantId latest wrote (good result.status) s')
      ((Prog.perform (.world o)).handle fun _ => pure ⟨.unknown, none, []⟩) s := by
  obtain ⟨system, operation, actorId, resourceRef, arguments, key, rfl⟩ := ho
  obtain ⟨db, t⟩ := s
  obtain ⟨hstands, hwrote, hanswered⟩ := h
  rw [safe_handle]
  refine safe_world trivial fun r => ?_
  have hafter : LatestIs good runId tenantId latest wrote (Event.answers good
      ⟨.world (.commit system operation actorId resourceRef arguments key), r⟩)
      (db, t ++ [⟨⟨.world (.commit system operation actorId resourceRef arguments key), r⟩, db, db⟩]) := by
    refine ⟨hstands, ?_, ?_⟩
    · rw [saw_snoc, hwrote]
      exact Bool.or_false _
    · rw [saw_snoc, hanswered, Bool.false_or]
  cases r with
  | error e =>
    change LatestIs good runId tenantId latest wrote (good .unknown) _
    rw [hgood]
    exact hafter
  | ok result => exact hafter

/-- How the boundary ends: with a stored outcome, or with the answer that was checkpointed. -/
theorem LatestIs.safe_execute {R : MutationCompletion → Bool → γ → Recorded → Prop}
    {intent : MutationExecutionIntent} {adapter : String → Act MutationAdapterResult}
    {checkpoint : MutationCompletion → Act γ}
    (h : LatestIs good runId tenantId latest wrote false s)
    (hadapter : ∀ key s, LatestIs good runId tenantId latest wrote false s →
      Safe store.recording Unguarded
        (Returns fun result s' => LatestIs good runId tenantId latest wrote (good result.status) s')
        ((adapter key).handle fun _ => pure ⟨.unknown, none, []⟩) s)
    (hcheckpoint : ∀ completion answered s, LatestIs good runId tenantId latest wrote answered s →
      Safe store.recording Unguarded (Returns fun left s' => R completion answered left s')
        (checkpoint completion) s) :
    Safe store.recording Unguarded
      (Returns fun executed s' =>
        executed.2 = none ∧ LatestIs good runId tenantId latest wrote false s' ∨
          ∃ result left, executed.2 = some left ∧ executed.1.status = result.status.outcome ∧
            R (completion intent result) (good result.status) left s')
      (execute intent adapter checkpoint) s := by
  unfold execute
  refine (h.keeps (uses_requireIntent (fun _ => trivial) intent)).seq fun current s h => ?_
  cases replay current with
  | some outcome => exact .inl ⟨rfl, h⟩
  | none =>
    refine (h.keeps (uses_claim (fun _ => trivial) intent)).seq fun claimed s h => ?_
    refine (safe_ite _ _ _ _).mpr ⟨fun _ => ?_, fun _ => ?_⟩
    · cases replay claimed.execution with
      | some outcome => exact .inl ⟨rfl, h⟩
      | none => exact .inl ⟨rfl, h⟩
    · refine (safe_ite _ _ _ _).mpr ⟨fun _ => trivial, fun _ => ?_⟩
      unfold invokeAdapter
      refine (hadapter intent.recordId s h).seq fun result s h => ?_
      rw [pure_bind]
      refine (hcheckpoint _ _ s h).seq fun left s hleft => ?_
      exact .inr ⟨result, left, rfl, rfl, hleft⟩

end Boundary

section LowRisk

variable {π : Platform} {options : ConfirmOptions} {context : RunContext} {tenantId : String}
  {latest : Option RunContext} {wrote answered : Bool} {s : Recorded} {route : String}
  {arguments : Dict}

/-- A handover is saved with one step less than it is returned with. -/
theorem safe_lowRiskUnknown {outcome : MutationExecutionOutcome} {state : Dict} {version : ℕ}
    (h : LatestIs lowRiskKnown context.runId tenantId latest wrote false s) :
    Safe store.recording Unguarded
      (Returns fun updated s' => Ends lowRiskKnown context 1 (· = true) updated s')
      (lowRiskUnknown options context route outcome state version) s := by
  have hover : Uses Op.Aside (lowRiskHandoff options context (lowRiskOperation route)) := by
    unfold lowRiskHandoff
    refine .bind (uses_createTicket (fun _ => trivial) _ _) fun ticketId => ?_
    exact .ite (.bind (.perform trivial) fun _ => .pure _) (.pure _)
  unfold lowRiskUnknown
  refine (h.keeps hover).seq fun ticketId s h => ?_
  have hbase : LatestIs lowRiskKnown
      { context with status := .verifying, checkpointVersion := version }.runId tenantId latest
      wrote false s := h
  have hlast : ∀ state events, Safe store.recording Unguarded
      (Returns fun version s' => Ends lowRiskKnown context 1 (· = true)
        (context.copy .waitingHuman state (context.stepCount + 2) version) s')
      (checkpoint { context with status := .verifying, checkpointVersion := version } .waitingHuman
        "terminal" state events) s := by
    intro state events
    have hkin : RunContext.Kin { context with status := .verifying, checkpointVersion := version }
        context := ⟨rfl, rfl, rfl, rfl, rfl⟩
    apply hbase.safe_last hkin (RunContext.Kin.rfl (a := context))
    · exact fun hknown => absurd hknown Bool.false_ne_true
    · intro _
      change context.stepCount + 2 ≠ context.stepCount + 1
      omega
  exact (hlast _ _).seq fun _ s hends => hends

theorem safe_lowRiskCheckpoint {completion : MutationCompletion}
    (h : LatestIs lowRiskKnown context.runId tenantId latest wrote answered s) :
    Safe store.recording Unguarded
      (Returns fun left s' => left.1 = context.checkpointVersion + 1 ∧ context.tenantId = tenantId ∧
        LatestIs lowRiskKnown context.runId tenantId
          (some (context.next completion.lowRiskStatus left.2)) true answered s')
      (lowRiskCheckpoint context route arguments completion) s := by
  unfold lowRiskCheckpoint checkpointMutation
  exact h.safe_commitCheckpoint.seq fun version s hs => hs

theorem safe_executeLowRisk
    (h : LatestIs lowRiskKnown context.runId tenantId latest false false s) :
    Safe store.recording Unguarded
      (Returns fun updated s' => Ends lowRiskKnown context 1 (· = true) updated s')
      (executeLowRisk π options context route arguments) s := by
  unfold executeLowRisk
  refine (safe_ite _ _ _ _).mpr ⟨fun _ => trivial, fun _ => ?_⟩
  refine (safe_ite _ _ _ _).mpr ⟨fun _ => trivial, fun _ => ?_⟩
  refine (h.keeps (uses_reserve π (fun _ => trivial) _ _)).seq fun _ s h => ?_
  refine Safe.seq (h.safe_execute (fun key s h => h.safe_commit rfl ⟨_, _, _, _, _, _, rfl⟩)
    fun completion answered s h => safe_lowRiskCheckpoint h) ?_
  rintro ⟨outcome, left⟩ s (⟨rfl, h⟩ | ⟨result, left, rfl, houtcome, hversion, htenant, h⟩)
  · -- A stored outcome writes no checkpoint, unless it has to be handed over.
    have hquiet : ∀ updated, Ends lowRiskKnown context 1 (· = true) updated s :=
      fun updated hwrote => absurd (h.wrote.symm.trans hwrote) Bool.false_ne_true
    refine (safe_ite _ _ _ _).mpr ⟨fun _ => safe_lowRiskUnknown h, fun _ => ?_⟩
    exact (safe_ite _ _ _ _).mpr ⟨fun _ => hquiet _, fun _ => hquiet _⟩
  · obtain ⟨version, state⟩ := left
    obtain rfl : version = context.checkpointVersion + 1 := hversion
    change Safe _ _ _ (if outcome.status = .unknown then
      lowRiskUnknown options context route outcome state (context.checkpointVersion + 1)
      else if outcome.status = .failed then
        pure (context.copy .failed state (context.stepCount + 1) (context.checkpointVersion + 1))
      else pure (context.copy .completed state (context.stepCount + 1)
        (context.checkpointVersion + 1))) s
    rw [houtcome]
    subst htenant
    cases hresult : result.status with
    | unknown =>
      rw [hresult] at h
      exact safe_lowRiskUnknown h
    | succeeded | rejected =>
      rw [hresult] at h
      intro _
      refine ⟨_, _, h, ?_⟩
      refine ⟨⟨rfl, rfl, rfl, rfl, rfl⟩, ⟨rfl, rfl, rfl, rfl, rfl⟩, ?_, rfl, rfl, ?_, ?_⟩
      · simp [RunContext.copy, RunContext.next, MutationCompletion.lowRiskStatus, completion,
          hresult, MutationAdapterStatus.outcome]
      · exact fun _ => ⟨rfl, rfl⟩
      · exact fun hno => absurd rfl hno

end LowRisk

section Confirm

variable {π : Platform} {options : ConfirmOptions} {context : RunContext} {tenantId : String}
  {latest : Option RunContext} {wrote answered : Bool} {s : Recorded} {c : Confirmation}

/-- A confirmation of a context, one checkpoint later. -/
structure Begun (context : RunContext) (c : Confirmation) : Prop where
  kin : c.committing.Kin context
  stepCount : c.committing.stepCount = context.stepCount + 1

theorem safe_startCommitting_begun {idempotencyKey : String} {reservation : IdempotencyReservation}
    (h : LatestIs confirmDone context.runId tenantId latest wrote answered s) :
    Safe store.recording Unguarded
      (Returns fun c s' => Begun context c ∧
        ∃ latest, LatestIs confirmDone context.runId tenantId latest true answered s')
      (startCommitting π context idempotencyKey reservation) s := by
  unfold startCommitting
  refine h.safe_commitCheckpoint.seq ?_
  rintro version s ⟨_, _, hlast⟩
  exact ⟨⟨⟨rfl, rfl, rfl, rfl, rfl⟩, rfl⟩, _, hlast⟩

theorem safe_checkpointCompletion_latest {completion : MutationCompletion}
    (h : LatestIs confirmDone c.committing.runId tenantId latest wrote answered s) :
    Safe store.recording Unguarded
      (Returns fun _ s' =>
        ∃ latest, LatestIs confirmDone c.committing.runId tenantId latest true answered s')
      (c.checkpointCompletion completion) s := by
  unfold Confirmation.checkpointCompletion checkpointMutation
  refine h.safe_commitCheckpoint.seq ?_
  rintro version s ⟨_, _, hlast⟩
  exact ⟨_, hlast⟩

/-- The exit without a success is saved with one step less than it is returned with. -/
theorem safe_settleUnsuccessful_drifts {outcome : MutationExecutionOutcome}
    {left : Option (ℕ × Dict)} (hc : Begun context c)
    (h : LatestIs confirmDone c.committing.runId tenantId latest wrote false s) :
    Safe store.recording Unguarded
      (Returns fun updated s' => Ends confirmDone context 3 (· = true) updated s')
      (c.settleUnsuccessful options outcome left) s := by
  have hreadback : Uses Op.Aside (c.readback outcome) := .ite (.perform trivial) (.pure _)
  have hover : ∀ readback, Uses Op.Aside (c.handOver options outcome readback) := by
    intro readback
    unfold Confirmation.handOver
    exact .ite (uses_createHandoff (fun _ => trivial) (fun _ _ _ => trivial) _ _ _ _ _) (.pure _)
  unfold Confirmation.settleUnsuccessful
  refine (h.keeps hreadback).seq fun readback s h => ?_
  refine (h.keeps (hover readback)).seq fun ticketId s h => ?_
  cases left with
  | none => trivial
  | some left =>
    have hbase : LatestIs confirmDone
        { c.committing with status := .verifying, checkpointVersion := left.1 }.runId tenantId latest
        wrote false s := h
    have hkin : RunContext.Kin
        { c.committing with status := .verifying, checkpointVersion := left.1 } context :=
      ⟨hc.kin.run, hc.kin.tenant, hc.kin.actor, hc.kin.workflow, hc.kin.version⟩
    have hlast : ∀ status state events, Safe store.recording Unguarded
        (Returns fun version s' => Ends confirmDone context 3 (· = true)
          (c.committing.copy status state (c.committing.stepCount + 2) version) s')
        (checkpoint { c.committing with status := .verifying, checkpointVersion := left.1 } status
          "terminal" state events) s := by
      intro status state events
      apply hbase.safe_last hkin hc.kin
      · exact fun hdone => absurd hdone Bool.false_ne_true
      · intro _
        change c.committing.stepCount + 2 ≠ c.committing.stepCount + 1
        omega
    exact (hlast _ _ _).seq fun _ s hends => hends

theorem safe_settleSucceeded_saved {left : Option (ℕ × Dict)} (hc : Begun context c)
    (h : LatestIs confirmDone c.committing.runId tenantId latest wrote true s) :
    Safe store.recording Unguarded
      (Returns fun updated s' => Ends confirmDone context 3 (· = true) updated s')
      (c.settleSucceeded π options left) s := by
  cases left with
  | none => trivial
  | some left =>
    unfold Confirmation.settleSucceeded
    rw [requireOutcomeVersion, pure_bind]
    -- The context that is checkpointed last has made two of the three steps.
    have hlast : ∀ verifyingState status state events {s}, LatestIs confirmDone c.committing.runId
        tenantId latest wrote true s → Safe store.recording Unguarded
        (Returns fun version s' => Ends confirmDone context 3 (· = true)
          ((c.committing.copy .verifying verifyingState (c.committing.stepCount + 1) left.1).copy
            status state (c.committing.stepCount + 1 + 1) version) s')
        (checkpoint (c.committing.copy .verifying verifyingState (c.committing.stepCount + 1) left.1)
          status "terminal" state events) s := by
      intro verifyingState status state events s h
      have hkin : (c.committing.copy .verifying verifyingState (c.committing.stepCount + 1)
          left.1).Kin context :=
        ⟨hc.kin.run, hc.kin.tenant, hc.kin.actor, hc.kin.workflow, hc.kin.version⟩
      have hbase : LatestIs confirmDone (c.committing.copy .verifying verifyingState
          (c.committing.stepCount + 1) left.1).runId tenantId latest wrote true s := h
      apply hbase.safe_last hkin hkin
      · intro _
        have hsteps := hc.stepCount
        refine ⟨rfl, ?_⟩
        omega
      · exact fun hno => absurd rfl hno
    refine h.asks (fun verified s h => ?_) trivial
    refine (safe_ite _ _ _ _).mpr ⟨fun _ => ?_, fun _ => ?_⟩
    · have hover := uses_createHandoff (P := Op.Aside) (fun _ => trivial) (fun _ _ _ => trivial)
      refine (h.keeps (hover options c.context c.operation "VERIFY_MISMATCH" _)).seq ?_
      intro ticketId s h
      exact (hlast _ _ _ _ h).seq fun _ s hends => hends
    · exact (hlast _ _ _ _ h).seq fun _ s hends => hends

theorem uses_reserveConfirmation_aside {params : ConsumeParams} :
    Uses Op.Aside (reserveConfirmation params) := uses_reserveConfirmation (fun _ => trivial) params

theorem safe_confirmation_run (hc : Begun context c)
    (h : LatestIs confirmDone c.committing.runId tenantId latest wrote false s) :
    Safe store.recording Unguarded
      (Returns fun updated s' => Ends confirmDone context 3 (· = true) updated s')
      (c.run π options) s := by
  have hadapter : ∀ key s, LatestIs confirmDone c.committing.runId tenantId latest wrote false s →
      Safe store.recording Unguarded (Returns fun result s' =>
        LatestIs confirmDone c.committing.runId tenantId latest wrote (confirmDone result.status) s')
        ((c.adapter π key).handle fun _ => pure ⟨.unknown, none, []⟩) s := by
    intro key s h
    unfold Confirmation.adapter
    split
    · exact h
    · exact h.safe_commit rfl ⟨_, _, _, _, _, _, rfl⟩
  unfold Confirmation.run
  refine Safe.seq (h.safe_execute hadapter fun completion answered s h =>
    safe_checkpointCompletion_latest h) ?_
  rintro ⟨outcome, left⟩ s (⟨rfl, h⟩ | ⟨result, left, rfl, houtcome, latest, h⟩)
  · exact (safe_ite _ _ _ _).mpr ⟨fun _ => safe_settleUnsuccessful_drifts hc h, fun _ => trivial⟩
  · change Safe _ _ _ (if outcome.status ≠ .succeeded then
      c.settleUnsuccessful options outcome (some left)
      else c.settleSucceeded π options (some left)) s
    rw [houtcome]
    cases hresult : result.status with
    | succeeded =>
      rw [hresult] at h
      exact safe_settleSucceeded_saved hc h
    | rejected | unknown =>
      rw [hresult] at h
      exact safe_settleUnsuccessful_drifts hc h

theorem safe_confirmMutation {tokenPlaintext idempotencyKey : String}
    (h : LatestIs confirmDone context.runId tenantId latest false false s) :
    Safe store.recording Unguarded
      (Returns fun updated s' => Ends confirmDone context 3 (· = true) updated s')
      (confirmMutation π options context tokenPlaintext idempotencyKey) s := by
  unfold confirmMutation
  refine (h.keeps (uses_requireWaiting (fun _ => trivial) _ _ _)).seq fun record s h => ?_
  refine (safe_ite _ _ _ _).mpr ⟨fun _ => trivial, fun _ => ?_⟩
  refine (h.keeps uses_reserveConfirmation_aside).seq fun reservation s h => ?_
  refine (safe_ite _ _ _ _).mpr ⟨fun _ => ?_, fun _ => ?_⟩
  · -- A replay returns the context as it came, without a checkpoint.
    exact fun hwrote => absurd (h.wrote.symm.trans hwrote) Bool.false_ne_true
  · refine (safe_startCommitting_begun h).seq ?_
    rintro c s ⟨hc, latest, h⟩
    rw [← hc.kin.run] at h
    exact safe_confirmation_run hc h

end Confirm

section Returned

variable {π : Platform} {context returned : RunContext} {db db' : DB}
  {t : List (Happened Op Exc DB)}

/-- What the last checkpoint of a function is, and what `resume` makes of it. -/
theorem Ends.returns_iff {good : MutationAdapterStatus → Bool} {steps : ℕ} {planned : Bool → Prop}
    (h : Ends good context steps planned returned (db, t)) (hwrote : saw Event.commits t = true) :
    ReturnsSaved db returned ↔ planned (saw (Event.answers good) t) ∧ context.Bounded ∧
      context.stepCount + steps ≤ 6 := by
  obtain ⟨saved, answered, hlast, hkept⟩ := h hwrote
  obtain rfl : saw (Event.answers good) t = answered := hlast.answered
  obtain ⟨_, _, ⟨row, hrow, htenant, _⟩, hlatest⟩ := hlast.stands
  have hbounded := hkept.savedKin.bounded
  have hresumes : db.resumes returned.runId returned.tenantId = saved.modelValidate.map some := by
    unfold DB.resumes
    rw [hkept.returnedKin.run, hkept.returnedKin.tenant, hrow, Option.filter_some,
      if_pos (by simpa using htenant), hlatest]
  constructor
  · rintro ⟨loaded, hloaded, hmatches⟩
    rw [hresumes] at hloaded
    obtain ⟨valid, hvalid, hsome⟩ : ∃ valid, saved.modelValidate = .ok valid ∧
        some valid = some loaded := by
      cases hv : saved.modelValidate with
      | error e =>
        rw [hv] at hloaded
        exact absurd hloaded (by simp [Except.map])
      | ok valid =>
        rw [hv] at hloaded
        exact ⟨valid, rfl, Except.ok.inj hloaded⟩
    obtain ⟨rfl, hfields, hcount⟩ := RunContext.modelValidate_eq_ok.mp hvalid
    obtain rfl := Option.some.inj hsome
    have hplanned : planned (saw (Event.answers good) t) := by
      by_contra hno
      exact hkept.drift hno hmatches.stepCount
    obtain ⟨_, hsteps⟩ := hkept.steps hplanned
    refine ⟨hplanned, hbounded.mp hfields, ?_⟩
    omega
  · rintro ⟨hplanned, hfields, hcount⟩
    obtain ⟨hsame, hsteps⟩ := hkept.steps hplanned
    refine ⟨saved, ?_, ⟨hkept.status, hkept.state, hsame, hkept.checkpointVersion⟩⟩
    have hvalid : saved.modelValidate = .ok saved :=
      RunContext.modelValidate_eq_ok.mpr ⟨rfl, hbounded.mpr hfields, by omega⟩
    rw [hresumes, hvalid]
    rfl

theorem confirmMutation_ends {options : ConfirmOptions} {tokenPlaintext idempotencyKey : String}
    {tenantId : String} {status : RunStatus} {version : ℕ} {latest : Option RunContext}
    (hstands : Stands context.runId tenantId status version latest db)
    (hexec : Exec store (confirmMutation π options context tokenPlaintext idempotencyKey) db t
      (.ret returned) db') : Ends confirmDone context 3 (· = true) returned (db', t) := by
  have hstart : LatestIs confirmDone context.runId tenantId latest false false (db, []) :=
    ⟨⟨status, version, hstands⟩, rfl, rfl⟩
  exact (safe_confirmMutation hstart).recorded hexec

end Returned

section Demo

/-- The business system does not know what became of the change. -/
def ambiguousWorld : {α : Type} → WorldOp α → Except Exc α
  | _, .commit _ _ _ _ _ _ => .ok ⟨.unknown, none, []⟩
  | _, w => demoWorld 100 "" w

def demoWriter : ContextWriter := .confirmMutation ⟨true, true⟩ "secret-1" "key-1"

/-- A confirmation of the prepared run whose outcome stays unknown. -/
def demoAmbiguous : List (Happened Op Exc DB) × Act RunContext × DB :=
  drive respond (List.replicate 20 ⟨⟨100, "record-1", fun _ => 0⟩, false, ambiguousWorld⟩)
    (demoWriter.run demoPlatform (preparedDB.resumed "run")) preparedDB

instance demoAmbiguous_facts : Fact (demoAmbiguous.2.1.returned (fun updated => updated.status = .waitingHuman) = true ∧
    saw Event.commits demoAmbiguous.1 = true ∧
    saw (Event.answers confirmDone) demoAmbiguous.1 = false ∧
    (preparedDB.run "run").map (fun row => (row.tenantId, row.lastCheckpointSeq)) =
      some ("demo", 1) ∧
    (preparedDB.checkpoints.rows.all fun c => c.checkpointSeq ≤ 1) = true ∧
    (preparedDB.resumed "run").runId = "run") :=
  ⟨by decide +kernel⟩

theorem demoAmbiguous_exec {updated : RunContext} (h : demoAmbiguous.2.1 = .ret updated) :
    Exec store (demoWriter.run demoPlatform (preparedDB.resumed "run")) preparedDB demoAmbiguous.1
      (.ret updated) demoAmbiguous.2.2 := by
  have hexec := exec_of_drive (Eq.refl demoAmbiguous)
  rwa [h] at hexec

theorem preparedDB_stands : ∃ status version latest,
    Stands (preparedDB.resumed "run").runId "demo" status version latest preparedDB := by
  obtain ⟨_, _, _, hrow, hseqs, hid⟩ := demoAmbiguous_facts.out
  rw [hid]
  obtain ⟨row, hrow, hfields⟩ := Option.map_eq_some_iff.mp hrow
  obtain ⟨htenant, hseq⟩ := Prod.mk.inj hfields
  refine ⟨_, _, _, ⟨row, hrow, htenant, rfl, rfl, ?_⟩, rfl⟩
  intro c hc _
  rw [hseq]
  exact of_decide_eq_true (List.all_eq_true.mp hseqs c hc)

end Demo

/-- A function that returns a context after a checkpoint returns the one that `resume` loads exactly
when the business system gave the answer that it goes on with, and the steps stay within the limit. -/
theorem returned_saved_iff {π : Platform} {writer : ContextWriter} {context returned : RunContext}
    {db db' : DB} {t : List (Happened Op Exc DB)} {tenantId : String} {status : RunStatus}
    {version : ℕ} {latest : Option RunContext}
    (hstands : Stands context.runId tenantId status version latest db)
    (hexec : Exec store (writer.run π context) db t (.ret returned) db')
    (hwrote : saw Event.commits t = true) :
    ReturnsSaved db' returned ↔ writer.Answered t ∧ context.Bounded ∧
      context.stepCount + writer.checkpoints ≤ 6 := by
  have hstart : ∀ good, LatestIs good context.runId tenantId latest false false (db, []) :=
    fun good => ⟨⟨status, version, hstands⟩, rfl, rfl⟩
  -- The functions that ask the business system nothing end with their one checkpoint.
  have hsingle : ∀ {p : Act RunContext}, Safe store.recording Unguarded (Returns fun updated s' =>
      Ends confirmDone context 1 (fun _ => True) updated s') p (db, []) →
      Exec store p db t (.ret returned) db' →
      (ReturnsSaved db' returned ↔ True ∧ context.Bounded ∧ context.stepCount + 1 ≤ 6) := by
    intro p hsafe hexec
    have hends : Ends confirmDone context 1 (fun _ => True) returned (db', t) :=
      hsafe.recorded hexec
    exact hends.returns_iff hwrote
  cases writer with
  | prepareMutation mutationType arguments orders =>
    refine hsingle ?_ hexec
    unfold ContextWriter.run
    exact (safe_prepareMutation (hstart _)).seq fun _ _ hends => hends
  | confirmMutation options tokenPlaintext idempotencyKey =>
    exact (confirmMutation_ends hstands hexec).returns_iff hwrote
  | rejectMutation tokenHash => exact hsingle (safe_rejectMutation (hstart _)) hexec
  | executeLowRisk options route arguments =>
    have hends : Ends lowRiskKnown context 1 (· = true) returned (db', t) :=
      (safe_executeLowRisk (hstart _)).recorded hexec
    exact hends.returns_iff hwrote
  | advance tokenBudget deadlineAt =>
    refine hsingle ?_ hexec
    unfold ContextWriter.run
    exact (safe_advance (hstart _)).seq fun _ _ hends => hends
  | handoff reason =>
    refine hsingle ?_ hexec
    unfold ContextWriter.run
    exact (safe_loopHandoff (hstart _)).seq fun _ _ hends => hends

theorem returned_saved_iff_ambiguous :
    ∃ returned, ReturnsSaved demoAmbiguous.2.2 returned ↔ demoWriter.Answered demoAmbiguous.1 ∧
      (preparedDB.resumed "run").Bounded ∧ (preparedDB.resumed "run").stepCount + 3 ≤ 6 := by
  obtain ⟨hret, hwrote, _⟩ := demoAmbiguous_facts.out
  obtain ⟨returned, hp, _⟩ := Prog.eq_ret_of_returned hret
  obtain ⟨_, _, _, hstands⟩ := preparedDB_stands
  exact ⟨returned, returned_saved_iff hstands (demoAmbiguous_exec hp) hwrote⟩

/-- A confirmation whose outcome stays unknown returns a step count that no checkpoint has. -/
theorem ambiguous_drifts :
    ¬ ∀ (π : Platform) (writer : ContextWriter) (context returned : RunContext) (db db' : DB)
      (t : List (Happened Op Exc DB)) (tenantId : String) (status : RunStatus) (version : ℕ)
      (latest : Option RunContext), Stands context.runId tenantId status version latest db →
      Exec store (writer.run π context) db t (.ret returned) db' → saw Event.commits t = true →
      ReturnsSaved db' returned := by
  intro hclaim
  obtain ⟨hret, hwrote, hunknown, _⟩ := demoAmbiguous_facts.out
  obtain ⟨returned, hp, _⟩ := Prog.eq_ret_of_returned hret
  obtain ⟨_, _, _, hstands⟩ := preparedDB_stands
  have hexec := demoAmbiguous_exec hp
  have hsaved := hclaim _ _ _ _ _ _ _ _ _ _ _ hstands hexec hwrote
  obtain ⟨hdone, _⟩ := ((confirmMutation_ends hstands hexec).returns_iff hwrote).mp hsaved
  exact absurd (hdone.symm.trans hunknown) (by simp)

end CommerceAgent
