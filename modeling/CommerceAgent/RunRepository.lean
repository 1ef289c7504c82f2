import CommerceAgent.Schema
import CommerceAgent.Router

/-! The transactions of `RunRepository`, `RunLifecycleRepository` and `RunRoutingRepository`, and
the two run updates that the executor and the startup hook issue themselves. -/
namespace CommerceAgent

open Json Tables

/-- `UPDATE runtime.agent_runs`, with its trigger, its CHECK constraints and its unique keys. -/
def DB.updateRuns (db : DB) (p : AgentRun → Bool) (f : AgentRun → AgentRun) : Except Exc DB :=
  if ∃ run ∈ db.runs.rows, p run ∧ run.selectionGuarded (f run) = false then .error .database
  else if ∃ run ∈ db.runs.rows, p run ∧ ¬ (f run).Checked then .error .integrity
  else match db.runs.update? p f with
    | none => .error .integrity
    | some runs => .ok { db with runs := runs }

theorem DB.updateRuns_eq_ok {db db' : DB} {p : AgentRun → Bool} {f : AgentRun → AgentRun}
    (h : db.updateRuns p f = .ok db') :
    ∃ runs, db.runs.update? p f = some runs ∧ db' = { db with runs := runs } := by
  unfold DB.updateRuns at h
  split at h
  · exact absurd h (by simp)
  · split at h
    · exact absurd h (by simp)
    · split at h
      · exact absurd h (by simp)
      · rename_i runs hr
        exact ⟨runs, hr, (Except.ok.inj h).symm⟩

/-- What an update does to the row of a run. -/
theorem DB.run_updateRuns {db db' : DB} {p : AgentRun → Bool} {f : AgentRun → AgentRun}
    (h : db.updateRuns p f = .ok db') (hf : ∀ run, (f run).runId = run.runId) (runId : Uuid) :
    db'.run runId = (db.run runId).map (Table.changed p f) := by
  obtain ⟨runs, hr, rfl⟩ := DB.updateRuns_eq_ok h
  exact Table.lookup_update? hf runId hr

theorem DB.run_runId {db : DB} {runId : Uuid} {run : AgentRun} (h : db.run runId = some run) :
    run.runId = runId :=
  (Table.lookup_mem h).2

/-- A new run leaves the rows of the others where they were. -/
theorem DB.run_insert {db : DB} {runs : Table AgentRun AgentRun.clash} {run row : AgentRun}
    {runId : Uuid} (h : db.runs.insert? run = some runs) (hrow : db.run runId = some row) :
    DB.run { db with runs := runs } runId = some row := by
  have hfind : db.runs.lookup AgentRun.runId runId = some row := hrow
  have hlookup := @Table.lookup_insert _ _ _ AgentRun.runId _ _ _ _ _ runId h
  rw [hfind, Option.some_or] at hlookup
  exact hlookup

def loadRun (runId : Uuid) (tenantId : String) (actorId : Option String) :
    Tx (Option AgentRun) := fun _ db =>
  .ok ((db.run runId).filter fun run =>
    run.tenantId = tenantId ∧ ∀ a ∈ actorId, run.actorRef = a, db)

def markDispatchStarted (runId : Uuid) (tenantId : String) : Tx Unit := fun env db => do
  let db ← db.updateRuns (fun run => run.runId = runId ∧ run.tenantId = tenantId)
    fun run => { run with dispatchStartedAt := some (run.dispatchStartedAt.getD env.now) }
  .ok ((), db)

def markResponsePublished (runId : Uuid) (tenantId : String) : Tx Unit := fun env db => do
  let db ← db.updateRuns (fun run => run.runId = runId ∧ run.tenantId = tenantId)
    fun run => { run with responsePublishedAt := some (run.responsePublishedAt.getD env.now) }
  .ok ((), db)

def setTerminalReason (runId : Uuid) (tenantId : String) (reason : Option String) : Tx Unit :=
  fun env db => do
    let db ← db.updateRuns (fun run => run.runId = runId ∧ run.tenantId = tenantId)
      fun run => { run with
        terminalReason := reason
        terminalAt := some (run.terminalAt.getD env.now)
        rowVersion := run.rowVersion + 1 }
    .ok ((), db)

def DB.lastEventSeq (db : DB) (runId : Uuid) : ℕ :=
  ((db.events.select fun e => e.runId = runId).map RunEvent.eventSeq).foldl max 0

/-- The INSERTs of events with one step id, which is a `varchar(64)`. -/
def DB.insertEvents (db : DB) (runId : Uuid) (stepId : String) :
    ℕ → List DomainEvent → Except Exc DB
  | _, [] => .ok db
  | seq, event :: events =>
    if 64 < stepId.length then .error .database
    else match db.events.insert? ⟨runId, seq, event.eventType, stepId, event.payload⟩ with
    | none => .error .integrity
    | some table => { db with events := table }.insertEvents runId stepId (seq + 1) events

/-- The rows of a list of events, numbered from `seq` on. -/
def eventRows (runId : Uuid) (stepId : String) : ℕ → List DomainEvent → List RunEvent
  | _, [] => []
  | seq, event :: events =>
    ⟨runId, seq, event.eventType, stepId, event.payload⟩ :: eventRows runId stepId (seq + 1) events

theorem DB.insertEvents_eq_ok {runId : Uuid} {stepId : String} {events : List DomainEvent} :
    ∀ {db db' : DB} {seq : ℕ}, db.insertEvents runId stepId seq events = .ok db' →
      ∃ table, table.rows = db.events.rows ++ eventRows runId stepId seq events ∧
        (events ≠ [] → stepId.length ≤ 64) ∧ db' = { db with events := table } := by
  induction events with
  | nil =>
    intro db db' seq h
    refine ⟨db.events, ?_, fun hne => absurd rfl hne, (Except.ok.inj h).symm⟩
    rw [eventRows, List.append_nil]
  | cons event events ih =>
    intro db db' seq h
    unfold DB.insertEvents at h
    split at h
    · exact absurd h (by simp)
    · rename_i hlength
      split at h
      · exact absurd h (by simp)
      · rename_i inserted ht
        obtain ⟨table, hrows, _, rfl⟩ := ih h
        refine ⟨table, ?_, fun _ => Nat.le_of_not_lt hlength, rfl⟩
        rw [hrows, (Table.insert?_eq_some.mp ht).2, List.append_assoc]
        rfl

def appendEvent (runId : Uuid) (tenantId : String) (eventType : EventType) (stepId : String)
    (payload : Dict) : Tx ℕ := fun _ db =>
  match (db.run runId).filter fun run => run.tenantId = tenantId with
  | none => .error (.valueError "run_not_found")
  | some _ => do
    let sequence := db.lastEventSeq runId + 1
    let step := String.ofList (stepId.toList.take 64)
    let db ← db.insertEvents runId step sequence [⟨eventType, payload⟩]
    .ok (sequence, db)

theorem appendEvent_eq_ok {runId : Uuid} {tenantId stepId : String} {eventType : EventType}
    {payload : Dict} {env : Env} {db db' : DB} {seq : ℕ}
    (h : appendEvent runId tenantId eventType stepId payload env db = .ok (seq, db')) :
    seq = db.lastEventSeq runId + 1 ∧ ∃ events, db' = { db with events := events } ∧
      events.rows = db.events.rows ++
        eventRows runId (String.ofList (stepId.toList.take 64)) seq [⟨eventType, payload⟩] := by
  unfold appendEvent at h
  split at h
  · exact absurd h (by simp)
  · obtain ⟨db₁, hev, h⟩ := Except.bind_eq_ok.mp h
    obtain ⟨rfl, rfl⟩ := Prod.mk.inj (Except.ok.inj h)
    obtain ⟨events, hrows, _, rfl⟩ := DB.insertEvents_eq_ok hev
    exact ⟨rfl, events, rfl, hrows⟩

structure CommitStep where
  runId : Uuid
  tenantId : String
  expectedVersion : ℕ
  nextStatus : RunStatus
  nextStep : String
  checkpoint : RunContext
  events : List DomainEvent
  mutationCompletion : Option MutationCompletion := none

def IdempotencyRecord.complete (c : MutationCompletion) (record : IdempotencyRecord) :
    IdempotencyRecord :=
  { record with
    status := c.status
    businessReference := c.businessReference
    responseRedacted := some c.responseRedacted
    rowVersion := record.rowVersion + 1 }

theorem IdempotencyRecord.neutral_complete (c : MutationCompletion) :
    Table.Neutral IdempotencyRecord.clash (complete c) := fun _ _ => ⟨id, id⟩

/-- Whether the record is the claimed intent that the completion is about. -/
def IdempotencyRecord.completedBy (tenantId : String) (c : MutationCompletion)
    (record : IdempotencyRecord) : Bool :=
  record.recordId = c.recordId ∧ record.tenantId = tenantId ∧
    record.requestFingerprint = c.requestFingerprint ∧ record.status = .inProgress

def DB.completeMutation (db : DB) (tenantId : String) (c : MutationCompletion) :
    Except Exc DB :=
  if db.records.count (IdempotencyRecord.completedBy tenantId c) = 1 then
    let records := db.records.update (IdempotencyRecord.completedBy tenantId c)
      (IdempotencyRecord.complete c) (IdempotencyRecord.neutral_complete c)
    .ok { db with records := records }
  else .error .mutationCompletionConflict

def DB.completeMutation? (db : DB) (tenantId : String) :
    Option MutationCompletion → Except Exc DB
  | none => .ok db
  | some c => db.completeMutation tenantId c

def DB.insertCheckpoint (db : DB) (checkpoint : RunCheckpoint) : Except Exc DB :=
  match db.checkpoints.insert? checkpoint with
  | none => .error .integrity
  | some table => .ok { db with checkpoints := table }

/-- The row update at the end of `commit_step`. -/
def AgentRun.advance (p : CommitStep) (seq now : ℕ) (run : AgentRun) : AgentRun :=
  { run with
    status := p.nextStatus
    currentStep := p.nextStep
    stepCount := run.stepCount + 1
    lastCheckpointSeq := seq
    terminalAt := if p.nextStatus.IsTerminal then some (run.terminalAt.getD now)
      else run.terminalAt
    rowVersion := run.rowVersion + 1 }

/-- The transaction of `commit_step`. -/
def commitStepTx (p : CommitStep) : Tx Unit := fun env db =>
  match (db.run p.runId).filter fun run =>
      run.tenantId = p.tenantId ∧ run.rowVersion = p.expectedVersion with
  | none => .error (.versionConflict "run is unavailable or stale")
  | some current => do
    let db ← db.completeMutation? p.tenantId p.mutationCompletion
    let seq := current.lastCheckpointSeq + 1
    let eventFrom := db.lastEventSeq p.runId + 1
    let db ← db.insertEvents p.runId p.nextStep eventFrom p.events
    let db ← db.insertCheckpoint ⟨p.runId, seq, p.nextStep, p.checkpoint, eventFrom,
      eventFrom + p.events.length - 1⟩
    let db ← db.updateRuns (fun run => run.runId = p.runId ∧ run.tenantId = p.tenantId ∧
      run.rowVersion = p.expectedVersion) (AgentRun.advance p seq env.now)
    .ok ((), db)

/-- The records after the completion, if there is one, of exactly one claimed intent. -/
def RecordsAfter (tenantId : String) :
    Option MutationCompletion → (old new : Table IdempotencyRecord IdempotencyRecord.clash) → Prop
  | none, old, new => new = old
  | some c, old, new =>
    old.count (IdempotencyRecord.completedBy tenantId c) = 1 ∧
      new = old.update (IdempotencyRecord.completedBy tenantId c) (IdempotencyRecord.complete c)
        (IdempotencyRecord.neutral_complete c)

theorem DB.completeMutation?_eq_ok {db db' : DB} {tenantId : String}
    {c : Option MutationCompletion} (h : db.completeMutation? tenantId c = .ok db') :
    ∃ records, RecordsAfter tenantId c db.records records ∧
      db' = { db with records := records } := by
  cases c with
  | none => exact ⟨db.records, rfl, (Except.ok.inj h).symm⟩
  | some c =>
    simp only [DB.completeMutation?, DB.completeMutation] at h
    split at h
    · rename_i hone
      exact ⟨_, ⟨hone, rfl⟩, (Except.ok.inj h).symm⟩
    · exact absurd h (by simp)

theorem DB.insertCheckpoint_eq_ok {db db' : DB} {c : RunCheckpoint}
    (h : db.insertCheckpoint c = .ok db') :
    ∃ table, table.rows = db.checkpoints.rows ++ [c] ∧
      db' = { db with checkpoints := table } := by
  unfold DB.insertCheckpoint at h
  split at h
  · exact absurd h (by simp)
  · rename_i table ht
    exact ⟨table, (Table.insert?_eq_some.mp ht).2, (Except.ok.inj h).symm⟩

/-- What a committed `commit_step` found, and what it left. -/
structure CommitStep.Committed (p : CommitStep) (now : ℕ) (run : AgentRun) (db db' : DB) :
    Prop where
  found : db.run p.runId = some run
  tenant : run.tenantId = p.tenantId
  version : run.rowVersion = p.expectedVersion
  records : RecordsAfter p.tenantId p.mutationCompletion db.records db'.records
  checkpoint : db'.checkpoints.rows = db.checkpoints.rows ++
    [⟨p.runId, run.lastCheckpointSeq + 1, p.nextStep, p.checkpoint, db.lastEventSeq p.runId + 1,
      db.lastEventSeq p.runId + 1 + p.events.length - 1⟩]
  events : db'.events.rows = db.events.rows ++
    eventRows p.runId p.nextStep (db.lastEventSeq p.runId + 1) p.events
  step : p.events ≠ [] → p.nextStep.length ≤ 64
  runs : ∀ runId, db'.run runId = if runId = p.runId then
    some (run.advance p (run.lastCheckpointSeq + 1) now) else db.run runId
  others : db'.tokens = db.tokens ∧ db'.tickets = db.tickets ∧ db'.messages = db.messages ∧
    db'.conversations = db.conversations

/-- The row update of `commit_step` reaches the one row that it locked. -/
theorem CommitStep.run_advance {p : CommitStep} {db db' : DB} {run : AgentRun} {seq now : ℕ}
    (h : db.updateRuns (fun run => run.runId = p.runId ∧ run.tenantId = p.tenantId ∧
      run.rowVersion = p.expectedVersion) (AgentRun.advance p seq now) = .ok db')
    (hrun : db.run p.runId = some run) (ht : run.tenantId = p.tenantId)
    (hv : run.rowVersion = p.expectedVersion) (runId : Uuid) :
    db'.run runId = if runId = p.runId then some (run.advance p seq now) else db.run runId := by
  rw [DB.run_updateRuns h (fun _ => rfl)]
  by_cases hid : runId = p.runId
  · subst hid
    rw [if_pos rfl, hrun]
    simp [Table.changed, DB.run_runId hrun, ht, hv]
  · rw [if_neg hid]
    cases hr : db.run runId with
    | none => rfl
    | some run' =>
      have hne : run'.runId ≠ p.runId := by rw [DB.run_runId hr]; exact hid
      simp [Table.changed, hne]

theorem commitStepTx_committed {p : CommitStep} {env : Env} {db db' : DB}
    (h : commitStepTx p env db = .ok ((), db')) :
    ∃ run, p.Committed env.now run db db' := by
  unfold commitStepTx at h
  split at h
  · exact absurd h (by simp)
  · rename_i run hrun
    obtain ⟨hfound, hcond⟩ := Option.filter_eq_some_iff.mp hrun
    simp only [decide_eq_true_eq] at hcond
    obtain ⟨db₁, hrec, h⟩ := Except.bind_eq_ok.mp h
    obtain ⟨db₂, hev, h⟩ := Except.bind_eq_ok.mp h
    obtain ⟨db₃, hck, h⟩ := Except.bind_eq_ok.mp h
    obtain ⟨db₄, hup, h⟩ := Except.bind_eq_ok.mp h
    obtain rfl : db₄ = db' := congrArg Prod.snd (Except.ok.inj h)
    obtain ⟨records, hrecords, rfl⟩ := DB.completeMutation?_eq_ok hrec
    obtain ⟨events, hevents, hstep, rfl⟩ := DB.insertEvents_eq_ok hev
    obtain ⟨checkpoints, hrows, rfl⟩ := DB.insertCheckpoint_eq_ok hck
    have hruns := CommitStep.run_advance hup hfound hcond.1 hcond.2
    obtain ⟨runs, _, rfl⟩ := DB.updateRuns_eq_ok hup
    exact ⟨run, hfound, hcond.1, hcond.2, hrecords, hrows, hevents, hstep, hruns, rfl, rfl, rfl,
      rfl⟩

/-- The checkpoint with the highest sequence number of the run. -/
def DB.latestCheckpoint (db : DB) (runId : Uuid) : Option RunCheckpoint :=
  latestBy RunCheckpoint.checkpointSeq (fun _ => 0)
    (db.checkpoints.select fun c => c.runId = runId)

def loadLatestCheckpoint (runId : Uuid) (tenantId : String) : Tx (Option RunContext) :=
  fun _ db =>
    match (db.run runId).filter fun run => run.tenantId = tenantId with
    | none => .ok (none, db)
    | some _ => .ok ((db.latestCheckpoint runId).map RunCheckpoint.stateJson, db)

/-- `create_run`: `0` rows when the conversation is not the actor's. -/
def createRun (context : RunContext) (currentStep : String) (deadlineAt : ℕ)
    (parentRunId : Option Uuid) : Tx ℕ := fun env db =>
  if ∃ c ∈ db.conversations.rows, c.id = context.conversationId ∧
      c.tenantId = context.tenantId ∧ c.actorId = context.actorId then
    let run : AgentRun := {
      runId := context.runId
      conversationId := context.conversationId
      parentRunId := parentRunId
      tenantId := context.tenantId
      actorRef := context.actorId
      status := context.status
      workflowId := context.workflowId
      workflowVersion := context.workflowVersion
      currentStep := currentStep
      deadlineAt := deadlineAt
      createdAt := env.now }
    if ¬ run.Checked then .error .integrity
    else match db.runs.insert? run with
      | none => .error .integrity
      | some runs => .ok (1, { db with runs := runs })
  else .ok (0, db)

def activeForConversation (conversationId : Uuid) (tenantId actorId : String) :
    Tx (Option AgentRun) := fun env db =>
  .ok (latestBy AgentRun.createdAt (fun run => env.tieBreak run.runId)
    (db.runs.select fun run => run.conversationId = conversationId ∧ run.tenantId = tenantId ∧
      run.actorRef = actorId ∧ ¬ run.status.IsTerminal), db)

def cancelUnstartedRun (runId : Uuid) (tenantId reason : String) : Tx Unit := fun env db => do
  let db ← db.updateRuns
    (fun run => run.runId = runId ∧ run.tenantId = tenantId ∧ run.status = .created)
    fun run => { run with
      status := .cancelled
      terminalAt := some (run.terminalAt.getD env.now)
      currentStep := "terminal"
      terminalReason := some reason }
  .ok ((), db)

/-- What `select_route` writes for a decision. -/
def AgentRun.select (decision : RouteDecision) (run : AgentRun) : AgentRun :=
  match decision.outcome with
  | .handoff => { run with
      status := .waitingHuman
      currentStep := "terminal"
      terminalReason := some decision.reasonCode }
  | .askUser => { run with
      status := .waitingUser
      currentStep := "clarify"
      terminalReason := some decision.reasonCode }
  | .execute => { run with
      executionMode := decision.executionMode
      workflowId := decision.workflowId
      workflowVersion := decision.workflowVersion
      status := if decision.executionMode = some .readonlyLoop then .runningReadonly
        else .runningWorkflow }

/-- The transaction of `select_route`, with its row count. -/
def selectRouteTx (runId : Uuid) (tenantId : String) (decision : RouteDecision) : Tx ℕ :=
  fun _ db => do
    let p : AgentRun → Bool := fun run => run.runId = runId ∧ run.tenantId = tenantId ∧
      run.status ∈ [RunStatus.created, RunStatus.routing] ∧ run.executionMode = none
    let db' ← db.updateRuns p (AgentRun.select decision)
    .ok (db.runs.count p, db')

/-- A selection that finds a row finds the run before its first route. -/
theorem selectRouteTx_found {runId : Uuid} {tenantId : String} {decision : RouteDecision} {env : Env}
    {n : ℕ} {db db' : DB} (h : selectRouteTx runId tenantId decision env db = .ok (n, db')) (hn : 0 < n) :
    ∃ run, db.run runId = some run ∧ run.runId = runId ∧ run.tenantId = tenantId ∧
      run.status ∈ [RunStatus.created, RunStatus.routing] ∧ run.executionMode = none := by
  obtain ⟨db₁, _, h⟩ := Except.bind_eq_ok.mp h
  have hcount := congrArg Prod.fst (Except.ok.inj h)
  have hpos : 0 < db.runs.rows.countP (fun run => decide (run.runId = runId ∧ run.tenantId = tenantId ∧
      run.status ∈ [RunStatus.created, RunStatus.routing] ∧ run.executionMode = none)) := by
    simp only [Table.count] at hcount
    omega
  obtain ⟨run, hmem, hfound⟩ := List.countP_pos_iff.mp hpos
  have hfound := of_decide_eq_true hfound
  exact ⟨run, (Table.lookup_eq_some fun _ _ hid => .inl hid).mpr ⟨hmem, hfound.1⟩, hfound⟩

/-- The update of `_mark_failed`. -/
def markFailedTx (runId : Uuid) (tenantId reason : String) : Tx Unit := fun env db => do
  let db ← db.updateRuns
    (fun run => run.runId = runId ∧ run.tenantId = tenantId ∧ ¬ run.status.IsTerminal)
    fun run => { run with
      status := .failed
      currentStep := "terminal"
      terminalAt := some (run.terminalAt.getD env.now)
      terminalReason := some reason
      rowVersion := run.rowVersion + 1 }
  .ok ((), db)

/-- The statuses that the startup hook expires or dispatches again. -/
def RECOVERABLE : List RunStatus := [.created, .routing, .runningReadonly, .runningWorkflow]

/-- The expiry update of `recover_active_runs`. -/
def expireOverdueRuns (tenantId : String) : Tx Unit := fun env db => do
  let db ← db.updateRuns
    (fun run => run.tenantId = tenantId ∧ run.status ∈ RECOVERABLE ∧ run.deadlineAt ≤ env.now)
    fun run => { run with
      status := .expired
      currentStep := "terminal"
      terminalReason := some "DEADLINE_EXCEEDED_DURING_RESTART"
      rowVersion := run.rowVersion + 1 }
  .ok ((), db)

/-- The runs that `recover_active_runs` dispatches again. -/
def recoverableRuns (tenantId : String) : Tx (List AgentRun) := fun env db =>
  .ok (db.runs.select fun run =>
    run.tenantId = tenantId ∧ run.status ∈ RECOVERABLE ∧ env.now < run.deadlineAt, db)

inductive RunTx : Type → Type
  | loadRun (runId : Uuid) (tenantId : String) (actorId : Option String) : RunTx (Option AgentRun)
  | markDispatchStarted (runId : Uuid) (tenantId : String) : RunTx Unit
  | markResponsePublished (runId : Uuid) (tenantId : String) : RunTx Unit
  | setTerminalReason (runId : Uuid) (tenantId : String) (reason : Option String) : RunTx Unit
  | appendEvent (runId : Uuid) (tenantId : String) (eventType : EventType) (stepId : String)
      (payload : Dict) : RunTx ℕ
  | commitStep (p : CommitStep) : RunTx Unit
  | loadLatestCheckpoint (runId : Uuid) (tenantId : String) : RunTx (Option RunContext)
  | createRun (context : RunContext) (currentStep : String) (deadlineAt : ℕ)
      (parentRunId : Option Uuid) : RunTx ℕ
  | activeForConversation (conversationId : Uuid) (tenantId actorId : String)
      : RunTx (Option AgentRun)
  | cancelUnstartedRun (runId : Uuid) (tenantId reason : String) : RunTx Unit
  | selectRoute (runId : Uuid) (tenantId : String) (decision : RouteDecision) : RunTx ℕ
  | markFailed (runId : Uuid) (tenantId reason : String) : RunTx Unit
  | expireOverdueRuns (tenantId : String) : RunTx Unit
  | recoverableRuns (tenantId : String) : RunTx (List AgentRun)

namespace RunTx

def exec : {α : Type} → RunTx α → Tx α
  | _, .loadRun runId tenantId actorId => CommerceAgent.loadRun runId tenantId actorId
  | _, .markDispatchStarted runId tenantId => CommerceAgent.markDispatchStarted runId tenantId
  | _, .markResponsePublished runId tenantId => CommerceAgent.markResponsePublished runId tenantId
  | _, .setTerminalReason runId tenantId reason =>
    CommerceAgent.setTerminalReason runId tenantId reason
  | _, .appendEvent runId tenantId eventType stepId payload =>
    CommerceAgent.appendEvent runId tenantId eventType stepId payload
  | _, .commitStep p => commitStepTx p
  | _, .loadLatestCheckpoint runId tenantId => CommerceAgent.loadLatestCheckpoint runId tenantId
  | _, .createRun context currentStep deadlineAt parentRunId =>
    CommerceAgent.createRun context currentStep deadlineAt parentRunId
  | _, .activeForConversation conversationId tenantId actorId =>
    CommerceAgent.activeForConversation conversationId tenantId actorId
  | _, .cancelUnstartedRun runId tenantId reason =>
    CommerceAgent.cancelUnstartedRun runId tenantId reason
  | _, .selectRoute runId tenantId decision => selectRouteTx runId tenantId decision
  | _, .markFailed runId tenantId reason => markFailedTx runId tenantId reason
  | _, .expireOverdueRuns tenantId => CommerceAgent.expireOverdueRuns tenantId
  | _, .recoverableRuns tenantId => CommerceAgent.recoverableRuns tenantId

/-- The arguments of a `commit_step`, the one transaction that writes outside runs and events. -/
def commit? : {α : Type} → RunTx α → Option CommitStep
  | _, .commitStep p => some p
  | _, _ => none

/-- What a transaction writes to the event log of a run: the run, the step and the events. -/
def written? : {α : Type} → RunTx α → Option (Uuid × String × List DomainEvent)
  | _, .appendEvent runId _ eventType stepId payload =>
    some (runId, String.ofList (stepId.toList.take 64), [⟨eventType, payload⟩])
  | _, .commitStep p => some (p.runId, p.nextStep, p.events)
  | _, _ => none

theorem of_updateRuns {db db' : DB} {p : AgentRun → Bool} {f : AgentRun → AgentRun}
    {α : Type} {g : DB → α} {a : α}
    (h : (do let db ← db.updateRuns p f; (.ok (g db, db) : Except Exc (α × DB))) =
      .ok (a, db')) : db.updateRuns p f = .ok db' := by
  obtain ⟨db₁, hup, h⟩ := Except.bind_eq_ok.mp h
  obtain rfl : db₁ = db' := congrArg Prod.snd (Except.ok.inj h)
  exact hup

/-- Every transaction but the two that write events leaves all but the runs as it was. -/
theorem frame_runs {α : Type} {t : RunTx α} {env : Env} {db db' : DB} {a : α}
    (h : t.exec env db = .ok (a, db')) (ht : t.written? = none) :
    ∃ runs, db' = { db with runs := runs } := by
  have hread : ∀ {b : α}, Except.ok (b, db) = (.ok (a, db') : Except Exc (α × DB)) →
      ∃ runs, db' = { db with runs := runs } := by
    intro b hb
    obtain rfl : db = db' := congrArg Prod.snd (Except.ok.inj hb)
    exact ⟨db.runs, rfl⟩
  have hupdate : ∀ {p f}, db.updateRuns p f = .ok db' → ∃ runs, db' = { db with runs := runs } := by
    intro p f hup
    obtain ⟨runs, _, rfl⟩ := DB.updateRuns_eq_ok hup
    exact ⟨runs, rfl⟩
  cases t with
  | loadRun => exact hread h
  | markDispatchStarted => exact hupdate (of_updateRuns h)
  | markResponsePublished => exact hupdate (of_updateRuns h)
  | setTerminalReason => exact hupdate (of_updateRuns h)
  | appendEvent => exact absurd ht (by simp [written?])
  | commitStep p => exact absurd ht (by simp [written?])
  | loadLatestCheckpoint runId tenantId =>
    simp only [exec, CommerceAgent.loadLatestCheckpoint] at h
    split at h <;> exact hread h
  | createRun context currentStep deadlineAt parentRunId =>
    simp only [exec, CommerceAgent.createRun] at h
    split at h
    · split at h
      · exact absurd h (by simp)
      · split at h
        · exact absurd h (by simp)
        · rename_i runs _
          obtain rfl := congrArg Prod.snd (Except.ok.inj h)
          exact ⟨runs, rfl⟩
    · exact hread h
  | activeForConversation => exact hread h
  | cancelUnstartedRun => exact hupdate (of_updateRuns h)
  | selectRoute runId tenantId decision =>
    simp only [exec, selectRouteTx] at h
    obtain ⟨db₁, hup, h⟩ := Except.bind_eq_ok.mp h
    obtain rfl : db₁ = db' := congrArg Prod.snd (Except.ok.inj h)
    exact hupdate hup
  | markFailed => exact hupdate (of_updateRuns h)
  | expireOverdueRuns => exact hupdate (of_updateRuns h)
  | recoverableRuns => exact hread h

/-- Every transaction but `commit_step` writes runs and events only. -/
theorem frame {α : Type} {t : RunTx α} {env : Env} {db db' : DB} {a : α}
    (h : t.exec env db = .ok (a, db')) (ht : t.commit? = none) :
    ∃ runs events, db' = { db with runs := runs, events := events } := by
  by_cases hw : t.written? = none
  · obtain ⟨runs, rfl⟩ := frame_runs h hw
    exact ⟨runs, db.events, rfl⟩
  · cases t with
    | appendEvent runId tenantId eventType stepId payload =>
      obtain ⟨_, events, rfl, _⟩ := @appendEvent_eq_ok _ _ _ _ _ env _ _ _ h
      exact ⟨db.runs, events, rfl⟩
    | commitStep p => exact absurd ht (by simp [commit?])
    | _ => exact absurd rfl hw

/-- The rows that a transaction adds to the event log. -/
theorem events_after {α : Type} {t : RunTx α} {env : Env} {db db' : DB} {a : α}
    (h : t.exec env db = .ok (a, db')) : db'.events.rows = db.events.rows ++
      (t.written?.map fun w => eventRows w.1 w.2.1 (db.lastEventSeq w.1 + 1) w.2.2).getD [] := by
  by_cases hw : t.written? = none
  · obtain ⟨runs, rfl⟩ := frame_runs h hw
    rw [hw]
    exact (List.append_nil _).symm
  · cases t with
    | appendEvent runId tenantId eventType stepId payload =>
      obtain ⟨rfl, events, rfl, hrows⟩ := @appendEvent_eq_ok _ _ _ _ _ env _ _ _ h
      exact hrows
    | commitStep p =>
      obtain ⟨_, hcommit⟩ := commitStepTx_committed h
      exact hcommit.events
    | _ => exact absurd rfl hw

/-- The row of a run after a transaction that committed. -/
def rowAfter : {α : Type} → RunTx α → ℕ → AgentRun → AgentRun
  | _, .markDispatchStarted runId tenantId, now, run =>
    if run.runId = runId ∧ run.tenantId = tenantId then
      { run with dispatchStartedAt := some (run.dispatchStartedAt.getD now) }
    else run
  | _, .markResponsePublished runId tenantId, now, run =>
    if run.runId = runId ∧ run.tenantId = tenantId then
      { run with responsePublishedAt := some (run.responsePublishedAt.getD now) }
    else run
  | _, .setTerminalReason runId tenantId reason, now, run =>
    if run.runId = runId ∧ run.tenantId = tenantId then
      { run with
        terminalReason := reason
        terminalAt := some (run.terminalAt.getD now)
        rowVersion := run.rowVersion + 1 }
    else run
  | _, .commitStep p, now, run =>
    if run.runId = p.runId then run.advance p (run.lastCheckpointSeq + 1) now else run
  | _, .cancelUnstartedRun runId tenantId reason, now, run =>
    if run.runId = runId ∧ run.tenantId = tenantId ∧ run.status = .created then
      { run with
        status := .cancelled
        terminalAt := some (run.terminalAt.getD now)
        currentStep := "terminal"
        terminalReason := some reason }
    else run
  | _, .selectRoute runId tenantId decision, _, run =>
    if run.runId = runId ∧ run.tenantId = tenantId ∧
        run.status ∈ [RunStatus.created, RunStatus.routing] ∧ run.executionMode = none then
      run.select decision
    else run
  | _, .markFailed runId tenantId reason, now, run =>
    if run.runId = runId ∧ run.tenantId = tenantId ∧ ¬ run.status.IsTerminal then
      { run with
        status := .failed
        currentStep := "terminal"
        terminalAt := some (run.terminalAt.getD now)
        terminalReason := some reason
        rowVersion := run.rowVersion + 1 }
    else run
  | _, .expireOverdueRuns tenantId, now, run =>
    if run.tenantId = tenantId ∧ run.status ∈ RECOVERABLE ∧ run.deadlineAt ≤ now then
      { run with
        status := .expired
        currentStep := "terminal"
        terminalReason := some "DEADLINE_EXCEEDED_DURING_RESTART"
        rowVersion := run.rowVersion + 1 }
    else run
  | _, _, _, run => run

theorem run_of_updateRuns {db db' : DB} {p : AgentRun → Bool} {f : AgentRun → AgentRun}
    {runId : Uuid} {run : AgentRun} (h : db.updateRuns p f = .ok db')
    (hf : ∀ run, (f run).runId = run.runId) (hrow : db.run runId = some run) :
    db'.run runId = some (if p run then f run else run) := by
  rw [DB.run_updateRuns h hf, hrow]
  rfl

theorem select_runId (decision : RouteDecision) (run : AgentRun) :
    (run.select decision).runId = run.runId := by
  unfold AgentRun.select
  split <;> rfl

/-- No transaction removes a run, and the row that it leaves is a function of the row it found. -/
theorem run_after {α : Type} {t : RunTx α} {env : Env} {db db' : DB} {a : α} {runId : Uuid}
    {run : AgentRun} (h : t.exec env db = .ok (a, db')) (hrow : db.run runId = some run) :
    db'.run runId = some (t.rowAfter env.now run) := by
  have hread : ∀ {b : α}, Except.ok (b, db) = (.ok (a, db') : Except Exc (α × DB)) →
      db'.run runId = some run := by
    intro b hb
    obtain rfl : db = db' := congrArg Prod.snd (Except.ok.inj hb)
    exact hrow
  cases t with
  | loadRun => exact hread h
  | loadLatestCheckpoint id tenantId =>
    simp only [exec, CommerceAgent.loadLatestCheckpoint] at h
    split at h <;> exact hread h
  | activeForConversation => exact hread h
  | recoverableRuns => exact hread h
  | appendEvent id tenantId eventType stepId payload =>
    obtain ⟨_, events, rfl, _⟩ := @appendEvent_eq_ok _ _ _ _ _ env _ _ _ h
    exact hrow
  | markDispatchStarted =>
    rw [run_of_updateRuns (of_updateRuns h) (fun _ => rfl) hrow]
    simp only [rowAfter, decide_eq_true_eq]
  | markResponsePublished =>
    rw [run_of_updateRuns (of_updateRuns h) (fun _ => rfl) hrow]
    simp only [rowAfter, decide_eq_true_eq]
  | setTerminalReason =>
    rw [run_of_updateRuns (of_updateRuns h) (fun _ => rfl) hrow]
    simp only [rowAfter, decide_eq_true_eq]
  | cancelUnstartedRun =>
    rw [run_of_updateRuns (of_updateRuns h) (fun _ => rfl) hrow]
    simp only [rowAfter, decide_eq_true_eq]
  | markFailed =>
    rw [run_of_updateRuns (of_updateRuns h) (fun _ => rfl) hrow]
    simp only [rowAfter, decide_eq_true_eq]
  | expireOverdueRuns =>
    rw [run_of_updateRuns (of_updateRuns h) (fun _ => rfl) hrow]
    simp only [rowAfter, decide_eq_true_eq]
  | selectRoute id tenantId decision =>
    simp only [exec, selectRouteTx] at h
    obtain ⟨db₁, hup, h⟩ := Except.bind_eq_ok.mp h
    obtain rfl : db₁ = db' := congrArg Prod.snd (Except.ok.inj h)
    rw [run_of_updateRuns hup (select_runId decision) hrow]
    simp only [rowAfter, decide_eq_true_eq]
  | commitStep p =>
    obtain ⟨row, hcommit⟩ := commitStepTx_committed h
    -- The commit replaces the row of its own run, which is the one that it found.
    have hid : run.runId = runId := DB.run_runId hrow
    rw [hcommit.runs, rowAfter, hid]
    by_cases hp : runId = p.runId
    · subst hp
      obtain rfl := Option.some.inj (hrow.symm.trans hcommit.found)
      rw [if_pos rfl, if_pos rfl]
    · rw [if_neg hp, if_neg hp]
      exact hrow
  | createRun context currentStep deadlineAt parentRunId =>
    simp only [exec, CommerceAgent.createRun] at h
    split at h
    · split at h
      · exact absurd h (by simp)
      · split at h
        · exact absurd h (by simp)
        · rename_i runs hinsert
          obtain rfl := congrArg Prod.snd (Except.ok.inj h)
          exact DB.run_insert hinsert hrow
    · exact hread h

end RunTx

end CommerceAgent
