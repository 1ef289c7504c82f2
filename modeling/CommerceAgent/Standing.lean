import CommerceAgent.Executor
import CommerceAgent.Lifecycle
import CommerceAgent.EndedRuns

/-! Where a run stands: its row beside its latest checkpoint, while the database answers. -/
namespace CommerceAgent

open Json Tables Programs

/-- The database did not answer, or refused a row. -/
def Event.outage (e : Event) : Bool :=
  match e.answer with
  | .error .database => true
  | .error .integrity => true
  | _ => false

/-- The runtime while the database answers. -/
def serving : Machine Op Exc DB := store.restrict fun e => Event.outage e = false

/-- The status and the version of a run's row, and the context of its latest checkpoint. -/
structure Stands (runId : Uuid) (tenantId : String) (status : RunStatus) (version : ℕ)
    (latest : Option RunContext) (db : DB) : Prop where
  row : ∃ row, db.run runId = some row ∧ row.tenantId = tenantId ∧ row.status = status ∧
    row.rowVersion = version ∧
    ∀ c ∈ db.checkpoints.rows, c.runId = runId → c.checkpointSeq ≤ row.lastCheckpointSeq
  latest : (db.latestCheckpoint runId).map RunCheckpoint.stateJson = latest

/-- The transactions that leave status and version of every run as they are. -/
def RunTx.KeepsRow : {α : Type} → RunTx α → Prop
  | _, .setTerminalReason _ _ _ => False
  | _, t => t.KeepsStatus

def Op.KeepsRow {α : Type} : Op α → Prop
  | .runs t => t.KeepsRow
  | _ => True

section Serving

variable {α : Type} {db db' : DB} {o : Op α} {r : Except Exc α}

theorem serving_effect (h : serving db o r db') : o.Effect db r db' := store_effect h.1

/-- While the database answers, a transaction commits or raises an error of its own. -/
theorem serving_tx {tx : Tx α} (h : serving db o r db') (ht : o.tx? = some tx) :
    (∃ env a, r = .ok a ∧ tx env db = .ok (a, db')) ∨
      ∃ env e, r = .error e ∧ tx env db = .error e ∧ db' = db ∧
        e ≠ .database ∧ e ≠ .integrity := by
  obtain ⟨⟨c, hc⟩, hup⟩ := h
  have hsettle : settle c.fault db (tx c.env db) = (r, db') := by
    cases o with
    | world w => exact absurd ht (by simp [Op.tx?])
    | _ =>
      obtain rfl := Option.some.inj ht
      exact hc
  unfold settle at hsettle
  split at hsettle
  · obtain ⟨rfl, rfl⟩ := Prod.mk.inj hsettle
    exact absurd hup (by simp [Event.outage])
  · split at hsettle
    · rename_i a db₁ hx
      obtain ⟨rfl, rfl⟩ := Prod.mk.inj hsettle
      exact .inl ⟨c.env, a, rfl, hx⟩
    · rename_i e hx
      obtain ⟨rfl, rfl⟩ := Prod.mk.inj hsettle
      refine .inr ⟨c.env, e, rfl, hx, rfl, ?_, ?_⟩
      · rintro rfl
        exact absurd hup (by simp [Event.outage])
      · rintro rfl
        exact absurd hup (by simp [Event.outage])

/-- No operation adds or removes a conversation. -/
theorem Op.Effect.conversations_eq (h : o.Effect db r db') :
    db'.conversations = db.conversations := by
  cases h.writes with
  | commit _ _ h => exact h.others.2.2.2
  | consume _ _ h =>
    obtain ⟨_, _, rfl⟩ := h.others
    rfl
  | runs _ h =>
    obtain ⟨_, _, rfl⟩ := h
    rfl
  | nothing h =>
    subst h
    rfl
  | tokens _ h | records h _ | tickets _ h | messages _ h =>
    obtain ⟨_, rfl⟩ := h
    rfl

end Serving

section Stands

variable {α : Type} {runId : Uuid} {tenantId : String} {status : RunStatus} {version : ℕ}
  {latest : Option RunContext} {db db' : DB}

theorem rowAfter_of_keepsRow {t : RunTx α} (ht : t.KeepsRow) (now : ℕ) (run : AgentRun) :
    (t.rowAfter now run).tenantId = run.tenantId ∧ (t.rowAfter now run).status = run.status ∧
      (t.rowAfter now run).rowVersion = run.rowVersion ∧
      (t.rowAfter now run).lastCheckpointSeq = run.lastCheckpointSeq := by
  cases t with
  | markDispatchStarted _ _ | markResponsePublished _ _ =>
    rw [RunTx.rowAfter]
    split <;> exact ⟨rfl, rfl, rfl, rfl⟩
  | loadRun | appendEvent | loadLatestCheckpoint | activeForConversation | recoverableRuns =>
    exact ⟨rfl, rfl, rfl, rfl⟩
  | setTerminalReason | commitStep | createRun | cancelUnstartedRun | selectRoute | markFailed
  | expireOverdueRuns =>
    exact absurd ht id

theorem RunTx.KeepsRow.keepsStatus {t : RunTx α} (ht : t.KeepsRow) : t.KeepsStatus := by
  cases t with
  | setTerminalReason => exact absurd ht id
  | _ => exact ht

theorem checkpoints_of_keepsStatus {t : RunTx α} (ht : t.KeepsStatus) {env : Env} {a : α}
    (hx : t.exec env db = .ok (a, db')) : db'.checkpoints = db.checkpoints := by
  have hcommit : t.commit? = none := by
    cases t with
    | commitStep p => exact absurd ht id
    | _ => rfl
  obtain ⟨runs, events, rfl⟩ := RunTx.frame hx hcommit
  rfl

/-- A run stands where it stood after an operation that does not move its row. -/
theorem Stands.effect {o : Op α} {r : Except Exc α} (h : Stands runId tenantId status version
    latest db) (heff : o.Effect db r db') (ho : o.KeepsRow) :
    Stands runId tenantId status version latest db' := by
  obtain ⟨⟨row, hrow, htenant, hstatus, hversion, hseq⟩, hlatest⟩ := h
  have hsame : db'.checkpoints = db.checkpoints →
      (∃ row', db'.run runId = some row' ∧ row'.tenantId = row.tenantId ∧
        row'.status = row.status ∧ row'.rowVersion = row.rowVersion ∧
        row'.lastCheckpointSeq = row.lastCheckpointSeq) →
      Stands runId tenantId status version latest db' := by
    rintro hchk ⟨row', hrow', ht, hs, hv, hl⟩
    refine ⟨⟨row', hrow', ht.trans htenant, hs.trans hstatus, hv.trans hversion, ?_⟩, ?_⟩
    · rw [hchk, hl]
      exact hseq
    · rw [DB.latestCheckpoint, hchk]
      exact hlatest
  by_cases hs : o.SparesRuns
  · obtain ⟨hruns, hchk, _⟩ := heff.runs_eq hs
    refine hsame hchk ⟨row, ?_, rfl, rfl, rfl, rfl⟩
    rw [DB.run, hruns]
    exact hrow
  · cases o with
    | runs t =>
      rcases heff with ⟨_, _, rfl⟩ | ⟨env, a, _, hx⟩
      · exact hsame rfl ⟨row, hrow, rfl, rfl, rfl, rfl⟩
      · refine hsame (checkpoints_of_keepsStatus (RunTx.KeepsRow.keepsStatus ho) hx)
          ⟨_, RunTx.run_after hx hrow, ?_⟩
        exact rowAfter_of_keepsRow ho env.now row
    | _ => exact absurd trivial hs

/-- A committed checkpoint is where the run stands next. -/
theorem Stands.commit {p : CommitStep} {now : ℕ} {run : AgentRun}
    (h : Stands runId tenantId status version latest db) (hc : p.Committed now run db db')
    (hid : p.runId = runId) :
    Stands runId tenantId p.nextStatus (version + 1) (some p.checkpoint) db' := by
  obtain ⟨⟨row, hrow, htenant, _, hversion, hseq⟩, _⟩ := h
  subst hid
  obtain rfl := Option.some.inj (hc.found.symm.trans hrow)
  refine ⟨⟨_, (hc.runs p.runId).trans (if_pos rfl), htenant, rfl, ?_, ?_⟩, ?_⟩
  · exact congrArg Nat.succ hversion
  · intro c hcm hcid
    rw [hc.checkpoint] at hcm
    rcases List.mem_append.mp hcm with hcm | hcm
    · exact Nat.le_succ_of_le (hseq c hcm hcid)
    · obtain rfl := List.mem_singleton.mp hcm
      exact Nat.le_refl _
  · have hselect : (db'.checkpoints.select fun c => c.runId = p.runId) =
        (db.checkpoints.select fun c => c.runId = p.runId) ++
          [⟨p.runId, run.lastCheckpointSeq + 1, p.nextStep, p.checkpoint,
            db.lastEventSeq p.runId + 1, db.lastEventSeq p.runId + 1 + p.events.length - 1⟩] := by
      rw [Table.select, hc.checkpoint, List.filter_append]
      simp [Table.select]
    rw [DB.latestCheckpoint, hselect, latestBy_snoc, Option.map_some]
    intro c hcm
    obtain ⟨hmem, hcid⟩ := List.mem_filter.mp hcm
    exact Nat.lt_succ_of_le (hseq c hmem (of_decide_eq_true hcid))

end Stands

/-- A refusal that counts as an outage. -/
def Exc.Refusal (e : Exc) : Prop := e = .database ∨ e = .integrity

section Refusals

variable {db : DB} {e : Exc}

theorem DB.updateRuns_error {p : AgentRun → Bool} {f : AgentRun → AgentRun}
    (h : db.updateRuns p f = .error e) : e.Refusal := by
  unfold DB.updateRuns at h
  split at h
  · exact .inl (Except.error.inj h).symm
  · split at h
    · exact .inr (Except.error.inj h).symm
    · split at h
      · exact .inr (Except.error.inj h).symm
      · exact absurd h (by simp)

theorem DB.insertEvents_error {runId : Uuid} {stepId : String} {events : List DomainEvent} :
    ∀ {db : DB} {seq : ℕ}, db.insertEvents runId stepId seq events = .error e → e.Refusal := by
  induction events with
  | nil =>
    intro db seq h
    exact absurd h (by simp [DB.insertEvents])
  | cons event events ih =>
    intro db seq h
    unfold DB.insertEvents at h
    split at h
    · exact .inl (Except.error.inj h).symm
    · split at h
      · exact .inr (Except.error.inj h).symm
      · exact ih h

theorem commitStepTx_stale {p : CommitStep} {env : Env} {run : AgentRun}
    (hrun : db.run p.runId = some run) (hv : run.rowVersion ≠ p.expectedVersion) :
    commitStepTx p env db = .error (.versionConflict "run is unavailable or stale") := by
  have hnone : (db.run p.runId).filter (fun run =>
      run.tenantId = p.tenantId ∧ run.rowVersion = p.expectedVersion) = none := by
    rw [hrun]
    simp [hv]
  simp only [commitStepTx, hnone]

/-- A plain checkpoint of the version that the row has can only be refused. -/
theorem commitStepTx_error {p : CommitStep} {env : Env} {run : AgentRun}
    (h : commitStepTx p env db = .error e) (hplain : p.mutationCompletion = none)
    (hrun : db.run p.runId = some run) (ht : run.tenantId = p.tenantId)
    (hv : run.rowVersion = p.expectedVersion) : e.Refusal := by
  have hfound : (db.run p.runId).filter (fun run =>
      run.tenantId = p.tenantId ∧ run.rowVersion = p.expectedVersion) = some run := by
    rw [hrun]
    simp [ht, hv]
  simp only [commitStepTx, hfound, hplain, DB.completeMutation?] at h
  rcases Except.bind_eq_error h with h | ⟨_, hdb, h⟩
  · exact absurd h (by simp)
  rcases Except.bind_eq_error h with h | ⟨db₁, _, h⟩
  · exact DB.insertEvents_error h
  rcases Except.bind_eq_error h with h | ⟨db₂, _, h⟩
  · unfold DB.insertCheckpoint at h
    split at h
    · exact .inr (Except.error.inj h).symm
    · exact absurd h (by simp)
  rcases Except.bind_eq_error h with h | ⟨_, _, h⟩
  · exact DB.updateRuns_error h
  · exact absurd h (by simp)

end Refusals

/-- The run has ended. -/
def Ended (runId : Uuid) (db : DB) : Prop := ∃ row, db.run runId = some row ∧ row.status.IsTerminal

section Rules

variable {α : Type} {runId : Uuid} {tenantId : String} {status : RunStatus} {version : ℕ}
  {latest : Option RunContext} {db : DB} {π : Platform}

/-- The operations that write no checkpoint. -/
def Op.Uncommitting {α : Type} (o : Op α) : Prop := o.commit? = none

theorem status_rowAfter_of_terminal {t : RunTx α} (ht : t.commit? = none) {now : ℕ}
    {run : AgentRun} (hended : run.status.IsTerminal) :
    (t.rowAfter now run).status = run.status := by
  cases t with
  | markDispatchStarted _ _ | markResponsePublished _ _ | setTerminalReason _ _ _ =>
    rw [RunTx.rowAfter]
    split <;> rfl
  | loadRun | appendEvent | loadLatestCheckpoint | createRun | activeForConversation
  | recoverableRuns =>
    rfl
  | commitStep p => exact absurd ht (by simp [RunTx.commit?])
  | cancelUnstartedRun runId tenantId reason =>
    refine congrArg AgentRun.status (if_neg ?_)
    rintro ⟨_, _, hcreated⟩
    exact absurd hended (by rw [hcreated]; decide)
  | selectRoute runId tenantId decision =>
    refine congrArg AgentRun.status (if_neg ?_)
    rintro ⟨_, _, hopen, _⟩
    exact not_terminal_of_recoverable (List.mem_append_left [.runningReadonly, .runningWorkflow]
      hopen) hended
  | markFailed runId tenantId reason =>
    refine congrArg AgentRun.status (if_neg ?_)
    exact fun hopen => hopen.2.2 hended
  | expireOverdueRuns tenantId =>
    refine congrArg AgentRun.status (if_neg ?_)
    exact fun hopen => not_terminal_of_recoverable hopen.2.1 hended

/-- The run has this status. -/
def EndedAs (runId : Uuid) (status : RunStatus) (db : DB) : Prop :=
  ∃ row, db.run runId = some row ∧ row.status = status

theorem EndedAs.ended (h : EndedAs runId status db) (hended : status.IsTerminal) : Ended runId db := by
  obtain ⟨row, hrow, rfl⟩ := h
  exact ⟨row, hrow, hended⟩

theorem EndedAs.effect {db' : DB} {o : Op α} {r : Except Exc α} (h : EndedAs runId status db)
    (hended : status.IsTerminal) (heff : o.Effect db r db') (ho : o.Uncommitting) :
    EndedAs runId status db' := by
  obtain ⟨row, hrow, rfl⟩ := h
  by_cases hs : o.SparesRuns
  · refine ⟨row, ?_, rfl⟩
    rw [DB.run, (heff.runs_eq hs).1]
    exact hrow
  · cases o with
    | runs t =>
      rcases heff with ⟨_, _, rfl⟩ | ⟨env, a, _, hx⟩
      · exact ⟨row, hrow, rfl⟩
      · exact ⟨_, RunTx.run_after hx hrow, status_rowAfter_of_terminal ho hended⟩
    | _ => exact absurd trivial hs

theorem EndedAs.keeps {p : Act α} (h : EndedAs runId status db) (hended : status.IsTerminal)
    (hp : Uses Op.Uncommitting p) :
    Safe serving (fun _ {_} _ => True) (fun _ db' => EndedAs runId status db') p db := by
  refine (hp.keeps ?_ h).mono (fun _ _ _ _ => trivial) fun _ _ hs => hs
  intro db β o r db' hs ho hm
  exact hs.effect hended (serving_effect hm) ho

theorem Ended.keeps {p : Act α} (h : Ended runId db) (hp : Uses Op.Uncommitting p) :
    Safe serving (fun _ {_} _ => True) (fun _ db' => Ended runId db') p db := by
  obtain ⟨row, hrow, hended⟩ := h
  have hkept := EndedAs.keeps ⟨row, hrow, rfl⟩ hended hp
  exact hkept.post fun _ _ hs => hs.ended hended

theorem Op.Publishes.uncommitting {o : Op α} (ho : o.Publishes) : o.Uncommitting := by
  cases o with
  | runs t =>
    cases t with
    | commitStep p => exact absurd ho id
    | _ => rfl
  | _ => rfl

theorem Stands.keeps {p : Act α} (h : Stands runId tenantId status version latest db)
    (hp : Uses Op.KeepsRow p) :
    Safe serving (fun _ {_} _ => True)
      (fun _ db' => Stands runId tenantId status version latest db') p db := by
  refine (hp.keeps ?_ h).mono (fun _ _ _ _ => trivial) fun _ _ hs => hs
  intro db β o r db' hs ho hm
  exact hs.effect (serving_effect hm) ho

/-- What a plain checkpoint does: it is committed if its version is the row's, and conflicts
otherwise. -/
def Checkpointed (runId : Uuid) (tenantId : String) (status : RunStatus) (version : ℕ)
    (latest : Option RunContext) (context : RunContext) (next : RunStatus) (state : Dict) :
    Except Exc ℕ → DB → Prop
  | .ok _, db => context.checkpointVersion = version ∧
      Stands runId tenantId next (version + 1) (some (context.next next state)) db
  | .error e, db => context.checkpointVersion ≠ version ∧ (∃ m, e = .versionConflict m) ∧
      Stands runId tenantId status version latest db

theorem Stands.safe_checkpoint {context : RunContext} {next : RunStatus} {nextStep : String}
    {state : Dict} {event : DomainEvent} {events : List DomainEvent}
    (h : Stands runId tenantId status version latest db) (hid : context.runId = runId)
    (htenant : context.tenantId = tenantId) :
    Safe serving (fun _ {_} _ => True)
      (Checkpointed runId tenantId status version latest context next state)
      (checkpoint context next nextStep state (event :: events)) db := by
  obtain ⟨row, hrow, ht, _, hv, _⟩ := h.row
  subst hid htenant
  unfold checkpoint commitCheckpoint commitStep
  simp only [Option.isSome_none, Bool.false_eq_true, false_and, if_false, checkpointStep,
    List.isEmpty_cons, Option.any_none, safe_bind]
  rw [safe_perform]
  refine ⟨trivial, ?_⟩
  intro r db' hm
  rcases serving_tx hm rfl with ⟨env, a, rfl, hx⟩ | ⟨env, e, rfl, hx, rfl, hdown, hrefused⟩
  · obtain ⟨run, hc⟩ := commitStepTx_committed hx
    obtain rfl := Option.some.inj (hc.found.symm.trans hrow)
    have hversion : context.checkpointVersion = version := hc.version.symm.trans hv
    have hafter := h.commit hc rfl
    rw [thenSafe_ok, safe_bind, safe_perform]
    refine ⟨trivial, ?_⟩
    intro r db'' hm'
    have hread := hafter.effect (serving_effect hm') trivial
    obtain ⟨row', hrow', ht', _⟩ := hafter.row
    rcases serving_tx hm' rfl with ⟨_, snapshot, rfl, hx'⟩ | ⟨_, e, _, hx', _⟩
    · obtain ⟨hsnapshot, _⟩ := Prod.mk.inj (Except.ok.inj hx')
      have hfound : snapshot = some row' := by
        rw [← hsnapshot, hrow']
        simp [ht']
      subst hfound
      exact ⟨hversion, hread⟩
    · exact absurd hx' (by simp [RunTx.exec, loadRun])
  · have hstale : context.checkpointVersion ≠ version := by
      intro hversion
      rcases commitStepTx_error hx rfl hrow ht (hv.trans hversion.symm) with rfl | rfl
      · exact hdown rfl
      · exact hrefused rfl
    refine ⟨hstale, ?_, h⟩
    have hconflict := @commitStepTx_stale db' (checkpointStep context next nextStep state
      (event :: events) none) env row hrow fun hexpected => hstale (hexpected.symm.trans hv)
    have hsame := hx.symm.trans hconflict
    exact ⟨_, Except.error.inj hsame⟩

/-- The read of the latest checkpoint of a run of the tenant. -/
theorem Stands.safe_load (h : Stands runId tenantId status version latest db) :
    Safe serving (fun _ {_} _ => True) (fun r db' => r = .ok latest ∧ db' = db)
      (Prog.perform (.runs (.loadLatestCheckpoint runId tenantId))) db := by
  obtain ⟨row, hrow, ht, _⟩ := h.row
  rw [safe_perform]
  refine ⟨trivial, ?_⟩
  intro r db' hm
  have hload : ∀ env : Env, loadLatestCheckpoint runId tenantId env db = .ok (latest, db) := by
    intro env
    have hfound : (db.run runId).filter (fun run => run.tenantId = tenantId) = some row := by
      rw [hrow]
      simp [ht]
    simp only [loadLatestCheckpoint, hfound, h.latest]
  rcases serving_tx hm rfl with ⟨env, found, rfl, hx⟩ | ⟨env, e, rfl, hx, _⟩
  · obtain ⟨rfl, rfl⟩ := Prod.mk.inj (Except.ok.inj ((hload env).symm.trans hx))
    exact ⟨rfl, rfl⟩
  · exact absurd ((hload env).symm.trans hx) (by simp)

theorem uses_observe_of {P : {β : Type} → Op β → Prop} (job : Dispatch)
    (hP : ∀ eventType step payload, P (.runs (.appendEvent job.runId job.tenantId eventType step
      payload))) (eventType : EventType) (step : String) (payload : Dict) :
    Uses P (job.observe eventType step payload) := by
  unfold Dispatch.observe
  exact .handle (.bind (.perform (hP _ _ _)) fun _ => .pure _) fun _ => .pure _

theorem uses_recordRelease_of {P : {β : Type} → Op β → Prop} (job : Dispatch)
    {route : Option String} (hP : P (.world (.assignRelease job.runId route))) :
    Uses P (job.recordRelease route) := by
  unfold Dispatch.recordRelease
  exact .handle (.perform hP) fun _ => .pure _

attribute [local irreducible] publishTerminalResponse

/-- The calls of a failure. -/
theorem uses_markFailed_of {P : {β : Type} → Op β → Prop}
    {observe : EventType → String → Dict → Act Unit} {context : RunContext} {reason : String}
    (hmark : P (.runs (.markFailed context.runId context.tenantId reason)))
    (hpublish : ∀ {β : Type} (o : Op β), o.Publishes → P o)
    (hobserve : ∀ eventType step payload, Uses P (observe eventType step payload)) :
    Uses P (markFailed π observe context reason) := by
  unfold markFailed
  refine .bind (.perform hmark) fun _ => .bind (.handle ?_ fun _ => .handle ?_ fun _ => .pure _)
    fun _ => hobserve _ _ _
  · exact .bind ((uses_publishTerminalResponse _).mono hpublish) fun _ => .pure _
  · exact .bind (.perform (hpublish _ trivial)) fun _ => .pure _

/-- The status of a run that is marked as failed. -/
def RunStatus.failing (status : RunStatus) : RunStatus := if status.IsTerminal then status else .failed

theorem RunStatus.failing_terminal (status : RunStatus) : status.failing.IsTerminal := by
  unfold RunStatus.failing
  split
  · assumption
  · decide

/-- A run that is marked as failed has ended, however its answer fares. -/
theorem Stands.safe_markFailed {observe : EventType → String → Dict → Act Unit}
    {context : RunContext} {reason : String}
    (h : Stands runId tenantId status version latest db) (hid : context.runId = runId)
    (htenant : context.tenantId = tenantId)
    (hobserve : ∀ eventType step payload, Uses Op.Uncommitting (observe eventType step payload)) :
    Safe serving (fun _ {_} _ => True) (fun _ db' => EndedAs runId status.failing db')
      (markFailed π observe context reason) db := by
  obtain ⟨row, hrow, ht, hs, _⟩ := h.row
  subst hid htenant hs
  unfold markFailed
  rw [safe_bind, safe_perform]
  refine ⟨trivial, ?_⟩
  intro r db' hm
  rcases serving_tx hm rfl with ⟨env, a, rfl, hx⟩ | ⟨env, e, rfl, hx, rfl, hdown, hrefused⟩
  · have hended : EndedAs context.runId row.status.failing db' := by
      refine ⟨_, RunTx.run_after hx hrow, ?_⟩
      rw [RunTx.rowAfter, RunStatus.failing]
      by_cases hopen : row.status.IsTerminal
      · rw [if_neg fun hmark => hmark.2.2 hopen, if_pos hopen]
      · rw [if_pos ⟨DB.run_runId hrow, ht, hopen⟩, if_neg hopen]
    rw [thenSafe_ok]
    refine hended.keeps row.status.failing_terminal (.bind (.handle ?_ fun _ => .handle ?_ fun _ =>
      .pure _) fun _ => hobserve _ _ _)
    · exact .bind ((uses_publishTerminalResponse _).mono fun _ ho => ho.uncommitting) fun _ =>
        .pure _
    · exact .bind (.perform rfl) fun _ => .pure _
  · have herror : e.Refusal := by
      rcases Except.bind_eq_error hx with hx | ⟨_, _, hx⟩
      · exact DB.updateRuns_error hx
      · exact absurd hx (by simp)
    rcases herror with rfl | rfl
    · exact absurd rfl hdown
    · exact absurd rfl hrefused

end Rules

end CommerceAgent
