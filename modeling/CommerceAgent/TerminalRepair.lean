import CommerceAgent.OneResponse
import CommerceAgent.RunConstraints
import CommerceAgent.Histories
import Mathlib.Data.List.Sort

/-! `_repair_missing_terminal_responses`: the answers that ended runs still owe. -/
namespace CommerceAgent

open Json Tables Programs Histories

/-- One run of the repair: the column `updated_at` as its scan finds it, and the surroundings of
the publication for each run. -/
structure Repairing where
  updatedAt : Uuid → ℕ
  env : Uuid → Env

/-- A program that nothing disturbs: every transaction runs, and nothing is asked of the world. -/
def undisturbed (env : Env) : Choice := ⟨env, false, fun _ => .error .database⟩

def serve {α : Type} (env : Env) : Act α → DB → Except Exc α × DB
  | .ret a, db => (.ok a, db)
  | .raise e, db => (.error e, db)
  | .call o k, db =>
    let (r, db') := respond (undisturbed env) db o
    serve env (k r) db'

/-- The ended runs of a tenant. -/
def DB.ended (db : DB) (tenantId : String) : List AgentRun :=
  db.runs.select fun run => run.tenantId = tenantId ∧ run.status.IsTerminal

def DB.unanswered (db : DB) (tenantId : String) : List AgentRun :=
  (db.ended tenantId).filter fun run => (db.terminalMessages run.runId).isEmpty

def terminalRunsWithoutResponse (tenantId : String) (limit : ℕ) (updatedAt : Uuid → ℕ) (db : DB) :
    Except Exc (List AgentRun) :=
  if ¬ (1 ≤ limit ∧ limit ≤ 500) then .error (.valueError "limit must be between 1 and 500")
  else .ok (((db.unanswered tenantId).insertionSort fun a b =>
    updatedAt a.runId ≤ updatedAt b.runId).take limit)

def actorForRun (runId : Uuid) (tenantId : String) (db : DB) : Option String :=
  ((db.run runId).filter fun run => run.tenantId = tenantId).map AgentRun.actorRef

/-- `context_data`: the fields of the latest checkpoint under those of the row. -/
def contextData (tenantId : String) (run : AgentRun) (actor : String) (db : DB) : RunContext :=
  -- A run without a checkpoint gets the fields of its row and empty ones.
  let checkpoint := ((db.latestCheckpoint run.runId).map RunCheckpoint.stateJson).getD
    ⟨run.runId, run.conversationId, tenantId, actor, none, none, none, run.status, [], 0, 0⟩
  { checkpoint with
    runId := run.runId
    conversationId := run.conversationId
    tenantId := tenantId
    actorId := actor
    status := run.status }

def repairContext (tenantId : String) (run : AgentRun) (db : DB) : Except Exc RunContext :=
  match actorForRun run.runId tenantId db with
  | none => .error .validationError
  | some actor => (contextData tenantId run actor db).modelValidate

variable (π : Platform)

/-- The body of the loop, whose failure the loop goes past. -/
def repairRow (tenantId : String) (pass : Repairing) (db : DB) (run : AgentRun) : DB :=
  match repairContext tenantId run db with
  | .error _ => db
  | .ok context =>
    (serve (pass.env run.runId) (publishTerminalResponse π { context := context }) db).2

def repairMissingTerminalResponses (tenantId : String) (limit : ℕ) (pass : Repairing) (db : DB) :
    Except Exc DB := do
  let rows ← terminalRunsWithoutResponse tenantId limit pass.updatedAt db
  .ok (rows.foldl (repairRow π tenantId pass) db)

/-- The state after a complete run of the repair. -/
def repaired (tenantId : String) (limit : ℕ) (db : DB) (pass : Repairing) : DB :=
  match repairMissingTerminalResponses π tenantId limit pass db with
  | .ok db' => db'
  | .error _ => db

section Serve

variable {α β : Type} {env : Env} {db db' : DB}

theorem serve_bind_ok {p : Act α} {a : α} (h : serve env p db = (.ok a, db')) (f : α → Act β) :
    serve env (p >>= f) db = serve env (f a) db' := by
  induction p generalizing db with
  | ret b =>
    obtain ⟨hb, rfl⟩ := Prod.mk.inj h
    obtain rfl := Except.ok.inj hb
    rfl
  | raise e => exact absurd (congrArg Prod.fst h) (by simp [serve])
  | call o k ih => exact ih _ h

theorem serve_bind_error {p : Act α} {e : Exc} (h : serve env p db = (.error e, db'))
    (f : α → Act β) :
    serve env (p >>= f) db = (.error e, db') := by
  induction p generalizing db with
  | ret b => exact absurd (congrArg Prod.fst h) (by simp [serve])
  | raise e' =>
    obtain ⟨he, rfl⟩ := Prod.mk.inj h
    obtain rfl := Except.error.inj he
    rfl
  | call o k ih => exact ih _ h

theorem serve_perform {o : Op α} {r : Except Exc α} (h : respond (undisturbed env) db o = (r, db')) :
    serve env (.perform o) db = (r, db') := by
  change serve env (Prog.ofExcept (respond (undisturbed env) db o).1)
    (respond (undisturbed env) db o).2 = _
  rw [h]
  cases r <;> rfl

theorem serve_handle_ok {p : Act α} {a : α} (h : serve env p db = (.ok a, db')) (f : Exc → Act α) :
    serve env (p.handle f) db = (.ok a, db') := by
  induction p generalizing db with
  | ret b => exact h
  | raise e => exact absurd (congrArg Prod.fst h) (by simp [serve])
  | call o k ih => exact ih _ h

/-- What is served is an execution on the store. -/
theorem serve_exec (p : Act α) (db : DB) :
    ∃ t q, Exec store p db t q (serve env p db).2 ∧ q.outcome? = some (serve env p db).1 := by
  induction p generalizing db with
  | ret a => exact ⟨[], .ret a, .stop _ _, rfl⟩
  | raise e => exact ⟨[], .raise e, .stop _ _, rfl⟩
  | call o k ih =>
    obtain ⟨t, q, hexec, hend⟩ := ih (respond (undisturbed env) db o).1
      (respond (undisturbed env) db o).2
    exact ⟨_, q, .step ⟨undisturbed env, rfl⟩ hexec, hend⟩

end Serve

/-- What the repair leaves of the row of a run. -/
def AgentRun.standing (run : AgentRun) : Uuid × Uuid × String × String × RunStatus ×
    Option ExecutionMode × Option String × Option String :=
  (run.runId, run.conversationId, run.tenantId, run.actorRef, run.status, run.executionMode,
    run.workflowId, run.workflowVersion)

/-- The repair touches neither conversations nor checkpoints, nor the standing of the runs. -/
structure Unmoved (db db' : DB) : Prop where
  conversations : db'.conversations = db.conversations
  checkpoints : db'.checkpoints = db.checkpoints
  standing : db'.runs.rows.map AgentRun.standing = db.runs.rows.map AgentRun.standing

theorem Unmoved.refl (db : DB) : Unmoved db db := ⟨rfl, rfl, rfl⟩

theorem Unmoved.trans {db db' db'' : DB} (h : Unmoved db db') (h' : Unmoved db' db'') :
    Unmoved db db'' :=
  ⟨h'.conversations.trans h.conversations, h'.checkpoints.trans h.checkpoints,
    h'.standing.trans h.standing⟩

/-- The runs satisfy the CHECK constraints, and only an assistant's message is a final answer. -/
structure DB.Checks (db : DB) : Prop where
  runs : ∀ run ∈ db.runs.rows, run.Checked
  answers : ∀ m ∈ db.messages.rows, m.isTerminal = true → m.role = "assistant"

section Transactions

variable {env : Env} {db db' : DB} {runId : Uuid} {tenantId : String}

theorem AgentRun.Checked.of_standing {run run' : AgentRun} (h : run.Checked)
    (hsame : run'.standing = run.standing) : run'.Checked := by
  simp only [AgentRun.standing, Prod.mk.injEq] at hsame
  obtain ⟨_, _, _, _, hstatus, hmode, hworkflow, hversion⟩ := hsame
  refine ⟨?_, ?_, ?_⟩
  · rw [hstatus, hmode, hworkflow, hversion]
    exact h.dualExecutorShape
  · rw [hstatus, hmode]
    exact h.modeMatchesStatus
  · rw [hstatus, hmode]
    exact h.workflowStates

theorem standing_mem {run' : AgentRun} (h : Unmoved db db') (hrun : run' ∈ db'.runs.rows) :
    ∃ run ∈ db.runs.rows, run.standing = run'.standing := by
  have hmem : run'.standing ∈ db.runs.rows.map AgentRun.standing := by
    rw [← h.standing]
    exact List.mem_map_of_mem hrun
  exact List.mem_map.mp hmem

theorem Unmoved.checked (h : Unmoved db db') (hchecked : ∀ run ∈ db.runs.rows, run.Checked) :
    ∀ run ∈ db'.runs.rows, run.Checked := by
  intro run' hrun'
  obtain ⟨run, hrun, hsame⟩ := standing_mem h hrun'
  exact (hchecked run hrun).of_standing hsame.symm

/-- The row of a run stands as it stood. -/
theorem Unmoved.run (h : Unmoved db db') (runId : Uuid) :
    (db'.run runId).map AgentRun.standing = (db.run runId).map AgentRun.standing := by
  have hfind : ∀ l : List AgentRun,
      (l.find? fun run => run.runId = runId).map AgentRun.standing =
        (l.map AgentRun.standing).find? fun standing => standing.1 = runId := by
    intro l
    rw [List.find?_map]
    rfl
  simp only [DB.run, Table.lookup]
  rw [hfind, hfind, h.standing]

/-- An update of columns that no constraint looks at goes through. -/
theorem updateRuns_ok (db : DB) {p : AgentRun → Bool} {f : AgentRun → AgentRun}
    (hchecked : ∀ run ∈ db.runs.rows, run.Checked)
    (hf : ∀ run, (f run).standing = run.standing) :
    ∃ runs, db.updateRuns p f = .ok { db with runs := runs } ∧
      runs.rows.map AgentRun.standing = db.runs.rows.map AgentRun.standing := by
  have hchanged : ∀ run, (Table.changed p f run).standing = run.standing := by
    intro run
    unfold Table.changed
    split
    · exact hf run
    · rfl
  have hfields : ∀ run, (Table.changed p f run).runId = run.runId ∧
      (Table.changed p f run).conversationId = run.conversationId ∧
      (Table.changed p f run).status = run.status := by
    intro run
    have hsame := hchanged run
    simp only [AgentRun.standing, Prod.mk.injEq] at hsame
    exact ⟨hsame.1, hsame.2.1, hsame.2.2.2.2.1⟩
  have hdistinct : (db.runs.rows.map (Table.changed p f)).Pairwise fun a b => ¬ a.clash b := by
    refine List.pairwise_map.mpr (db.runs.distinct.imp ?_)
    intro a b hab hclash
    apply hab
    obtain ⟨ha, ha', ha''⟩ := hfields a
    obtain ⟨hb, hb', hb''⟩ := hfields b
    simpa only [AgentRun.clash, ha, ha', ha'', hb, hb', hb''] using hclash
  -- The trigger on a selected route compares columns of the standing.
  have hguard : ¬ ∃ run ∈ db.runs.rows, p run ∧ run.selectionGuarded (f run) = false := by
    rintro ⟨run, _, _, hguard⟩
    have hsame := hf run
    simp only [AgentRun.standing, Prod.mk.injEq] at hsame
    obtain ⟨_, _, _, _, _, hmode, hworkflow, hversion⟩ := hsame
    rw [AgentRun.selectionGuarded_same hmode hworkflow hversion] at hguard
    exact absurd hguard (by simp)
  have hcheck : ¬ ∃ run ∈ db.runs.rows, p run ∧ ¬ (f run).Checked := by
    rintro ⟨run, hrun, _, hcheck⟩
    exact hcheck ((hchecked run hrun).of_standing (hf run))
  refine ⟨⟨_, hdistinct⟩, ?_, ?_⟩
  · unfold DB.updateRuns Table.update?
    rw [if_neg hguard, if_neg hcheck, dif_pos hdistinct]
  · rw [List.map_map]
    exact List.map_congr_left fun run _ => hchanged run

theorem le_foldl_max (l : List ℕ) (start : ℕ) :
    start ≤ l.foldl max start ∧ ∀ n ∈ l, n ≤ l.foldl max start := by
  induction l generalizing start with
  | nil => simp
  | cons a l ih =>
    obtain ⟨hstart, hl⟩ := ih (max start a)
    refine ⟨?_, ?_⟩
    · exact le_trans (le_max_left _ _) hstart
    · intro n hn
      rcases List.mem_cons.mp hn with rfl | hn
      · exact le_trans (le_max_right _ _) hstart
      · exact hl n hn

/-- The event after the last one of a run is inserted. -/
theorem appendEvent_ok (env : Env) {run : AgentRun} (hrun : db.run runId = some run)
    (htenant : run.tenantId = tenantId) (eventType : EventType) (stepId : String) (payload : Dict) :
    ∃ seq events e, appendEvent runId tenantId eventType stepId payload env db =
        .ok (seq, { db with events := events }) ∧
      events.rows = db.events.rows ++ [e] ∧ e.runId = runId ∧ e.eventType = eventType := by
  set step := String.ofList (stepId.toList.take 64) with hstep
  have hlength : ¬ 64 < step.length := by
    rw [hstep, String.length_ofList, List.length_take]
    omega
  set e : RunEvent := ⟨runId, db.lastEventSeq runId + 1, eventType, step, payload⟩ with he
  -- The number after the last one is free.
  have hclash : ∀ x ∈ db.events.rows, ¬ x.clash e := by
    rintro x hx ⟨hid, hseq⟩
    have hmem : x.eventSeq ∈ (db.events.select fun e => e.runId = runId).map RunEvent.eventSeq := by
      refine List.mem_map_of_mem (List.mem_filter.mpr ⟨hx, ?_⟩)
      simpa using hid
    have hle := (le_foldl_max _ 0).2 _ hmem
    have hlast : x.eventSeq = db.lastEventSeq runId + 1 := hseq
    unfold DB.lastEventSeq at hlast
    omega
  obtain ⟨events, hinsert⟩ : ∃ events, db.events.insert? e = some events := by
    unfold Table.insert?
    rw [dif_pos hclash]
    exact ⟨_, rfl⟩
  refine ⟨db.lastEventSeq runId + 1, events, e, ?_, (Table.insert?_eq_some.mp hinsert).2, rfl, rfl⟩
  have hfilter : (db.run runId).filter (fun run => run.tenantId = tenantId) = some run := by
    rw [hrun, Option.filter_some, if_pos (by simpa using htenant)]
  unfold appendEvent
  rw [hfilter]
  change (DB.insertEvents db runId step (db.lastEventSeq runId + 1) [⟨eventType, payload⟩] >>= _) = _
  unfold DB.insertEvents
  rw [if_neg hlength, ← he, hinsert]
  rfl

/-- The answer of an owned conversation is inserted, if the run has none and its id is new. -/
theorem appendAssistantOnce_ok (env : Env) {input : AssistantMessageInput}
    (hchecks : db.Checks)
    (howned : db.ownsConversation input.conversationId input.tenantId input.actorId = true)
    (hnone : db.terminalMessages input.runId = [])
    (hfresh : ∀ m ∈ db.messages.rows, m.messageId ≠ env.uuid) :
    ∃ messages m, appendAssistantOnceTx input env db =
        .ok ((m, true), { db with messages := messages }) ∧
      messages.rows = db.messages.rows ++ [m] ∧ m.messageId = env.uuid ∧
      m.runId = some input.runId ∧ m.role = "assistant" ∧ m.isTerminal = true := by
  set m := input.row true env (db.nextSequence input.conversationId) with hm
  have hfind : ((db.conversationMessages input.conversationId).find? fun m =>
      m.runId = some input.runId ∧ m.role = "assistant" ∧ m.isTerminal) = none := by
    refine List.find?_eq_none.mpr fun x hx hfound => ?_
    have hmem : x ∈ db.terminalMessages input.runId :=
      List.mem_filter.mpr ⟨(List.mem_filter.mp hx).1, hfound⟩
    rw [hnone] at hmem
    exact absurd hmem List.not_mem_nil
  have hclash : ∀ x ∈ db.messages.rows, ¬ x.clash m := by
    -- One case for each unique index: the id, the number, the client's id, the answer of a run.
    rintro x hx (hid | ⟨hconversation, hseq⟩ | ⟨_, hclient, hsame⟩ | ⟨hsome, hrun, hterminal, _⟩)
    · exact hfresh x hx hid
    · have hmem : x.sequenceNo ∈
          (db.conversationMessages input.conversationId).map MessageRecord.sequenceNo := by
        refine List.mem_map_of_mem (List.mem_filter.mpr ⟨hx, ?_⟩)
        exact decide_eq_true hconversation
      have hle := (le_foldl_max _ 0).2 _ hmem
      have hlast : x.sequenceNo = db.nextSequence input.conversationId := hseq
      unfold DB.nextSequence at hlast
      omega
    · have hnoclient : m.clientMessageId = none := rfl
      rw [hsame, hnoclient] at hclient
      exact absurd hclient (by simp)
    · have hmem : x ∈ db.terminalMessages input.runId :=
        List.mem_filter.mpr ⟨hx, by simpa [hterminal] using ⟨hrun, hchecks.answers x hx hterminal⟩⟩
      rw [hnone] at hmem
      exact absurd hmem List.not_mem_nil
  obtain ⟨messages, hinsert⟩ : ∃ messages, db.messages.insert? m = some messages := by
    unfold Table.insert?
    rw [dif_pos hclash]
    exact ⟨_, rfl⟩
  refine ⟨messages, m, ?_, (Table.insert?_eq_some.mp hinsert).2, rfl, rfl, rfl, rfl⟩
  unfold appendAssistantOnceTx
  rw [if_pos howned, hfind]
  simp only [DB.insertMessage, ← hm, hinsert]
  rfl

end Transactions

/-- What a published answer leaves: one message, marked as the answer, and two events. -/
structure Published (uuid runId : Uuid) (db db' : DB) : Prop extends Unmoved db db' where
  messages : ∃ m, db'.messages.rows = db.messages.rows ++ [m] ∧ m.messageId = uuid ∧
    m.runId = some runId ∧ m.role = "assistant" ∧ m.isTerminal = true
  events : ∃ e e', db'.events.rows = db.events.rows ++ [e, e'] ∧ e.runId = runId ∧
    e.eventType = .assistantResponse ∧ e'.runId = runId ∧ e'.eventType = .terminalResponsePublished

section Publishing

variable {π : Platform} {env : Env} {db : DB} {p : Publication}

/-- The row that the publication of an answer updates and appends to. -/
def Publication.Found (p : Publication) (db : DB) : Prop :=
  ∃ run, db.run p.context.runId = some run ∧ run.tenantId = p.context.tenantId

theorem Publication.Found.kept {db' : DB} (h : p.Found db) (hkept : Unmoved db db') :
    p.Found db' := by
  obtain ⟨run, hrun, htenant⟩ := h
  have hstanding := hkept.run p.context.runId
  rw [hrun, Option.map_some] at hstanding
  obtain ⟨run', hrun', hsame⟩ := Option.map_eq_some_iff.mp hstanding
  refine ⟨run', hrun', ?_⟩
  simp only [AgentRun.standing, Prod.mk.injEq] at hsame
  exact hsame.2.2.1.trans htenant

theorem unmoved_runs {runs : Table AgentRun AgentRun.clash}
    (h : runs.rows.map AgentRun.standing = db.runs.rows.map AgentRun.standing) :
    Unmoved db { db with runs := runs } := ⟨rfl, rfl, h⟩

/-- Recording the reason goes through, and changes no more than the row. -/
theorem serve_recordReason (env : Env) (p : Publication)
    (hchecked : ∀ run ∈ db.runs.rows, run.Checked) :
    ∃ runs, serve env (p.recordReason π) db = (.ok (), { db with runs := runs }) ∧
      Unmoved db { db with runs := runs } := by
  unfold Publication.recordReason
  split
  · rename_i reason _
    obtain ⟨runs, hupdate, hstanding⟩ := updateRuns_ok db
      (p := fun run => run.runId = p.context.runId ∧ run.tenantId = p.context.tenantId)
      (f := fun run => { run with
        terminalReason := some reason
        terminalAt := some (run.terminalAt.getD env.now)
        rowVersion := run.rowVersion + 1 }) hchecked fun _ => rfl
    refine ⟨runs, serve_perform ?_, unmoved_runs hstanding⟩
    simp only [respond, undisturbed, settle, RunTx.exec, setTerminalReason, hupdate]
    rfl
  · exact ⟨db.runs, rfl, Unmoved.refl db⟩

theorem serve_marked (env : Env) (p : Publication) (hchecked : ∀ run ∈ db.runs.rows, run.Checked) :
    ∃ runs, serve env ((Prog.perform (.runs (.markResponsePublished p.context.runId
        p.context.tenantId)) : Act Unit).handle fun _ => pure ()) db =
        (.ok (), { db with runs := runs }) ∧ Unmoved db { db with runs := runs } := by
  obtain ⟨runs, hupdate, hstanding⟩ := updateRuns_ok db
    (p := fun run => run.runId = p.context.runId ∧ run.tenantId = p.context.tenantId)
    (f := fun run => { run with
      responsePublishedAt := some (run.responsePublishedAt.getD env.now) }) hchecked fun _ => rfl
  refine ⟨runs, serve_handle_ok (serve_perform ?_) _, unmoved_runs hstanding⟩
  simp only [respond, undisturbed, settle, RunTx.exec, markResponsePublished, hupdate]
  rfl

theorem serve_event (env : Env) (hfound : p.Found db) (eventType : EventType) (stepId : String)
    (payload : Dict) :
    ∃ seq events e, serve env (Prog.perform (.runs (.appendEvent p.context.runId p.context.tenantId
        eventType stepId payload)) : Act ℕ) db = (.ok seq, { db with events := events }) ∧
      events.rows = db.events.rows ++ [e] ∧ e.runId = p.context.runId ∧ e.eventType = eventType := by
  obtain ⟨run, hrun, htenant⟩ := hfound
  obtain ⟨seq, events, e, happend, hrows⟩ := appendEvent_ok env hrun htenant eventType
    stepId payload
  refine ⟨seq, events, e, serve_perform ?_, hrows⟩
  simp only [respond, undisturbed, settle, RunTx.exec, happend]
  rfl

/-- The announcement of an answer goes through. -/
theorem serve_announce (π : Platform) (env : Env) (hterminal : p.Terminal) (hfound : p.Found db)
    (hchecked : ∀ run ∈ db.runs.rows, run.Checked) :
    ∃ runs events e e', serve env (p.announce π) db =
        (.ok (), { db with runs := runs, events := events }) ∧
      Unmoved db { db with runs := runs, events := events } ∧
      events.rows = db.events.rows ++ [e, e'] ∧ e.runId = p.context.runId ∧
      e.eventType = .assistantResponse ∧ e'.runId = p.context.runId ∧
      e'.eventType = .terminalResponsePublished := by
  obtain ⟨runs, hmark, hkept⟩ := serve_marked env p hchecked
  obtain ⟨seq, events, e, hfirst, hrows, he⟩ := serve_event env (hfound.kept hkept)
    .assistantResponse "response"
    [("status", .str "published"), ("character_count", .int (p.content π).length)]
  have hkept' : Unmoved db { db with runs := runs, events := events } := ⟨rfl, rfl, hkept.standing⟩
  obtain ⟨seq', events', e', hlast, hrows', he'⟩ := serve_event env (hfound.kept hkept')
    .terminalResponsePublished "terminal"
    [("status", .str p.effectiveStatus.value), ("reason_code", jsonOption (p.stableReason π)),
      ("retryable", .bool p.canRetry), ("fallback_used", .bool p.preferred?.isNone)]
  refine ⟨runs, events', e, e', ?_, ⟨rfl, rfl, hkept.standing⟩, ?_, he.1, he.2, he'⟩
  · unfold Publication.announce Publication.terminalEvent
    rw [serve_bind_ok hmark, serve_bind_ok hfirst, if_pos hterminal, serve_bind_ok hlast]
    rfl
  · rw [hrows', hrows, List.append_assoc]
    rfl

theorem assistantInput_fields {context : RunContext} {content : String}
    {input : AssistantMessageInput}
    (h : assistantInput π context content = .ok input) :
    input.conversationId = context.conversationId ∧ input.tenantId = context.tenantId ∧
      input.actorId = context.actorId ∧ input.runId = context.runId := by
  unfold assistantInput at h
  split at h
  · exact absurd h (by simp)
  · obtain rfl := Except.ok.inj h
    exact ⟨rfl, rfl, rfl, rfl⟩

theorem Publication.publishes (hterminal : p.Terminal) {input : AssistantMessageInput}
    (hinput : assistantInput π p.context (p.content π) = .ok input) (hchecks : db.Checks)
    (hfound : p.Found db)
    (howned : db.ownsConversation p.context.conversationId p.context.tenantId p.context.actorId = true)
    (hnone : db.terminalMessages p.context.runId = [])
    (hfresh : ∀ m ∈ db.messages.rows, m.messageId ≠ env.uuid) :
    Published env.uuid p.context.runId db (serve env (publishTerminalResponse π p) db).2 := by
  obtain ⟨hconversation, htenant, hactor, hid⟩ := assistantInput_fields hinput
  obtain ⟨messages, m, hinsert, hmessages, hm, hrun, hm'⟩ := appendAssistantOnce_ok env hchecks
    (by rw [hconversation, htenant, hactor]; exact howned)
    (by rw [hid]; exact hnone) hfresh
  have happend : serve env (p.appendResponse π) db =
      (.ok (m, true), { db with messages := messages }) := by
    unfold Publication.appendResponse appendAssistantOnceForRun
    rw [if_pos hterminal, hinput]
    refine serve_perform ?_
    simp only [respond, undisturbed, settle, MessageTx.exec, hinsert]
    rfl
  have hkept : Unmoved db { db with messages := messages } := ⟨rfl, rfl, rfl⟩
  obtain ⟨runs, hreason, hkept'⟩ := @serve_recordReason π { db with messages := messages }
    env p hchecks.runs
  obtain ⟨runs', events, e, e', hannounce, hkept'', hevents, he⟩ := serve_announce π env hterminal
    (hfound.kept (hkept.trans hkept')) (hkept'.checked hchecks.runs)
  -- The message, the reason, and the announcement: three transactions, one after the other.
  have hserved : (serve env (publishTerminalResponse π p) db).2 =
      { db with messages := messages, runs := runs', events := events } := by
    unfold publishTerminalResponse
    rw [serve_bind_ok happend, serve_bind_ok hreason]
    simp only [Publication.announceIf, if_true]
    rw [serve_bind_ok hannounce]
    rfl
  rw [hserved]
  refine ⟨⟨rfl, rfl, hkept''.standing.trans hkept'.standing⟩, ⟨m, hmessages, hm, ?_, hm'⟩,
    ⟨e, e', hevents, he⟩⟩
  exact hrun.trans (congrArg some hid)

/-- An answer that no conversation takes is not published. -/
theorem Publication.refused (hterminal : p.Terminal)
    (hrefused : (∀ input, assistantInput π p.context (p.content π) ≠ .ok input) ∨
      db.ownsConversation p.context.conversationId p.context.tenantId p.context.actorId = false) :
    (serve env (publishTerminalResponse π p) db).2 = db := by
  -- The first transaction fails, and nothing after it runs.
  have happend : ∃ e, serve env (p.appendResponse π) db = (.error e, db) := by
    unfold Publication.appendResponse appendAssistantOnceForRun
    rw [if_pos hterminal]
    cases hinput : assistantInput π p.context (p.content π) with
    | error e => exact ⟨e, rfl⟩
    | ok input =>
      rcases hrefused with hrefused | hrefused
      · exact absurd hinput (hrefused input)
      · obtain ⟨hconversation, htenant, hactor, _⟩ := assistantInput_fields hinput
        refine ⟨.valueError "conversation is unavailable for this tenant and actor", ?_⟩
        refine serve_perform ?_
        simp only [respond, undisturbed, settle, MessageTx.exec, appendAssistantOnceTx,
          hconversation, htenant, hactor, hrefused]
        rfl
  obtain ⟨e, happend⟩ := happend
  unfold publishTerminalResponse
  rw [serve_bind_error happend]

end Publishing

end CommerceAgent
