import CommerceAgent.RunKnowledge
import CommerceAgent.SafetyBlock

/-! The constraints and the trigger accept what the requests and the workers make of the runs, in any
interleaving, unless a resolution completes a run that no route was selected for. -/
namespace CommerceAgent

open Json Tables Programs

/-- The run is pinned to the mode. -/
def Pins (db : DB) (k : Uuid × ExecutionMode) : Prop :=
  ∃ run, db.run k.1 = some run ∧ run.executionMode = some k.2

/-- The rows keep their constraints, and a checkpoint is of its run and of the mode of the run. -/
structure Consistent (db : DB) : Prop where
  rows : ∀ runId run, db.run runId = some run → run.Checked
  checkpoints : ∀ c ∈ db.checkpoints.rows, c.stateJson.runId = c.runId ∧
    ∀ m ∈ c.stateJson.executionMode, Pins db (c.runId, m)

/-- The constraints and the trigger accept what a call makes of the rows that it finds. -/
def Op.Accepted : {α : Type} → Op α → DB → Prop
  | _, .runs t, db => ∀ runId run, db.run runId = some run → t.Finds run → t.Accepts run
  | _, _, _ => True

/-- A checkpoint that completes a run finds it pinned. -/
def Op.CompletesPinned : {α : Type} → Op α → DB → Prop
  | _, .runs (.commitStep p), db => p.nextStatus = .completed → ∀ run, db.run p.runId = some run →
      (RunTx.commitStep p).Finds run → run.executionMode.isSome
  | _, _, _ => True

section States

variable {α : Type} {db db' : DB} {o : Op α} {r : Except Exc α} {resolving : Bool}
  {known : List (Uuid × ExecutionMode)} {k : Uuid × ExecutionMode}

theorem Pins.effect (h : Pins db k) (heff : o.Effect db r db') : Pins db' k := by
  obtain ⟨run, hrow, hmode⟩ := h
  by_cases hs : o.SparesRuns
  · refine ⟨run, ?_, hmode⟩
    rw [DB.run, (heff.runs_eq hs).1]
    exact hrow
  · cases o with
    | runs t =>
      rcases heff with ⟨_, _, rfl⟩ | ⟨env, a, _, hx⟩
      · exact ⟨run, hrow, hmode⟩
      · exact ⟨_, RunTx.run_after hx hrow, mode_rowAfter hmode⟩
    | _ => exact absurd trivial hs

theorem checkpoint_of_latest {runId : Uuid} {c : RunCheckpoint} (h : db.latestCheckpoint runId = some c) :
    c ∈ db.checkpoints.rows ∧ c.runId = runId := by
  have hmem := latestBy_mem h
  obtain ⟨hrow, hid⟩ := List.mem_filter.mp hmem
  exact ⟨hrow, of_decide_eq_true hid⟩

theorem loaded_of_exec {runId : Uuid} {tenantId : String} {context : RunContext}
    (heff : (Op.runs (.loadLatestCheckpoint runId tenantId)).Effect db (.ok (some context)) db') :
    db' = db ∧ ∃ c ∈ db.checkpoints.rows, c.runId = runId ∧ c.stateJson = context := by
  rcases heff with ⟨e, he, _⟩ | ⟨env, a, ha, hx⟩
  · exact absurd he (by simp)
  obtain rfl := Except.ok.inj ha
  simp only [RunTx.exec, loadLatestCheckpoint] at hx
  split at hx
  · exact absurd (congrArg Prod.fst (Except.ok.inj hx)) (by simp)
  · obtain ⟨hfound, rfl⟩ := Prod.mk.inj (Except.ok.inj hx)
    obtain ⟨c, hc, hcontext⟩ := Option.map_eq_some_iff.mp hfound
    obtain ⟨hmem, hid⟩ := checkpoint_of_latest hc
    exact ⟨rfl, c, hmem, hid, hcontext⟩

theorem loadedRun_of_exec {runId : Uuid} {tenantId : String} {actorId : Option String} {run : AgentRun}
    (heff : (Op.runs (.loadRun runId tenantId actorId)).Effect db (.ok (some run)) db') :
    db' = db ∧ db.run runId = some run := by
  rcases heff with ⟨e, he, _⟩ | ⟨env, a, ha, hx⟩
  · exact absurd he (by simp)
  obtain rfl := Except.ok.inj ha
  obtain ⟨hfound, rfl⟩ := Prod.mk.inj (Except.ok.inj hx)
  exact ⟨rfl, (Option.filter_eq_some_iff.mp hfound).1⟩

/-- A process may rely on what a consistent database answers. -/
theorem Consistent.trusted (h : Consistent db) (heff : o.Effect db r db') : Event.Trusted ⟨o, r⟩ := by
  cases o with
  | runs t =>
    cases t with
    | loadLatestCheckpoint runId tenantId =>
      rcases r with e | _ | context
      · trivial
      · trivial
      · obtain ⟨_, c, hmem, hid, rfl⟩ := loaded_of_exec heff
        exact (h.checkpoints c hmem).1.trans hid
    | loadRun runId tenantId actorId =>
      rcases r with e | _ | run
      · trivial
      · trivial
      · exact h.rows runId run (loadedRun_of_exec heff).2
    | _ => trivial
  | _ => trivial

/-- What a call tells is so. -/
theorem Consistent.teaches (h : Consistent db) (heff : o.Effect db r db') :
    ∀ k ∈ Event.teaches ⟨o, r⟩, Pins db' k := by
  intro k hk
  cases o with
  | runs t =>
    cases t with
    | loadLatestCheckpoint runId tenantId =>
      rcases r with e | _ | context
      · exact absurd hk List.not_mem_nil
      · exact absurd hk List.not_mem_nil
      · obtain ⟨rfl, c, hmem, rfl, rfl⟩ := loaded_of_exec heff
        obtain ⟨m, hm, rfl⟩ := List.mem_map.mp hk
        exact (h.checkpoints c hmem).2 m (Option.mem_toList.mp hm)
    | loadRun runId tenantId actorId =>
      rcases r with e | _ | run
      · exact absurd hk List.not_mem_nil
      · exact absurd hk List.not_mem_nil
      · obtain ⟨rfl, hrow⟩ := loadedRun_of_exec heff
        obtain ⟨m, hm, rfl⟩ := List.mem_map.mp hk
        exact ⟨run, hrow, Option.mem_toList.mp hm⟩
    | selectRoute runId tenantId decision =>
      rcases r with e | n
      · exact absurd hk List.not_mem_nil
      · simp only [Event.teaches] at hk
        split at hk
        · rename_i hone
          obtain ⟨rfl, houtcome⟩ := hone
          obtain ⟨m, hm, rfl⟩ := List.mem_map.mp hk
          rcases heff with ⟨e, he, _⟩ | ⟨env, a, ha, hx⟩
          · exact absurd he (by simp)
          obtain rfl := Except.ok.inj ha
          obtain ⟨run, hrow, hfound⟩ := @selectRouteTx_found _ _ _ env _ _ _ hx Nat.one_pos
          refine ⟨_, RunTx.run_after hx hrow, ?_⟩
          rw [RunTx.rowAfter, if_pos hfound, AgentRun.select, houtcome]
          exact Option.mem_toList.mp hm
        · exact absurd hk List.not_mem_nil
    | _ => exact absurd hk List.not_mem_nil
  | _ => exact absurd hk List.not_mem_nil

/-- A row that a transaction adds satisfies the constraints. -/
theorem RunTx.checked_new {t : RunTx α} {env : Env} {a : α} {runId : Uuid} {run : AgentRun}
    (h : t.exec env db = .ok (a, db')) (hnone : db.run runId = none) (hrow : db'.run runId = some run) :
    run.Checked := by
  have hread : ∀ {b : α}, Except.ok (b, db) = (.ok (a, db') : Except Exc (α × DB)) → run.Checked := by
    intro b hb
    obtain rfl : db = db' := congrArg Prod.snd (Except.ok.inj hb)
    exact absurd (hnone.symm.trans hrow) (by simp)
  have hupdate : ∀ {p f}, db.updateRuns p f = .ok db' → (∀ run, (f run).runId = run.runId) →
      run.Checked := by
    intro p f hup hf
    have hafter := DB.run_updateRuns hup hf runId
    rw [hnone, hrow] at hafter
    exact absurd hafter (by simp)
  cases t with
  | loadRun | activeForConversation | recoverableRuns => exact hread h
  | loadLatestCheckpoint id tenantId =>
    simp only [exec, CommerceAgent.loadLatestCheckpoint] at h
    split at h <;> exact hread h
  | appendEvent id tenantId eventType stepId payload =>
    obtain ⟨_, events, rfl, _⟩ := @appendEvent_eq_ok _ _ _ _ _ env _ _ _ h
    exact absurd (hnone.symm.trans hrow) (by simp)
  | markDispatchStarted | markResponsePublished | setTerminalReason | cancelUnstartedRun | markFailed
  | expireOverdueRuns => exact hupdate (of_updateRuns h) fun _ => rfl
  | selectRoute id tenantId decision =>
    simp only [exec, selectRouteTx] at h
    obtain ⟨db₁, hup, h⟩ := Except.bind_eq_ok.mp h
    obtain rfl : db₁ = db' := congrArg Prod.snd (Except.ok.inj h)
    exact hupdate hup (select_runId decision)
  | commitStep p =>
    obtain ⟨row, hcommit⟩ := commitStepTx_committed h
    have hafter := hcommit.runs runId
    have hne : runId ≠ p.runId := by
      rintro rfl
      exact absurd (hnone.symm.trans hcommit.found) (by simp)
    rw [if_neg hne, hnone, hrow] at hafter
    exact absurd hafter (by simp)
  -- The only transaction that adds a row, and one that the constraints refuse is not added.
  | createRun context currentStep deadlineAt parentRunId =>
    simp only [exec, CommerceAgent.createRun] at h
    split at h
    · split at h
      · exact absurd h (by simp)
      · rename_i hchecked
        split at h
        · exact absurd h (by simp)
        · rename_i runs hinsert
          obtain rfl := congrArg Prod.snd (Except.ok.inj h)
          have hlookup := @Table.lookup_insert _ _ _ AgentRun.runId _ _ _ _ _ runId hinsert
          have hbefore : db.runs.lookup AgentRun.runId runId = none := hnone
          have hafter : runs.lookup AgentRun.runId runId = some run := hrow
          rw [hbefore, hafter, Option.none_or] at hlookup
          split at hlookup
          · obtain rfl := Option.some.inj hlookup
            exact not_not.mp hchecked
          · exact absurd hlookup (by simp)
    · exact hread h

/-- A transaction that commits leaves a row as it was, or found it. -/
theorem rowAfter_of_not_finds {t : RunTx α} {env : Env} {a : α} {runId : Uuid} {run : AgentRun}
    (h : t.exec env db = .ok (a, db')) (hrow : db.run runId = some run) (hfinds : ¬ t.Finds run) (now : ℕ) :
    t.rowAfter now run = run := by
  cases t with
  | commitStep p =>
    obtain ⟨row, hcommit⟩ := commitStepTx_committed h
    refine if_neg fun hid => hfinds ?_
    have hsame : runId = p.runId := (DB.run_runId hrow).symm.trans hid
    subst hsame
    obtain rfl := Option.some.inj (hrow.symm.trans hcommit.found)
    exact ⟨hid, hcommit.tenant, hcommit.version⟩
  | _ => exact absurd trivial hfinds

/-- What a process may know keeps every call acceptable, the completion of an unpinned run apart. -/
theorem Consistent.accepted (h : Consistent db) (hknown : ∀ k ∈ known, Pins db k)
    (hinformed : o.Informed resolving known) (hpinned : resolving = true → o.CompletesPinned db) :
    o.Accepted db := by
  cases o with
  | runs t =>
    intro runId run hrow hfinds
    have hchecked := h.rows runId run hrow
    by_cases hcommit : t.commit? = none
    · have hcomplete : t.Complete := by
        cases t with
        | commitStep p => exact absurd hcommit (by simp [RunTx.commit?])
        | _ => exact hinformed
      exact RunTx.accepts_of_checked hchecked hcommit hcomplete
    · cases t with
      | commitStep p =>
        obtain ⟨_, _, hstatus⟩ := hinformed
        have hid : run.runId = p.runId := hfinds.1
        have hfound : db.run p.runId = some run := hid ▸ (DB.run_runId hrow) ▸ hrow
        refine commit_accepted hchecked ?_
        rcases hstatus with hstatus | ⟨m, hm, hfits⟩ | ⟨hresolving, hcompleted⟩
        · exact .inl hstatus
        · obtain ⟨run', hrow', hmode⟩ := hknown _ hm
          obtain rfl := Option.some.inj (hfound.symm.trans hrow')
          exact .inr ⟨m, hmode, hfits⟩
        · obtain ⟨m, hmode⟩ := Option.isSome_iff_exists.mp
            (hpinned hresolving hcompleted run hfound hfinds)
          refine .inr ⟨m, hmode, ?_⟩
          rw [hcompleted]
          cases m <;> decide
      | _ => exact absurd rfl hcommit
  | _ => trivial

theorem Consistent.effect (h : Consistent db) (heff : o.Effect db r db')
    (hknown : ∀ k ∈ known, Pins db k) (hinformed : o.Informed resolving known)
    (haccepted : o.Accepted db) : Consistent db' := by
  have hcheckpoints : db'.checkpoints = db.checkpoints → ∀ c ∈ db'.checkpoints.rows,
      c.stateJson.runId = c.runId ∧ ∀ m ∈ c.stateJson.executionMode, Pins db' (c.runId, m) := by
    intro hsame c hc
    rw [hsame] at hc
    obtain ⟨hid, hmode⟩ := h.checkpoints c hc
    exact ⟨hid, fun m hm => (hmode m hm).effect heff⟩
  by_cases hs : o.SparesRuns
  · obtain ⟨hruns, hsame, _⟩ := heff.runs_eq hs
    refine ⟨fun runId run hrow => h.rows runId run ?_, hcheckpoints hsame⟩
    rw [DB.run, ← hruns]
    exact hrow
  · cases o with
    | runs t =>
      rcases heff with ⟨_, _, rfl⟩ | ⟨env, a, ha, hx⟩
      · exact h
      have heff : (Op.runs t).Effect db r db' := .inr ⟨env, a, ha, hx⟩
      refine ⟨fun runId run hrow => ?_, ?_⟩
      · cases hbefore : db.run runId with
        | none => exact RunTx.checked_new hx hbefore hrow
        | some run₀ =>
          obtain rfl := Option.some.inj ((RunTx.run_after hx hbefore).symm.trans hrow)
          by_cases hfinds : t.Finds run₀
          · exact (haccepted runId run₀ hbefore hfinds env.now).1
          · rw [rowAfter_of_not_finds hx hbefore hfinds]
            exact h.rows runId run₀ hbefore
      · by_cases hcommit : t.commit? = none
        · refine hcheckpoints ?_
          obtain ⟨_, _, rfl⟩ := RunTx.frame hx hcommit
          rfl
        · cases t with
          | commitStep p =>
            obtain ⟨row, hc⟩ := commitStepTx_committed hx
            obtain ⟨hid, hmode, _⟩ := hinformed
            intro c hmem
            rw [hc.checkpoint] at hmem
            rcases List.mem_append.mp hmem with hmem | hmem
            · obtain ⟨hid, hmode⟩ := h.checkpoints c hmem
              exact ⟨hid, fun m hm => (hmode m hm).effect heff⟩
            · obtain rfl := List.mem_singleton.mp hmem
              exact ⟨hid, fun m hm => (hknown _ (hmode m hm)).effect heff⟩
          | _ => exact absurd rfl hcommit
    | _ => exact absurd trivial hs

end States

section Runs

variable {ι : Type} [DecidableEq ι] {π : Platform} {requests : ι → RunRequest}
  {h : History ι Op Exc DB} {ps : ι → Act Unit} {db₀ db : DB}

theorem Consistent.of_quiet (conversations : Table Conversation Conversation.clash) :
    Consistent { conversations := conversations } :=
  ⟨fun _ _ hrow => absurd hrow (by simp [DB.run, Table.lookup]), fun _ hc => absurd hc List.not_mem_nil⟩

/-- In a run whose resolutions complete only pinned runs, the database accepts every statement. By
induction on the run: what the processes know of the rows stays so. -/
theorem Run.accepted (run : Run store (fun i => (requests i).program π) db₀ h ps db)
    (h0 : Consistent db₀)
    (hpinned : ∀ i e, (i, e) ∈ h → (requests i).completes = true → e.op.CompletesPinned e.before) :
    ∀ i e, (i, e) ∈ h → e.op.Accepted e.before := by
  have hinvariant := run.conditional_invariant (fun h db => (∀ i, ∀ k ∈ view learn [] i h, Pins db k) ∧ Consistent db ∧
      ∀ i e, (i, e) ∈ h → e.op.Accepted e.before)
    (fun i => safe_program (requests i)) ?_ ?_ hpinned
  · exact hinvariant.1.2.2
  · exact ⟨fun _ _ hk => absurd hk List.not_mem_nil, h0, fun _ _ he => absurd he List.not_mem_nil⟩
  · rintro h db i β o r db' ⟨hviews, hdb, hpast⟩ hinformed hm hcondition
    have heff : o.Effect db r db' := store_effect hm
    have haccepted : o.Accepted db := hdb.accepted (hviews i) hinformed hcondition
    refine ⟨hdb.trusted heff, fun j k hk => ?_, hdb.effect heff (hviews i) hinformed haccepted, ?_⟩
    · by_cases hij : i = j
      · subst hij
        rw [view_snoc_self] at hk
        rcases List.mem_append.mp hk with hk | hk
        · exact hdb.teaches heff k hk
        · exact (hviews i k hk).effect heff
      · rw [view_snoc_other learn [] hij] at hk
        exact (hviews j k hk).effect heff
    · intro j e he
      rcases List.mem_append.mp he with he | he
      · exact hpast j e he
      · obtain ⟨rfl, rfl⟩ := Prod.mk.inj (List.mem_singleton.mp he)
        exact haccepted

/-- A completion that the constraints accept finds a pinned run. -/
theorem Op.Accepted.completesPinned {α : Type} {o : Op α} (h : o.Accepted db) : o.CompletesPinned db := by
  cases o with
  | runs t =>
    cases t with
    | commitStep p =>
      intro hcompleted run hrow hfinds
      have haccepted := (h p.runId run hrow hfinds 0).1
      rw [RunTx.rowAfter, if_pos hfinds.1] at haccepted
      rcases haccepted.dualExecutorShape with ⟨_, _, _, hstatus⟩ | ⟨hmode, _⟩
      · exact absurd hstatus (by simp [AgentRun.advance, hcompleted])
      · exact hmode
    | _ => trivial
  | _ => trivial

/-- Any number of requests, workers and sweeps in any order, from a database without runs: the
constraints and the trigger accept every statement if and only if every resolution that completes a run
finds it pinned to a route. -/
theorem lifecycle_accepted_iff (conversations : Table Conversation Conversation.clash)
    (run : Run store (fun i => (requests i).program π) { conversations := conversations } h ps db) :
    (∀ i e, (i, e) ∈ h → e.op.Accepted e.before) ↔
      ∀ i e, (i, e) ∈ h → (requests i).completes = true → e.op.CompletesPinned e.before := by
  constructor
  · intro haccepted i e he _
    exact (haccepted i e he).completesPinned
  · exact Run.accepted run (.of_quiet conversations)

end Runs

section Demo

def demoConversations : Table Conversation Conversation.clash :=
  .single ⟨"conv", DEMO_TENANT_ID, "demo-user-001"⟩

def demoMessage : MessageCreateRequest := ⟨"请直接退款", "client-refund", by decide, by decide⟩

inductive DemoActor where
  | api
  | worker
  | reviewer
  deriving DecidableEq

/-- A message that is handed over, and a review of it. -/
def demoRequests (outcome : HandoffOutcome) : DemoActor → RunRequest
  | .api => .send "conv" "demo-user-001" demoMessage
  | .worker => .work {} { demoJob "请直接退款" with runId := "uuid-1" }
  | .reviewer => .resolve "ticket-1" "demo-user-001" ⟨outcome, "ok", by decide⟩

/-- The message is admitted and handed over before it is reviewed. -/
def demoReviewed (outcome : HandoffOutcome) :
    History DemoActor Op Exc DB × (DemoActor → Act Unit) × DB :=
  play respond (List.replicate 10 (.api, queryChoice "message-1" 1) ++
      List.replicate 15 (.worker, queryChoice "ticket-1" 1) ++
      List.replicate 12 (.reviewer, queryChoice "message-3" 1))
    (fun i => (demoRequests outcome i).program demoPlatform) { conversations := demoConversations }

/-- A rejected request runs under the constraints to its end. -/
theorem lifecycle_accepted_iff_rejected :
    (demoReviewed .verifiedFailure).1.Forall fun e => e.2.op.Accepted e.2.before := by
  have hrun := play_run respond (List.replicate 10 (.api, queryChoice "message-1" 1) ++
      List.replicate 15 (.worker, queryChoice "ticket-1" 1) ++
      List.replicate 12 (.reviewer, queryChoice "message-3" 1))
    (fun i => (demoRequests .verifiedFailure i).program demoPlatform)
    { conversations := demoConversations }
  rw [List.forall_iff_forall_mem]
  intro ⟨i, e⟩ he
  refine (lifecycle_accepted_iff demoConversations hrun).mpr (fun i e _ hcompletes => ?_) i e he
  cases i with
  | api | worker | reviewer => exact absurd hcompletes (by decide)

/-- A checkpoint that would complete a run without a route, and is refused. -/
def refusedCompletion (e : Happened Op Exc DB) : Bool :=
  match e with
  | ⟨⟨.runs (.commitStep p), .error .integrity⟩, before, _⟩ =>
    p.nextStatus == .completed && (before.run p.runId).any fun run =>
      run.executionMode.isNone && run.tenantId == p.tenantId && run.rowVersion == p.expectedVersion
  | _ => false

theorem not_accepted_of_refusedCompletion {e : Happened Op Exc DB} (h : refusedCompletion e = true) :
    ¬ e.op.Accepted e.before := by
  unfold refusedCompletion at h
  split at h
  · intro haccepted
    obtain ⟨hcompleted, hany⟩ := Bool.and_eq_true_iff.mp h
    obtain ⟨run, hrow, hrun⟩ := (Option.any_eq_true _ _).mp hany
    simp only [Bool.and_eq_true, beq_iff_eq] at hrun
    obtain ⟨⟨hnone, htenant⟩, hversion⟩ := hrun
    have hpinned := haccepted.completesPinned (beq_iff_eq.mp hcompleted) run hrow
      ⟨DB.run_runId hrow, htenant, hversion⟩
    rw [Option.isNone_iff_eq_none.mp hnone] at hpinned
    exact absurd hpinned (by simp)
  · exact absurd h (by simp)

instance demoReviewed_refused :
    Fact (((demoReviewed .verifiedSuccess).1.any fun e => refusedCompletion e.2) = true) :=
  ⟨by decide +kernel⟩

/-- The approval of a request that was handed over before any route was selected for it is refused by
the database. -/
theorem approval_refused :
    ¬ ∀ (requests : DemoActor → RunRequest) (h : History DemoActor Op Exc DB)
      (ps : DemoActor → Act Unit) (db : DB),
      Run store (fun i => (requests i).program demoPlatform) { conversations := demoConversations } h
        ps db → ∀ i e, (i, e) ∈ h → e.op.Accepted e.before := by
  intro hclaim
  obtain ⟨⟨i, e⟩, he, hcompletion⟩ := List.any_eq_true.mp demoReviewed_refused.out
  have hrun := play_run respond (List.replicate 10 (.api, queryChoice "message-1" 1) ++
      List.replicate 15 (.worker, queryChoice "ticket-1" 1) ++
      List.replicate 12 (.reviewer, queryChoice "message-3" 1))
    (fun i => (demoRequests .verifiedSuccess i).program demoPlatform)
    { conversations := demoConversations }
  exact not_accepted_of_refusedCompletion hcompletion (hclaim _ _ _ _ hrun i e he)

end Demo

end CommerceAgent
