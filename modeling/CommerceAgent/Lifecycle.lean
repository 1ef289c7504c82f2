import CommerceAgent.ConfirmAtomicity
import CommerceAgent.Confirmations
import CommerceAgent.Sessions
import Mathlib.Data.List.Chain

/-! The statuses that the checkpoints of a mutation persist, one after another. -/
namespace CommerceAgent

open Json Tables Programs

/-- The statuses that the checkpoints of a run persisted, oldest first. -/
def DB.persisted (db : DB) (runId : Uuid) : List RunStatus :=
  (db.checkpoints.select fun c => c.runId = runId).map fun c => c.stateJson.status

/-- A path of the state machine. -/
abbrev Legal (statuses : List RunStatus) : Prop :=
  statuses.IsChain fun current target => target ∈ TRANSITIONS current

/-- The run persisted `status` last, on a legal path from its entry. -/
structure At (runId : Uuid) (status : RunStatus) (db : DB) : Prop where
  row : ∃ row, db.run runId = some row ∧ row.status = status ∧
    ∀ c ∈ db.checkpoints.rows, c.runId = runId → c.checkpointSeq ≤ row.lastCheckpointSeq
  owned : ∀ c ∈ db.checkpoints.rows, c.runId = runId → c.stateJson.runId = runId
  last : (.runningWorkflow :: db.persisted runId).getLast? = some status
  latest : (db.latestCheckpoint runId).map (fun c => c.stateJson.status) =
    (db.persisted runId).getLast?
  legal : Legal (.runningWorkflow :: db.persisted runId)

def Lawful (runId : Uuid) (db : DB) : Prop := ∃ status, At runId status db

/-- The last row of a list whose stamp is above the others is the latest. -/
theorem latestBy_snoc {ρ : Type} {stamp order : ρ → ℕ} {l : List ρ} {x : ρ}
    (h : ∀ y ∈ l, stamp y < stamp x) : latestBy stamp order (l ++ [x]) = some x := by
  induction l with
  | nil => rfl
  | cons y l ih =>
    have hy : stamp y < stamp x := h y List.mem_cons_self
    rw [List.cons_append, latestBy, ih fun z hz => h z (List.mem_cons_of_mem _ hz)]
    have hnot : ¬ (stamp x < stamp y ∨ (stamp x = stamp y ∧ order x < order y)) := by omega
    exact if_neg hnot

/-- The transactions that leave the status of every run as it is. -/
def RunTx.KeepsStatus : {α : Type} → RunTx α → Prop
  | _, .commitStep _ | _, .createRun _ _ _ _ | _, .cancelUnstartedRun _ _ _
  | _, .selectRoute _ _ _ | _, .markFailed _ _ _ | _, .expireOverdueRuns _ => False
  | _, _ => True

def Op.KeepsStatus {α : Type} : Op α → Prop
  | .runs t => t.KeepsStatus
  | _ => True

section Steps

variable {α : Type} {runId : Uuid} {status : RunStatus} {db db' : DB}

theorem rowAfter_of_keepsStatus {t : RunTx α} (ht : t.KeepsStatus) (now : ℕ)
    (run : AgentRun) : (t.rowAfter now run).status = run.status ∧
      (t.rowAfter now run).lastCheckpointSeq = run.lastCheckpointSeq := by
  cases t with
  | markDispatchStarted _ _ | markResponsePublished _ _ | setTerminalReason _ _ _ =>
    rw [RunTx.rowAfter]
    split <;> exact ⟨rfl, rfl⟩
  | loadRun | appendEvent | loadLatestCheckpoint | activeForConversation | recoverableRuns =>
    exact ⟨rfl, rfl⟩
  | commitStep | createRun | cancelUnstartedRun | selectRoute | markFailed | expireOverdueRuns =>
    exact absurd ht id

theorem At.of_same (h : At runId status db) (hchk : db'.checkpoints = db.checkpoints)
    (hrow : ∀ run, db.run runId = some run → ∃ run', db'.run runId = some run' ∧
      run'.status = run.status ∧ run'.lastCheckpointSeq = run.lastCheckpointSeq) :
    At runId status db' := by
  obtain ⟨run, hrun, hstatus, hseq⟩ := h.row
  obtain ⟨run', hrun', hst', hseq'⟩ := hrow run hrun
  have hpersisted : db'.persisted runId = db.persisted runId := by
    rw [DB.persisted, hchk]
    rfl
  have hlatest : db'.latestCheckpoint runId = db.latestCheckpoint runId := by
    rw [DB.latestCheckpoint, hchk]
    rfl
  refine ⟨⟨run', hrun', hst'.trans hstatus, ?_⟩, ?_, ?_, ?_, ?_⟩
  · rw [hchk, hseq']
    exact hseq
  · rw [hchk]
    exact h.owned
  · rw [hpersisted]
    exact h.last
  · rw [hpersisted, hlatest]
    exact h.latest
  · rw [hpersisted]
    exact h.legal

theorem At.effect {o : Op α} {r : Except Exc α} (h : At runId status db)
    (heff : o.Effect db r db') (ho : o.KeepsStatus) : At runId status db' := by
  by_cases hs : o.SparesRuns
  · obtain ⟨hruns, hchk, _⟩ := heff.runs_eq hs
    refine h.of_same hchk fun run hrun => ⟨run, ?_, rfl, rfl⟩
    rw [DB.run, hruns]
    exact hrun
  · cases o with
    | runs t =>
      rcases heff with ⟨_, _, rfl⟩ | ⟨env, a, _, hx⟩
      · exact h
      · have hcommit : t.commit? = none := by
          cases t with
          | commitStep p => exact absurd ho id
          | _ => rfl
        have hchk : db'.checkpoints = db.checkpoints := by
          obtain ⟨runs, events, rfl⟩ := RunTx.frame hx hcommit
          rfl
        refine h.of_same hchk fun run hrun => ⟨_, RunTx.run_after hx hrun, ?_⟩
        exact rowAfter_of_keepsStatus ho env.now run
    | _ => exact absurd trivial hs

/-- A checkpoint with a legal successor. -/
theorem At.commit {p : CommitStep} {now : ℕ} {run : AgentRun} (h : At runId status db)
    (hc : p.Committed now run db db') (hid : p.runId = runId)
    (hcontext : p.checkpoint.runId = runId) (hstatus : p.checkpoint.status = p.nextStatus)
    (hnext : p.nextStatus ∈ TRANSITIONS status) : At runId p.nextStatus db' := by
  obtain ⟨row, hrow, hrowstatus, hseq⟩ := h.row
  subst hid
  obtain rfl := Option.some.inj (hc.found.symm.trans hrow)
  have hselect : (db'.checkpoints.select fun c => c.runId = p.runId) =
      (db.checkpoints.select fun c => c.runId = p.runId) ++
        [⟨p.runId, run.lastCheckpointSeq + 1, p.nextStep, p.checkpoint,
          db.lastEventSeq p.runId + 1, db.lastEventSeq p.runId + 1 + p.events.length - 1⟩] := by
    rw [Table.select, hc.checkpoint, List.filter_append]
    simp [Table.select]
  have hpersisted : db'.persisted p.runId = db.persisted p.runId ++ [p.nextStatus] := by
    rw [DB.persisted, hselect, List.map_append, ← hstatus]
    rfl
  have hlatest : (db'.latestCheckpoint p.runId).map (fun c => c.stateJson.status) =
      some p.nextStatus := by
    rw [DB.latestCheckpoint, hselect, latestBy_snoc, Option.map_some, hstatus]
    intro c hcm
    obtain ⟨hmem, hcid⟩ := List.mem_filter.mp hcm
    have hle := hseq c hmem (of_decide_eq_true hcid)
    exact Nat.lt_succ_of_le hle
  refine ⟨⟨_, (hc.runs p.runId).trans (if_pos rfl), rfl, ?_⟩, ?_, ?_, ?_, ?_⟩
  · intro c hcm hcid
    rw [hc.checkpoint] at hcm
    rcases List.mem_append.mp hcm with hcm | hcm
    · exact Nat.le_succ_of_le (hseq c hcm hcid)
    · obtain rfl := List.mem_singleton.mp hcm
      exact Nat.le_refl _
  · intro c hcm hcid
    rw [hc.checkpoint] at hcm
    rcases List.mem_append.mp hcm with hcm | hcm
    · exact h.owned c hcm hcid
    · obtain rfl := List.mem_singleton.mp hcm
      exact hcontext
  · rw [hpersisted, ← List.cons_append, List.getLast?_concat]
  · rw [hlatest, hpersisted, List.getLast?_concat]
  · rw [hpersisted, ← List.cons_append]
    refine h.legal.append (.singleton _) ?_
    intro x hx y hy
    rw [h.last] at hx
    obtain rfl := Option.some.inj hx
    obtain rfl := Option.some.inj hy
    exact hnext

end Steps

/-- A business system rejected a commit. -/
def Event.rejected : Event → Bool
  | ⟨.world (.commit _ _ _ _ _ _), .ok result⟩ => result.status = .rejected
  | _ => false

/-- The runtime beside business systems that reject no commit. -/
def obliging : Machine Op Exc DB := store.restrict fun e => Event.rejected e = false

theorem obliging_effect {α : Type} {db db' : DB} {o : Op α} {r : Except Exc α}
    (h : obliging db o r db') : o.Effect db r db' ∧ Event.rejected ⟨o, r⟩ = false :=
  ⟨store_effect h.1, h.2⟩

section Programs

variable {α : Type} {runId : Uuid} {status : RunStatus} {db : DB} (π : Platform)

/-- The guard of every call: the statuses persisted so far are a legal path. -/
abbrev InLifecycle (runId : Uuid) (db : DB) {α : Type} (_ : Op α) : Prop := Lawful runId db

/-- What a program leaves that returns `a` with the run at `f a`. -/
def Leaves (runId : Uuid) (f : α → RunStatus) : Except Exc α → DB → Prop
  | .ok a, db => At runId (f a) db
  | .error _, db => Lawful runId db

theorem At.keeps {p : Act α} (h : At runId status db) (hp : Uses Op.KeepsStatus p) :
    Safe obliging (InLifecycle runId) (fun _ db' => At runId status db') p db := by
  refine (hp.keeps ?_ h).mono (fun _ _ _ hs => ⟨status, hs⟩) fun _ _ hs => hs
  intro db β o r db' hs ho hm
  exact hs.effect (obliging_effect hm).1 ho

/-- A checkpoint with a legal successor, whatever the read after it answers. -/
theorem At.safe_commitCheckpoint {context : RunContext} {next : RunStatus} {nextStep : String}
    {state : Dict} {events : List DomainEvent} {c : Option MutationCompletion}
    (h : At runId status db) (hid : context.runId = runId) (hnext : next ∈ TRANSITIONS status) :
    Safe obliging (InLifecycle runId) (Leaves runId fun _ => next)
      (commitCheckpoint context next nextStep state events c) db := by
  unfold commitCheckpoint commitStep
  refine (safe_ite _ _ _ _).mpr ⟨fun _ => ⟨status, h⟩, fun _ => ?_⟩
  rw [safe_bind]
  refine (safe_ite _ _ _ _).mpr ⟨fun _ => ⟨status, h⟩, fun _ => ?_⟩
  refine (safe_ite _ _ _ _).mpr ⟨fun _ => ⟨status, h⟩, fun _ => ?_⟩
  rw [safe_bind, safe_perform]
  refine ⟨⟨status, h⟩, ?_⟩
  intro r db' hm
  rcases (obliging_effect hm).1 with ⟨e, rfl, rfl⟩ | ⟨env, a, rfl, hx⟩
  · exact ⟨status, h⟩
  · obtain ⟨run, hc⟩ := commitStepTx_committed hx
    have hafter : At runId next db' := h.commit hc hid hid rfl hnext
    rw [thenSafe_ok, safe_bind, safe_perform]
    refine ⟨⟨next, hafter⟩, ?_⟩
    intro r db'' hm
    have hread : At runId next db'' := hafter.effect (obliging_effect hm).1 trivial
    cases r with
    | error e => exact ⟨next, hread⟩
    | ok snapshot =>
      cases snapshot with
      | none => exact ⟨next, hread⟩
      | some run => exact hread

theorem Op.SparesRuns.keepsStatus {o : Op α} (ho : o.SparesRuns) : o.KeepsStatus := by
  cases o with
  | runs t => exact False.elim ho
  | _ => trivial

theorem At.spares {p : Act α} (h : At runId status db) (hp : Uses Op.SparesRuns p) :
    Safe obliging (InLifecycle runId) (fun _ db' => At runId status db') p db :=
  h.keeps (hp.mono fun _ ho => ho.keepsStatus)

theorem Lawful.leaves {f : α → RunStatus} {r : Except Exc α} (h : Leaves runId f r db) :
    Lawful runId db := by
  cases r with
  | ok a => exact ⟨_, h⟩
  | error e => exact h

/-- Sequencing after a part that keeps the run where it is. -/
theorem At.seq {β : Type} {p : Act α} {f : α → Act β} {Q : Except Exc β → DB → Prop}
    (h : At runId status db) (hp : Uses Op.KeepsStatus p)
    (herror : ∀ e db', At runId status db' → Q (.error e) db')
    (hf : ∀ a db', At runId status db' → Safe obliging (InLifecycle runId) Q (f a) db') :
    Safe obliging (InLifecycle runId) Q (p >>= f) db := by
  rw [safe_bind]
  refine (h.keeps hp).post ?_
  rintro (e | a) db' hs
  · exact herror e db' hs
  · exact hf a db' hs

/-- A preparation writes one checkpoint, which waits. -/
theorem At.safe_prepare {context : RunContext} {mutationType : String} {arguments : Dict}
    (h : At runId status db) (hid : context.runId = runId)
    (hstatus : .waitingConfirmation ∈ TRANSITIONS status) :
    Safe obliging (InLifecycle runId) (fun _ db' => Lawful runId db')
      (prepareMutation π context mutationType arguments) db := by
  have hfail : ∀ (e : Exc) db', At runId status db' → Lawful runId db' := fun _ _ hs => ⟨status, hs⟩
  refine h.seq (uses_planMutation _ _ _ _) hfail fun preview db h => ?_
  refine h.seq (.perform trivial) hfail fun now db h => ?_
  refine h.seq (.perform trivial) hfail fun token db h => ?_
  refine h.seq (.perform trivial) hfail fun _ db h => ?_
  rw [safe_bind]
  refine (h.safe_commitCheckpoint hid hstatus).post ?_
  rintro (e | version) db' hs
  · exact hs
  · exact ⟨_, hs⟩

theorem At.safe_refresh {context : RunContext} (h : At runId status db)
    (hid : context.runId = runId) (hstatus : .waitingConfirmation ∈ TRANSITIONS status) :
    Safe obliging (InLifecycle runId) (fun _ db' => Lawful runId db')
      (refreshMutationToken π context) db := by
  have hfail : ∀ (e : Exc) db', At runId status db' → Lawful runId db' := fun _ _ hs => ⟨status, hs⟩
  refine (safe_ite _ _ _ _).mpr ⟨fun _ => ⟨status, h⟩, fun _ => ?_⟩
  refine h.seq (.perform trivial) hfail fun record db h => ?_
  split
  · refine (safe_ite _ _ _ _).mpr ⟨fun _ => ⟨status, h⟩, fun _ => ?_⟩
    refine h.seq (.perform trivial) hfail fun now db h => ?_
    refine h.seq (.perform trivial) hfail fun token db h => ?_
    refine h.seq (.perform trivial) hfail fun _ db h => ?_
    rw [safe_bind]
    refine (h.safe_commitCheckpoint hid hstatus).post ?_
    rintro (e | version) db' hs
    · exact hs
    · exact ⟨_, hs⟩
  · exact ⟨status, h⟩

theorem At.safe_reject {context : RunContext} {tokenHash : String} (h : At runId status db)
    (hid : context.runId = runId) (hstatus : .cancelled ∈ TRANSITIONS status) :
    Safe obliging (InLifecycle runId) (fun _ db' => Lawful runId db')
      (rejectMutation context tokenHash) db := by
  have hfail : ∀ (e : Exc) db', At runId status db' → Lawful runId db' := fun _ _ hs => ⟨status, hs⟩
  refine h.seq (uses_requireWaiting (fun _ => trivial) _ _ _) hfail fun record db h => ?_
  refine h.seq (uses_rejectToken (fun _ => trivial) _ _ _ _) hfail fun _ db h => ?_
  rw [safe_bind]
  refine (h.safe_commitCheckpoint hid hstatus).post ?_
  rintro (e | version) db' hs
  · exact hs
  · exact ⟨_, hs⟩

/-- An adapter that rejects nothing: what it answers is checkpointed as verifying. -/
theorem At.safe_adapter {c : Confirmation} {key : String} (h : At runId status db) :
    Safe obliging (InLifecycle runId)
      (fun r db' => At runId status db' ∧ ∀ result, r = .ok result → result.status ≠ .rejected)
      ((c.adapter π key).handle fun _ => pure ⟨.unknown, none, []⟩) db := by
  have hunknown : ∀ {db'}, At runId status db' → At runId status db' ∧
      ∀ result, (.ok ⟨.unknown, none, []⟩ : Except Exc MutationAdapterResult) = .ok result →
        result.status ≠ .rejected := by
    intro db' hs
    refine ⟨hs, fun result hr => ?_⟩
    obtain rfl := Except.ok.inj hr
    simp
  rw [safe_handle, Confirmation.adapter]
  split
  · exact hunknown h
  · rw [safe_perform]
    refine ⟨⟨status, h⟩, ?_⟩
    intro r db' hm
    obtain ⟨heff, hanswer⟩ := obliging_effect hm
    have hs : At runId status db' := h.effect heff trivial
    cases r with
    | error e => exact hunknown hs
    | ok result =>
      refine ⟨hs, fun result' hr => ?_⟩
      obtain rfl := Except.ok.inj hr
      simpa [Event.rejected] using hanswer

/-- What `execute` leaves behind: a version only after a checkpoint as verifying, and then a
success or an unknown outcome. -/
def LeavesOutcome (runId : Uuid) :
    Except Exc (MutationExecutionOutcome × Option (ℕ × Dict)) → DB → Prop
  | .ok (outcome, some _), db =>
    (outcome.status = .succeeded ∨ outcome.status = .unknown) ∧ At runId .verifying db
  | .ok (_, none), db => At runId .committing db
  | .error _, db => Lawful runId db

theorem At.safe_invokeAdapter {c : Confirmation} (h : At runId .committing db)
    (hid : c.committing.runId = runId) :
    Safe obliging (InLifecycle runId) (LeavesOutcome runId)
      (invokeAdapter c.intent (c.adapter π) c.checkpointCompletion (pure ())) db := by
  rw [invokeAdapter, safe_bind]
  refine (h.safe_adapter π).post ?_
  rintro (e | result) db' ⟨hs, hanswer⟩
  · exact ⟨_, hs⟩
  · have hstatus : (completion c.intent result).status = .succeeded ∨
        (completion c.intent result).status = .unknown := by
      rw [completion]
      cases hr : result.status with
      | succeeded => exact .inl rfl
      | unknown => exact .inr rfl
      | rejected => exact absurd hr (hanswer result rfl)
    have hverifying : (completion c.intent result).runStatus = .verifying := if_pos hstatus
    simp only [thenSafe_ok, safe_bind, safe_pure, Confirmation.checkpointCompletion]
    refine (hs.safe_commitCheckpoint hid (hverifying ▸ by decide)).post ?_
    rintro (e | version) db'' hs'
    · exact hs'
    · exact ⟨hstatus, hverifying ▸ hs'⟩

theorem At.safe_execute {c : Confirmation} (h : At runId .committing db)
    (hid : c.committing.runId = runId) :
    Safe obliging (InLifecycle runId) (LeavesOutcome runId)
      (execute c.intent (c.adapter π) c.checkpointCompletion) db := by
  have hfail : ∀ (e : Exc) db', At runId .committing db' → LeavesOutcome runId (.error e) db' :=
    fun _ _ hs => ⟨_, hs⟩
  refine h.seq (uses_requireIntent (fun _ => trivial) c.intent) hfail fun current db h => ?_
  cases replay current with
  | some outcome => exact h
  | none =>
    refine h.seq (uses_claim (fun _ => trivial) c.intent) hfail fun claimed db h => ?_
    refine (safe_ite _ _ _ _).mpr ⟨fun _ => ?_, fun _ => (safe_ite _ _ _ _).mpr ⟨fun _ => ?_,
      fun _ => h.safe_invokeAdapter π hid⟩⟩
    · cases replay claimed.execution with
      | some outcome => exact h
      | none => exact h
    · exact ⟨_, h⟩

theorem uses_readback (c : Confirmation) (outcome : MutationExecutionOutcome) :
    Uses Op.KeepsStatus (c.readback outcome) := by
  unfold Confirmation.readback
  exact .ite (.perform trivial) (.pure _)

theorem uses_handOver (c : Confirmation) (options : ConfirmOptions)
    (outcome : MutationExecutionOutcome) (readback : Option Dict) :
    Uses Op.KeepsStatus (c.handOver options outcome readback) := by
  unfold Confirmation.handOver
  exact .ite (uses_createHandoff (fun _ => trivial) (fun _ _ _ => trivial) _ _ _ _ _) (.pure _)

/-- The exit for an outcome that is not a success: an unknown one waits for a human. -/
theorem At.safe_settleUnsuccessful {c : Confirmation} {options : ConfirmOptions}
    {outcome : MutationExecutionOutcome} {left : ℕ × Dict} (h : At runId .verifying db)
    (hid : c.committing.runId = runId) (hunknown : outcome.status = .unknown) :
    Safe obliging (InLifecycle runId) (fun _ db' => Lawful runId db')
      (c.settleUnsuccessful options outcome (some left)) db := by
  have hfail : ∀ (e : Exc) db', At runId .verifying db' → Lawful runId db' := fun _ _ hs => ⟨_, hs⟩
  unfold Confirmation.settleUnsuccessful
  refine h.seq (uses_readback c outcome) hfail fun readback db h => ?_
  refine h.seq (uses_handOver c options outcome readback) hfail fun ticketId db h => ?_
  have hnext : (if outcome.status = .unknown then .waitingHuman else .failed : RunStatus) ∈
      TRANSITIONS .verifying := by
    rw [if_pos hunknown]
    decide
  have hverifying : ({ c.committing with
      status := .verifying, checkpointVersion := left.1 } : RunContext).runId = runId := hid
  rw [requireOutcomeVersion, safe_bind, safe_pure, thenSafe_ok, safe_bind]
  refine (h.safe_commitCheckpoint hverifying hnext).post ?_
  rintro (e | version) db' hs
  · exact hs
  · exact ⟨_, hs⟩

theorem At.safe_settleSucceeded {c : Confirmation} {options : ConfirmOptions}
    {left : ℕ × Dict} (h : At runId .verifying db) (hid : c.committing.runId = runId) :
    Safe obliging (InLifecycle runId) (fun _ db' => Lawful runId db')
      (c.settleSucceeded π options (some left)) db := by
  have hfail : ∀ (e : Exc) db', At runId .verifying db' → Lawful runId db' := fun _ _ hs => ⟨_, hs⟩
  have hdone : ∀ {next : RunStatus} {nextStep : String} {state : Dict} {events : List DomainEvent}
      {db : DB} {context : RunContext} {g : ℕ → RunContext}, At runId .verifying db →
      context.runId = runId → next ∈ TRANSITIONS .verifying →
      Safe obliging (InLifecycle runId) (fun _ db' => Lawful runId db')
        (checkpoint context next nextStep state events >>= fun version => pure (g version)) db := by
    intro next nextStep state events db context g hs hcontext hnext
    rw [safe_bind]
    refine (hs.safe_commitCheckpoint hcontext hnext).post ?_
    rintro (e | version) db' hs
    · exact hs
    · exact ⟨_, hs⟩
  unfold Confirmation.settleSucceeded
  rw [requireOutcomeVersion, safe_bind, safe_pure, thenSafe_ok]
  refine h.seq (.perform trivial) hfail fun verified db h => ?_
  refine (safe_ite _ _ _ _).mpr ⟨fun _ => ?_, fun _ => hdone h hid (by decide)⟩
  refine h.seq (uses_createHandoff (fun _ => trivial) (fun _ _ _ => trivial) _ _ _ _ _) hfail fun ticketId db h => ?_
  exact hdone h hid (by decide)

theorem At.safe_confirmation {c : Confirmation} {options : ConfirmOptions}
    (h : At runId .committing db) (hid : c.committing.runId = runId) :
    Safe obliging (InLifecycle runId) (fun _ db' => Lawful runId db') (c.run π options) db := by
  rw [Confirmation.run, safe_bind]
  refine (h.safe_execute π hid).post ?_
  rintro (e | ⟨outcome, left⟩) db' hs
  · exact hs
  · cases left with
    | none =>
      -- Nothing was checkpointed: both exits raise before they write.
      refine (safe_ite _ _ _ _).mpr ⟨fun _ => ?_, fun _ => ⟨_, hs⟩⟩
      exact (hs.spares (uses_settleUnsuccessful c outcome)).post fun _ _ hs => ⟨_, hs⟩
    | some left =>
      obtain ⟨hstatus, hs⟩ := hs
      refine (safe_ite _ _ _ _).mpr ⟨fun hother => ?_, fun _ => hs.safe_settleSucceeded π hid⟩
      exact hs.safe_settleUnsuccessful hid (hstatus.resolve_left hother)

theorem At.safe_confirm {context : RunContext} {options : ConfirmOptions}
    {tokenPlaintext idempotencyKey : String} (h : At runId .waitingConfirmation db)
    (hid : context.runId = runId) :
    Safe obliging (InLifecycle runId) (fun _ db' => Lawful runId db')
      (confirmMutation π options context tokenPlaintext idempotencyKey) db := by
  have hfail : ∀ (e : Exc) db', At runId .waitingConfirmation db' → Lawful runId db' :=
    fun _ _ hs => ⟨_, hs⟩
  refine h.seq (uses_requireWaiting (fun _ => trivial) _ _ _) hfail fun record db h => ?_
  refine (safe_ite _ _ _ _).mpr ⟨fun _ => ⟨_, h⟩, fun _ => ?_⟩
  refine h.seq (uses_reserveConfirmation (fun _ => trivial) _) hfail fun reservation db h => ?_
  refine (safe_ite _ _ _ _).mpr ⟨fun _ => ⟨_, h⟩, fun _ => ?_⟩
  rw [safe_bind, startCommitting, safe_bind]
  refine (h.safe_commitCheckpoint hid (by decide)).post ?_
  rintro (e | version) db' hs
  · exact hs
  · exact hs.safe_confirmation π hid

theorem Op.Publishes.keepsStatus {o : Op α} (ho : o.Publishes) : o.KeepsStatus := by
  cases o with
  | runs t => cases t <;> first | exact False.elim ho | trivial
  | _ => trivial

theorem Lawful.keeps {p : Act α} (h : Lawful runId db) (hp : Uses Op.KeepsStatus p) :
    Safe obliging (InLifecycle runId) (fun _ db' => Lawful runId db') p db := by
  obtain ⟨status, hs⟩ := h
  exact (hs.keeps hp).post fun _ _ hs' => ⟨status, hs'⟩

/-- The latest checkpoint of a run is one of its own. -/
theorem At.safe_checkpointContext {actorId : String} (h : At runId status db) :
    Safe obliging (InLifecycle runId)
      (fun r db' => At runId status db' ∧ ∀ context, r = .ok context → context.runId = runId)
      (checkpointContext runId actorId) db := by
  rw [checkpointContext, safe_bind, safe_perform]
  refine ⟨⟨status, h⟩, ?_⟩
  intro r db' hm
  rcases (obliging_effect hm).1 with ⟨e, rfl, rfl⟩ | ⟨env, state, rfl, hx⟩
  · exact ⟨h, fun _ hr => absurd hr (by simp)⟩
  · have hstate : db' = db ∧ ∀ context, state = some context → context.runId = runId := by
      simp only [RunTx.exec, loadLatestCheckpoint] at hx
      split at hx
      · obtain ⟨rfl, rfl⟩ := Prod.mk.inj (Except.ok.inj hx)
        exact ⟨rfl, fun _ hc => absurd hc (by simp)⟩
      · obtain ⟨rfl, rfl⟩ := Prod.mk.inj (Except.ok.inj hx)
        refine ⟨rfl, fun context hc => ?_⟩
        obtain ⟨c, hlatest, rfl⟩ := Option.map_eq_some_iff.mp hc
        obtain ⟨hmem, hid⟩ := List.mem_filter.mp (latestBy_mem hlatest)
        exact h.owned c hmem (of_decide_eq_true hid)
    obtain ⟨rfl, hown⟩ := hstate
    cases state with
    | none => exact ⟨h, fun _ hr => absurd hr (by simp)⟩
    | some state =>
      simp only [thenSafe_ok]
      split
      · exact ⟨h, fun _ hr => absurd hr (by simp)⟩
      · rename_i context hvalid
        obtain ⟨rfl, _⟩ := RunContext.modelValidate_eq_ok.mp hvalid
        refine (safe_ite _ _ _ _).mpr ⟨fun _ => ⟨h, fun _ hr => absurd hr (by simp)⟩, fun _ => ?_⟩
        refine ⟨h, fun context' hr => ?_⟩
        obtain rfl := Except.ok.inj hr
        exact hown _ rfl

/-- A request that finds the row waiting goes on with the latest checkpoint. -/
theorem Lawful.safe_waitingContext {actorId : String} (h : Lawful runId db) :
    Safe obliging (InLifecycle runId)
      (fun r db' => Lawful runId db' ∧ ∀ context, r = .ok context →
        At runId .waitingConfirmation db' ∧ context.runId = runId)
      (waitingContext runId actorId) db := by
  have hfail : ∀ {e : Exc} {db' : DB}, Lawful runId db' → Lawful runId db' ∧ ∀ context,
      (.error e : Except Exc RunContext) = .ok context →
        At runId .waitingConfirmation db' ∧ context.runId = runId :=
    fun hs => ⟨hs, fun _ hr => absurd hr (by simp)⟩
  obtain ⟨status, hs⟩ := h
  rw [waitingContext, requireRun, safe_bind, safe_bind, safe_perform]
  refine ⟨⟨status, hs⟩, ?_⟩
  intro r db' hm
  rcases (obliging_effect hm).1 with ⟨e, rfl, rfl⟩ | ⟨env, snapshot, rfl, hx⟩
  · exact hfail ⟨status, hs⟩
  · obtain ⟨rfl, rfl⟩ := Prod.mk.inj (Except.ok.inj hx)
    rw [thenSafe_ok]
    split
    · exact hfail ⟨status, hs⟩
    · rename_i run hrun
      refine (safe_ite _ _ _ _).mpr ⟨fun _ => hfail ⟨status, hs⟩, fun hwaits => ?_⟩
      obtain ⟨row, hrow, hstatus, _⟩ := hs.row
      obtain ⟨hfound, _⟩ := Option.filter_eq_some_iff.mp hrun
      obtain rfl := Option.some.inj (hfound.symm.trans hrow)
      obtain rfl : status = .waitingConfirmation := hstatus.symm.trans (not_not.mp hwaits)
      refine hs.safe_checkpointContext.post ?_
      rintro r db' ⟨hs', hown⟩
      exact ⟨⟨_, hs'⟩, fun context hr => ⟨hs', hown context hr⟩⟩

theorem Lawful.safe_confirmRun {actorId : String} {payload : ConfirmationRequest}
    (h : Lawful runId db) :
    Safe obliging (InLifecycle runId) (fun _ db' => Lawful runId db')
      (confirmRun π runId actorId payload) db := by
  rw [confirmRun, safe_bind]
  refine h.safe_waitingContext.post ?_
  rintro (e | context) db' ⟨hs, hcontext⟩
  · exact hs
  · obtain ⟨hwaiting, hid⟩ := hcontext context rfl
    have hdecide : Safe obliging (InLifecycle runId) (fun _ db' => Lawful runId db')
        (applyDecision π context payload) db' := by
      unfold applyDecision
      split
      · rw [safe_bind]
        refine (hwaiting.safe_reject hid (by decide)).post ?_
        rintro (e | updated) db' hs <;> exact hs
      · rw [safe_bind]
        refine (hwaiting.safe_confirm π hid).post ?_
        rintro (e | updated) db' hs <;> exact hs
    rw [thenSafe_ok, safe_bind, safe_handle]
    refine hdecide.post ?_
    rintro (e | ⟨updated, accepted, responseText⟩) db' hs
    · exact hs
    · rw [exceptSafe_ok, thenSafe_ok, safe_bind]
      refine (hs.keeps ((uses_publishTerminalResponse _).mono fun _ ho => ho.keepsStatus)).post ?_
      rintro (e | response) db' hs <;> exact hs

theorem Lawful.safe_refreshConfirmation {actorId : String} (h : Lawful runId db) :
    Safe obliging (InLifecycle runId) (fun _ db' => Lawful runId db')
      (refreshConfirmation π runId actorId) db := by
  rw [refreshConfirmation, safe_bind]
  refine h.safe_waitingContext.post ?_
  rintro (e | context) db' ⟨hs, hcontext⟩
  · exact hs
  · obtain ⟨hwaiting, hid⟩ := hcontext context rfl
    rw [thenSafe_ok, safe_handle]
    refine (hwaiting.safe_refresh π hid (by decide)).post ?_
    rintro (e | refreshed) db' hs
    · cases e <;> exact hs
    · exact hs

end Programs

section Sessions

variable (π : Platform)

inductive MutationRequest where
  | prepare (mutationType : String) (arguments : Dict)
  | refresh
  | decide (payload : ConfirmationRequest)

def MutationRequest.serve (entering : RunContext) : MutationRequest → DB → Act Unit
  | .prepare mutationType arguments, db => do
    let _ ← prepareMutation π (entering.current db) mutationType arguments
    pure ()
  | .refresh, _ => do
    let _ ← refreshConfirmation π entering.runId entering.actorId
    pure ()
  | .decide payload, _ => do
    let _ ← confirmRun π entering.runId entering.actorId payload
    pure ()

/-- The run enters its workflow: routed, with nothing checkpointed yet. -/
structure Entered (entering : RunContext) (db : DB) : Prop where
  status : entering.status = .runningWorkflow
  row : db.runStatus entering.runId = some .runningWorkflow
  fresh : ∀ c ∈ db.checkpoints.rows, c.runId ≠ entering.runId

/-- A preparation is entered while the run is in its workflow, or again while it waits. -/
def MutationRequest.Preparable (entering : RunContext) (request : MutationRequest) (db : DB) :
    Prop :=
  ∀ mutationType arguments, request = .prepare mutationType arguments →
    (entering.current db).status ∈ [RunStatus.runningWorkflow, .waitingConfirmation]

variable {π} {entering : RunContext} {db₀ db : DB}
  {turns : List (Turn MutationRequest Op Exc DB)}

theorem Entered.at (h : Entered entering db) : At entering.runId .runningWorkflow db := by
  have hnone : (db.checkpoints.select fun c => c.runId = entering.runId) = [] := by
    rw [Table.select, List.filter_eq_nil_iff]
    intro c hc
    simpa using h.fresh c hc
  have hpersisted : db.persisted entering.runId = [] := by
    rw [DB.persisted, hnone]
    rfl
  obtain ⟨row, hrow, hstatus⟩ := Option.map_eq_some_iff.mp h.row
  refine ⟨⟨row, hrow, hstatus, ?_⟩, ?_, ?_, ?_, ?_⟩
  · exact fun c hc hid => absurd hid (h.fresh c hc)
  · exact fun c hc hid => absurd hid (h.fresh c hc)
  · rw [hpersisted]
    rfl
  · rw [DB.latestCheckpoint, hnone, hpersisted]
    rfl
  · rw [hpersisted]
    exact .singleton _

/-- The current context is one of the run, with the status that was persisted last. -/
theorem At.current {status : RunStatus} (h : At entering.runId status db)
    (hentered : entering.status = .runningWorkflow) :
    (entering.current db).runId = entering.runId ∧ (entering.current db).status = status := by
  unfold RunContext.current
  cases hc : db.latestCheckpoint entering.runId with
  | none =>
    have hlatest := h.latest
    rw [hc, Option.map_none] at hlatest
    have hlast := h.last
    rw [List.getLast?_eq_none_iff.mp hlatest.symm] at hlast
    exact ⟨rfl, hentered.trans (Option.some.inj hlast)⟩
  | some c =>
    obtain ⟨hmem, hid⟩ := List.mem_filter.mp (latestBy_mem hc)
    refine ⟨h.owned c hmem (of_decide_eq_true hid), ?_⟩
    have hlatest := h.latest
    rw [hc, Option.map_some] at hlatest
    have hlast := h.last
    rw [List.getLast?_cons, ← hlatest] at hlast
    exact Option.some.inj hlast

theorem safe_serve {request : MutationRequest} (h : Lawful entering.runId db)
    (hentered : entering.status = .runningWorkflow) (hprepare : request.Preparable entering db) :
    Safe obliging (InLifecycle entering.runId) (fun _ db' => Lawful entering.runId db')
      (request.serve π entering db) db := by
  cases request with
  | prepare mutationType arguments =>
    obtain ⟨status, hs⟩ := h
    obtain ⟨hid, hstatus⟩ := hs.current hentered
    have hnext : .waitingConfirmation ∈ TRANSITIONS status := by
      have hcurrent := hprepare mutationType arguments rfl
      rw [hstatus] at hcurrent
      rcases List.mem_pair.mp hcurrent with rfl | rfl <;> decide
    rw [MutationRequest.serve, safe_bind]
    refine (hs.safe_prepare π hid hnext).post ?_
    rintro (e | prepared) db' hs <;> exact hs
  | refresh =>
    rw [MutationRequest.serve, safe_bind]
    refine (h.safe_refreshConfirmation π).post ?_
    rintro (e | refreshed) db' hs <;> exact hs
  | decide payload =>
    rw [MutationRequest.serve, safe_bind]
    refine (h.safe_confirmRun π).post ?_
    rintro (e | response) db' hs <;> exact hs

/-- The statuses that the checkpoints of a run persisted are a path of the state machine, and
nothing follows a final one. -/
def LegalLifecycle (runId : Uuid) (db : DB) : Prop :=
  Legal (.runningWorkflow :: db.persisted runId) ∧
    ∀ before status later, db.persisted runId = before ++ status :: later →
      status.IsTerminal → later = []

theorem Lawful.legalLifecycle {runId : Uuid} (h : Lawful runId db) : LegalLifecycle runId db := by
  obtain ⟨status, hs⟩ := h
  refine ⟨hs.legal, ?_⟩
  intro before last later hsplit hterminal
  have hlegal : Legal (last :: later) := by
    have hwhole := hs.legal
    rw [hsplit, ← List.cons_append] at hwhole
    exact (List.isChain_append.mp hwhole).2.1
  cases later with
  | nil => rfl
  | cons next later =>
    -- No transition leaves a final status.
    have hnext := (List.isChain_cons_cons.mp hlegal).1
    rw [transitions_of_terminal hterminal] at hnext
    exact absurd hnext List.not_mem_nil

end Sessions

section Demo

/-- A run of the demo tenant in the cancellation workflow. -/
def enteringContext : RunContext := { demoContext with tenantId := DEMO_TENANT_ID }

def enteredDB : DB where
  conversations := .single ⟨"conv", DEMO_TENANT_ID, "demo-user-001"⟩
  runs := .single { demoRun with tenantId := DEMO_TENANT_ID }

theorem entered_enteredDB : Entered enteringContext enteredDB :=
  ⟨rfl, rfl, fun _ hc => absurd hc List.not_mem_nil⟩

/-- A choice for a business system that answers every commit with `status`. -/
def adapterChoice (uuid token : String) (status : MutationAdapterStatus) : Choice :=
  ⟨⟨100, uuid, fun _ => 0⟩, false, fun
    | .commit _ _ _ _ _ _ => .ok ⟨status, none, []⟩
    | w => demoWorld 100 token w⟩

def demoPreparation : MutationRequest :=
  .prepare "cancel_order" (cancelArguments "不想要")

def demoDecision : MutationRequest := .decide ⟨.confirm, "secret-1", "key-1"⟩

/-- A preparation, driven to its end. -/
def demoPrepared (status : MutationAdapterStatus) :
    List (Happened Op Exc DB) × Act Unit × DB :=
  drive respond (List.replicate 5 (adapterChoice "token-1" "secret-1" status))
    (demoPreparation.serve demoPlatform enteringContext enteredDB) enteredDB

/-- The confirmation that follows it. -/
def demoDecided (status : MutationAdapterStatus) : List (Happened Op Exc DB) × Act Unit × DB :=
  drive respond (List.replicate 16 (adapterChoice "record-1" "" status))
    (demoDecision.serve demoPlatform enteringContext (demoPrepared status).2.2)
    (demoPrepared status).2.2

def demoTurns (status : MutationAdapterStatus) : List (Turn MutationRequest Op Exc DB) :=
  [⟨demoPreparation, enteredDB, (demoPrepared status).1⟩,
    ⟨demoDecision, (demoPrepared status).2.2, (demoDecided status).1⟩]

theorem demoTurns_session (status : MutationAdapterStatus) :
    Session store (MutationRequest.serve demoPlatform enteringContext) enteredDB
      (demoTurns status) (demoDecided status).2.2 := by
  have hprepared := exec_of_drive (Eq.refl (demoPrepared status))
  have hdecided := exec_of_drive (Eq.refl (demoDecided status))
  exact .turn (.turn .start hprepared) hdecided

instance demoTurns_facts : Fact (((demoTurns .succeeded).all fun turn => turn.calls.all fun e => !Event.rejected e.toCall) =
        true ∧
      (demoDecided .succeeded).2.2.persisted "run" =
        [.waitingConfirmation, .committing, .verifying, .completed] ∧
      (demoDecided .rejected).2.2.persisted "run" =
        [.waitingConfirmation, .committing, .failed, .failed]) :=
  ⟨by decide +kernel⟩

/-- A preparation always finds the demo run entering. -/
theorem demo_preparable (status : MutationAdapterStatus) :
    ∀ turn ∈ demoTurns status, turn.request.Preparable enteringContext turn.before := by
  intro turn hturn mutationType arguments hrequest
  rcases List.mem_pair.mp hturn with rfl | rfl
  · exact List.mem_cons_self
  · exact absurd hrequest (by simp [demoDecision])

end Demo

end CommerceAgent
