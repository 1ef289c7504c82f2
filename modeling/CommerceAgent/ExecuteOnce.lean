import CommerceAgent.MutationExecution
import CommerceAgent.Persistence
import Mathlib.Data.List.Induction

/-! At most one adapter call for a mutation record, whatever the workers on it do and wherever
they crash. -/
namespace CommerceAgent

open Json Programs

/-- A caller of the boundary: its intent, the commit that its adapter makes, and what it
checkpoints for a completion. -/
structure BoundaryWorker where
  intent : MutationExecutionIntent
  recovering : Bool
  system : BusinessSystem
  operation : String
  actorId : String
  resourceRef : String
  arguments : Dict
  context : RunContext
  target : MutationCompletion → RunStatus
  nextStep : MutationCompletion → String
  state : MutationCompletion → Dict
  events : MutationCompletion → List DomainEvent

namespace BoundaryWorker

def adapter (w : BoundaryWorker) (key : String) : Act MutationAdapterResult :=
  .perform (.world
    (.commit w.system w.operation w.actorId w.resourceRef w.arguments key))

def checkpoint (w : BoundaryWorker) (c : MutationCompletion) : Act Unit := do
  let _ ← checkpointMutation w.context (w.target c) (w.nextStep c) (w.state c) (w.events c) c
  pure ()

def run (w : BoundaryWorker) : Act MutationExecutionOutcome :=
  if w.recovering then recover w.intent w.checkpoint
  else do
    let executed ← execute w.intent w.adapter w.checkpoint
    pure executed.1

end BoundaryWorker

/-- The call that hands the record to an external system. -/
def Event.invokes (recordId : Uuid) : Event → Bool
  | ⟨.world (.commit _ _ _ _ _ key), _⟩ => key = recordId
  | _ => false

/-- The claim that took the record. -/
def Event.acquires (recordId : Uuid) : Event → Bool
  | ⟨.records (.claim intent), .ok (some _)⟩ => intent.recordId = recordId
  | _ => false

/-- How far a worker got with the record. -/
inductive Stage where
  | idle
  | acquired
  | invoked
  deriving DecidableEq, Repr

def Stage.track (recordId : Uuid) (stage : Stage) (e : Event) : Stage :=
  if Event.acquires recordId e then .acquired
  else if Event.invokes recordId e then .invoked else stage

/-- What a worker promises about the next operation, given how far it got. -/
def Stage.Allows (recordId : Uuid) (stage : Stage) : {α : Type} → Op α → Prop
  | _, .world (.commit _ _ _ _ _ key) => key = recordId → stage = .acquired
  | _, .runs (.commitStep p) => ∀ c, p.mutationCompletion = some c → c.status.IsFinal
  | _, _ => True

section Promise

variable {recordId : Uuid}

theorem MutationAdapterStatus.outcome_final (s : MutationAdapterStatus) : s.outcome.IsFinal := by
  cases s <;> exact trivial

theorem safe_commitCheckpoint {context : RunContext} {status : RunStatus} {nextStep : String}
    {state : Dict} {events : List DomainEvent} {c : Option MutationCompletion} {stage : Stage} :
    Safe (.ghost (Stage.track recordId)) (Stage.Allows recordId) (fun _ _ => True)
      (commitCheckpoint context status nextStep state events c) stage := by
  simp only [commitCheckpoint, commitStep, safe_ite, safe_bind, safe_perform, safe_raise,
    implies_true, true_and]
  intro _
  refine ⟨fun _ => trivial, fun _ => ⟨fun _ => trivial, fun hfinal => ⟨?_, ?_⟩⟩⟩
  · intro c' hc'
    simp only [checkpointStep] at hc' hfinal
    simpa [hc'] using hfinal
  · intro r stage' _
    cases r with
    | error e => trivial
    | ok _ =>
      simp only [thenSafe_ok, safe_bind, safe_perform]
      refine ⟨trivial, ?_⟩
      intro r stage'' _
      rcases r with e | _ | run <;> trivial

theorem safe_requireIntent {intent : MutationExecutionIntent} {stage : Stage} :
    Safe (.ghost (Stage.track recordId)) (Stage.Allows recordId) (fun _ stage' => stage' = stage)
      (requireIntent intent) stage := by
  simp only [requireIntent, safe_bind, safe_perform]
  refine ⟨trivial, ?_⟩
  intro r stage' hs
  obtain rfl : stage' = stage := by
    rw [hs]
    cases r <;> rfl
  rcases r with e | _ | stored <;> rfl

/-- A claim that reports an acquisition of the record has left its mark. -/
theorem safe_claim {intent : MutationExecutionIntent} {stage : Stage} :
    Safe (.ghost (Stage.track recordId)) (Stage.Allows recordId)
      (fun r stage' => ∀ c, r = .ok c → c.acquired = true →
        intent.recordId = recordId → stage' = .acquired)
      (claim intent) stage := by
  simp only [claim, safe_bind, safe_perform]
  refine ⟨trivial, ?_⟩
  intro r stage' hs
  rcases r with e | _ | execution
  · intro c hc
    exact absurd hc (by simp)
  · simp only [thenSafe_ok, safe_bind, safe_perform]
    refine ⟨trivial, ?_⟩
    intro r stage'' _
    rcases r with e | _ | stored
    · intro c hc
      exact absurd hc (by simp)
    · intro c hc
      exact absurd hc (by simp)
    · intro c hc hacq
      obtain rfl := Except.ok.inj hc
      exact absurd hacq (by simp)
  · intro c _ _ hid
    rw [hs]
    simp [Stage.track, Event.acquires, hid]

theorem BoundaryWorker.safe_checkpoint (w : BoundaryWorker) (c : MutationCompletion)
    {stage : Stage} :
    Safe (.ghost (Stage.track recordId)) (Stage.Allows recordId) (fun _ _ => True)
      (w.checkpoint c) stage := by
  simp only [BoundaryWorker.checkpoint, checkpointMutation, safe_bind]
  refine safe_commitCheckpoint.post ?_
  intro r stage' _
  cases r <;> trivial

theorem BoundaryWorker.safe_invokeAdapter (w : BoundaryWorker) {stage : Stage}
    (hacq : w.intent.recordId = recordId → stage = .acquired) :
    Safe (.ghost (Stage.track recordId)) (Stage.Allows recordId) (fun _ _ => True)
      (invokeAdapter w.intent w.adapter w.checkpoint (pure ())) stage := by
  simp only [invokeAdapter, BoundaryWorker.adapter, safe_bind, safe_handle, safe_perform]
  refine ⟨hacq, ?_⟩
  intro r stage' _
  -- The adapter's exception is observed as an unknown outcome, so both answers go on alike.
  have hrest : ∀ a : MutationAdapterResult,
      Safe (.ghost (Stage.track recordId)) (Stage.Allows recordId) (fun _ _ => True)
        (do
          let c := completion w.intent a
          let left ← w.checkpoint c
          (pure (⟨c.status, c.businessReference, c.responseRedacted, false⟩, some left) :
            Act (MutationExecutionOutcome × Option Unit))) stage' := by
    intro a
    rw [safe_bind]
    refine (w.safe_checkpoint _).post ?_
    intro r stage _
    cases r <;> trivial
  cases r with
  | error e => exact hrest _
  | ok a => exact hrest _

/-- A worker calls the adapter only after its own claim acquired the record. -/
theorem BoundaryWorker.keeps_promise (w : BoundaryWorker) (recordId : Uuid) :
    Safe (.ghost (Stage.track recordId)) (Stage.Allows recordId) (fun _ _ => True)
      w.run .idle := by
  unfold BoundaryWorker.run
  by_cases hrec : w.recovering
  · rw [if_pos hrec]
    simp only [recover, safe_bind]
    refine safe_requireIntent.post ?_
    intro r stage _
    cases r with
    | error e => trivial
    | ok current =>
      simp only [thenSafe_ok, safe_ite, safe_bind]
      refine ⟨fun _ => trivial, fun _ => ⟨fun _ => ?_, fun _ => ?_⟩⟩
      · cases replay current <;> trivial
      · refine (w.safe_checkpoint _).post ?_
        intro r stage' _
        cases r <;> trivial
  · rw [if_neg hrec]
    simp only [execute, safe_bind]
    refine safe_requireIntent.post ?_
    intro r stage _
    cases r with
    | error e => trivial
    | ok current =>
      simp only [thenSafe_ok]
      cases replay current with
      | some outcome => trivial
      | none =>
        simp only [safe_bind]
        refine safe_claim.post ?_
        intro r stage' hacq
        cases r with
        | error e => trivial
        | ok c =>
          simp only [thenSafe_ok, safe_ite]
          refine ⟨fun _ => ?_, fun hgot => ⟨fun _ => trivial, fun _ => ?_⟩⟩
          · cases replay c.execution <;> trivial
          · have hstage := hacq c rfl (by simpa using hgot)
            refine (w.safe_invokeAdapter hstage).post ?_
            intro r stage'' _
            cases r <;> trivial

end Promise

section Interleaved

variable {ι α : Type} [DecidableEq ι] {recordId : Uuid}

/-- How far worker `i` got by the end of the history. -/
def stageOf (recordId : Uuid) (i : ι) (h : History ι Op Exc DB) : Stage :=
  view (Stage.track recordId) .idle i h

def invocations (recordId : Uuid) (h : History ι Op Exc DB) : ℕ :=
  h.countP fun e => Event.invokes recordId e.2.toCall

/-- A worker that went on from `idle` has taken the record, and no other worker has. -/
structure TakenOnce (recordId : Uuid) (h : History ι Op Exc DB) (db : DB) : Prop where
  taken : ∀ i, stageOf recordId i h ≠ .idle →
    ∃ r, db.record recordId = some r ∧ r.status ≠ .reserved
  single : ∀ i j, stageOf recordId i h ≠ .idle → stageOf recordId j h ≠ .idle → i = j
  pending : ∀ i, stageOf recordId i h = .acquired → invocations recordId h = 0
  counted : invocations recordId h ≤ 1
  invoked : invocations recordId h ≠ 0 → ∃ i, stageOf recordId i h = .invoked

theorem TakenOnce.start (db : DB) : TakenOnce (ι := ι) recordId [] db where
  taken _ hi := absurd rfl hi
  single _ _ hi := absurd rfl hi
  pending _ _ := rfl
  counted := Nat.zero_le _
  invoked hn := absurd rfl hn

theorem stageOf_self (i : ι) (h : History ι Op Exc DB) (e : Happened Op Exc DB) :
    stageOf recordId i (h ++ [(i, e)]) = (stageOf recordId i h).track recordId e.toCall :=
  view_snoc_self _ _ _ _ _

theorem stageOf_other {i j : ι} (hij : i ≠ j) (h : History ι Op Exc DB) (e : Happened Op Exc DB) :
    stageOf recordId j (h ++ [(i, e)]) = stageOf recordId j h :=
  view_snoc_other _ _ hij _ _

omit [DecidableEq ι] in
theorem invocations_snoc (i : ι) (h : History ι Op Exc DB) (e : Happened Op Exc DB) :
    invocations recordId (h ++ [(i, e)]) =
      invocations recordId h + if Event.invokes recordId e.toCall then 1 else 0 := by
  simp only [invocations, List.countP_append, List.countP_singleton]

/-- A claim that took the record found it reserved. -/
theorem record_of_acquires {o : Op α} {r : Except Exc α} {db db' : DB} (hm : store db o r db')
    (he : Event.acquires recordId ⟨o, r⟩ = true) :
    ∃ row, db.record recordId = some row ∧ row.status = .reserved ∧
      db'.record recordId = some row.claimed := by
  unfold Event.acquires at he
  split at he
  · rename_i intent execution hcall
    cases hcall
    obtain rfl := of_decide_eq_true he
    rcases store_effect hm with ⟨_, hr, _⟩ | ⟨env, a, hr, hx⟩
    · exact absurd hr (by simp)
    · obtain rfl := Except.ok.inj hr
      have hclaim : claimTx intent env db = .ok (some execution, db') := hx
      obtain ⟨row, hrow, hres, hrow', _⟩ := claimTx_acquired hclaim
      exact ⟨row, hrow, hres, hrow'⟩
  · exact absurd he (by simp)

/-- The adapter is outside the database. -/
theorem not_acquires_of_invokes {e : Event} (he : Event.invokes recordId e = true) :
    Event.acquires recordId e = false := by
  unfold Event.invokes at he
  split at he
  · rfl
  · exact absurd he (by simp)

theorem completion_final {stage : Stage} {o : Op α} (hg : stage.Allows recordId o) :
    ∀ c ∈ o.completion?, c.status.IsFinal := by
  intro c hc
  cases o with
  | runs t =>
    cases t with
    | commitStep p => exact hg c hc
    | _ => exact absurd hc (by simp [Op.completion?, Op.commit?, RunTx.commit?])
  | _ => exact absurd hc (by simp [Op.completion?, Op.commit?])

theorem acquired_of_invokes {stage : Stage} {o : Op α} {r : Except Exc α}
    (hg : stage.Allows recordId o) (he : Event.invokes recordId ⟨o, r⟩ = true) :
    stage = .acquired := by
  unfold Event.invokes at he
  split at he
  · rename_i hcall
    cases hcall
    exact hg (of_decide_eq_true he)
  · exact absurd he (by simp)

theorem not_reserved_after {db db' : DB} {row : IdempotencyRecord}
    (h : RecordAfter (db.record recordId) (db'.record recordId))
    (hrow : db.record recordId = some row) (hres : row.status ≠ .reserved) :
    ∃ row', db'.record recordId = some row' ∧ row'.status ≠ .reserved := by
  rw [hrow] at h
  obtain ⟨row', hrow', hadv⟩ := h
  refine ⟨row', hrow', ?_⟩
  cases hadv with
  | stays => exact hres
  | claimed hr => exact absurd hr hres
  | completed _ status hs =>
    rintro rfl
    exact hs

theorem final_after {db db' : DB} {row : IdempotencyRecord}
    (h : RecordAfter (db.record recordId) (db'.record recordId))
    (hrow : db.record recordId = some row) (hfin : row.status.IsFinal) :
    db'.record recordId = some row := by
  rw [hrow] at h
  obtain ⟨row', hrow', hadv⟩ := h
  cases hadv with
  | stays => exact hrow'
  | claimed hr =>
    rw [hr] at hfin
    exact False.elim hfin
  | completed hr =>
    rw [hr] at hfin
    exact False.elim hfin

variable {h : History ι Op Exc DB} {db db' : DB} {i : ι} {o : Op α} {r : Except Exc α}

theorem TakenOnce.acquire (hJ : TakenOnce recordId h db) (hm : store db o r db')
    (he : Event.acquires recordId ⟨o, r⟩ = true) :
    TakenOnce recordId (h ++ [(i, ⟨⟨o, r⟩, db, db'⟩)]) db' := by
  obtain ⟨row, hrow, hres, hrow'⟩ := record_of_acquires hm he
  have hidle : ∀ j, stageOf recordId j h = .idle := by
    intro j
    by_contra hj
    obtain ⟨row', hsome, hne⟩ := hJ.taken j hj
    obtain rfl := Option.some.inj (hrow.symm.trans hsome)
    exact hne hres
  have hnone : invocations recordId h = 0 := by
    by_contra hn
    obtain ⟨j, hj⟩ := hJ.invoked hn
    exact absurd ((hidle j).symm.trans hj) (by simp)
  have hinv : Event.invokes recordId ⟨o, r⟩ = false := by
    by_contra hi
    rw [not_acquires_of_invokes (by simpa using hi)] at he
    exact absurd he (by simp)
  have hcount : invocations recordId (h ++ [(i, ⟨⟨o, r⟩, db, db'⟩)]) = 0 := by
    rw [invocations_snoc, hnone, hinv]
    rfl
  have honly : ∀ j, stageOf recordId j (h ++ [(i, ⟨⟨o, r⟩, db, db'⟩)]) ≠ .idle → i = j := by
    intro j hj
    by_contra hij
    rw [stageOf_other hij] at hj
    exact hj (hidle j)
  refine ⟨fun _ _ => ⟨_, hrow', by simp [IdempotencyRecord.claimed]⟩, ?_, fun _ _ => hcount, ?_, ?_⟩
  · intro j k hj hk
    exact (honly j hj).symm.trans (honly k hk)
  · rw [hcount]
    exact Nat.zero_le _
  · intro hn
    exact absurd hcount hn

theorem TakenOnce.invoke (hJ : TakenOnce recordId h db) (hm : store db o r db')
    (hg : (stageOf recordId i h).Allows recordId o)
    (he : Event.invokes recordId ⟨o, r⟩ = true) :
    TakenOnce recordId (h ++ [(i, ⟨⟨o, r⟩, db, db'⟩)]) db' := by
  have hacq : stageOf recordId i h = .acquired := acquired_of_invokes hg he
  have hbusy : stageOf recordId i h ≠ .idle := by simp [hacq]
  have hcount : invocations recordId (h ++ [(i, ⟨⟨o, r⟩, db, db'⟩)]) = 1 := by
    rw [invocations_snoc, hJ.pending i hacq, he]
    rfl
  have hself : stageOf recordId i (h ++ [(i, ⟨⟨o, r⟩, db, db'⟩)]) = .invoked := by
    rw [stageOf_self]
    simp [Stage.track, he, not_acquires_of_invokes he]
  have honly : ∀ j, stageOf recordId j (h ++ [(i, ⟨⟨o, r⟩, db, db'⟩)]) ≠ .idle → i = j := by
    intro j hj
    by_contra hij
    rw [stageOf_other hij] at hj
    exact hij (hJ.single i j hbusy hj)
  refine ⟨?_, ?_, ?_, hcount.le, fun _ => ⟨i, hself⟩⟩
  · intro j hj
    obtain ⟨row, hrow, hne⟩ := hJ.taken i hbusy
    exact not_reserved_after ((store_effect hm).recordAfter (completion_final hg) recordId) hrow hne
  · intro j k hj hk
    exact (honly j hj).symm.trans (honly k hk)
  · intro j hj
    obtain rfl := honly j (by simp [hj])
    exact absurd (hself.symm.trans hj) (by simp)

theorem TakenOnce.other (hJ : TakenOnce recordId h db) (hm : store db o r db')
    (hg : (stageOf recordId i h).Allows recordId o)
    (hacq : ¬ Event.acquires recordId ⟨o, r⟩ = true)
    (hinv : ¬ Event.invokes recordId ⟨o, r⟩ = true) :
    TakenOnce recordId (h ++ [(i, ⟨⟨o, r⟩, db, db'⟩)]) db' := by
  have hstage : ∀ j, stageOf recordId j (h ++ [(i, ⟨⟨o, r⟩, db, db'⟩)]) = stageOf recordId j h := by
    intro j
    by_cases hij : i = j
    · subst hij
      rw [stageOf_self, Stage.track, if_neg hacq, if_neg hinv]
    · exact stageOf_other hij _ _
  have hcount : invocations recordId (h ++ [(i, ⟨⟨o, r⟩, db, db'⟩)]) = invocations recordId h := by
    rw [invocations_snoc, if_neg hinv, Nat.add_zero]
  refine ⟨?_, ?_, ?_, ?_, ?_⟩
  · intro j hj
    obtain ⟨row, hrow, hne⟩ := hJ.taken j (hstage j ▸ hj)
    exact not_reserved_after ((store_effect hm).recordAfter (completion_final hg) recordId) hrow hne
  · intro j k hj hk
    exact hJ.single j k (hstage j ▸ hj) (hstage k ▸ hk)
  · intro j hj
    rw [hcount]
    exact hJ.pending j (hstage j ▸ hj)
  · rw [hcount]
    exact hJ.counted
  · intro hn
    obtain ⟨j, hj⟩ := hJ.invoked (hcount ▸ hn)
    exact ⟨j, (hstage j).trans hj⟩

theorem TakenOnce.step (hJ : TakenOnce recordId h db) (hm : store db o r db')
    (hg : (stageOf recordId i h).Allows recordId o) :
    TakenOnce recordId (h ++ [(i, ⟨⟨o, r⟩, db, db'⟩)]) db' := by
  by_cases hacq : Event.acquires recordId ⟨o, r⟩ = true
  · exact hJ.acquire hm hacq
  · by_cases hinv : Event.invokes recordId ⟨o, r⟩ = true
    · exact hJ.invoke hm hg hinv
    · exact hJ.other hm hg hacq hinv

/-- A worker that acquired the record made the claim that did it. -/
theorem acquired_mem {h : History ι Op Exc DB} (hq : stageOf recordId i h = .acquired) :
    ∃ e, (i, e) ∈ h ∧ Event.acquires recordId e.toCall = true := by
  induction h using List.reverseRecOn with
  | nil => exact absurd hq (by simp [stageOf])
  | append_singleton h e ih =>
    obtain ⟨j, e⟩ := e
    by_cases hij : j = i
    · subst hij
      rw [stageOf_self, Stage.track] at hq
      split at hq
      · rename_i he
        exact ⟨e, by simp, he⟩
      · split at hq
        · exact absurd hq (by simp)
        · obtain ⟨e', hmem, he'⟩ := ih hq
          exact ⟨e', List.mem_append_left _ hmem, he'⟩
    · rw [stageOf_other hij] at hq
      obtain ⟨e', hmem, he'⟩ := ih hq
      exact ⟨e', List.mem_append_left _ hmem, he'⟩

section Refund

/-- A worker on the refund of an order whose run is committing. -/
def refundWorker (recovering : Bool) : BoundaryWorker where
  intent := ⟨"record", "demo", "refund", "sha256:f"⟩
  recovering := recovering
  system := .mutation
  operation := "refund"
  actorId := "buyer"
  resourceRef := "ORD-1001"
  arguments := []
  context := ⟨"run", "conv", "demo", "buyer", some .workflow, some "w", some "1.0.0",
    .committing, [], 2, 2⟩
  target _ := .verifying
  nextStep _ := "verify"
  state _ := []
  events _ := [⟨.commitObserved, []⟩]

def refundRun : AgentRun where
  runId := "run"
  conversationId := "conv"
  tenantId := "demo"
  actorRef := "buyer"
  status := .committing
  executionMode := some .workflow
  workflowId := some "w"
  workflowVersion := some "1.0.0"
  currentStep := "commit"
  deadlineAt := 900
  rowVersion := 2

def refundRecord : IdempotencyRecord where
  recordId := "record"
  tenantId := "demo"
  operation := "refund"
  idempotencyKeyHash := "sha256:k"
  requestFingerprint := "sha256:f"
  status := .reserved

def refundDB : DB where
  runs := ⟨[refundRun], List.pairwise_singleton _ _⟩
  records := ⟨[refundRecord], List.pairwise_singleton _ _⟩

/-- A business system that accepts every commit. -/
def acceptingWorld : {α : Type} → WorldOp α → Except Exc α
  | _, .commit _ _ _ _ _ _ => .ok ⟨.succeeded, some "REF-1", []⟩
  | _, _ => .error .adapter

/-- Two executions and, as process `2`, a recovery. -/
def refundRace : History (Fin 3) Op Exc DB × (Fin 3 → Act MutationExecutionOutcome) × DB :=
  play respond ([0, 1, 1, 2, 0, 0, 1, 2, 1, 2].map fun i => (i, ⟨⟨10, "fresh", fun _ => 0⟩, false,
    acceptingWorld⟩)) (fun i => (refundWorker (i = 2)).run) refundDB

end Refund

section Boundary

variable {workers : ι → BoundaryWorker} {h : History ι Op Exc DB} {ps : ι → Act MutationExecutionOutcome}
  {db₀ db : DB}

theorem takenOnce_run (run : Run store (fun i => (workers i).run) db₀ h ps db) (recordId : Uuid) :
    TakenOnce recordId h db :=
  run.invariant (TakenOnce recordId) (fun i => (workers i).keeps_promise recordId) (.start db₀)
    fun _ _ _ _ _ _ _ hJ hg hm => hJ.step hm hg

theorem final_stays_run (run : Run store (fun i => (workers i).run) db₀ h ps db) (recordId : Uuid) :
    ∀ i e row, (i, e) ∈ h → e.before.record recordId = some row → row.status.IsFinal →
      db.record recordId = some row := by
  refine run.invariant (fun h db => ∀ i e row, (i, e) ∈ h → e.before.record recordId = some row →
    row.status.IsFinal → db.record recordId = some row)
    (fun i => (workers i).keeps_promise recordId) (by simp) ?_
  intro h db i _ o r db' hJ hg hm j e row hmem hrow hfin
  have hafter := (store_effect hm).recordAfter (completion_final hg) recordId
  rcases List.mem_append.mp hmem with hold | hnew
  · exact final_after hafter (hJ j e row hold hrow hfin) hfin
  · obtain ⟨rfl, rfl⟩ := Prod.mk.inj (List.mem_singleton.mp hnew)
    exact final_after hafter hrow hfin

/-- What the boundary owes a record in a history that ends in `db`. -/
structure ExecutedOnce (recordId : Uuid) (h : History ι Op Exc DB) (db : DB) : Prop where
  atMostOnce : invocations recordId h ≤ 1
  /-- An adapter call comes after a claim, by the same worker, that took the reserved record. -/
  byClaimant : ∀ h₁ h₂ i e, h = h₁ ++ (i, e) :: h₂ → Event.invokes recordId e.toCall = true →
    ∃ e' row, (i, e') ∈ h₁ ∧ Event.acquires recordId e'.toCall = true ∧
      e'.before.record recordId = some row ∧ row.status = .reserved ∧
      e'.after.record recordId = some row.claimed
  /-- The row of an observed outcome is the same ever after. -/
  outcomeStays : ∀ i e row, (i, e) ∈ h → e.before.record recordId = some row →
    row.status.IsFinal → db.record recordId = some row

/-- Executions and recoveries in any interleaving, with crashes anywhere. -/
theorem boundary_executes_once (run : Run store (fun i => (workers i).run) db₀ h ps db)
    (recordId : Uuid) : ExecutedOnce recordId h db := by
  refine ⟨(takenOnce_run run recordId).counted, ?_, final_stays_run run recordId⟩
  rintro h₁ h₂ i e rfl he
  have hq : stageOf recordId i h₁ = .acquired :=
    acquired_of_invokes (run.promised ((workers i).keeps_promise recordId)) he
  obtain ⟨e', hmem, hacq⟩ := acquired_mem hq
  obtain ⟨a, b, rfl⟩ := List.append_of_mem hmem
  rw [List.append_assoc, List.cons_append] at run
  obtain ⟨_, _, _, hm, _, _⟩ := run.entry
  obtain ⟨row, hrow, hres, hrow'⟩ := record_of_acquires hm hacq
  exact ⟨e', row, hmem, hacq, hrow, hres, hrow'⟩

/-- A recovery observes the claim before the adapter answers: one call, and the outcome that
stays is `unknown`. -/
theorem boundary_executes_once_refund :
    invocations "record" refundRace.1 = 1 ∧
    (refundRace.2.2.record "record").map IdempotencyRecord.status = some .unknown ∧
    ExecutedOnce "record" refundRace.1 refundRace.2.2 :=
  ⟨by decide +kernel, by decide +kernel, boundary_executes_once (play_run _ _ _ _) "record"⟩

end Boundary

end Interleaved

end CommerceAgent
