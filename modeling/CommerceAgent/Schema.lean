import CommerceAgent.Tables
import CommerceAgent.StateMachine
import CommerceAgent.MutationSafety

/-! The rows of the conversation and runtime schemas, with the constraints that the migrations
declare on them. -/
namespace CommerceAgent

open Json Tables

structure Conversation where
  id : Uuid
  tenantId : String
  actorId : String

structure MessageRecord where
  messageId : Uuid
  conversationId : Uuid
  runId : Option Uuid
  clientMessageId : Option String
  role : String
  contentRedacted : String
  contentHash : String
  sequenceNo : ℕ
  createdAt : ℕ
  isTerminal : Bool := false

structure AgentRun where
  runId : Uuid
  conversationId : Uuid
  parentRunId : Option Uuid := none
  tenantId : String
  actorRef : String
  status : RunStatus
  executionMode : Option ExecutionMode := none
  workflowId : Option String := none
  workflowVersion : Option String := none
  currentStep : String
  stepCount : ℕ := 0
  maxSteps : ℕ := 6
  deadlineAt : ℕ
  createdAt : ℕ := 0
  dispatchStartedAt : Option ℕ := none
  terminalAt : Option ℕ := none
  responsePublishedAt : Option ℕ := none
  terminalReason : Option String := none
  lastCheckpointSeq : ℕ := 0
  rowVersion : ℕ := 0

structure RunCheckpoint where
  runId : Uuid
  checkpointSeq : ℕ
  stepId : String
  /-- The JSON of the `RunContext` that was dumped; reading it back does not validate it. -/
  stateJson : RunContext
  eventFromSeq : ℕ
  eventToSeq : ℕ

structure RunEvent where
  runId : Uuid
  eventSeq : ℕ
  eventType : EventType
  stepId : String
  payload : Dict

inductive TokenStatus where
  | waiting
  | consumed
  | invalidated
  | rejected
  | expired
  deriving DecidableEq, Repr

structure ConfirmationToken where
  tokenId : Uuid
  tokenHash : String
  runId : Uuid
  tenantId : String
  actorRef : String
  mutationType : String
  resourceRef : String
  previewHash : String
  argumentsHash : String
  policyVersion : String
  workflowVersion : String
  status : TokenStatus
  expiresAt : ℕ
  consumedAt : Option ℕ := none
  createdAt : ℕ
  rowVersion : ℕ := 0

structure IdempotencyRecord where
  recordId : Uuid
  tenantId : String
  operation : String
  idempotencyKeyHash : String
  requestFingerprint : String
  status : MutationExecutionStatus
  businessReference : Option String := none
  responseRedacted : Option Dict := none
  expiresAt : Option ℕ := none
  rowVersion : ℕ := 0

inductive TicketStatus where
  | «open»
  | resolved
  deriving DecidableEq, Repr

structure HandoffTicket where
  ticketId : Uuid
  runId : Uuid
  tenantId : String
  actorRef : String
  reasonCode : String
  status : TicketStatus
  operation : Option String
  details : Dict
  createdAt : ℕ
  resolvedAt : Option ℕ := none
  resolution : Option String := none

section Constraints

def Conversation.clash (a b : Conversation) : Prop := a.id = b.id

def MessageRecord.clash (a b : MessageRecord) : Prop :=
  a.messageId = b.messageId ∨
    (a.conversationId = b.conversationId ∧ a.sequenceNo = b.sequenceNo) ∨
    (a.conversationId = b.conversationId ∧ a.clientMessageId.isSome ∧
      a.clientMessageId = b.clientMessageId) ∨
    (a.runId.isSome ∧ a.runId = b.runId ∧ a.isTerminal ∧ b.isTerminal)

/-- The primary key and the one active run per conversation. -/
def AgentRun.clash (a b : AgentRun) : Prop :=
  a.runId = b.runId ∨
    (a.conversationId = b.conversationId ∧ ¬ a.status.IsTerminal ∧ ¬ b.status.IsTerminal)

def RunCheckpoint.clash (a b : RunCheckpoint) : Prop :=
  a.runId = b.runId ∧ a.checkpointSeq = b.checkpointSeq

def RunEvent.clash (a b : RunEvent) : Prop := a.runId = b.runId ∧ a.eventSeq = b.eventSeq

def ConfirmationToken.clash (a b : ConfirmationToken) : Prop :=
  a.tokenId = b.tokenId ∨ a.tokenHash = b.tokenHash

theorem ConfirmationToken.clash_of_tokenHash (a b : ConfirmationToken)
    (h : a.tokenHash = b.tokenHash) : a.clash b := .inr h

def IdempotencyRecord.clash (a b : IdempotencyRecord) : Prop :=
  a.recordId = b.recordId ∨
    (a.tenantId = b.tenantId ∧ a.operation = b.operation ∧
      a.idempotencyKeyHash = b.idempotencyKeyHash)

theorem IdempotencyRecord.clash_of_key (a b : IdempotencyRecord)
    (h : (a.tenantId, a.operation, a.idempotencyKeyHash) =
      (b.tenantId, b.operation, b.idempotencyKeyHash)) : a.clash b := by
  simp only [Prod.mk.injEq] at h
  exact .inr h

def HandoffTicket.clash (a b : HandoffTicket) : Prop := a.ticketId = b.ticketId

instance : DecidableRel Conversation.clash := fun a b =>
  inferInstanceAs (Decidable (a.id = b.id))

instance : DecidableRel MessageRecord.clash := fun a b =>
  inferInstanceAs (Decidable (a.messageId = b.messageId ∨
    (a.conversationId = b.conversationId ∧ a.sequenceNo = b.sequenceNo) ∨
    (a.conversationId = b.conversationId ∧ a.clientMessageId.isSome ∧
      a.clientMessageId = b.clientMessageId) ∨
    (a.runId.isSome ∧ a.runId = b.runId ∧ a.isTerminal ∧ b.isTerminal)))

instance : DecidableRel AgentRun.clash := fun a b =>
  inferInstanceAs (Decidable (a.runId = b.runId ∨
    (a.conversationId = b.conversationId ∧ ¬ a.status.IsTerminal ∧ ¬ b.status.IsTerminal)))

instance : DecidableRel RunCheckpoint.clash := fun a b =>
  inferInstanceAs (Decidable (a.runId = b.runId ∧ a.checkpointSeq = b.checkpointSeq))

instance : DecidableRel RunEvent.clash := fun a b =>
  inferInstanceAs (Decidable (a.runId = b.runId ∧ a.eventSeq = b.eventSeq))

instance : DecidableRel ConfirmationToken.clash := fun a b =>
  inferInstanceAs (Decidable (a.tokenId = b.tokenId ∨ a.tokenHash = b.tokenHash))

instance : DecidableRel IdempotencyRecord.clash := fun a b =>
  inferInstanceAs (Decidable (a.recordId = b.recordId ∨
    (a.tenantId = b.tenantId ∧ a.operation = b.operation ∧
      a.idempotencyKeyHash = b.idempotencyKeyHash)))

instance : DecidableRel HandoffTicket.clash := fun a b =>
  inferInstanceAs (Decidable (a.ticketId = b.ticketId))

/-- The CHECK constraints of `runtime.agent_runs` after its last migration. -/
structure AgentRun.Checked (run : AgentRun) : Prop where
  dualExecutorShape :
    (run.executionMode = none ∧ run.workflowId = none ∧ run.workflowVersion = none ∧
      run.status ∈ [.created, .routing, .waitingUser, .waitingHuman, .failed, .cancelled,
        .expired]) ∨
    (run.executionMode.isSome ∧ run.workflowId.isSome ∧ run.workflowVersion.isSome)
  modeMatchesStatus :
    run.status = .runningReadonly → run.executionMode = some .readonlyLoop
  workflowStates :
    run.status ∈ [.runningWorkflow, .waitingConfirmation, .committing, .verifying] →
      run.executionMode = some .workflow

instance (run : AgentRun) : Decidable run.Checked :=
  decidable_of_iff
    (((run.executionMode = none ∧ run.workflowId = none ∧ run.workflowVersion = none ∧
        run.status ∈ [.created, .routing, .waitingUser, .waitingHuman, .failed, .cancelled,
          .expired]) ∨
      (run.executionMode.isSome ∧ run.workflowId.isSome ∧ run.workflowVersion.isSome)) ∧
    (run.status = .runningReadonly → run.executionMode = some .readonlyLoop) ∧
    (run.status ∈ [.runningWorkflow, .waitingConfirmation, .committing, .verifying] →
      run.executionMode = some .workflow))
    ⟨fun ⟨hs, hm, hw⟩ => ⟨hs, hm, hw⟩, fun ⟨hs, hm, hw⟩ => ⟨hs, hm, hw⟩⟩

/-- The trigger `guard_agent_run_executor_selection`. -/
def AgentRun.selectionGuarded (old new : AgentRun) : Bool :=
  (old.executionMode.isNone || old.executionMode == new.executionMode) &&
    (old.workflowId.isNone ||
      (old.workflowId == new.workflowId && old.workflowVersion == new.workflowVersion)) &&
    (old.executionMode.isSome || new.executionMode.isNone ||
      old.status ∈ [RunStatus.created, RunStatus.routing])

end Constraints

/-- The durable state: every table with its uniqueness constraints. -/
structure DB where
  conversations : Table Conversation Conversation.clash := .empty
  messages : Table MessageRecord MessageRecord.clash := .empty
  runs : Table AgentRun AgentRun.clash := .empty
  checkpoints : Table RunCheckpoint RunCheckpoint.clash := .empty
  events : Table RunEvent RunEvent.clash := .empty
  tokens : Table ConfirmationToken ConfirmationToken.clash := .empty
  records : Table IdempotencyRecord IdempotencyRecord.clash := .empty
  tickets : Table HandoffTicket HandoffTicket.clash := .empty

/-- What a transaction takes from its surroundings: the clock, a fresh UUID, and the order in
which the database returns rows that the statement does not order. -/
structure Env where
  now : ℕ
  uuid : Uuid
  tieBreak : Uuid → ℕ := fun _ => 0

/-- A transaction: it commits with a result and a new state, or raises and rolls back. -/
abbrev Tx (α : Type) : Type := Env → DB → Except Exc (α × DB)

theorem Except.bind_eq_ok {ε α β : Type} {x : Except ε α} {f : α → Except ε β} {b : β} :
    (x >>= f) = .ok b ↔ ∃ a, x = .ok a ∧ f a = .ok b := by
  cases x with
  | error e => simp [bind, Except.bind]
  | ok a => simp [bind, Except.bind]

theorem Except.bind_eq_error {ε α β : Type} {x : Except ε α} {f : α → Except ε β} {e : ε}
    (h : (x >>= f) = .error e) : x = .error e ∨ ∃ a, x = .ok a ∧ f a = .error e := by
  cases x with
  | error e' => exact .inl (by simpa [bind, Except.bind] using h)
  | ok a => exact .inr ⟨a, rfl, h⟩

def DB.run (db : DB) (runId : Uuid) : Option AgentRun := db.runs.lookup AgentRun.runId runId

def DB.record (db : DB) (recordId : Uuid) : Option IdempotencyRecord :=
  db.records.lookup IdempotencyRecord.recordId recordId

/-- The row with the id of a record that the table holds is that record. -/
theorem DB.record_of_mem {db : DB} {r : IdempotencyRecord} (h : r ∈ db.records.rows) :
    db.record r.recordId = some r :=
  (Table.lookup_eq_some fun _ _ hk => .inl hk).mpr ⟨h, rfl⟩

def DB.token (db : DB) (tokenId : Uuid) : Option ConfirmationToken :=
  db.tokens.lookup ConfirmationToken.tokenId tokenId

theorem DB.token_of_mem {db : DB} {t : ConfirmationToken} (h : t ∈ db.tokens.rows) :
    db.token t.tokenId = some t :=
  (Table.lookup_eq_some fun _ _ hk => .inl hk).mpr ⟨h, rfl⟩

/-- The last of the rows by a timestamp; the database breaks ties as it likes. -/
def latestBy {ρ : Type} (stamp : ρ → ℕ) (order : ρ → ℕ) : List ρ → Option ρ
  | [] => none
  | x :: l =>
    match latestBy stamp order l with
    | none => some x
    | some y => if stamp y < stamp x ∨ (stamp y = stamp x ∧ order y < order x) then some x
        else some y

theorem latestBy_mem {ρ : Type} {stamp order : ρ → ℕ} {l : List ρ} {x : ρ}
    (h : latestBy stamp order l = some x) : x ∈ l := by
  induction l generalizing x with
  | nil => exact absurd h (by simp [latestBy])
  | cons a l ih =>
    unfold latestBy at h
    split at h
    · obtain rfl := Option.some.inj h
      exact List.mem_cons_self
    · rename_i y hy
      split at h
      · obtain rfl := Option.some.inj h
        exact List.mem_cons_self
      · obtain rfl := Option.some.inj h
        exact List.mem_cons_of_mem _ (ih hy)

end CommerceAgent
