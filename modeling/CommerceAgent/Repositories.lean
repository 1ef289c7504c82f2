import CommerceAgent.Runtime
import CommerceAgent.Mutations

/-! The repository methods that are more than one transaction, or check something around it. -/
namespace CommerceAgent

open Json Programs

variable (π : Platform)

def commitStep (p : CommitStep) : Act AgentRun :=
  if p.events.isEmpty then
    .raise (.valueError "a checkpoint commit must include at least one domain event")
  else if p.mutationCompletion.any fun c => ¬ c.status.IsFinal then
    .raise (.valueError "mutation completion must be a terminal observation")
  else do
    let _ ← Prog.perform (.runs (.commitStep p))
    let snapshot ← Prog.perform (.runs (.loadRun p.runId p.tenantId none))
    match snapshot with
    | none => .raise (.versionConflict "run disappeared after commit")
    | some run => pure run

def selectRoute (context : RunContext) (decision : RouteDecision) : Act Unit :=
  if context.status ∉ [RunStatus.created, RunStatus.routing] then
    .raise (.valueError "only a pre-route run can select an executor")
  else do
    let rowcount ← Prog.perform (.runs (.selectRoute context.runId context.tenantId decision))
    if (rowcount : ℕ) = 1 then pure ()
    else .raise (.valueError "route selection was stale, unavailable, or already selected")

def rejectToken (tokenHash tenantId actorRef : String) (expectedVersion : ℕ) : Act Unit := do
  let rowcount ← Prog.perform (.tokens (.reject tokenHash tenantId actorRef expectedVersion))
  if (rowcount : ℕ) = 1 then pure () else .raise .confirmationUnavailable

def expireWaiting (limit : ℕ) : Act ℕ :=
  if 1 ≤ limit ∧ limit ≤ 5000 then do
    let rowcount ← Prog.perform (.tokens (.expireWaiting limit))
    pure rowcount
  else .raise (.valueError "invalid expiration batch size")

/-- `_match_existing`. -/
def matchExisting (existing : Uuid × String × MutationExecutionStatus) (fingerprint : String) :
    Act IdempotencyReservation :=
  if existing.2.1 ≠ fingerprint then .raise .idempotencyConflict
  else pure ⟨existing.1, existing.2.2, true⟩

def consumeAndReserve (params : ConsumeParams) : Act IdempotencyReservation := do
  let existing ← Prog.perform (.tokens (.loadIdempotency params.tenantId params.operation
    params.idempotencyKeyHash))
  match existing with
  | some existing => matchExisting existing params.requestFingerprint
  | none =>
    Prog.handle
      (do
        let reservation ← Prog.perform (.tokens (.consumeAndInsert params))
        pure reservation)
      fun
      | .integrity => do
        let existing ← Prog.perform (.tokens (.loadIdempotency params.tenantId params.operation
          params.idempotencyKeyHash))
        match existing with
        | none => .raise .integrity
        | some existing => matchExisting existing params.requestFingerprint
      | e => .raise e

/-- `_record_key_hash`. -/
def recordKeyHash (recordId : Uuid) : String := hashSecret π recordId

def reserve (intent : MutationExecutionIntent) (expiresAt : Option ℕ) :
    Act StoredMutationExecution := do
  let _ ← Prog.perform (.records (.reserve intent (recordKeyHash π intent.recordId) expiresAt))
  let stored ← Prog.perform (.records (.load intent))
  match stored with
  | none => .raise .mutationExecutionUnavailable
  | some stored => pure stored

/-- Claim once: a concurrent or recovered worker never reclaims. -/
def claim (intent : MutationExecutionIntent) : Act MutationExecutionClaim := do
  let row ← Prog.perform (.records (.claim intent))
  match row with
  | some execution => pure ⟨execution, true⟩
  | none =>
    let stored ← Prog.perform (.records (.load intent))
    match stored with
    | none => .raise .mutationExecutionUnavailable
    | some stored => pure ⟨stored, false⟩

def getOrCreateOpenForRun (ticket : TicketInput) : Act (Option HandoffTicket) := do
  let owned ← Prog.perform (.tickets (.ensureOpen ticket))
  match owned with
  | false => pure none
  | true =>
    let found ← Prog.perform
      (.tickets (.getOpenForRun ticket.runId ticket.tenantId ticket.actorRef))
    pure found

section Uses

variable {P : {β : Type} → Op β → Prop}

theorem uses_rejectToken (hP : ∀ {β : Type} (t : TokenTx β), P (.tokens t))
    (tokenHash tenantId actorRef : String) (version : ℕ) :
    Uses P (rejectToken tokenHash tenantId actorRef version) :=
  .bind (.perform (hP _)) fun _ => .ite (.pure _) (.raise _)

theorem uses_matchExisting (existing : Uuid × String × MutationExecutionStatus)
    (fingerprint : String) : Uses P (matchExisting existing fingerprint) :=
  .ite (.raise _) (.pure _)

theorem uses_consumeAndReserve (hP : ∀ {β : Type} (t : TokenTx β), P (.tokens t))
    (params : ConsumeParams) : Uses P (consumeAndReserve params) := by
  refine .bind (.perform (hP _)) fun existing => ?_
  cases existing with
  | some existing => exact uses_matchExisting _ _
  | none =>
    refine .handle (.perform (hP _)) fun e => ?_
    cases e with
    | integrity =>
      refine .bind (.perform (hP _)) fun existing => ?_
      cases existing with
      | none => exact .raise _
      | some existing => exact uses_matchExisting _ _
    | _ => exact .raise _

theorem uses_reserve (hP : ∀ {β : Type} (t : RecordTx β), P (.records t))
    (intent : MutationExecutionIntent) (expiresAt : Option ℕ) :
    Uses P (reserve π intent expiresAt) := by
  refine .bind (.perform (hP _)) fun _ => .bind (.perform (hP _)) fun stored => ?_
  cases stored with
  | none => exact .raise _
  | some stored => exact .pure _

theorem uses_claim (hP : ∀ {β : Type} (t : RecordTx β), P (.records t))
    (intent : MutationExecutionIntent) : Uses P (claim intent) := by
  refine .bind (.perform (hP _)) fun row => ?_
  cases row with
  | some execution => exact .pure _
  | none =>
    refine .bind (.perform (hP _)) fun stored => ?_
    cases stored with
    | none => exact .raise _
    | some stored => exact .pure _

end Uses

end CommerceAgent
