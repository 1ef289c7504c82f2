import CommerceAgent.MutationExecution
import CommerceAgent.Persistence

/-! The mutation workflow: prepare, refresh, reject and confirm. -/
namespace CommerceAgent

open Json Programs

variable (π : Platform)

/-- Ten minutes, in the seconds of the clock. -/
def TOKEN_TTL : ℕ := 600

/-- What `model_copy` updates in the contexts that the workflow returns. -/
def RunContext.copy (context : RunContext) (status : RunStatus) (state : Dict)
    (stepCount checkpointVersion : ℕ) : RunContext :=
  { context with
    status := status
    state := state
    stepCount := stepCount
    checkpointVersion := checkpointVersion }

def planMutation (mutationType actorId : String) (arguments : Dict)
    (orders : List DemoOrder := DEFAULT_DEMO_ORDERS) : Act MutationPreview :=
  match prepare π mutationType actorId arguments orders with
  | .ok preview => pure preview
  | .error (.mutationPlanning code message missingSlots) =>
    .raise (.mutationWorkflow code message missingSlots)
  | .error e => .raise e

def MutationPreview.tokenInput (preview : MutationPreview) (context : RunContext)
    (mutationType tokenHash : String) (expiresAt : ℕ) : ConfirmationTokenInput where
  tokenHash := tokenHash
  runId := context.runId
  tenantId := context.tenantId
  actorRef := context.actorId
  mutationType := mutationType
  resourceRef := preview.resourceRef
  previewHash := previewHash π preview
  argumentsHash := argumentsHash π preview.normalizedArgs
  policyVersion := preview.policyVersion
  workflowVersion := preview.workflowVersion
  expiresAt := expiresAt

/-- What `prepare_mutation` adds to the state of the run. -/
def MutationPreview.stateUpdate (preview : MutationPreview) (mutationType : String)
    (expiresAt : ℕ) : Dict :=
  [("mutation_type", .str mutationType), ("mutation_args", .obj preview.normalizedArgs),
    ("mutation_preview", .obj preview.asPublic),
    ("mutation_preview_hash", .str (previewHash π preview)),
    ("mutation_arguments_hash", .str (argumentsHash π preview.normalizedArgs)),
    ("mutation_resource_ref", .str preview.resourceRef),
    ("mutation_operation", .str preview.operation),
    ("mutation_expires_at", .str (π.isoformat expiresAt)),
    ("confirmation_token_required", .bool true)]

def mutationPrepared (mutationType resourceRef previewHash expiresAt : String) : DomainEvent :=
  ⟨.mutationPrepared, [("mutation_type", .str mutationType), ("resource_ref", .str resourceRef),
    ("preview_hash", .str previewHash), ("expires_at", .str expiresAt)]⟩

def prepareMutation (context : RunContext) (mutationType : String) (arguments : Dict)
    (orders : List DemoOrder := DEFAULT_DEMO_ORDERS) :
    Act (RunContext × MutationPreview × String) := do
  let preview ← planMutation π mutationType context.actorId arguments orders
  let now ← Prog.perform (.world .now)
  let expiresAt := now + TOKEN_TTL
  let tokenPlaintext ← Prog.perform (.world .tokenUrlsafe)
  let _ ← Prog.perform (.tokens (.issue
    (preview.tokenInput π context mutationType (hashSecret π tokenPlaintext) expiresAt)))
  let state := context.state.update (preview.stateUpdate π mutationType expiresAt)
  let version ← checkpoint context .waitingConfirmation "confirm_mutation" state
    [mutationPrepared mutationType preview.resourceRef (previewHash π preview)
      (π.isoformat expiresAt)]
  pure (context.copy .waitingConfirmation state (context.stepCount + 1) version, preview,
    tokenPlaintext)

/-- The token with a hash, while it waits. -/
def requireWaiting (context : RunContext) (tokenHash message : String) :
    Act ConfirmationToken := do
  let record ← Prog.perform (.tokens (.loadForRun context.runId context.tenantId context.actorId
    (some tokenHash)))
  match record with
  | none => .raise (.mutationWorkflow "CONFIRMATION_UNAVAILABLE" message [])
  | some record =>
    if record.status = .waiting then pure record
    else .raise (.mutationWorkflow "CONFIRMATION_UNAVAILABLE" message [])

def rejectMutation (context : RunContext) (tokenHash : String) : Act RunContext := do
  let record ← requireWaiting context tokenHash "确认已失效"
  rejectToken tokenHash context.tenantId context.actorId record.rowVersion
  let state := context.state.set "mutation_outcome" (.str "rejected_by_user")
  let version ← checkpoint context .cancelled "terminal" state
    [⟨.failed, [("reason", .str "user_rejected")]⟩]
  pure (context.copy .cancelled state (context.stepCount + 1) version)

/-- Which of the optional repositories `confirm_mutation` was given. -/
structure ConfirmOptions where
  handoffs : Bool
  audit : Bool

def ConfirmOptions.createTicket (options : ConfirmOptions) (ticket : TicketInput) :
    Act (Option Uuid) :=
  if options.handoffs then do
    let ticketId ← Prog.perform (.tickets (.create ticket))
    pure (some ticketId)
  else pure none

def ConfirmOptions.appendAudit (options : ConfirmOptions) (context : RunContext) : Act Unit :=
  if options.audit then
    .perform (.world (.auditAppend context.tenantId context.actorId "mutation_handoff_created"))
  else pure ()

/-- `_create_handoff`. -/
def createHandoff (options : ConfirmOptions) (context : RunContext)
    (operation reasonCode : String) (details : Dict) : Act (Option Uuid) := do
  let ticketId ← options.createTicket ⟨context.runId, context.tenantId, context.actorId,
    reasonCode, some operation, details⟩
  options.appendAudit context
  pure ticketId

/-- The events of a handover: what happened, and the ticket if one was created. -/
def handoffEvents (eventType : EventType) (reason : String) (ticketId : Option Uuid) :
    List DomainEvent :=
  let reference : Dict := match ticketId with
    | some ticketId => [("handoff_ticket_id", .str ticketId)]
    | none => []
  ⟨eventType, ("reason", .str reason) :: reference⟩ ::
    (if ticketId.isSome then [⟨.handoffCreated, reference⟩] else [])

/-- What `confirm_mutation` holds once the intent is reserved. -/
structure Confirmation where
  context : RunContext
  /-- The context that was checkpointed as committing. -/
  committing : RunContext
  operation : String
  fingerprint : String
  recordId : Uuid

def Confirmation.intent (c : Confirmation) : MutationExecutionIntent :=
  ⟨c.recordId, c.context.tenantId, c.operation, c.fingerprint⟩

def Confirmation.adapter (c : Confirmation) (key : String) : Act MutationAdapterResult :=
  match ((c.committing.state.get? "mutation_args").getD (.obj [])).asObj? with
  | none => .raise (.valueError "dictionary update sequence")
  | some arguments =>
    .perform (.world (.commit .mutation c.operation c.context.actorId
      (π.str ((c.committing.state.get? "mutation_resource_ref").getD (.str ""))) arguments key))

/-- The status that a completion is checkpointed with. -/
def MutationCompletion.runStatus (completion : MutationCompletion) : RunStatus :=
  if completion.status = .succeeded ∨ completion.status = .unknown then .verifying else .failed

/-- `state_after` of the completion checkpoint. -/
def MutationCompletion.stateAfter (completion : MutationCompletion) (state : Dict) : Dict :=
  let state := state.set "mutation_commit_status" (.str completion.status.value)
  match completion.businessReference.filter (· ≠ "") with
  | some reference => state.set "business_reference" (.str reference)
  | none => state

/-- The value of an optional string in an event. -/
def jsonOption : Option String → Value
  | some s => .str s
  | none => .null

/-- `checkpoint_completion`, with the version and the state that it leaves to its caller. -/
def Confirmation.checkpointCompletion (c : Confirmation) (completion : MutationCompletion) :
    Act (ℕ × Dict) := do
  let stateAfter := completion.stateAfter c.committing.state
  let nextStep :=
    if completion.runStatus = .verifying then "verify_mutation" else "terminal"
  let version ← checkpointMutation c.committing completion.runStatus nextStep stateAfter
    [⟨.commitObserved, [("status", .str completion.status.value),
      ("business_reference", jsonOption completion.businessReference)]⟩] completion
  pure (version, stateAfter)

/-- `outcome_version["value"]`, with the state that was left beside it. -/
def requireOutcomeVersion (left : Option (ℕ × Dict)) : Act (ℕ × Dict) :=
  match left with
  | some left => pure left
  | none => .raise (.keyError "value")

/-- The read-only lookup after an ambiguous commit. -/
def Confirmation.readback (c : Confirmation) (outcome : MutationExecutionOutcome) :
    Act (Option Dict) :=
  if outcome.status = .unknown then
    .perform (.world (.readback c.context.actorId c.recordId))
  else pure none

def readbackReference (key : String) (readback : Option Dict) : Dict :=
  match readback with
  | some found => [(key, (found.get? "business_reference").getD .null)]
  | none => []

/-- The handover of an outcome that nobody knows; a rejection needs none. -/
def Confirmation.handOver (c : Confirmation) (options : ConfirmOptions)
    (outcome : MutationExecutionOutcome) (readback : Option Dict) : Act (Option Uuid) :=
  if outcome.status = .unknown then
    createHandoff options c.context c.operation "MUTATION_STATUS_UNKNOWN"
      ([("business_reference", jsonOption outcome.businessReference),
        ("readback_attempted", .bool true), ("readback_found", .bool readback.isSome)] ++
        readbackReference "readback_business_reference" readback)
  else pure none

/-- `uncertain_state`. -/
def Confirmation.uncertainState (c : Confirmation) (outcome : MutationExecutionOutcome)
    (readback : Option Dict) (ticketId : Option Uuid) : Dict :=
  let state := c.committing.state.set "mutation_outcome" (.str outcome.status.value)
  let state := if outcome.status = .unknown then
      state.update ([("mutation_readback_attempted", .bool true),
        ("mutation_readback_found", .bool readback.isSome)] ++
        readbackReference "mutation_readback_reference" readback)
    else state
  match ticketId with
  | some ticketId => state.set "handoff_ticket_id" (.str ticketId)
  | none => state

/-- The exit for an outcome that is not a success. -/
def Confirmation.settleUnsuccessful (c : Confirmation) (options : ConfirmOptions)
    (outcome : MutationExecutionOutcome) (left : Option (ℕ × Dict)) : Act RunContext := do
  let status : RunStatus := if outcome.status = .unknown then .waitingHuman else .failed
  let readback ← c.readback outcome
  let ticketId ← c.handOver options outcome readback
  let state := c.uncertainState outcome readback ticketId
  let (outcomeVersion, _) ← requireOutcomeVersion left
  let version ← checkpoint
    { c.committing with status := .verifying, checkpointVersion := outcomeVersion } status
    "terminal" state
    (if outcome.status = .unknown then
      handoffEvents .mutationUncertain "mutation_status_unknown" ticketId
    else handoffEvents .failed "mutation_failed" ticketId)
  pure (c.committing.copy status state (c.committing.stepCount + 2) version)

/-- The exit for a success: read back, then complete or hand over. -/
def Confirmation.settleSucceeded (c : Confirmation) (options : ConfirmOptions)
    (left : Option (ℕ × Dict)) : Act RunContext := do
  let (outcomeVersion, completionState) ← requireOutcomeVersion left
  let verifyingState := (if completionState.isEmpty then c.committing.state
    else completionState).set "mutation_outcome" (.str "succeeded")
  let verifying := c.committing.copy .verifying verifyingState (c.committing.stepCount + 1)
    outcomeVersion
  let reference := π.str ((verifyingState.get? "business_reference").getD (.str ""))
  let verified ← Prog.perform (.world (.verify c.context.actorId c.recordId reference))
  if verified = false then do
    let ticketId ← createHandoff options c.context c.operation "VERIFY_MISMATCH"
      [("business_reference", .str reference)]
    let state := verifyingState.set "mutation_outcome" (.str "verification_mismatch")
    let state := match ticketId with
      | some ticketId => state.set "handoff_ticket_id" (.str ticketId)
      | none => state
    let version ← checkpoint verifying .waitingHuman "terminal" state
      (handoffEvents .mutationUncertain "verify_mismatch" ticketId)
    pure (verifying.copy .waitingHuman state (verifying.stepCount + 1) version)
  else do
    let state := verifyingState.set "verified_state"
      (.obj [("operation", .str c.operation), ("status", .str "applied")])
    let version ← checkpoint verifying .completed "terminal" state
      [⟨.stateVerified, [("status", .str "applied")]⟩]
    pure (verifying.copy .completed state (verifying.stepCount + 1) version)

/-- From the committing checkpoint to the end. -/
def Confirmation.run (c : Confirmation) (options : ConfirmOptions) : Act RunContext := do
  let (outcome, left) ← execute c.intent (c.adapter π) c.checkpointCompletion
  if outcome.status ≠ .succeeded then c.settleUnsuccessful options outcome left
  else c.settleSucceeded π options left

/-- The state that is checkpointed as committing. -/
def committingState (state : Dict) (recordId keyHash : String) : Dict :=
  ((state.set "mutation_idempotency_record_id" (.str recordId)).set
    "mutation_idempotency_key_hash" (.str keyHash)).set "mutation_commit_status" (.str "started")

/-- `consume_and_reserve` as the workflow calls it. -/
def reserveConfirmation (params : ConsumeParams) : Act IdempotencyReservation :=
  (consumeAndReserve params).handle fun
    | .confirmationUnavailable | .idempotencyConflict =>
      .raise (.mutationWorkflow "CONFIRMATION_CONFLICT" "确认请求已失效或发生冲突" [])
    | e => .raise e

/-- The operation and the fingerprint that a state of the run holds. -/
def mutationOperation (state : Dict) : String :=
  π.str ((state.get? "mutation_operation").getD (.str ""))

def mutationFingerprint (state : Dict) : String :=
  π.str ((state.get? "mutation_arguments_hash").getD (.str ""))

/-- The consumption that a confirmation asks for. -/
def RunContext.consumption (context : RunContext) (record : ConfirmationToken)
    (tokenHash idempotencyKey : String) : ConsumeParams where
  tokenHash := tokenHash
  tenantId := context.tenantId
  actorRef := context.actorId
  expectedTokenVersion := record.rowVersion
  operation := mutationOperation π context.state
  idempotencyKeyHash := hashSecret π idempotencyKey
  requestFingerprint := mutationFingerprint π context.state
  expiresAt := none

/-- What a fresh reservation goes on with: the committing checkpoint. -/
def startCommitting (context : RunContext) (idempotencyKey : String)
    (reservation : IdempotencyReservation) : Act Confirmation := do
  let operation := mutationOperation π context.state
  let state := committingState context.state reservation.recordId (hashSecret π idempotencyKey)
  let version ← checkpoint context .committing "commit_mutation" state
    [⟨.userConfirmed, [("operation", .str operation)]⟩]
  pure {
    context := context
    committing := context.copy .committing state (context.stepCount + 1) version
    operation := operation
    fingerprint := mutationFingerprint π context.state
    recordId := reservation.recordId }

def confirmMutation (options : ConfirmOptions) (context : RunContext)
    (tokenPlaintext idempotencyKey : String) : Act RunContext := do
  let tokenHash := hashSecret π tokenPlaintext
  let record ← requireWaiting context tokenHash "确认已失效或已使用"
  if context.state.getStr? "mutation_preview_hash" ≠ some record.previewHash then
    .raise (.mutationWorkflow "PREVIEW_CHANGED" "预览已变化，请重新确认" [])
  else do
    let reservation ← reserveConfirmation (context.consumption π record tokenHash idempotencyKey)
    -- The replay mark goes to a copy of the state; the context is returned as it came.
    if reservation.reused then pure context
    else do
      let confirmation ← startCommitting π context idempotencyKey reservation
      confirmation.run π options

/-- The parts of the state that a refresh needs. -/
structure RefreshState where
  preview : Dict
  previewHash : String
  argumentsHash : String
  mutationType : String
  resourceRef : String
  operation : String

def refreshState (state : Dict) : Option RefreshState := do
  let preview ← (state.get? "mutation_preview").bind Value.asObj?
  let previewHash ← state.getStr? "mutation_preview_hash"
  let argumentsHash ← state.getStr? "mutation_arguments_hash"
  let mutationType ← state.getStr? "mutation_type"
  let resourceRef ← state.getStr? "mutation_resource_ref"
  let operation ← state.getStr? "mutation_operation"
  some ⟨preview, previewHash, argumentsHash, mutationType, resourceRef, operation⟩

/-- The token that replaces a waiting one. -/
def RefreshState.tokenInput (s : RefreshState) (context : RunContext)
    (record : ConfirmationToken) (tokenHash : String) (expiresAt : ℕ) :
    ConfirmationTokenInput where
  tokenHash := tokenHash
  runId := context.runId
  tenantId := context.tenantId
  actorRef := context.actorId
  mutationType := s.mutationType
  resourceRef := s.resourceRef
  previewHash := s.previewHash
  argumentsHash := s.argumentsHash
  policyVersion := record.policyVersion
  workflowVersion := record.workflowVersion
  expiresAt := expiresAt

def refreshMutationToken (context : RunContext) : Act (String × String × Dict) :=
  if context.status ≠ .waitingConfirmation then
    .raise (.mutationWorkflow "RUN_NOT_WAITING_CONFIRMATION" "当前 run 不等待确认" [])
  else do
    let record ← Prog.perform
      (.tokens (.loadForRun context.runId context.tenantId context.actorId none))
    match record.filter (·.status = .waiting), refreshState context.state with
    | some record, some s =>
      if record.previewHash ≠ s.previewHash ∨ record.argumentsHash ≠ s.argumentsHash then
        .raise (.mutationWorkflow "PREVIEW_CHANGED" "预览已变化" [])
      else do
        let now ← Prog.perform (.world .now)
        let expiresAt := now + TOKEN_TTL
        let tokenPlaintext ← Prog.perform (.world .tokenUrlsafe)
        let _ ← Prog.perform (.tokens (.rotateWaiting context.runId context.tenantId
          context.actorId s.previewHash
          (s.tokenInput context record (hashSecret π tokenPlaintext) expiresAt)))
        let state := context.state.set "mutation_expires_at" (.str (π.isoformat expiresAt))
        let _ ← checkpoint context .waitingConfirmation "confirm_mutation" state
          [mutationPrepared s.mutationType s.resourceRef s.previewHash (π.isoformat expiresAt)]
        pure (tokenPlaintext, π.isoformat expiresAt, s.preview)
    | _, _ => .raise (.mutationWorkflow "TOKEN_REFRESH_REQUIRED" "确认 token 不可刷新" [])

section Uses

variable {π} {P : {β : Type} → Op β → Prop}

theorem uses_requireWaiting (hP : ∀ {β : Type} (t : TokenTx β), P (.tokens t))
    (context : RunContext) (tokenHash message : String) :
    Uses P (requireWaiting context tokenHash message) := by
  refine .bind (.perform (hP _)) fun record => ?_
  cases record with
  | none => exact .raise _
  | some record => exact .ite (.pure _) (.raise _)

theorem uses_reserveConfirmation (hP : ∀ {β : Type} (t : TokenTx β), P (.tokens t))
    (params : ConsumeParams) : Uses P (reserveConfirmation params) := by
  refine .handle (uses_consumeAndReserve hP params) fun e => ?_
  cases e <;> exact .raise _

theorem uses_planMutation (mutationType actorId : String) (arguments : Dict)
    (orders : List DemoOrder) : Uses P (planMutation π mutationType actorId arguments orders) := by
  unfold planMutation
  split
  · exact .pure _
  · exact .raise _
  · exact .raise _

theorem uses_createTicket (hP : ∀ {β : Type} (t : TicketTx β), P (.tickets t))
    (options : ConfirmOptions) (ticket : TicketInput) : Uses P (options.createTicket ticket) := by
  unfold ConfirmOptions.createTicket
  exact .ite (.bind (.perform (hP _)) fun _ => .pure _) (.pure _)

theorem uses_createHandoff (hP : ∀ {β : Type} (t : TicketTx β), P (.tickets t))
    (haudit : ∀ tenantId actorRef eventType, P (.world (.auditAppend tenantId actorRef eventType)))
    (options : ConfirmOptions) (context : RunContext) (operation reasonCode : String)
    (details : Dict) : Uses P (createHandoff options context operation reasonCode details) := by
  unfold createHandoff ConfirmOptions.appendAudit
  refine .bind (uses_createTicket hP _ _) fun ticketId => .bind ?_ fun _ => .pure _
  exact .ite (.perform (haudit _ _ _)) (.pure _)

end Uses

section Demo

/-- A platform whose digest is the text itself. -/
def demoPlatform : Platform where
  sha256 := id
  uuid5 := id
  isoformat := fun n => n.repr
  repr := fun _ => ""
  upper := fun s => String.ofList (s.toList.map Char.toUpper)
  lower := fun s => String.ofList (s.toList.map Char.toLower)
  isDecimal := Char.isDigit
  isWord := fun c => c.isAlphanum || c == '_' || 0x3400 ≤ c.toNat

/-- A world in which every commit succeeds and is read back. -/
def demoWorld (now : ℕ) (token : String) : {α : Type} → WorldOp α → Except Exc α
  | _, .now => .ok now
  | _, .tokenUrlsafe => .ok token
  | _, .commit _ _ _ _ _ _ => .ok ⟨.succeeded, some "DEMO-1", []⟩
  | _, .verify _ _ _ => .ok true
  | _, .readback _ _ => .ok none
  | _, .auditAppend _ _ _ => .ok ()
  | _, .uuid4 => .ok "uuid-1"
  | _, .submit _ _ _ _ => .ok ()
  | _, .classify _ _ => .error .modelGateway
  | _, .assignRelease _ _ => .ok false
  | _, .matchSkill _ _ => .ok none
  | _, .agentStep _ => .ok { status := .complete, response := some "完成" }
  | _, .tokenCharge => .ok 100

def demoChoice (uuid token : String) (fault : Bool) : Choice :=
  ⟨⟨100, uuid, fun _ => 0⟩, fault, demoWorld 100 token⟩

/-- A run that was routed to the cancellation workflow and has no checkpoint yet. -/
def demoRun : AgentRun where
  runId := "run"
  conversationId := "conv"
  tenantId := "demo"
  actorRef := "demo-user-001"
  status := .runningWorkflow
  executionMode := some .workflow
  workflowId := some "cancel_order"
  workflowVersion := some "cancel-order-v1"
  currentStep := "route"
  deadlineAt := 900

def demoSeed : DB where
  conversations := ⟨[⟨"conv", "demo", "demo-user-001"⟩], List.pairwise_singleton _ _⟩
  runs := ⟨[demoRun], List.pairwise_singleton _ _⟩

def demoContext : RunContext where
  runId := "run"
  conversationId := "conv"
  tenantId := "demo"
  actorId := "demo-user-001"
  executionMode := some .workflow
  workflowId := some "cancel_order"
  workflowVersion := some "cancel-order-v1"
  status := .runningWorkflow

def cancelArguments (reason : String) : Dict :=
  [("order_id", .str "ORD-DEMO-CANCEL-001"), ("reason", .str reason)]

/-- The five calls of a preparation, with nothing failing. -/
def demoPrepare (context : RunContext) (reason uuid token : String) (db : DB) : DB :=
  (drive respond (List.replicate 5 (demoChoice uuid token false))
    (prepareMutation demoPlatform context "cancel_order" (cancelArguments reason)) db).2.2

/-- The context that a request finds in the latest checkpoint. -/
def DB.resumed (db : DB) (runId : Uuid) : RunContext :=
  ((db.latestCheckpoint runId).map RunCheckpoint.stateJson).getD demoContext

def preparedDB : DB := demoPrepare demoContext "不想要" "token-1" "secret-1" demoSeed

end Demo

end CommerceAgent
