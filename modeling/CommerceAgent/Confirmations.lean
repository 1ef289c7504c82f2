import CommerceAgent.TerminalResponse

/-! The endpoints of the API that act on a run that waits: confirm, refresh, cancel, and the resolution
of a handoff. -/
namespace CommerceAgent

open Json Programs

variable (π : Platform)

def DEMO_TENANT_ID : String := "demo-tenant"

/-- The row of a run of the actor. -/
def requireRun (runId : Uuid) (actorId : String) : Act AgentRun := do
  let snapshot ← Prog.perform (.runs (.loadRun runId DEMO_TENANT_ID (some actorId)))
  match snapshot with
  | none => .raise (.http 404 "run_not_found")
  | some run => pure run

/-- `_checkpoint_context`. -/
def checkpointContext (runId : Uuid) (actorId : String) : Act RunContext := do
  let state ← Prog.perform (.runs (.loadLatestCheckpoint runId DEMO_TENANT_ID))
  match state with
  | none => .raise (.http 409 "run_checkpoint_unavailable")
  | some state =>
    match state.modelValidate with
    | .error _ => .raise (.http 500 "run_checkpoint_invalid")
    | .ok context =>
      if context.actorId ≠ actorId ∨ context.tenantId ≠ DEMO_TENANT_ID then
        .raise (.http 404 "run_not_found")
      else pure context

/-- The context of a run whose row waits for a confirmation. -/
def waitingContext (runId : Uuid) (actorId : String) : Act RunContext := do
  let snapshot ← requireRun runId actorId
  if snapshot.status ≠ .waitingConfirmation then
    .raise (.http 409 "run_not_waiting_confirmation")
  else checkpointContext runId actorId

inductive ConfirmationDecision where
  | confirm
  | reject
  deriving DecidableEq, Repr

/-- The body of a confirmation request. -/
structure ConfirmationRequest where
  decision : ConfirmationDecision
  confirmationToken : String
  idempotencyKey : String

/-- What the workflow made of a decision: the context, whether it was carried out, and the text
of the answer. -/
def applyDecision (context : RunContext) (payload : ConfirmationRequest) :
    Act (RunContext × Bool × String) :=
  match payload.decision with
  | .reject => do
    let updated ← rejectMutation context (hashSecret π payload.confirmationToken)
    pure (updated, false, "已取消该操作，未产生任何业务变更。")
  | .confirm => do
    let updated ← confirmMutation π ⟨true, true⟩ context payload.confirmationToken
      payload.idempotencyKey
    let accepted := updated.status = RunStatus.completed
    pure (updated, accepted, if accepted then "操作已提交并完成状态校验。"
      else "操作状态暂时无法确认，已转人工处理。")

/-- The answer to an error of the workflow. -/
def confirmationError : Exc → Exc
  | .mutationWorkflow code _ _ =>
    if code ∈ ["CONFIRMATION_UNAVAILABLE", "CONFIRMATION_CONFLICT", "PREVIEW_CHANGED"] then
      .http 409 code
    else .http 400 code
  | e => e

def confirmRun (runId : Uuid) (actorId : String) (payload : ConfirmationRequest) :
    Act (RunStatus × Bool × String) := do
  let context ← waitingContext runId actorId
  let (updated, accepted, responseText) ← (applyDecision π context payload).handle fun e =>
    .raise (confirmationError e)
  let _ ← publishTerminalResponse π {
    context := updated
    preferredContent := some responseText
    reasonCode := if accepted then none else some "CONFIRMATION_REJECTED"
    retryable := some false }
  pure (updated.status, accepted, responseText)

def refreshConfirmation (runId : Uuid) (actorId : String) : Act (String × String × Dict) := do
  let context ← waitingContext runId actorId
  (refreshMutationToken π context).handle fun
    | .mutationWorkflow code _ _ => .raise (.http 409 code)
    | e => .raise e

/-- Drops the waiting tokens of a run that is cancelled; the checkpoint counts, so a failure is
swallowed. -/
def invalidateForCancel (runId : Uuid) (actorId : String) (state : Dict) : Act Unit :=
  match state.getStr? "mutation_preview_hash" with
  | some previewHash =>
    (Prog.perform (.tokens (.invalidateWaiting runId DEMO_TENANT_ID actorId
      previewHash))).handle fun _ => pure ()
  | none => pure ()

def cancelRun (runId : Uuid) (actorId : String) : Act Unit := do
  let _ ← requireRun runId actorId
  let context ← checkpointContext runId actorId
  if context.status ∉ [RunStatus.waitingConfirmation, .waitingUser] then
    .raise (.http 409 "run_not_cancellable")
  else do
    let state := context.state.set "mutation_outcome" (.str "cancelled")
    invalidateForCancel runId actorId state
    let _ ← checkpoint context .cancelled "terminal" state
      [⟨.failed, [("reason", .str "cancelled_by_user")]⟩]
    Prog.perform (.runs (.setTerminalReason runId DEMO_TENANT_ID (some "CANCELLED_BY_USER")))
    let _ ← publishTerminalResponse π {
      context := { context with status := .cancelled, state := state }
      reasonCode := some "CANCELLED_BY_USER"
      retryable := some false }
    let _ ← Prog.perform (.runs (.loadRun runId DEMO_TENANT_ID (some actorId)))
    pure ()

inductive HandoffOutcome where
  | verifiedSuccess
  | verifiedFailure
  deriving DecidableEq, Repr

def HandoffOutcome.value : HandoffOutcome → String
  | verifiedSuccess => "verified_success"
  | verifiedFailure => "verified_failure"

/-- The status that a resolution ends its run with. -/
def HandoffOutcome.target : HandoffOutcome → RunStatus
  | verifiedSuccess => .completed
  | verifiedFailure => .failed

/-- The body of a resolution, inside the bounds that it is validated with. -/
structure HandoffResolveRequest where
  outcome : HandoffOutcome
  resolutionNote : String
  resolutionNote_bounds : 1 ≤ resolutionNote.length ∧ resolutionNote.length ≤ 500

/-- The state that a resolution leaves. -/
def HandoffResolveRequest.state (payload : HandoffResolveRequest) (state : Dict) : Dict :=
  ((state.set "handoff_resolution" (.str payload.outcome.value)).set "handoff_resolution_note"
    (.str payload.resolutionNote)).set "mutation_outcome" (.str payload.outcome.value)

/-- `resolve_handoff`, from the checkpoint on; its failure projection is swallowed there. -/
def resolveTo (ticket : HandoffTicket) (actorId : String) (payload : HandoffResolveRequest)
    (context : RunContext) : Act (HandoffTicket × RunStatus) := do
  let target := payload.outcome.target
  let state := payload.state context.state
  let _ ← checkpoint context target "terminal" state
    [⟨.handoffResolved, [("ticket_id", .str ticket.ticketId),
      ("outcome", .str payload.outcome.value)]⟩]
  let resolved ← Prog.perform (.tickets (.resolve ticket.ticketId DEMO_TENANT_ID
    payload.resolutionNote))
  match resolved with
  | none => .raise (.http 409 "handoff_resolution_conflict")
  | some resolved => do
    let _ ← publishTerminalResponse π {
      context := { context with status := target, state := state }
      preferredContent := some (if payload.outcome = .verifiedSuccess then
          "人工审核已批准，本次流程已完成。" else "人工审核未批准，本次流程已终止。")
      reasonCode := if target = .failed then some "HUMAN_REVIEW_REJECTED" else none
      retryable := some false }
    Prog.perform (.world (.auditAppend DEMO_TENANT_ID actorId "mutation_handoff_resolved"))
    pure (resolved, target)

/-- `resolve_handoff`. -/
def resolveHandoff (ticketId : Uuid) (actorId : String) (payload : HandoffResolveRequest) :
    Act (HandoffTicket × RunStatus) := do
  let found ← Prog.perform (.tickets (.getForActor ticketId DEMO_TENANT_ID actorId))
  match found with
  | none => .raise (.http 404 "handoff_not_found")
  | some ticket =>
    if ticket.status ≠ .open then .raise (.http 409 "handoff_already_resolved")
    else do
      let _ ← requireRun ticket.runId actorId
      let context ← checkpointContext ticket.runId actorId
      if context.status ≠ .waitingHuman then .raise (.http 409 "run_not_waiting_human")
      else resolveTo π ticket actorId payload context

end CommerceAgent
