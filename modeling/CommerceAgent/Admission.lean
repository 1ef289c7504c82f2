import CommerceAgent.Confirmations

/-! How a user message is admitted: `send_message`, with the repository calls behind it. -/
namespace CommerceAgent

open Json Texts Programs

variable (π : Platform)

/-- The body of a message request, inside the bounds that it is validated with. -/
structure MessageCreateRequest where
  content : String
  clientMessageId : String
  content_bounds : 1 ≤ content.length ∧ content.length ≤ 8000
  clientMessageId_bounds : 1 ≤ clientMessageId.length ∧ clientMessageId.length ≤ 128

structure MessageSendResponse where
  messageId : Uuid
  runId : Uuid
  runStatus : RunStatus
  tokenRefreshRequired : Bool := false

/-- `MessageRepository.append_user`: the message and whether it was created. -/
def appendUser (conversationId : Uuid) (actorId content clientMessageId : String) (runId : Uuid) :
    Act (MessageRecord × Bool) :=
  if strip content = "" ∨ 8000 < content.length then
    .raise (.valueError "message content is invalid")
  else if clientMessageId = "" ∨ 128 < clientMessageId.length then
    .raise (.valueError "client_message_id is invalid")
  else
    .perform (.messages (.appendUser {
      conversationId := conversationId
      tenantId := DEMO_TENANT_ID
      actorId := actorId
      clientMessageId := clientMessageId
      runId := some runId
      contentRedacted := sanitize π content
      contentHash := hashSecret π content }))

/-- `RunLifecycleRepository.create_run`. -/
def createRunOrConflict (context : RunContext) (currentStep : String) (deadlineAt : ℕ)
    (parentRunId : Option Uuid) : Act Unit :=
  if context.status ≠ .created then
    .raise (.valueError "a persisted run must start in created status")
  else if context.stepCount ≠ 0 ∨ context.checkpointVersion ≠ 0 then
    .raise (.valueError "a persisted run must start without completed steps")
  else do
    let now ← Prog.perform (.world .now)
    if deadlineAt ≤ now then .raise (.valueError "run deadline must be in the future")
    else do
      let created ← (Prog.perform
        (.runs (.createRun context currentStep deadlineAt parentRunId))).handle fun e =>
          match e with
          | .integrity => do
            let snapshot ← Prog.perform (.runs (.activeForConversation context.conversationId
              context.tenantId context.actorId))
            match snapshot with
            | some run => .raise (.activeRunConflict run.runId run.status)
            | none => .raise .integrity
          | e => .raise e
      if created ≠ 1 then
        .raise (.valueError "conversation is unavailable for this tenant and actor")
      else pure ()

/-- The deadline of a new run, in seconds from now. -/
def RUN_DEADLINE : ℕ := 60

section Requests

variable (conversationId : Uuid) (actorId : String) (payload : MessageCreateRequest)

/-- `request.app.state.run_executor.submit(execute_message_run, …)`. -/
def dispatch (runId : Uuid) : Act Unit :=
  .perform (.world (.submit conversationId payload.content actorId runId))

/-- The answer for a message that was there before. -/
def repeatedResponse (message : MessageRecord) : Act MessageSendResponse :=
  match message.runId with
  | none => .raise (.http 500 "message_run_missing")
  | some runId => do
    let existingRun ← Prog.perform (.runs (.loadRun runId DEMO_TENANT_ID (some actorId)))
    let runStatus := (existingRun.map AgentRun.status).getD .created
    pure ⟨message.messageId, runId, runStatus, runStatus = .waitingConfirmation⟩

/-- The branch for a conversation whose run waits for its user. -/
def continueRun (active : AgentRun) : Act MessageSendResponse := do
  let (message, _) ← (appendUser π conversationId actorId payload.content payload.clientMessageId
    active.runId).handle fun e =>
      match e with
      | .messageConflict => .raise (.http 409 "client_message_id_conflict")
      | e => .raise e
  dispatch conversationId actorId payload active.runId
  pure ⟨message.messageId, active.runId, .runningWorkflow, false⟩

/-- The answer to an error of the reservation. -/
def reservationError : Exc → Exc
  | .activeRunConflict runId status => .httpActiveRun runId status
  | _ => .http 503 "run_creation_unavailable"

/-- The message of a reserved run; a conflict releases the reservation. -/
def attachMessage (runId : Uuid) : Act (MessageRecord × Bool) :=
  (appendUser π conversationId actorId payload.content payload.clientMessageId runId).handle
    fun e =>
      match e with
      | .messageConflict => do
        Prog.perform (.runs (.cancelUnstartedRun runId DEMO_TENANT_ID
          "MESSAGE_IDEMPOTENCY_CONFLICT"))
        .raise (.http 409 "client_message_id_conflict")
      | .valueError _ => .raise (.http 404 "conversation_not_found")
      | e => .raise e

/-- The branch that reserves a run of its own. -/
def startRun (runId : Uuid) : Act MessageSendResponse := do
  let now ← Prog.perform (.world .now)
  let context : RunContext := {
    runId := runId
    conversationId := conversationId
    tenantId := DEMO_TENANT_ID
    actorId := actorId
    status := .created }
  (createRunOrConflict context "route" (now + RUN_DEADLINE) none).handle fun e =>
    .raise (reservationError e)
  let (message, created) ← attachMessage π conversationId actorId payload runId
  if created then do
    dispatch conversationId actorId payload runId
    pure ⟨message.messageId, runId, .created, false⟩
  else repeatedResponse actorId message

def sendMessage : Act MessageSendResponse := do
  let runId ← Prog.perform (.world .uuid4)
  let found ← Prog.perform (.messages (.findUserByClientMessageId conversationId DEMO_TENANT_ID
    actorId payload.clientMessageId))
  match found with
  | some message => repeatedResponse actorId message
  | none => do
    let owned ← Prog.perform (.messages (.conversationExists conversationId DEMO_TENANT_ID actorId))
    if owned = false then .raise (.http 404 "conversation_not_found")
    else do
      let active ← Prog.perform (.runs (.activeForConversation conversationId DEMO_TENANT_ID
        actorId))
      match active.filter fun run => run.status = .waitingUser with
      | some run => continueRun π conversationId actorId payload run
      | none => startRun π conversationId actorId payload runId

end Requests

end CommerceAgent
