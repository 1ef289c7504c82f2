import CommerceAgent.MutationWorkflow
import CommerceAgent.Redaction

/-! `publish_terminal_response`: the user-visible answer of a paused or ended run. -/
namespace CommerceAgent

open Json Programs Texts

variable (π : Platform)

/-- The content checks and the redaction of the two `append_assistant` methods. -/
def assistantInput (context : RunContext) (content : String) : Except Exc AssistantMessageInput :=
  if strip content = "" ∨ 8000 < content.length then
    .error (.valueError "message content is invalid")
  else .ok {
    conversationId := context.conversationId
    tenantId := context.tenantId
    actorId := context.actorId
    runId := context.runId
    contentRedacted := sanitize π content
    contentHash := hashSecret π content }

def appendAssistant (context : RunContext) (content : String) : Act MessageRecord := do
  let input ← Prog.ofExcept (assistantInput π context content)
  Prog.perform (.messages (.appendAssistant input))

def appendAssistantOnceForRun (context : RunContext) (content : String) :
    Act (MessageRecord × Bool) := do
  let input ← Prog.ofExcept (assistantInput π context content)
  Prog.perform (.messages (.appendAssistantOnce input))

/-- The arguments of `publish_terminal_response`. -/
structure Publication where
  context : RunContext
  status : Option RunStatus := none
  reasonCode : Option String := none
  preferredContent : Option String := none
  retryable : Option Bool := none

structure TerminalResponse where
  content : String
  reasonCode : Option String
  retryable : Bool
  message : MessageRecord
  published : Bool

/-- `_state_reason`. -/
def stateReason (context : RunContext) : Option String :=
  let value := ((context.state.get? "last_step_reason").filter Value.truthy).or
    ((context.state.get? "mutation_error").filter Value.truthy)
  value.map π.str

def REASON_CODES : List (String × String) :=
  [("decision_rejected", "DECISION_REJECTED"), ("model_unavailable", "MODEL_GATEWAY_ERROR"),
    ("tool_execution_failed", "TOOL_EXECUTION_FAILED"),
    ("max_steps_exceeded", "MAX_STEPS_EXCEEDED"),
    ("token_budget_exhausted", "TOKEN_BUDGET_EXHAUSTED"),
    ("deadline_exceeded", "DEADLINE_EXCEEDED"), ("cancelled_by_user", "CANCELLED_BY_USER"),
    ("cancelled", "CANCELLED_BY_USER"), ("readonly_loop_no_progress", "NO_PROGRESS")]

def stableReasonCode (reason : Option String) : Option String :=
  (reason.filter (· ≠ "")).map fun reason =>
    (REASON_CODES.lookup reason).getD (take (π.upper reason) 128)

def statusLabel (status : String) : String :=
  ([("shipped", "已发货"), ("delivered", "已送达"), ("processing", "处理中"),
    ("paid", "已支付")].lookup status).getD status

/-- `_order_partial_result`. -/
def orderPartialResult (context : RunContext) : String :=
  let order := do
    let byTool ← (context.state.get? "tool_data_by_name").bind Value.asObj?
    let statusData ← (Dict.get? byTool "get_order_status").bind Value.asObj?
    let order ← (Dict.get? statusData "order").bind Value.asObj?
    let orderId ← (Dict.getStr? order "order_id").filter (· ≠ "")
    let status ← (Dict.getStr? order "status").filter (· ≠ "")
    some (order, orderId, status)
  match order with
  | none => ""
  | some (order, orderId, status) =>
    let eta := match (Dict.getStr? order "eta").filter (· ≠ "") with
      | some eta => "，预计 " ++ eta
      | none => ""
    let tracking := match (Dict.getStr? order "tracking_id").filter (· ≠ "") with
      | some tracking => "，物流单号为 " ++ tracking
      | none => ""
    "订单 " ++ orderId ++ " 已查询到：当前" ++ statusLabel status ++ eta ++ tracking ++ "。"

def failedContent (context : RunContext) (reasonCode : Option String) (retryable : Bool) :
    String :=
  if reasonCode = some "DECISION_REJECTED" then
    let part := orderPartialResult context
    if part ≠ "" then
      part ++ "下一步处理未通过安全检查，流程未继续执行。" ++
        (if retryable then "你可以点击重试，或转人工继续处理。" else "")
    else "Agent 的下一步决策未通过安全检查，本次请求未完成。你可以点击重试或转人工处理。"
  else
    let reasonText := ([("MODEL_GATEWAY_ERROR", "模型服务暂时不可用"),
      ("TOOL_EXECUTION_FAILED", "工具调用未完成"), ("UPSTREAM_UNAVAILABLE", "上游服务暂时不可用"),
      ("UNEXPECTED_EXECUTION_ERROR", "系统处理异常")].lookup (reasonCode.getD "")).getD
        "本次处理未完成"
    reasonText ++ "，本次请求未完成。" ++ (if retryable then "你可以点击重试。" else "")

/-- `_fallback_content`. -/
def fallbackContent (context : RunContext) (status : RunStatus) (reasonCode : Option String)
    (retryable : Bool) : String :=
  match status with
  | .completed => "本次请求已完成。"
  | .waitingUser => "还需要你补充必要信息后才能继续当前流程。"
  | .waitingConfirmation => "请在确认卡片中选择是否继续该操作。"
  | .waitingHuman => "自动处理已暂停，当前请求已转人工审核，请查看人工处理窗口。"
  | .cancelled => "本次请求已取消，未继续执行后续操作。"
  | .expired => "本次请求已超时失效，未能确认最终结果，请重新发起。"
  | .failed => failedContent context reasonCode retryable
  | _ => "当前请求已停止，请查看执行日志获取状态。"

namespace Publication

def effectiveStatus (p : Publication) : RunStatus := p.status.getD p.context.status

def stableReason (p : Publication) : Option String :=
  stableReasonCode π ((p.reasonCode.filter (· ≠ "")).or (stateReason π p.context))

def canRetry (p : Publication) : Bool :=
  p.retryable.getD (p.effectiveStatus ∈ [RunStatus.failed, .expired])

/-- The preferred content that is not blank. -/
def preferred? (p : Publication) : Option String :=
  (p.preferredContent.map strip).filter (· ≠ "")

def content (p : Publication) : String :=
  p.preferred?.getD
    (fallbackContent p.context p.effectiveStatus (p.stableReason π) p.canRetry)

abbrev Terminal (p : Publication) : Prop := p.effectiveStatus.IsTerminal

/-- The message of the answer, and whether it is new. -/
def appendResponse (p : Publication) : Act (MessageRecord × Bool) :=
  if p.Terminal then appendAssistantOnceForRun π p.context (p.content π)
  else do
    -- Waiting prompts are stage responses: a later answer may follow.
    let message ← appendAssistant π p.context (p.content π)
    pure (message, true)

def recordReason (p : Publication) : Act Unit :=
  match (p.stableReason π).filter fun _ => p.Terminal with
  | some reason => .perform (.runs (.setTerminalReason p.context.runId p.context.tenantId
      (some reason)))
  | none => pure ()

def terminalEvent (p : Publication) : Act Unit :=
  if p.Terminal then do
    let _ ← Prog.perform (.runs (.appendEvent p.context.runId p.context.tenantId
      .terminalResponsePublished "terminal"
      [("status", .str p.effectiveStatus.value), ("reason_code", jsonOption (p.stableReason π)),
        ("retryable", .bool p.canRetry), ("fallback_used", .bool p.preferred?.isNone)]))
    pure ()
  else pure ()

/-- The events and the timing of a message that is new. -/
def announce (p : Publication) : Act Unit := do
  (Prog.perform (.runs (.markResponsePublished p.context.runId p.context.tenantId))).handle
    fun _ => pure ()
  let _ ← Prog.perform (.runs (.appendEvent p.context.runId p.context.tenantId
    .assistantResponse "response"
    [("status", .str "published"), ("character_count", .int (p.content π).length)]))
  p.terminalEvent π

def announceIf (p : Publication) (created : Bool) : Act Unit :=
  if created then p.announce π else pure ()

end Publication

def publishTerminalResponse (p : Publication) : Act TerminalResponse := do
  let (message, created) ← p.appendResponse π
  p.recordReason π
  p.announceIf π created
  pure {
    content := message.contentRedacted
    reasonCode := p.stableReason π
    retryable := p.canRetry
    message := message
    published := created }

/-- The operations of a publisher. -/
def RunTx.Publishes : {α : Type} → RunTx α → Prop
  | _, .setTerminalReason _ _ _ | _, .markResponsePublished _ _ | _, .appendEvent _ _ _ _ _ => True
  | _, _ => False

def Op.Publishes {α : Type} : Op α → Prop
  | .runs t => t.Publishes
  | .messages _ => True
  | _ => False

section Uses

variable {π}

theorem uses_ofExcept {α β : Type} {P : {γ : Type} → Op γ → Prop} {x : Except Exc α}
    {f : α → Act β} (hf : ∀ a, Uses P (f a)) : Uses P (Prog.ofExcept x >>= f) := by
  cases x with
  | error e => exact .raise _
  | ok a => exact hf a

theorem uses_appendResponse (p : Publication) : Uses Op.Publishes (p.appendResponse π) := by
  unfold Publication.appendResponse appendAssistantOnceForRun appendAssistant
  generalize assistantInput π p.context (p.content π) = input
  split
  · exact uses_ofExcept fun _ => .perform trivial
  · refine .bind (uses_ofExcept fun _ => ?_) fun _ => .pure _
    exact .perform trivial

theorem publishes_recordReason (p : Publication) : Uses Op.Publishes (p.recordReason π) := by
  unfold Publication.recordReason
  split
  · exact .perform trivial
  · exact .pure _

theorem uses_announce (p : Publication) : Uses Op.Publishes (p.announce π) := by
  have hevent : Uses Op.Publishes (p.terminalEvent π) := by
    unfold Publication.terminalEvent
    refine .ite ?_ (.pure _)
    exact .bind (.perform trivial) fun _ => .pure _
  unfold Publication.announce
  refine .bind (.handle (.perform trivial) fun _ => .pure _) fun _ => ?_
  exact .bind (.perform trivial) fun _ => hevent

theorem uses_publishTerminalResponse (p : Publication) :
    Uses Op.Publishes (publishTerminalResponse π p) := by
  unfold publishTerminalResponse Publication.announceIf
  refine .bind (uses_appendResponse p) fun appended => ?_
  refine .bind (publishes_recordReason p) fun _ => ?_
  exact .bind (.ite (uses_announce p) (.pure _)) fun _ => .pure _

end Uses

/-- The context with which a failed execution publishes its answer. -/
def RunContext.failedWith (context : RunContext) (reason : String) : RunContext :=
  { context with
    status := .failed
    state := context.state.set "last_step_reason" (.str reason) }

/-- `_mark_failed`; the outer boundary of the worker gives it an `observe` that does nothing. -/
def markFailed (observe : EventType → String → Dict → Act Unit) (context : RunContext)
    (reason : String) : Act Unit := do
  Prog.perform (.runs (.markFailed context.runId context.tenantId reason))
  let published : Act Unit := do
    let _ ← publishTerminalResponse π
      { context := context.failedWith reason, reasonCode := some reason }
    pure ()
  published.handle fun _ =>
    let recorded : Act Unit := do
      let _ ← Prog.perform (.runs (.appendEvent context.runId context.tenantId
        .terminalResponsePublishFailed "terminal" [("reason_code", .str reason)]))
      pure ()
    recorded.handle fun _ => pure ()
  observe .failed "terminal" [("reason", .str reason)]

end CommerceAgent
