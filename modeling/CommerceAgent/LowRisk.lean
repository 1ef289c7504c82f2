import CommerceAgent.MutationWorkflow
import CommerceAgent.Patterns

/-! The write routes without a confirmation: invoice requests and delivery claims. -/
namespace CommerceAgent

open Json Programs

variable (π : Platform)

def LOW_RISK_ROUTES : List String := ["invoice_request", "delivery_issue"]

/-- `[A-Z0-9-]` in any letter case. -/
def identifierChar (c : Char) : Bool :=
  let d := Patterns.fold c
  (decide ('a' ≤ d) && decide (d ≤ 'z')) || (decide ('0' ≤ d) && decide (d ≤ '9')) || d == '-'

/-- An identifier after its prefix, which is given in lower case. -/
def identifierPattern (start : String) : Patterns.Pattern :=
  Patterns.all [Patterns.literal Patterns.ignoreCase start,
    Patterns.atLeast 1 (Patterns.one identifierChar)]

def extractLowRiskArguments (route text : String) (intent : Option String) : Dict :=
  let order : Dict := match Patterns.find? (identifierPattern "ord-") text with
    | some found => [("order_id", .str (π.upper found))]
    | none => []
  if route = "invoice_request" then
    order ++ [("invoice_type", .str "electronic"), ("title", .str "个人")]
  else if route = "delivery_issue" then
    let item : Dict := match (Patterns.findAll (identifierPattern "sku-") text).head? with
      | some found => [("item_id", .str (π.upper found))]
      | none => []
    order ++ item ++ [("issue_type", .str ((intent.filter (· ≠ "")).getD "delivery_issue"))]
  else order

def lowRiskOperation (route : String) : String :=
  if route = "invoice_request" then "create_invoice_request" else "report_delivery_issue"

/-- The required slots of a route that the arguments leave empty. -/
def lowRiskMissing (route : String) (arguments : Dict) : List String :=
  (if route = "invoice_request" then ["order_id"] else ["order_id", "item_id"]).filter
    fun required => (slot arguments required).isNone

def lowRiskIntent (context : RunContext) (route : String) (arguments : Dict) :
    MutationExecutionIntent where
  recordId := π.uuid5 ("commerce-agent:" ++ context.runId ++ ":" ++ lowRiskOperation route)
  tenantId := context.tenantId
  operation := lowRiskOperation route
  requestFingerprint := argumentsHash π arguments

/-- The resource that the business system is asked to change: `str(arguments["order_id"])`. -/
def lowRiskResource (arguments : Dict) : String :=
  π.str ((arguments.get? "order_id").getD .null)

/-- The state beside which an outcome is recorded. -/
def lowRiskState (context : RunContext) (route : String) (arguments : Dict) : Dict :=
  context.state.update [("low_risk_operation", .str (lowRiskOperation route)),
    ("low_risk_args", .obj arguments)]

/-- The status that a completion is checkpointed with. -/
def MutationCompletion.lowRiskStatus (completion : MutationCompletion) : RunStatus :=
  if completion.status = .succeeded then .completed
  else if completion.status = .unknown then .waitingHuman else .failed

/-- `after`. -/
def MutationCompletion.lowRiskAfter (completion : MutationCompletion) (state : Dict) : Dict :=
  let state := state.set "low_risk_status" (.str completion.status.value)
  match completion.businessReference.filter (· ≠ "") with
  | some reference => state.set "business_reference" (.str reference)
  | none => state

/-- The closure `checkpoint`, with the version and the state that it leaves to its caller. -/
def lowRiskCheckpoint (context : RunContext) (route : String) (arguments : Dict)
    (completion : MutationCompletion) : Act (ℕ × Dict) := do
  let after := completion.lowRiskAfter (lowRiskState context route arguments)
  let version ← checkpointMutation context completion.lowRiskStatus "terminal" after
    [⟨.commitObserved, [("operation", .str (lowRiskOperation route)),
      ("status", .str completion.status.value)]⟩] completion
  pure (version, after)

/-- `_handoff`. -/
def lowRiskHandoff (options : ConfirmOptions) (context : RunContext) (operation : String) :
    Act (Option Uuid) := do
  let ticketId ← options.createTicket ⟨context.runId, context.tenantId, context.actorId,
    "LOW_RISK_STATUS_UNKNOWN", some operation, []⟩
  if options.audit then
    Prog.perform (.world (.auditAppend context.tenantId context.actorId
      "low_risk_handoff_created"))
  pure ticketId

/-- The handover of an outcome that nobody knows. -/
def lowRiskUnknown (options : ConfirmOptions) (context : RunContext) (route : String)
    (outcome : MutationExecutionOutcome) (state : Dict) (version : ℕ) : Act RunContext := do
  let operation := lowRiskOperation route
  let ticketId ← lowRiskHandoff options context operation
  let finalState := state.set "low_risk_status" (.str outcome.status.value)
  let finalState := match ticketId with
    | some ticketId => finalState.set "handoff_ticket_id" (.str ticketId)
    | none => finalState
  let created : List DomainEvent := match ticketId with
    | some ticketId => [⟨.handoffCreated, [("handoff_ticket_id", .str ticketId)]⟩]
    | none => []
  let finalVersion ← checkpoint
    { context with status := .verifying, checkpointVersion := version } .waitingHuman "terminal"
    finalState (⟨.mutationUncertain, [("operation", .str operation)]⟩ :: created)
  pure (context.copy .waitingHuman finalState (context.stepCount + 2) finalVersion)

def executeLowRisk (options : ConfirmOptions) (context : RunContext) (route : String)
    (arguments : Dict) : Act RunContext :=
  if route ∉ LOW_RISK_ROUTES then
    .raise (.lowRiskWorkflow "UNKNOWN_LOW_RISK_ROUTE" "暂不支持该低风险操作" [])
  else if lowRiskMissing route arguments ≠ [] then
    .raise (.lowRiskWorkflow "MISSING_SLOTS" "还需要补充必要信息" (lowRiskMissing route arguments))
  else do
    let intent := lowRiskIntent π context route arguments
    let _ ← reserve π intent none
    let (outcome, left) ← execute intent
      (fun key => .perform (.world (.commit .lowRisk (lowRiskOperation route) context.actorId
        (lowRiskResource π arguments) arguments key)))
      (lowRiskCheckpoint context route arguments)
    -- What the closure left: without it the state and the version of the request.
    let (version, state) := left.getD
      (context.checkpointVersion, lowRiskState context route arguments)
    if outcome.status = .unknown then lowRiskUnknown options context route outcome state version
    else if outcome.status = .failed then
      pure (context.copy .failed state (context.stepCount + 1) version)
    else pure (context.copy .completed state (context.stepCount + 1) version)

end CommerceAgent
