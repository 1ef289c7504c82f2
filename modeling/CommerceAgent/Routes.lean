import CommerceAgent.LowRisk
import CommerceAgent.Router

/-! The code-owned route catalog, and the extractor that fills the slots of a mutation route. -/
namespace CommerceAgent

open Json Texts

/-- `DEFAULT_INTENT_ROUTE_RULES` without the human-agent entry. -/
def AUTOMATIC_ROUTES : List (String × ExecutionMode × String) :=
  [("add_product", .workflow, "cart_management"), ("remove_product", .workflow, "cart_management"),
    ("cancel_order", .workflow, "cancel_order"), ("change_order", .workflow, "change_order"),
    ("request_invoice", .workflow, "invoice_request"), ("track_order", .readonlyLoop, "order_query"),
    ("order_history", .readonlyLoop, "order_query"),
    ("track_delivery", .readonlyLoop, "delivery_query"),
    ("delivery_time", .readonlyLoop, "delivery_query"),
    ("delivery_issue", .workflow, "delivery_issue"), ("missing_item", .workflow, "delivery_issue"),
    ("damaged_delivery", .workflow, "delivery_issue"), ("wrong_item", .workflow, "delivery_issue"),
    ("shipping_costs", .readonlyLoop, "shipping_policy"), ("request_refund", .workflow, "refund"),
    ("refund_status", .readonlyLoop, "refund_query"),
    ("refund_policy", .readonlyLoop, "refund_policy"),
    ("return_policy", .readonlyLoop, "return_policy"), ("return_product", .workflow, "return"),
    ("exchange_product", .workflow, "exchange"), ("availability", .readonlyLoop, "catalog_query"),
    ("product_information", .readonlyLoop, "catalog_query"),
    ("product_issue", .readonlyLoop, "product_query"), ("pay", .workflow, "checkout"),
    ("payment_issue", .readonlyLoop, "payment_query"),
    ("payment_methods", .readonlyLoop, "payment_policy"),
    ("customer_service", .readonlyLoop, "customer_service"),
    ("technical_issue", .readonlyLoop, "technical_support"),
    ("sales_period", .readonlyLoop, "sales_policy")]

def DEFAULT_INTENT_ROUTE_RULES : List IntentRouteRule :=
  (AUTOMATIC_ROUTES.map fun (intent, mode, route) => {
    intent := intent
    executionMode := mode
    workflowId := route
    workflowVersion := "1" }) ++
  [{ intent := "human_agent", executionMode := .readonlyLoop, workflowId := "human_agent",
     workflowVersion := "1", forceHandoff := true }]

/-- An entry of `_CONVERSATIONAL_RULES`. -/
def conversationalRule (intent : String) (policy : ResponsePolicy) (domain : RequestDomain) :
    IntentRouteRule where
  intent := intent
  executionMode := .readonlyLoop
  workflowId := "conversational_response"
  workflowVersion := "1"
  responsePolicy := policy
  domain := some domain
  minDomainConfidence := some (8 / 10)
  minRiskConfidence := some (8 / 10)

def CONVERSATIONAL_RULES : List IntentRouteRule :=
  [conversationalRule "greeting" .conversationalResponse .social,
    conversationalRule "thanks" .conversationalResponse .social,
    conversationalRule "social_chat" .conversationalResponse .social,
    conversationalRule "capability_query" .conversationalResponse .capability,
    conversationalRule "unsupported_low_risk" .gracefulUnsupported .unsupported]

def intentRouteRules (routingV2 conversationalFallback : Bool) : List IntentRouteRule :=
  if !routingV2 || !conversationalFallback then DEFAULT_INTENT_ROUTE_RULES
  else DEFAULT_INTENT_ROUTE_RULES ++ CONVERSATIONAL_RULES

def MUTATION_ROUTE_TO_TYPE : List (String × String) :=
  [("cancel_order", "cancel_order"), ("change_order", "change_order"),
    ("refund", "request_refund"), ("return", "return_product"), ("exchange", "exchange_product")]

def mutationTypeForRoute (route : String) : Option String := MUTATION_ROUTE_TO_TYPE.lookup route

section Extraction

open Patterns hiding none

/-- `[A-Z]` in any letter case. -/
def letterChar (c : Char) : Bool :=
  decide ('a' ≤ fold c) && decide (fold c ≤ 'z')

def digitChar (c : Char) : Bool := decide ('0' ≤ c) && decide (c ≤ '9')

def alnumChar (c : Char) : Bool := letterChar c || digitChar c

/-- `_ORDER_PATTERN`. -/
def orderPattern : Pattern :=
  all [notBefore alnumChar, literal ignoreCase "ord-",
    times (one fun c => alnumChar c || c == '-') 3 37, notAfter alnumChar]

/-- `_SKU_PATTERN`. -/
def skuPattern : Pattern :=
  all [notBefore alnumChar, times (one letterChar) 2 6, one digitChar,
    times (one fun c => alnumChar c || c == '/' || c == '-') 2 22, notAfter alnumChar]

def REASON_HINTS : List String := REASON_NORMALIZATION.map Prod.fst ++ ["原因", "因为", "由于"]

/-- What follows `text.find(part)` and two characters, if the text holds the part. -/
def afterMarker (part : List Char) : List Char → Option (ℕ × List Char)
  | [] => if part = [] then some (0, []) else none
  | c :: l =>
    if part.isPrefixOf (c :: l) then some (0, (c :: l).drop 2)
    else (afterMarker part l).map fun (n, rest) => (n + 1, rest)

/-- `text[max(text.find("地址"), text.find("改为")) + 2:]`. -/
def addressPart (text : String) : Option (List Char) :=
  match afterMarker "地址".toList text.toList, afterMarker "改为".toList text.toList with
  | some (n, rest), some (m, rest') => some (if m ≤ n then rest else rest')
  | some (_, rest), none => some rest
  | none, some (_, rest) => some rest
  | none, none => none

/-- `extract_arguments`; the values stay untrusted. -/
def extractArguments (mutationType text : String) : Dict :=
  let order : Dict := match find? orderPattern text with
    | some found => [("order_id", .str found)]
    | none => []
  let skus := findAll skuPattern text
  let replacement : Dict :=
    if mutationType = "exchange_product" then
      (skus.getLast?.map fun sku => ("replacement_sku", Value.str sku)).toList
    else []
  let item : Dict :=
    if mutationType ∈ ["request_refund", "return_product", "exchange_product"] then
      [("item_id", .str (skus.head?.getD ""))]
    else []
  let reason : Dict :=
    if mutationType ∈ ["cancel_order", "request_refund", "return_product"] ∧
        REASON_HINTS.any (contains text) then [("reason", .str text)]
    else []
  let address : Dict :=
    if mutationType = "change_order" then
      let candidate := (addressPart text).map fun rest =>
        stripBy (fun c => " ：:，,。".toList.contains c) (String.ofList rest)
      ((candidate.filter (· ≠ "")).map fun c => ("new_address", Value.str c)).toList
    else []
  order ++ replacement ++ item ++ reason ++ address

end Extraction

/-- `capability_summary`. -/
def capabilitySummary : String := "、".intercalate ["查询订单与物流", "说明商品信息", "说明退款/退货政策"]

/-- `response_for`: the replies to conversations that are no business. -/
def responseFor (intent content : String) : String :=
  match intent with
  | "greeting" => "你好！我是 CommerceAgent，可以帮你查询订单、物流、商品信息和售后政策。"
  | "thanks" => "不客气！如果还需要查询订单或商品信息，随时告诉我。"
  | "capability_query" =>
    "我可以协助" ++ capabilitySummary ++ "；涉及账户或交易变更时，我会先校验并请求确认。"
  | "social_chat" =>
    if ["心情很好", "开心", "高兴", "快乐"].any (contains (strip content)) then
      "太棒了！你的好心情很有感染力，今天的你值得一个大大的夸奖：阳光、可爱又充满能量！"
    else "听起来你想轻松聊聊，我很愿意接住这份好心情。需要我帮你查询订单或商品信息时，也可以直接告诉我。"
  | _ =>
    "我目前主要提供订单、物流、商品和售后政策服务；这个问题暂不在服务范围内，但你可以换一种相关问法试试。"

end CommerceAgent
