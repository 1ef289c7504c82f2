import CommerceAgent.Protocols
import CommerceAgent.JsonText
import CommerceAgent.Texts

/-! The planner of `workflows/mutations.py`: slots in, a preview with its hashes out. -/
namespace CommerceAgent

open Json Texts

/-- The standard library functions that the model leaves open. -/
structure Platform where
  sha256 : String → String
  uuid5 : String → Uuid
  isoformat : ℕ → String
  /-- `str` of a value that is not a string. -/
  repr : Value → String
  upper : String → String
  lower : String → String
  /-- What `\d` matches in a text. -/
  isDecimal : Char → Bool
  /-- What `\w` matches in a text. -/
  isWord : Char → Bool

variable (π : Platform)

/-- `sha256:` with the hex digest of the UTF-8 bytes. -/
def hashSecret (value : String) : String := "sha256:" ++ π.sha256 value

/-- `str(value)`. -/
def Platform.str : Value → String
  | .str s => s
  | v => π.repr v

/-- The mutation types, each with its workflow version. -/
def MUTATION_WORKFLOW_VERSIONS : List (String × String) :=
  [("cancel_order", "cancel-order-v1"), ("change_order", "update-shipping-address-v1"),
    ("request_refund", "refund-v1"), ("return_product", "return-v1"),
    ("exchange_product", "exchange-v1")]

def MUTATION_REQUIRED_SLOTS : List (String × List String) :=
  [("cancel_order", ["order_id", "reason"]), ("change_order", ["order_id", "new_address"]),
    ("request_refund", ["order_id", "item_id", "reason"]),
    ("return_product", ["order_id", "item_id", "reason"]),
    ("exchange_product", ["order_id", "item_id", "replacement_sku"])]

/-- `_REASON_NORMALIZATION`, in the order of its labels. -/
def REASON_NORMALIZATION : List (String × String) :=
  [("不想要", "changed_mind"), ("不需要", "changed_mind"), ("质量", "quality_issue"),
    ("坏", "quality_issue"), ("损坏", "quality_issue"), ("错发", "wrong_item"),
    ("不合适", "not_suitable"), ("其他", "other")]

/-- The operation that each mutation type commits. -/
def MUTATION_OPERATIONS : List (String × String) :=
  [("cancel_order", "commit_cancel_order"), ("change_order", "commit_update_shipping_address"),
    ("request_refund", "commit_refund"), ("return_product", "commit_return"),
    ("exchange_product", "commit_exchange")]

structure DemoOrder where
  orderId : String
  ownerId : String
  status : String
  itemId : String
  itemTitle : String
  amount : ℤ
  quantity : ℕ := 1
  currency : String := "CNY"

def DEFAULT_DEMO_ORDERS : List DemoOrder :=
  [⟨"ORD-DEMO-001", "demo-user-001", "shipped", "TAH6206", "无线蓝牙耳机", 299, 1, "CNY"⟩,
    ⟨"ORD-DEMO-002", "demo-user-001", "delivered", "BHD308/10", "ThermoProtect 吹风机", 199, 1,
      "CNY"⟩,
    ⟨"ORD-DEMO-CANCEL-001", "demo-user-001", "processing", "TAH6206", "无线蓝牙耳机", 299, 1,
      "CNY"⟩,
    ⟨"ORD-DEMO-003", "demo-user-002", "processing", "HD928X", "智能空气炸锅", 899, 1, "CNY"⟩]

structure MutationPreview where
  mutationType : String
  workflowVersion : String
  resourceRef : String
  operation : String
  summary : String
  impact : Dict
  amount : Dict
  channel : String
  estimatedTime : String
  policyVersion : String
  normalizedArgs : Dict

def MutationPreview.asPublic (preview : MutationPreview) : Dict :=
  [("mutation_type", .str preview.mutationType),
    ("workflow_version", .str preview.workflowVersion),
    ("resource_ref", .str preview.resourceRef), ("operation", .str preview.operation),
    ("summary", .str preview.summary), ("impact", .obj preview.impact),
    ("amount", .obj preview.amount), ("channel", .str preview.channel),
    ("estimated_time", .str preview.estimatedTime),
    ("policy_version", .str preview.policyVersion)]

def previewHash (preview : MutationPreview) : String :=
  "sha256:" ++ π.sha256 (dumps (.obj preview.asPublic))

def argumentsHash (arguments : Dict) : String := "sha256:" ++ π.sha256 (dumps (.obj arguments))

/-- `_normalize_address`. -/
def normalizeAddress (value : String) : Except Exc String :=
  let value := joinWords value
  if 6 ≤ value.length ∧ value.length ≤ 200 then .ok value
  else .error (.mutationPlanning "INVALID_ARGUMENT" "收货地址长度不合法" [])

/-- `_mask_address`. -/
def maskAddress (value : String) : String :=
  if value.length ≤ 6 then "***" else take value 4 ++ "***" ++ takeEnd value 3

/-- The reason code of a stripped text. -/
def reasonCode (raw : String) : String :=
  ((REASON_NORMALIZATION.find? fun entry => contains raw entry.1).map Prod.snd).getD "other"

/-- A slot of the arguments, if it is there and true. -/
def slot (arguments : Dict) (key : String) : Option Value :=
  (arguments.get? key).filter Value.truthy

def normalizeArguments (arguments : Dict) : Except Exc Dict := do
  let upper (key : String) : Dict :=
    match slot arguments key with
    | none => []
    | some v => [(key, .str (π.upper (π.str v)))]
  let address ← match slot arguments "new_address" with
    | none => .ok []
    | some v => do
      let address ← normalizeAddress (π.str v)
      .ok [("new_address", .str address)]
  let reason : Dict := match slot arguments "reason" with
    | none => []
    | some v => [("reason_code", .str (reasonCode (strip (π.str v))))]
  .ok (upper "order_id" ++ upper "item_id" ++ upper "replacement_sku" ++ address ++ reason)

/-- The required slots that the normalized arguments leave empty. -/
def missingSlots (mutationType : String) (normalized : Dict) : List String :=
  ((MUTATION_REQUIRED_SLOTS.lookup mutationType).getD []).filter fun required =>
    (slot normalized (if required = "reason" then "reason_code" else required)).isNone

/-- `_check_eligibility`. -/
def checkEligibility (mutationType : String) (order : DemoOrder) : Except Exc Unit :=
  if mutationType = "cancel_order" ∧ order.status ∉ ["processing", "paid"] then
    .error (.mutationPlanning "POLICY_DENIED" "该订单当前状态不支持取消" [])
  else if mutationType = "change_order" ∧ order.status ∉ ["processing", "paid"] then
    .error (.mutationPlanning "POLICY_DENIED" "该订单当前状态不支持修改地址" [])
  else .ok ()

/-- The parts of a preview that depend on the mutation type. -/
structure PreviewCard where
  impact : Dict
  amount : ℤ
  channel : String
  estimatedTime : String
  summary : String

def previewCard (mutationType : String) (order : DemoOrder) (normalized : Dict)
    (itemId reasonCode : String) : PreviewCard :=
  match mutationType with
  | "change_order" =>
    ⟨[("address", .str (maskAddress ((normalized.getStr? "new_address").getD ""))),
        ("address_version", .str "v1"), ("quantity", .int 1)], 0, "原配送渠道",
      "预计 1 个工作日内生效", "修改订单 " ++ order.orderId ++ " 的收货地址"⟩
  | "cancel_order" =>
    ⟨[("order_status", .str "cancelled"), ("item_id", .str order.itemId), ("quantity", .int 1)],
      order.amount, "原支付渠道", "预计 1-3 个工作日到账", "取消订单 " ++ order.orderId⟩
  | "request_refund" =>
    ⟨[("refund_status", .str "requested"), ("item_id", .str itemId),
        ("reason_code", .str reasonCode), ("quantity", .int 1)], order.amount, "原支付渠道",
      "预计 3-7 个工作日到账", "申请订单 " ++ order.orderId ++ " 的退款"⟩
  | "return_product" =>
    ⟨[("return_status", .str "requested"), ("item_id", .str itemId),
        ("reason_code", .str reasonCode), ("quantity", .int 1)], order.amount, "原支付渠道",
      "收到退回商品后 3-7 个工作日", "申请退回订单 " ++ order.orderId ++ " 的商品"⟩
  | _ =>
    let replacement := (normalized.getStr? "replacement_sku").getD ""
    ⟨[("exchange_status", .str "requested"), ("item_id", .str itemId),
        ("replacement_sku", .str replacement), ("quantity", .int 1)], 0, "原配送渠道",
      "预计 3-5 个工作日", "申请将订单 " ++ order.orderId ++ " 的商品换为 " ++ replacement⟩

/-- The planner's table of orders: of two with one id the later one. -/
def orderWithId (orders : List DemoOrder) (orderId : Option String) : Option DemoOrder :=
  orders.reverse.find? fun order => some order.orderId = orderId

/-- The order that the actor may change; whether another actor has one is not revealed. -/
def ownOrder (orders : List DemoOrder) (actorId : String) (orderId : Option String) :
    Option DemoOrder :=
  (orderWithId orders orderId).filter fun order => order.ownerId = actorId

/-- `MutationPlanner.prepare` over a table of orders. -/
def prepare (mutationType actorId : String) (arguments : Dict)
    (orders : List DemoOrder := DEFAULT_DEMO_ORDERS)
    (policyVersion : String := "phase4-policy-v1") : Except Exc MutationPreview :=
  match MUTATION_WORKFLOW_VERSIONS.lookup mutationType with
  | none => .error (.mutationPlanning "UNKNOWN_MUTATION" "暂不支持该变更" [])
  | some workflowVersion => do
    let normalized ← normalizeArguments π arguments
    if missingSlots mutationType normalized ≠ [] then
      .error (.mutationPlanning "MISSING_SLOTS" "还需要补充必要信息"
        (missingSlots mutationType normalized))
    else match ownOrder orders actorId (normalized.getStr? "order_id") with
    | none => .error (.mutationPlanning "RESOURCE_NOT_FOUND" "未找到可操作的订单" [])
    | some order => do
      -- The normalized arguments hold no quantity, so the check on it cannot fail.
      let normalized := normalized.set "quantity" (.int 1)
      checkEligibility mutationType order
      let itemId := (normalized.getStr? "item_id").getD order.itemId
      if itemId ≠ order.itemId then
        .error (.mutationPlanning "ITEM_NOT_FOUND" "订单中没有该商品" [])
      else
        let card := previewCard mutationType order normalized itemId
          ((normalized.getStr? "reason_code").getD "other")
        .ok {
          mutationType := mutationType
          workflowVersion := workflowVersion
          resourceRef := order.orderId
          operation := (MUTATION_OPERATIONS.lookup mutationType).getD ""
          summary := card.summary
          impact := card.impact
          amount := [("value", .int card.amount), ("currency", .str order.currency)]
          channel := card.channel
          estimatedTime := card.estimatedTime
          policyVersion := policyVersion
          normalizedArgs := normalized }

/-- An error of the planner. -/
def Exc.IsPlanning (e : Exc) : Prop :=
  ∃ code message missing, e = .mutationPlanning code message missing

section Errors

variable {π} {e : Exc}

theorem normalizeArguments_error {arguments : Dict} (h : normalizeArguments π arguments = .error e) :
    e.IsPlanning := by
  unfold normalizeArguments at h
  cases haddress : slot arguments "new_address" with
  | none => simp [haddress, bind, Except.bind] at h
  | some v =>
    cases hv : normalizeAddress (π.str v) with
    | ok address => simp [haddress, hv, bind, Except.bind] at h
    | error e' =>
      have he : e' = e := by simpa [haddress, hv, bind, Except.bind] using h
      simp only [normalizeAddress] at hv
      split at hv
      · exact absurd hv (by simp)
      · exact ⟨_, _, _, he.symm.trans (Except.error.inj hv).symm⟩

/-- The planner raises errors of its own only. -/
theorem prepare_error {mutationType actorId policyVersion : String} {arguments : Dict}
    {orders : List DemoOrder}
    (h : prepare π mutationType actorId arguments orders policyVersion = .error e) :
    e.IsPlanning := by
  unfold prepare at h
  split at h
  · exact ⟨_, _, _, (Except.error.inj h).symm⟩
  · cases hn : normalizeArguments π arguments with
    | error e' =>
      obtain rfl : e' = e := by simpa [hn, bind, Except.bind] using h
      exact normalizeArguments_error hn
    | ok normalized =>
      simp only [hn, bind, Except.bind] at h
      split at h
      · exact ⟨_, _, _, (Except.error.inj h).symm⟩
      · split at h
        · exact ⟨_, _, _, (Except.error.inj h).symm⟩
        · rename_i order _
          cases hc : checkEligibility mutationType order with
          | error e' =>
            obtain rfl : e' = e := by simpa [hc] using h
            unfold checkEligibility at hc
            split at hc
            · exact ⟨_, _, _, (Except.error.inj hc).symm⟩
            · split at hc
              · exact ⟨_, _, _, (Except.error.inj hc).symm⟩
              · exact absurd hc (by simp)
          | ok u =>
            simp only [hc] at h
            split at h
            · exact ⟨_, _, _, (Except.error.inj h).symm⟩
            · exact absurd h (by simp)

end Errors

end CommerceAgent
