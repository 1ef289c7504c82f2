import CommerceAgent.MutationWorkflow

/-! The order tools of the readonly adapter with the resource authorizer, and the isolation of the
actors: what an actor gets back depends on the actor's own orders only. -/
namespace CommerceAgent

open Json

structure OrderFixture where
  orderId : String
  actorId : String
  status : String
  itemSkus : List String
  trackingId : String
  eta : String
  paymentStatus : String
  refundStatus : String

def DEFAULT_ORDERS : List OrderFixture :=
  [⟨"ORD-DEMO-001", "demo-user-001", "shipped", ["TAH6206"], "TRK-DEMO-001", "2026-09-16", "paid",
      "none"⟩,
    ⟨"ORD-DEMO-002", "demo-user-001", "delivered", ["BHD308/10"], "TRK-DEMO-002", "2026-09-10",
      "paid", "none"⟩,
    ⟨"ORD-DEMO-003", "demo-user-002", "processing", ["HD928X"], "TRK-DEMO-003", "2026-09-18", "paid",
      "none"⟩]

structure ToolResult where
  toolName : String
  data : Option Dict := none
  /-- The code of an error that is not retryable. -/
  error : Option String := none

/-- `_success`. -/
def success (name : String) (data : Dict) : ToolResult := { toolName := name, data := some data }

/-- `_failure`. -/
def failure (name : String) : ToolResult := { toolName := name, error := some "RESOURCE_NOT_FOUND" }

section Tables

variable {ρ : Type} (key : ρ → String)

/-- `{key(item): item for item in items}`: a later item takes the place of one with its key. -/
def byKey (items : List ρ) : List ρ :=
  items.foldl (fun table item =>
    if table.any fun x => key x = key item then
      table.map fun x => if key x = key item then item else x
    else table ++ [item]) []

/-- The item with this key. -/
def getByKey (items : List ρ) (k : String) : Option ρ := (byKey key items).find? fun x => key x = k

end Tables

section Adapter

variable (π : Platform)

/-- `_owned_order`. -/
def ownedOrder (orders : List OrderFixture) (actorId : String) (arguments : Dict) :
    Option OrderFixture :=
  (getByKey OrderFixture.orderId orders
    (((arguments.get? "order_id").map π.str).getD "")).filter fun order => order.actorId = actorId

/-- `_order`. -/
def OrderFixture.dict (item : OrderFixture) : Dict :=
  [("order_id", .str item.orderId), ("status", .str item.status),
    ("item_skus", .arr (item.itemSkus.map .str)), ("tracking_id", .str item.trackingId),
    ("eta", .str item.eta), ("payment_status", .str item.paymentStatus),
    ("refund_status", .str item.refundStatus)]

/-- The limit of a listing, between 1 and 20. -/
def listLimit (arguments : Dict) : ℕ :=
  let limit : ℤ := match arguments.get? "limit" with
    | some (.int limit) => limit
    | _ => 10
  (max 1 (min limit 20)).toNat

def listMyOrders (orders : List OrderFixture) (actorId : String) (arguments : Dict) : ToolResult :=
  let status := (arguments.get? "status").filter Value.truthy
  let own := (byKey OrderFixture.orderId orders).filter fun item =>
    item.actorId = actorId ∧ (status.isNone ∨ status.bind Value.asStr? = some item.status)
  success "list_my_orders"
    [("orders", .arr ((own.take (listLimit arguments)).map fun item => .obj item.dict))]

/-- A tool that shows a part of one order. -/
def orderTool (name : String) (shown : OrderFixture → Dict) (orders : List OrderFixture)
    (actorId : String) (arguments : Dict) : ToolResult :=
  match ownedOrder π orders actorId arguments with
  | none => failure name
  | some order => success name (shown order)

def getOrderStatus : List OrderFixture → String → Dict → ToolResult :=
  orderTool π "get_order_status" fun order => [("order", .obj order.dict)]

def getDeliveryTracking : List OrderFixture → String → Dict → ToolResult :=
  orderTool π "get_delivery_tracking" fun order =>
    [("tracking_id", .str order.trackingId), ("status", .str order.status), ("eta", .str order.eta)]

def getPaymentStatus : List OrderFixture → String → Dict → ToolResult :=
  orderTool π "get_payment_status" fun order =>
    [("order_id", .str order.orderId), ("status", .str order.paymentStatus)]

def getRefundStatus : List OrderFixture → String → Dict → ToolResult :=
  orderTool π "get_refund_status" fun order =>
    [("order_id", .str order.orderId), ("status", .str order.refundStatus)]

/-- `for_tool`, for the tools that read orders. -/
def forTool (name : String) : Option (List OrderFixture → String → Dict → ToolResult) :=
  match name with
  | "list_my_orders" => some listMyOrders
  | "get_order_status" => some (getOrderStatus π)
  | "get_delivery_tracking" => some (getDeliveryTracking π)
  | "get_payment_status" => some (getPaymentStatus π)
  | "get_refund_status" => some (getRefundStatus π)
  | _ => none

/-- `MockResourceAuthorizer.authorize`. -/
def authorize (orders : List OrderFixture) (ownerCheck : String) (resourceId : Value)
    (actorId : String) : Bool :=
  ownerCheck = "order.owner" &&
    (getByKey OrderFixture.orderId orders (π.str resourceId)).any fun order => order.actorId = actorId

end Adapter

section Isolation

variable {ρ : Type} {key owner : ρ → String} {items items' : List ρ} {actor : String}

/-- Two tables with unique keys in which `actor` has the same items, in the same order. -/
structure AgreeFor (key owner : ρ → String) (actor : String) (items items' : List ρ) : Prop where
  unique : (items.map key).Nodup
  unique' : (items'.map key).Nodup
  own : (items.filter fun x => owner x = actor) = items'.filter fun x => owner x = actor

theorem byKey_eq (h : (items.map key).Nodup) : byKey key items = items := by
  have hfold : ∀ table : List ρ, ((table ++ items).map key).Nodup →
      items.foldl (fun table item =>
        if table.any fun x => key x = key item then
          table.map fun x => if key x = key item then item else x
        else table ++ [item]) table = table ++ items := by
    clear h
    induction items with
    | nil => simp
    | cons item items ih =>
      intro table htable
      have hnew : ¬ (table.any fun x => key x = key item) = true := by
        intro hany
        obtain ⟨x, hx, hkey⟩ := List.any_eq_true.mp hany
        rw [List.map_append, List.map_cons] at htable
        have hdisjoint := (List.nodup_append.mp htable).2.2 (key x) (List.mem_map_of_mem hx)
          (key item) List.mem_cons_self
        exact hdisjoint (by simpa using hkey)
      rw [List.foldl_cons, if_neg hnew, ih (table ++ [item]) (by simpa using htable)]
      simp
  exact hfold [] (by simpa using h)

/-- Among unique keys, a lookup followed by the check of the owner finds an own item by its key. -/
theorem find_own (h : (items.map key).Nodup) (k : String) :
    ((items.find? fun x => key x = k).filter fun x => owner x = actor) =
      (items.filter fun x => owner x = actor).find? fun x => key x = k := by
  induction items with
  | nil => rfl
  | cons item items ih =>
    obtain ⟨hnotin, hrest⟩ := List.nodup_cons.mp h
    by_cases hkey : key item = k
    · have hothers : ∀ x ∈ items, key x ≠ k := fun x hx hxk =>
        hnotin (hkey.trans hxk.symm ▸ List.mem_map_of_mem hx)
      by_cases howner : owner item = actor
      · simp [hkey, howner, Option.filter]
      · have hnone : ((items.filter fun x => owner x = actor).find? fun x => key x = k) = none := by
          simp only [List.find?_eq_none, decide_eq_true_eq]
          exact fun x hx => hothers x (List.mem_of_mem_filter hx)
        simp [hkey, howner, Option.filter, hnone]
    · by_cases howner : owner item = actor <;> simp [hkey, howner, ih hrest]

theorem AgreeFor.get (h : AgreeFor key owner actor items items') (k : String) :
    (getByKey key items k).filter (fun x => owner x = actor) =
      (getByKey key items' k).filter fun x => owner x = actor := by
  unfold getByKey
  rw [byKey_eq h.unique, byKey_eq h.unique', find_own h.unique, find_own h.unique', h.own]

theorem AgreeFor.filter (h : AgreeFor key owner actor items items') (p : ρ → Bool) :
    ((byKey key items).filter fun x => owner x = actor ∧ p x) =
      (byKey key items').filter fun x => owner x = actor ∧ p x := by
  rw [byKey_eq h.unique, byKey_eq h.unique']
  have hsplit : ∀ l : List ρ, (l.filter fun x => owner x = actor ∧ p x) =
      (l.filter fun x => owner x = actor).filter p := by
    intro l
    rw [List.filter_filter]
    congr 1
    funext x
    simp [Bool.and_comm]
  rw [hsplit, hsplit, h.own]

variable (π : Platform)

theorem AgreeFor.ownOrder {orders orders' : List DemoOrder}
    (h : AgreeFor DemoOrder.orderId DemoOrder.ownerId actor orders orders') (orderId : Option String) :
    CommerceAgent.ownOrder orders actor orderId = CommerceAgent.ownOrder orders' actor orderId := by
  unfold CommerceAgent.ownOrder orderWithId
  cases orderId with
  | none =>
    have hnone : ∀ l : List DemoOrder,
        (l.find? fun order => (some order.orderId : Option String) = none) = none := by simp
    rw [hnone, hnone]
  | some orderId =>
    have hown : (orders.reverse.filter fun order => order.ownerId = actor) =
        orders'.reverse.filter fun order => order.ownerId = actor := by
      rw [List.filter_reverse, List.filter_reverse, h.own]
    have hunique : (orders.reverse.map DemoOrder.orderId).Nodup := by
      rw [List.map_reverse]
      exact List.nodup_reverse.mpr h.unique
    have hunique' : (orders'.reverse.map DemoOrder.orderId).Nodup := by
      rw [List.map_reverse]
      exact List.nodup_reverse.mpr h.unique'
    have hfind := @find_own _ _ DemoOrder.ownerId _ actor hunique orderId
    have hfind' := @find_own _ _ DemoOrder.ownerId _ actor hunique' orderId
    rw [← hown] at hfind'
    simpa using hfind.trans hfind'.symm

theorem AgreeFor.prepare {orders orders' : List DemoOrder}
    (h : AgreeFor DemoOrder.orderId DemoOrder.ownerId actor orders orders')
    (mutationType : String) (arguments : Dict) (policyVersion : String) :
    prepare π mutationType actor arguments orders policyVersion =
      prepare π mutationType actor arguments orders' policyVersion := by
  unfold CommerceAgent.prepare
  simp only [h.ownOrder]

theorem AgreeFor.forTool {orders orders' : List OrderFixture}
    (h : AgreeFor OrderFixture.orderId OrderFixture.actorId actor orders orders') {name : String}
    {tool : List OrderFixture → String → Dict → ToolResult} (htool : forTool π name = some tool)
    (arguments : Dict) : tool orders actor arguments = tool orders' actor arguments := by
  have horder : ∀ name shown, orderTool π name shown orders actor arguments =
      orderTool π name shown orders' actor arguments := by
    intro name shown
    unfold orderTool ownedOrder
    rw [h.get]
  have hlist : listMyOrders orders actor arguments = listMyOrders orders' actor arguments := by
    have hown := h.filter fun item =>
      decide (((arguments.get? "status").filter Value.truthy).isNone ∨
        ((arguments.get? "status").filter Value.truthy).bind Value.asStr? = some item.status)
    simp only [decide_eq_true_eq] at hown
    simp only [listMyOrders, hown]
  unfold CommerceAgent.forTool at htool
  split at htool
  · obtain rfl := Option.some.inj htool
    exact hlist
  · obtain rfl := Option.some.inj htool
    exact horder _ _
  · obtain rfl := Option.some.inj htool
    exact horder _ _
  · obtain rfl := Option.some.inj htool
    exact horder _ _
  · obtain rfl := Option.some.inj htool
    exact horder _ _
  · exact absurd htool (by simp)

theorem AgreeFor.authorize {orders orders' : List OrderFixture}
    (h : AgreeFor OrderFixture.orderId OrderFixture.actorId actor orders orders')
    (ownerCheck : String) (resourceId : Value) :
    authorize π orders ownerCheck resourceId actor = authorize π orders' ownerCheck resourceId actor := by
  have hany : ∀ o : Option OrderFixture, (o.any fun order => order.actorId = actor) =
      (o.filter fun order => order.actorId = actor).isSome := by
    intro o
    cases o with
    | none => rfl
    | some order => by_cases ho : order.actorId = actor <;> simp [Option.filter, ho]
  unfold CommerceAgent.authorize
  rw [hany, hany, h.get]

/-- Nothing that an actor gets from the planner, from a tool on orders or from the authorizer
depends on the orders of the other actors: not even on whether they exist. -/
theorem actors_isolated {orders orders' : List DemoOrder} {fixtures fixtures' : List OrderFixture}
    (horders : AgreeFor DemoOrder.orderId DemoOrder.ownerId actor orders orders')
    (hfixtures : AgreeFor OrderFixture.orderId OrderFixture.actorId actor fixtures fixtures') :
    (∀ mutationType arguments policyVersion,
      prepare π mutationType actor arguments orders policyVersion =
        prepare π mutationType actor arguments orders' policyVersion) ∧
    (∀ name tool, forTool π name = some tool →
      ∀ arguments, tool fixtures actor arguments = tool fixtures' actor arguments) ∧
    ∀ ownerCheck resourceId, authorize π fixtures ownerCheck resourceId actor =
      authorize π fixtures' ownerCheck resourceId actor :=
  ⟨horders.prepare π, fun _ _ htool => hfixtures.forTool π htool, hfixtures.authorize π⟩

/-- The order of the second user might as well be missing for the first one. -/
theorem actors_isolated_demo :
    prepare demoPlatform "cancel_order" "demo-user-001"
        [("order_id", .str "ORD-DEMO-003"), ("reason", .str "不想要")] =
      prepare demoPlatform "cancel_order" "demo-user-001"
        [("order_id", .str "ORD-DEMO-003"), ("reason", .str "不想要")]
        (DEFAULT_DEMO_ORDERS.take 3) :=
  (@actors_isolated "demo-user-001" demoPlatform DEFAULT_DEMO_ORDERS (DEFAULT_DEMO_ORDERS.take 3)
    DEFAULT_ORDERS (DEFAULT_ORDERS.take 2) ⟨by decide, by decide, rfl⟩
    ⟨by decide, by decide, rfl⟩).1 _ _ _

end Isolation

end CommerceAgent
