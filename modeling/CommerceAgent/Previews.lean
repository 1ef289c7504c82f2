import CommerceAgent.SlotAccumulation

/-! What a preview of the planner shows of the request. Normalization knows five slots, and a quantity is
not among them: the check on it looks at the arguments after they have lost it. -/
namespace CommerceAgent

open Json Texts

/-- The check on the quantity in `MutationPlanner.prepare`: an absent one counts as one. -/
def checkQuantity (normalized : Dict) : Except Exc Unit :=
  match (normalized.get? "quantity").getD (.int 1) with
  | .int 1 => .ok ()
  | _ => .error (.mutationPlanning "INVALID_QUANTITY" "当前演示订单仅支持操作可操作数量为 1 的商品" [])

variable (π : Platform)

/-- `MutationPlanner.prepare` with every check of the source in its place. -/
def MutationPlanner.prepare (mutationType actorId : String) (arguments : Dict) (orders : List DemoOrder)
    (policyVersion : String) : Except Exc MutationPreview :=
  match MUTATION_WORKFLOW_VERSIONS.lookup mutationType with
  | none => .error (.mutationPlanning "UNKNOWN_MUTATION" "暂不支持该变更" [])
  | some workflowVersion => do
    let normalized ← normalizeArguments π arguments
    if missingSlots mutationType normalized ≠ [] then
      .error (.mutationPlanning "MISSING_SLOTS" "还需要补充必要信息"
        (missingSlots mutationType normalized))
    else match ownOrder orders actorId (normalized.getStr? "order_id") with
    | none => .error (.mutationPlanning "RESOURCE_NOT_FOUND" "未找到可操作的订单" [])
    | some order => do
      checkQuantity normalized
      let normalized := normalized.set "quantity" (.int 1)
      checkEligibility mutationType order
      let itemId := (normalized.getStr? "item_id").getD order.itemId
      if itemId ≠ order.itemId then
        .error (.mutationPlanning "ITEM_NOT_FOUND" "订单中没有该商品" [])
      else
        let card := previewCard mutationType order normalized itemId
          ((normalized.getStr? "reason_code").getD "other")
        .ok {
          mutationType := mutationType
          workflowVersion := workflowVersion
          resourceRef := order.orderId
          operation := (MUTATION_OPERATIONS.lookup mutationType).getD ""
          summary := card.summary
          impact := card.impact
          amount := [("value", .int card.amount), ("currency", .str order.currency)]
          channel := card.channel
          estimatedTime := card.estimatedTime
          policyVersion := policyVersion
          normalizedArgs := normalized }

/-- An identifier of the request as the planner writes it. -/
def requestedId (arguments : Dict) (key : String) : Option String :=
  (slot arguments key).map fun v => π.upper (π.str v)

/-- The address of the request with its blanks joined. -/
def requestedAddress (arguments : Dict) : Option String :=
  (slot arguments "new_address").map fun v => joinWords (π.str v)

/-- The quantity of the request. -/
def requestedQuantity (arguments : Dict) : Value := (arguments.get? "quantity").getD (.int 1)

/-- The slots that a mutation cannot go without. -/
def requiredFor (mutationType : String) : List String :=
  (MUTATION_REQUIRED_SLOTS.lookup mutationType).getD []

/-- The preview is one of what was asked for: in the arguments that the commit will use, and on the card
that the user confirms. An address is masked on the card. -/
structure AsAsked (mutationType : String) (arguments : Dict) (preview : MutationPreview) : Prop where
  mutation : preview.mutationType = mutationType
  order : requestedId π arguments "order_id" = some preview.resourceRef
  identifiers : ∀ key ∈ ["order_id", "item_id", "replacement_sku"],
    preview.normalizedArgs.get? key = (requestedId π arguments key).map .str
  address : preview.normalizedArgs.get? "new_address" = (requestedAddress π arguments).map .str
  quantity : preview.normalizedArgs.get? "quantity" = some (requestedQuantity arguments)
  shownItem : ∀ shown ∈ preview.impact.get? "item_id", ∀ item ∈ requestedId π arguments "item_id",
    shown = .str item
  shownSlots : ∀ key ∈ ["item_id", "replacement_sku"], key ∈ requiredFor mutationType →
    preview.impact.get? key = (requestedId π arguments key).map .str
  shownAddress : "new_address" ∈ requiredFor mutationType →
    preview.impact.get? "address" = (requestedAddress π arguments).map fun address => .str (maskAddress address)
  shownQuantity : preview.impact.get? "quantity" = some (requestedQuantity arguments)

/-- The request gets as far as the check on its quantity. -/
structure Identified (mutationType actorId : String) (arguments : Dict) (orders : List DemoOrder) : Prop where
  known : (MUTATION_WORKFLOW_VERSIONS.lookup mutationType).isSome
  complete : ∃ normalized, normalizeArguments π arguments = .ok normalized ∧
    missingSlots mutationType normalized = []
  owned : (ownOrder orders actorId (requestedId π arguments "order_id")).isSome

/-- What the planner owes a request: a preview of exactly what was asked for, and a rejection of every
quantity other than one. -/
structure PlansAsAsked (mutationType actorId : String) (arguments : Dict) (orders : List DemoOrder)
    (policyVersion : String) : Prop where
  previews : ∀ preview, MutationPlanner.prepare π mutationType actorId arguments orders policyVersion =
    .ok preview → AsAsked π mutationType arguments preview
  quantities : Identified π mutationType actorId arguments orders → requestedQuantity arguments ≠ .int 1 →
    ∃ message, MutationPlanner.prepare π mutationType actorId arguments orders policyVersion =
      .error (.mutationPlanning "INVALID_QUANTITY" message [])

section Normalized

variable {π} {arguments normalized : Dict}

/-- What normalization leaves of the identifiers. -/
theorem get?_normalized_id (h : normalizeArguments π arguments = .ok normalized) {key : String}
    (hkey : key ∈ ["order_id", "item_id", "replacement_sku"]) :
    normalized.get? key = (requestedId π arguments key).map .str := by
  obtain ⟨address, _, rfl⟩ := normalizeArguments_parts h
  simp only [List.mem_cons, List.not_mem_nil, or_false] at hkey
  rcases hkey with rfl | rfl | rfl <;>
    simp [Dict.get?_append, get?_normalizedPart, requestedId, Function.comp_def]

theorem get?_normalized_address (h : normalizeArguments π arguments = .ok normalized) :
    normalized.get? "new_address" = (requestedAddress π arguments).map .str := by
  obtain ⟨address, haddress, rfl⟩ := normalizeArguments_parts h
  have hpart : (slot arguments "new_address").map (fun _ => Value.str address) =
      (requestedAddress π arguments).map .str := by
    cases hslot : slot arguments "new_address" with
    | none => simp [requestedAddress, hslot]
    | some v => simp [requestedAddress, hslot, (haddress v hslot).1]
  rw [← hpart]
  simp [Dict.get?_append, get?_normalizedPart]

/-- Whatever quantity was asked for, normalization drops it. -/
theorem get?_normalized_quantity (h : normalizeArguments π arguments = .ok normalized) :
    normalized.get? "quantity" = none := by
  obtain ⟨address, _, rfl⟩ := normalizeArguments_parts h
  simp [Dict.get?_append, get?_normalizedPart]

/-- The check on the quantity is vacuous. -/
theorem checkQuantity_normalized (h : normalizeArguments π arguments = .ok normalized) :
    checkQuantity normalized = .ok () := by
  simp [checkQuantity, get?_normalized_quantity h]

theorem getStr?_normalized_id (h : normalizeArguments π arguments = .ok normalized) {key : String}
    (hkey : key ∈ ["order_id", "item_id", "replacement_sku"]) :
    normalized.getStr? key = requestedId π arguments key := by
  rw [Dict.getStr?, get?_normalized_id h hkey]
  cases requestedId π arguments key <;> rfl

end Normalized

/-- Without the check on the quantity the planner is the same. -/
theorem MutationPlanner.prepare_eq :
    MutationPlanner.prepare π = fun mutationType actorId arguments orders policyVersion =>
      CommerceAgent.prepare π mutationType actorId arguments orders policyVersion := by
  funext mutationType actorId arguments orders policyVersion
  unfold MutationPlanner.prepare CommerceAgent.prepare
  cases MUTATION_WORKFLOW_VERSIONS.lookup mutationType with
  | none => rfl
  | some workflowVersion =>
    cases hnormalized : normalizeArguments π arguments with
    | error e => rfl
    | ok normalized =>
      have hquantity := checkQuantity_normalized hnormalized
      simp only [bind, Except.bind]
      exact hquantity ▸ rfl

section Outcomes

variable {π} {mutationType actorId policyVersion : String} {arguments : Dict} {orders : List DemoOrder}

/-- The codes of the planner's errors. -/
theorem prepare_error_code {code message : String} {missing : List String}
    (h : MutationPlanner.prepare π mutationType actorId arguments orders policyVersion =
      .error (.mutationPlanning code message missing)) :
    code ∈ ["UNKNOWN_MUTATION", "INVALID_ARGUMENT", "MISSING_SLOTS", "RESOURCE_NOT_FOUND", "POLICY_DENIED",
      "ITEM_NOT_FOUND"] := by
  have hcode : ∀ {code' message' : String} {missing' : List String},
      Exc.mutationPlanning code' message' missing' = .mutationPlanning code message missing → code' = code := by
    intro _ _ _ heq
    exact (Exc.mutationPlanning.inj heq).1
  unfold MutationPlanner.prepare at h
  split at h
  · rw [← hcode (Except.error.inj h)]
    decide
  rcases Except.bind_eq_error h with h | ⟨normalized, hnormalized, h⟩
  · unfold normalizeArguments at h
    cases hslot : slot arguments "new_address" with
    | none =>
      simp only [hslot] at h
      exact absurd h (by simp [bind, Except.bind])
    | some v =>
      simp only [hslot] at h
      rcases Except.bind_eq_error h with h | ⟨address, _, h⟩
      · simp only [normalizeAddress] at h
        split at h
        · exact absurd h (by simp)
        · rw [← hcode (Except.error.inj h)]
          decide
      · exact absurd h (by simp [bind, Except.bind])
  split at h
  · rw [← hcode (Except.error.inj h)]
    decide
  split at h
  · rw [← hcode (Except.error.inj h)]
    decide
  rw [checkQuantity_normalized hnormalized] at h
  rcases Except.bind_eq_error h with h | ⟨_, _, h⟩
  · exact absurd h (by simp)
  rcases Except.bind_eq_error h with h | ⟨_, _, h⟩
  · unfold checkEligibility at h
    split at h
    · rw [← hcode (Except.error.inj h)]
      decide
    split at h
    · rw [← hcode (Except.error.inj h)]
      decide
    · exact absurd h (by simp)
  · dsimp only at h
    split at h
    · rw [← hcode (Except.error.inj h)]
      decide
    · exact absurd h (by simp)

/-- What stands behind a preview: the order and the normalized arguments that it is drawn from. -/
theorem prepare_eq_ok {preview : MutationPreview}
    (h : MutationPlanner.prepare π mutationType actorId arguments orders policyVersion = .ok preview) :
    ∃ normalized order, normalizeArguments π arguments = .ok normalized ∧
      missingSlots mutationType normalized = [] ∧
      ownOrder orders actorId (requestedId π arguments "order_id") = some order ∧
      (requestedId π arguments "item_id").getD order.itemId = order.itemId ∧
      (MUTATION_WORKFLOW_VERSIONS.lookup mutationType).isSome ∧ preview.mutationType = mutationType ∧
      preview.resourceRef = order.orderId ∧ preview.normalizedArgs = normalized.set "quantity" (.int 1) ∧
      ∃ reason, preview.impact =
        (previewCard mutationType order (normalized.set "quantity" (.int 1)) order.itemId reason).impact := by
  unfold MutationPlanner.prepare at h
  split at h
  · exact absurd h (by simp)
  rename_i hversion
  obtain ⟨normalized, hnormalized, h⟩ := Except.bind_eq_ok.mp h
  split at h
  · exact absurd h (by simp)
  rename_i hmissing
  split at h
  · exact absurd h (by simp)
  rename_i order horder
  obtain ⟨_, _, h⟩ := Except.bind_eq_ok.mp h
  obtain ⟨_, _, h⟩ := Except.bind_eq_ok.mp h
  dsimp only at h
  split at h
  · exact absurd h (by simp)
  rename_i hitem
  have hitem := not_not.mp hitem
  obtain rfl := Except.ok.inj h
  rw [getStr?_normalized_id hnormalized (by decide)] at horder
  refine ⟨normalized, order, hnormalized, not_not.mp hmissing, horder, ?_, by simp [hversion], rfl, rfl, rfl, _,
    by rw [hitem]⟩
  rw [← getStr?_normalized_id hnormalized (by decide), Dict.getStr?]
  rwa [Dict.getStr?, Dict.get?_set_of_ne _ _ (by decide)] at hitem

theorem identified_of_prepare {preview : MutationPreview}
    (h : MutationPlanner.prepare π mutationType actorId arguments orders policyVersion = .ok preview) :
    Identified π mutationType actorId arguments orders := by
  obtain ⟨normalized, order, hnormalized, hmissing, horder, _, hknown, _⟩ := prepare_eq_ok h
  exact ⟨hknown, ⟨normalized, hnormalized, hmissing⟩, by rw [horder]; rfl⟩

/-- The order that the planner finds has the id that it was asked for. -/
theorem ownOrder_id {orderId : Option String} {order : DemoOrder}
    (h : ownOrder orders actorId orderId = some order) : orderId = some order.orderId := by
  obtain ⟨hfound, _⟩ := Option.filter_eq_some_iff.mp h
  have hid : some order.orderId = orderId := by simpa using List.find?_some hfound
  exact hid.symm

theorem mutation_known (h : (MUTATION_WORKFLOW_VERSIONS.lookup mutationType).isSome) :
    mutationType ∈ ["cancel_order", "change_order", "request_refund", "return_product", "exchange_product"] := by
  obtain ⟨workflowVersion, hfound⟩ := Option.isSome_iff_exists.mp h
  obtain ⟨before, after, hentry, _⟩ := List.lookup_eq_some_iff.mp hfound
  have hmem : mutationType ∈ MUTATION_WORKFLOW_VERSIONS.map Prod.fst := by
    rw [hentry]
    simp
  exact hmem

/-- A slot that the mutation requires has come through normalization. -/
theorem requestedId_isSome {normalized : Dict} (hnormalized : normalizeArguments π arguments = .ok normalized)
    (hmissing : missingSlots mutationType normalized = []) {key : String}
    (hkey : key ∈ ["order_id", "item_id", "replacement_sku"]) (hrequired : key ∈ requiredFor mutationType) :
    ∃ requested, requestedId π arguments key = some requested := by
  have hreason : key ≠ "reason" := by
    rintro rfl
    exact absurd hkey (by decide)
  have hslot := List.filter_eq_nil_iff.mp hmissing key hrequired
  rw [if_neg hreason, slot, get?_normalized_id hnormalized hkey] at hslot
  cases hrequested : requestedId π arguments key with
  | none => exact absurd (by simp [hrequested]) hslot
  | some requested => exact ⟨requested, rfl⟩

theorem requestedAddress_isSome {normalized : Dict}
    (hnormalized : normalizeArguments π arguments = .ok normalized)
    (hmissing : missingSlots mutationType normalized = []) (hrequired : "new_address" ∈ requiredFor mutationType) :
    ∃ address, requestedAddress π arguments = some address := by
  have hslot := List.filter_eq_nil_iff.mp hmissing "new_address" hrequired
  rw [if_neg (by decide), slot, get?_normalized_address hnormalized] at hslot
  cases hrequested : requestedAddress π arguments with
  | none => exact absurd (by simp [hrequested]) hslot
  | some address => exact ⟨address, rfl⟩

/-- The cards of the mutations, by what they show. -/
theorem previewCard_quantity (mutationType : String) (order : DemoOrder) (normalized : Dict)
    (itemId reason : String) :
    (previewCard mutationType order normalized itemId reason).impact.get? "quantity" = some (.int 1) := by
  unfold previewCard
  split <;> simp

theorem previewCard_item (mutationType : String) (order : DemoOrder) (normalized : Dict) (reason : String) :
    ∀ shown ∈ (previewCard mutationType order normalized order.itemId reason).impact.get? "item_id",
      shown = .str order.itemId := by
  unfold previewCard
  split <;> simp

theorem previewCard_requires_item (hknown : (MUTATION_WORKFLOW_VERSIONS.lookup mutationType).isSome)
    (hrequired : "item_id" ∈ requiredFor mutationType) (order : DemoOrder) (normalized : Dict)
    (itemId reason : String) :
    (previewCard mutationType order normalized itemId reason).impact.get? "item_id" = some (.str itemId) := by
  have htype := mutation_known hknown
  simp only [List.mem_cons, List.not_mem_nil, or_false] at htype
  rcases htype with rfl | rfl | rfl | rfl | rfl
  · exact absurd hrequired (by decide)
  · exact absurd hrequired (by decide)
  all_goals simp [previewCard]

theorem previewCard_replacement (hknown : (MUTATION_WORKFLOW_VERSIONS.lookup mutationType).isSome)
    (hrequired : "replacement_sku" ∈ requiredFor mutationType) (order : DemoOrder) (normalized : Dict)
    (itemId reason : String) :
    (previewCard mutationType order normalized itemId reason).impact.get? "replacement_sku" =
      some (.str ((normalized.getStr? "replacement_sku").getD "")) := by
  have htype := mutation_known hknown
  simp only [List.mem_cons, List.not_mem_nil, or_false] at htype
  rcases htype with rfl | rfl | rfl | rfl | rfl
  iterate 4 exact absurd hrequired (by decide)
  simp [previewCard]

theorem previewCard_address (hknown : (MUTATION_WORKFLOW_VERSIONS.lookup mutationType).isSome)
    (hrequired : "new_address" ∈ requiredFor mutationType) (order : DemoOrder) (normalized : Dict)
    (itemId reason : String) :
    (previewCard mutationType order normalized itemId reason).impact.get? "address" =
      some (.str (maskAddress ((normalized.getStr? "new_address").getD ""))) := by
  have htype := mutation_known hknown
  simp only [List.mem_cons, List.not_mem_nil, or_false] at htype
  rcases htype with rfl | rfl | rfl | rfl | rfl
  · exact absurd hrequired (by decide)
  · simp [previewCard]
  all_goals exact absurd hrequired (by decide)

/-- A preview of a request for one piece is a preview of what was asked for. -/
theorem asAsked_of_prepare {preview : MutationPreview}
    (h : MutationPlanner.prepare π mutationType actorId arguments orders policyVersion = .ok preview)
    (hquantity : requestedQuantity arguments = .int 1) : AsAsked π mutationType arguments preview := by
  obtain ⟨normalized, order, hnormalized, hmissing, horder, hitem, hknown, hmutation, href, hargs, reason,
    himpact⟩ := prepare_eq_ok h
  have hid : ∀ key ∈ ["order_id", "item_id", "replacement_sku"],
      (normalized.set "quantity" (.int 1)).get? key = (requestedId π arguments key).map .str := by
    intro key hkey
    rw [Dict.get?_set_of_ne _ _ (by rintro rfl; exact absurd hkey (by decide))]
    exact get?_normalized_id hnormalized hkey
  have haddress : (normalized.set "quantity" (.int 1)).get? "new_address" =
      (requestedAddress π arguments).map .str := by
    rw [Dict.get?_set_of_ne _ _ (by decide)]
    exact get?_normalized_address hnormalized
  have hrequestedItem : ∀ item ∈ requestedId π arguments "item_id", order.itemId = item := by
    intro item hitem'
    rw [Option.mem_def.mp hitem'] at hitem
    exact hitem.symm
  constructor
  · exact hmutation
  · rw [href]
    exact ownOrder_id horder
  · rw [hargs]
    exact hid
  · rw [hargs]
    exact haddress
  · rw [hargs, hquantity]
    exact Dict.get?_set_self _ _ _
  · intro shown hshown item hrequested
    rw [himpact] at hshown
    rw [previewCard_item _ _ _ _ shown hshown, hrequestedItem item hrequested]
  · intro key hkey hrequired
    simp only [List.mem_cons, List.not_mem_nil, or_false] at hkey
    rw [himpact]
    rcases hkey with rfl | rfl
    · obtain ⟨item, hrequested⟩ := requestedId_isSome hnormalized hmissing (by decide) hrequired
      rw [previewCard_requires_item hknown hrequired, hrequested, hrequestedItem item hrequested]
      rfl
    · obtain ⟨sku, hrequested⟩ := requestedId_isSome hnormalized hmissing (by decide) hrequired
      rw [previewCard_replacement hknown hrequired, Dict.getStr?, hid _ (by decide), hrequested]
      rfl
  · intro hrequired
    obtain ⟨address, hrequested⟩ := requestedAddress_isSome hnormalized hmissing hrequired
    rw [himpact, previewCard_address hknown hrequired, Dict.getStr?, haddress, hrequested]
    rfl
  · rw [himpact, hquantity]
    exact previewCard_quantity _ _ _ _ _

/-- No request is ever rejected for its quantity. -/
theorem never_invalid_quantity (message : String) (missing : List String) :
    MutationPlanner.prepare π mutationType actorId arguments orders policyVersion ≠
      .error (.mutationPlanning "INVALID_QUANTITY" message missing) :=
  fun h => absurd (prepare_error_code h) (by decide)

/-- The planner does what it owes a request if and only if the request, where it gets as far as the check on
its quantity, asks for one piece. -/
theorem plans_as_asked_iff (π : Platform) (mutationType actorId : String) (arguments : Dict)
    (orders : List DemoOrder) (policyVersion : String) :
    PlansAsAsked π mutationType actorId arguments orders policyVersion ↔
      (Identified π mutationType actorId arguments orders → requestedQuantity arguments = .int 1) := by
  constructor
  · intro hplans hidentified
    by_contra hquantity
    obtain ⟨message, hraised⟩ := hplans.quantities hidentified hquantity
    exact never_invalid_quantity message [] hraised
  · intro hone
    refine ⟨fun preview hpreview => ?_, fun hidentified hquantity => ?_⟩
    · exact asAsked_of_prepare hpreview (hone (identified_of_prepare hpreview))
    · exact absurd (hone hidentified) hquantity

end Outcomes

section Demo

/-- A refund of two hair dryers, of an order that has one. -/
def twoOfOne : Dict :=
  [("order_id", .str "ORD-DEMO-002"), ("item_id", .str "BHD308/10"), ("reason", .str "不想要"),
    ("quantity", .int 2)]

/-- The refund is previewed for one. -/
theorem two_previewed_as_one :
    ¬ PlansAsAsked demoPlatform "request_refund" "demo-user-001" twoOfOne DEFAULT_DEMO_ORDERS
      "phase4-policy-v1" := by
  intro hplans
  have hpreviewed : ∃ preview, MutationPlanner.prepare demoPlatform "request_refund" "demo-user-001" twoOfOne
      DEFAULT_DEMO_ORDERS "phase4-policy-v1" = .ok preview ∧
        preview.impact.get? "quantity" = some (.int 1) := ⟨_, rfl, rfl⟩
  obtain ⟨preview, hpreview, hone⟩ := hpreviewed
  have hshown := (hplans.previews preview hpreview).shownQuantity
  rw [hone] at hshown
  exact absurd hshown (by simp [requestedQuantity, twoOfOne])

end Demo

end CommerceAgent
