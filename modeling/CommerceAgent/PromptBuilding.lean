import CommerceAgent.JsonSizes
import CommerceAgent.ReadonlyLoop
import CommerceAgent.AgentStep
import CommerceAgent.Texts

/-! `ApiPromptBuilder` of `orchestration/api_runtime.py`: the prompt of a step, whose messages are
bounded, from what the tools of the run returned. -/
namespace CommerceAgent.Prompt

open Json

section Contracts

inductive BuildError where
  | validationError
  | typeError
  deriving DecidableEq, Repr

def ROLES : List String := ["user", "assistant", "system"]

/-- `Message`, with what its validation promises. -/
structure Message where
  role : String
  content : String
  legal : role ∈ ROLES
  bounds : 1 ≤ content.length ∧ content.length ≤ 8000

def Message.create (role content : String) : Except BuildError Message :=
  if h : role ∈ ROLES ∧ 1 ≤ content.length ∧ content.length ≤ 8000 then
    .ok ⟨role, content, h.1, h.2⟩
  else .error .validationError

/-- The fields of a `PromptView`. -/
structure PromptFields where
  systemPolicyVersion : String
  workflowId : String
  workflowVersion : String
  currentStep : String
  allowedDecisions : List String
  conversation : List Message
  /-- Each value is from the user and verified. -/
  knownSlots : Members
  requiredSlots : List String
  allowedTools : List String
  evidenceIds : List String
  remainingSteps : ℤ

structure PromptFields.Valid (view : PromptFields) : Prop where
  policy : 1 ≤ view.systemPolicyVersion.length ∧ view.systemPolicyVersion.length ≤ 128
  workflow : 1 ≤ view.workflowId.length ∧ view.workflowId.length ≤ 128
  version : 1 ≤ view.workflowVersion.length ∧ view.workflowVersion.length ≤ 64
  step : 1 ≤ view.currentStep.length ∧ view.currentStep.length ≤ 128
  remaining : 0 ≤ view.remainingSteps ∧ view.remainingSteps ≤ 6

instance (view : PromptFields) : Decidable view.Valid :=
  decidable_of_iff
    ((1 ≤ view.systemPolicyVersion.length ∧ view.systemPolicyVersion.length ≤ 128) ∧
      (1 ≤ view.workflowId.length ∧ view.workflowId.length ≤ 128) ∧
      (1 ≤ view.workflowVersion.length ∧ view.workflowVersion.length ≤ 64) ∧
      (1 ≤ view.currentStep.length ∧ view.currentStep.length ≤ 128) ∧
      (0 ≤ view.remainingSteps ∧ view.remainingSteps ≤ 6))
    ⟨fun h => ⟨h.1, h.2.1, h.2.2.1, h.2.2.2.1, h.2.2.2.2⟩, fun h => ⟨h.1, h.2, h.3, h.4, h.5⟩⟩

structure PromptView extends PromptFields where
  valid : toPromptFields.Valid

def PromptView.create (fields : PromptFields) : Except BuildError PromptView :=
  if h : fields.Valid then .ok ⟨fields, h⟩ else .error .validationError

end Contracts

section Texts

def TOOL_ARGUMENT_RULES : List (String × String) :=
  [("search_catalog",
      "args must include \x7b\"query\": \"...\"\x7d; optional filters and limit only."),
    ("get_product_detail", "args must include \x7b\"product_id\": \"...\"\x7d."),
    ("compare_products",
      "args must include \x7b\"product_ids\": [\"SKU-A\", \"SKU-B\"]\x7d; fields is optional."),
    ("list_my_orders", "args may be \x7b\x7d or contain only status, time_range, and limit."),
    ("get_order_status",
      "args must include \x7b\"order_id\": \"the order ID from the user\"\x7d."),
    ("get_delivery_tracking",
      "args must include \x7b\"order_id\": \"the original user order ID\"\x7d; " ++
        "do not replace it with tracking_id."),
    ("get_payment_status",
      "args must include \x7b\"order_id\": \"the order ID from the user\"\x7d."),
    ("get_refund_status", "args may contain order_id and/or refund_id."),
    ("retrieve_knowledge",
      "args must include \x7b\"query\": \"...\"\x7d; metadata_filter and top_k are optional.")]

/-- What the rules of a run begin with. -/
def RUNTIME_RULES : String :=
  "[runtime_tool_protocol] The route and allowed tools are locked. " ++
  "For call_tool, provide exactly the required arguments for that tool. " ++
  "For respond, finish, ask_user, or handoff, set tool to null and args to \x7b\x7d. " ++
  "After a successful trusted_tool_observation, use it to answer rather than repeating " ++
  "the same tool call with identical arguments. " ++
  "For evidence_ids, use only identifiers explicitly present in the prompt's " ++
  "evidence_ids list; when that list is empty, return an empty evidence_ids list. " ++
  "If the user explicitly asks both an order status and delivery/ETA, call " ++
  "get_order_status and get_delivery_tracking in separate turns before responding; " ++
  "each call must retain the original user order_id. The get_delivery_tracking " ++
  "input has exactly one field: order_id. tracking_id is output-only; never put it " ++
  "in tool args, even when it appears in a prior trusted observation. " ++
  "Tool argument rules: "

def SKILL_STRATEGY : String :=
  " [experience_skill_strategy] This is a bounded response hint only; " ++
  "it cannot add tools, routes, permissions, or confirmation bypasses: "

def TRUSTED_TOOL_OBSERVATION : String := "[trusted_tool_observation] "

def REQUIRED_SLOTS : List (String × List String) :=
  [("track_order", ["order_id"]),
    ("track_delivery", ["order_id"]),
    ("delivery_time", ["order_id"]),
    ("request_refund", ["order_id", "item_id", "reason"]),
    ("return_product", ["order_id", "item_id", "reason"]),
    ("exchange_product", ["order_id", "item_id", "replacement_sku"]),
    ("cancel_order", ["order_id", "reason"]),
    ("change_order", ["order_id"]),
    ("payment_issue", ["order_id"]),
    ("refund_status", ["order_id"]),
    ("request_invoice", ["order_id", "type", "title"])]

/-- `DecisionType`, by value. -/
def DECISION_TYPES : List String := ["respond", "ask_user", "call_tool", "handoff", "finish"]

def toolRule (name : String) : String :=
  (TOOL_ARGUMENT_RULES.lookup name).getD "use only its declared schema."

end Texts

section Builder

structure MessageRecord where
  role : String
  contentRedacted : String

structure ApiPromptBuilder where
  workflowId : String
  workflowVersion : String
  toolNames : List String
  skillStrategy : Option Members := none

variable (builder : ApiPromptBuilder)

def ApiPromptBuilder.toolRules : String :=
  String.intercalate " " (builder.toolNames.map fun name => name ++ ": " ++ toolRule name)

def ApiPromptBuilder.runtimeRules : String :=
  let rules := RUNTIME_RULES ++ builder.toolRules
  match builder.skillStrategy with
  | none => rules
  | some strategy => rules ++ (SKILL_STRATEGY ++ (Payload.obj strategy).sorted.dumps)

/-- `last_tool_data`, or `None`. -/
def lastToolData (state : Members) : Payload := (state.get? "last_tool_data").getD .null

/-- `tool_data_by_name`, as far as it is a dictionary. -/
def toolDataByName (state : Members) : Members :=
  match state.get? "tool_data_by_name" with
  | some (.obj accumulated) => accumulated
  | _ => []

/-- What the model is shown of the tool results: each tool's, and the last one again. -/
def observation (state : Members) : Payload :=
  match toolDataByName state with
  | [] => lastToolData state
  | accumulated => .obj [("by_tool", .obj accumulated), ("last", lastToolData state)]

def observationMessages (state : Members) : Except BuildError (List Message) :=
  match observation state with
  | .null => .ok []
  | shown => (Message.create "assistant" (TRUSTED_TOOL_OBSERVATION ++ shown.dumps)).map ([·])

def strings (l : List Payload) : List String :=
  l.filterMap fun
    | .str s => some s
    | _ => none

/-- The strings that an iteration over `evidence_ids` meets. -/
def evidenceIds (state : Members) : Except BuildError (List String) :=
  match state.get? "evidence_ids" with
  | none => .ok []
  | some (.arr l) => .ok (strings l)
  | some (.str s) => .ok (s.toList.map String.singleton)
  | some (.obj d) => .ok (d.map Prod.fst)
  | some _ => .error .typeError

/-- The preferences, as fact type and value, whose value is a plain one. -/
def knownSlots (preferences : List (String × Members)) : Members :=
  preferences.foldl (fun slots preference =>
    match preference.2.get? "value" with
    | some (.str s) => slots.set preference.1 (.str s)
    | some (.int i) => slots.set preference.1 (.int i)
    | some (.float r) => slots.set preference.1 (.float r)
    | some (.bool b) => slots.set preference.1 (.bool b)
    | _ => slots) []

/-- No text of another value is a name of the table. -/
def requiredSlots (state : Members) : List String :=
  match state.get? "intent" with
  | some (.str intent) => (REQUIRED_SLOTS.lookup intent).getD []
  | _ => []

/-- The fields of the prompt for a conversation. -/
def ApiPromptBuilder.fields (preferences : List (String × Members)) (state : Members)
    (stepCount : ℕ) (conversation : List Message) (ids : List String) : PromptFields where
  systemPolicyVersion := "phase3-readonly-v1"
  workflowId := builder.workflowId
  workflowVersion := builder.workflowVersion
  currentStep := "retrieve"
  allowedDecisions := DECISION_TYPES
  conversation := conversation
  knownSlots := knownSlots preferences
  requiredSlots := requiredSlots state
  allowedTools := builder.toolNames
  evidenceIds := ids
  remainingSteps := max 0 (6 - (stepCount : ℤ))

/-- `ApiPromptBuilder.build`, for the messages and preferences that the stores list. -/
def ApiPromptBuilder.build (records : List MessageRecord)
    (preferences : List (String × Members)) (state : Members) (stepCount : ℕ) :
    Except BuildError PromptView := do
  let rules ← Message.create "system" builder.runtimeRules
  let stored ← records.mapM fun record => Message.create record.role record.contentRedacted
  let observed ← observationMessages state
  let ids ← evidenceIds state
  PromptView.create (builder.fields preferences state stepCount (rules :: stored ++ observed) ids)

end Builder

section Returns

variable {ε α β : Type}

/-- Whether a call returns. -/
def Returns (x : Except ε α) : Prop := ∃ a, x = .ok a

@[simp] theorem returns_ok (a : α) : Returns (.ok a : Except ε α) := ⟨a, rfl⟩

@[simp] theorem not_returns_error (e : ε) : ¬ Returns (.error e : Except ε α) := by
  rintro ⟨a, h⟩
  cases h

/-- Where it does not matter to the rest what a call returns, both have to return. -/
theorem returns_bind {x : Except ε α} {rest : α → Except ε β} {P : Prop}
    (h : ∀ a, Returns (rest a) ↔ P) : Returns (x >>= rest) ↔ Returns x ∧ P := by
  cases x with
  | error e => exact ⟨fun hr => absurd hr (not_returns_error e),
      fun hr => absurd hr.1 (not_returns_error e)⟩
  | ok a => exact (h a).trans ⟨fun hP => ⟨returns_ok a, hP⟩, fun hP => hP.2⟩

theorem returns_map {x : Except ε α} (f : α → β) : Returns (x.map f) ↔ Returns x := by
  cases x with
  | error e => exact iff_of_false (not_returns_error e) (not_returns_error e)
  | ok a => exact iff_of_true (returns_ok _) (returns_ok a)

theorem returns_dite {P : Prop} [Decidable P] {a : P → α} {e : ε} :
    Returns (if h : P then .ok (a h) else .error e) ↔ P := by
  by_cases hP : P
  · rw [dif_pos hP]
    exact iff_of_true (returns_ok _) hP
  · rw [dif_neg hP]
    exact iff_of_false (not_returns_error e) hP

theorem returns_mapM {f : α → Except ε β} {l : List α} :
    Returns (l.mapM f) ↔ ∀ a ∈ l, Returns (f a) := by
  induction l with
  | nil => exact iff_of_true (returns_ok _) (fun _ ha => absurd ha List.not_mem_nil)
  | cons a l ih =>
    rw [List.mapM_cons, List.forall_mem_cons, ← ih]
    refine returns_bind fun b => ?_
    exact (returns_bind fun _ => iff_true_intro (returns_ok _)).trans (and_iff_left trivial)

/-- An error of a traversal is one of its items'. -/
theorem mapM_eq_error {f : α → Except ε β} {l : List α} {e : ε} (h : l.mapM f = .error e) :
    ∃ a ∈ l, f a = .error e := by
  induction l with
  | nil => cases h
  | cons a l ih =>
    rw [List.mapM_cons] at h
    cases ha : f a with
    | error e' =>
      rw [ha] at h
      have he : e' = e := Except.error.inj h
      exact ⟨a, List.mem_cons_self, ha.trans (congrArg _ he)⟩
    | ok b =>
      rw [ha] at h
      cases hl : l.mapM f with
      | error e' =>
        rw [hl] at h
        have he : e' = e := Except.error.inj h
        obtain ⟨c, hc, hfc⟩ := ih (hl.trans (congrArg _ he))
        exact ⟨c, List.mem_cons_of_mem _ hc, hfc⟩
      | ok bs =>
        rw [hl] at h
        cases h

end Returns

section Sizes

theorem returns_message (role content : String) : Returns (Message.create role content) ↔
    role ∈ ROLES ∧ 1 ≤ content.length ∧ content.length ≤ 8000 :=
  returns_dite

theorem returns_view (fields : PromptFields) :
    Returns (PromptView.create fields) ↔ fields.Valid :=
  returns_dite

variable (builder : ApiPromptBuilder)

/-- The length of the rules of a tool, with the separator that follows them. -/
def ruleSize (name : String) : ℕ := name.length + 2 + (toolRule name).length + 1

def strategySize : Option Members → ℕ
  | none => 0
  | some strategy => SKILL_STRATEGY.length + (Payload.obj strategy).size

def ApiPromptBuilder.rulesSize : ℕ :=
  RUNTIME_RULES.length + ((builder.toolNames.map ruleSize).sum - 1) +
    strategySize builder.skillStrategy

theorem length_intercalate_space (l : List String) :
    (String.intercalate " " l).length = (l.map fun s => s.length + 1).sum - 1 := by
  induction l with
  | nil => rfl
  | cons s l ih =>
    cases l with
    | nil => rw [String.intercalate_singleton, List.map_singleton, List.sum_singleton,
        Nat.add_sub_cancel]
    | cons t l =>
      have hspace : " ".length = 1 := by decide
      rw [String.intercalate_cons_cons, String.length_append, String.length_append, ih, hspace]
      simp only [List.map_cons, List.sum_cons]
      omega

theorem length_toolRules :
    builder.toolRules.length = (builder.toolNames.map ruleSize).sum - 1 := by
  have hcolon : ": ".length = 2 := by decide
  unfold ApiPromptBuilder.toolRules
  rw [length_intercalate_space, List.map_map]
  congr 2
  refine List.map_congr_left fun name _ => ?_
  simp only [Function.comp, String.length_append, hcolon, ruleSize]

theorem length_runtimeRules : builder.runtimeRules.length = builder.rulesSize := by
  have hrules := length_toolRules builder
  unfold ApiPromptBuilder.runtimeRules ApiPromptBuilder.rulesSize strategySize
  cases builder.skillStrategy with
  | none => simp only [String.length_append, hrules, Nat.add_zero]
  | some strategy =>
    simp only [String.length_append, hrules, Payload.length_dumps, Payload.size_sorted]

theorem one_le_length_RUNTIME_RULES : 1 ≤ RUNTIME_RULES.length := by
  have hend : "Tool argument rules: ".length = 21 := by decide
  unfold RUNTIME_RULES
  rw [String.length_append, hend]
  exact Nat.le_add_left_of_le (by decide)

theorem one_le_rulesSize : 1 ≤ builder.rulesSize := by
  unfold ApiPromptBuilder.rulesSize
  rw [Nat.add_assoc]
  exact one_le_length_RUNTIME_RULES.trans (Nat.le_add_right _ _)

/-- The length of the message with the tool results, if there is one: the latest result of each
tool, and the last result of all once more. -/
def observedSize : Members → Payload → ℕ
  | [], .null => 0
  | [], last => 27 + last.size
  | byTool, last => 50 + (Payload.obj byTool).size + last.size

theorem size_shown (byTool : Members) (last : Payload) :
    (Payload.obj [("by_tool", .obj byTool), ("last", last)]).size =
      23 + (Payload.obj byTool).size + last.size := by
  have hbyTool : Payload.textSize "by_tool" = 9 := by decide
  have hlast : Payload.textSize "last" = 6 := by decide
  rw [Payload.size, Payload.membersSize, Payload.membersSize, Payload.membersSize, hbyTool, hlast]
  omega

theorem returns_observation (shown : Payload) :
    Returns ((Message.create "assistant" (TRUSTED_TOOL_OBSERVATION ++ shown.dumps)).map ([·])) ↔
      27 + shown.size ≤ 8000 := by
  have hhead : TRUSTED_TOOL_OBSERVATION.length = 27 := by decide
  have hrole : "assistant" ∈ ROLES := by decide
  rw [returns_map, returns_message, String.length_append, Payload.length_dumps, hhead]
  constructor
  · intro h
    exact h.2.2
  · intro h
    exact ⟨hrole, by omega, h⟩

theorem returns_observationMessages (state : Members) : Returns (observationMessages state) ↔
    observedSize (toolDataByName state) (lastToolData state) ≤ 8000 := by
  unfold observationMessages observation
  cases htools : toolDataByName state with
  | nil =>
    cases lastToolData state with
    | null => exact iff_of_true (returns_ok _) (Nat.zero_le _)
    | _ => exact returns_observation _
  | cons kv accumulated =>
    refine (returns_observation _).trans ?_
    rw [size_shown, observedSize]
    · omega
    all_goals intro h; cases h

end Sizes

section Totality

variable (builder : ApiPromptBuilder) (records : List MessageRecord)

/-- What a builder is made of fits, and so does what the conversation holds. -/
structure ApiPromptBuilder.Fits : Prop where
  rules : builder.rulesSize ≤ 8000
  stored : ∀ record ∈ records, record.role ∈ ROLES ∧
    1 ≤ record.contentRedacted.length ∧ record.contentRedacted.length ≤ 8000
  workflow : 1 ≤ builder.workflowId.length ∧ builder.workflowId.length ≤ 128
  version : 1 ≤ builder.workflowVersion.length ∧ builder.workflowVersion.length ≤ 64

theorem returns_rules : Returns (Message.create "system" builder.runtimeRules) ↔
    builder.rulesSize ≤ 8000 := by
  have hrole : "system" ∈ ROLES := by decide
  have hone := one_le_rulesSize builder
  rw [returns_message, length_runtimeRules]
  constructor
  · intro h
    exact h.2.2
  · intro h
    exact ⟨hrole, hone, h⟩

theorem returns_stored :
    Returns (records.mapM fun record => Message.create record.role record.contentRedacted) ↔
      ∀ record ∈ records, record.role ∈ ROLES ∧
        1 ≤ record.contentRedacted.length ∧ record.contentRedacted.length ≤ 8000 := by
  rw [returns_mapM]
  simp only [returns_message]

/-- Of the fields only the name and the version of the workflow may be out of bounds. -/
theorem valid_fields (preferences : List (String × Members)) (state : Members) (stepCount : ℕ)
    (conversation : List Message) (ids : List String) :
    (builder.fields preferences state stepCount conversation ids).Valid ↔
      (1 ≤ builder.workflowId.length ∧ builder.workflowId.length ≤ 128) ∧
        1 ≤ builder.workflowVersion.length ∧ builder.workflowVersion.length ≤ 64 := by
  constructor
  · intro h
    exact ⟨h.workflow, h.version⟩
  · rintro ⟨hworkflow, hversion⟩
    have hpolicy : 1 ≤ "phase3-readonly-v1".length ∧ "phase3-readonly-v1".length ≤ 128 := by
      decide
    have hstep : 1 ≤ "retrieve".length ∧ "retrieve".length ≤ 128 := by decide
    have hremaining : 0 ≤ max 0 (6 - (stepCount : ℤ)) ∧ max 0 (6 - (stepCount : ℤ)) ≤ 6 := by
      omega
    exact ⟨hpolicy, hworkflow, hversion, hstep, hremaining⟩

/-- A prompt is built exactly when the rules, the stored messages and the tool results fit. -/
theorem returns_build (preferences : List (String × Members)) (state : Members)
    (stepCount : ℕ) : Returns (builder.build records preferences state stepCount) ↔
      builder.Fits records ∧ observedSize (toolDataByName state) (lastToolData state) ≤ 8000 ∧
        Returns (evidenceIds state) := by
  -- what a stage returns is only handed on, so that each stage stands for itself
  have hbuild := returns_bind (x := Message.create "system" builder.runtimeRules) fun rules =>
    returns_bind (x := records.mapM fun record =>
        Message.create record.role record.contentRedacted) fun stored =>
      returns_bind (x := observationMessages state) fun observed =>
        returns_bind (x := evidenceIds state) fun ids =>
          (returns_view _).trans
            (valid_fields builder preferences state stepCount (rules :: stored ++ observed) ids)
  rw [returns_rules, returns_stored, returns_observationMessages] at hbuild
  refine hbuild.trans ?_
  constructor
  · rintro ⟨hrules, hstored, hobserved, hids, hworkflow, hversion⟩
    exact ⟨⟨hrules, hstored, hworkflow, hversion⟩, hobserved, hids⟩
  · rintro ⟨hfits, hobserved, hids⟩
    exact ⟨hfits.rules, hfits.stored, hobserved, hids, hfits.workflow, hfits.version⟩

theorem message_error {role content : String} {e : BuildError}
    (h : Message.create role content = .error e) : e = .validationError := by
  unfold Message.create at h
  split at h
  · cases h
  · exact (Except.error.inj h).symm

theorem observation_error {state : Members} {e : BuildError}
    (h : observationMessages state = .error e) : e = .validationError := by
  unfold observationMessages at h
  split at h
  · cases h
  · cases hmessage : Message.create "assistant"
        (TRUSTED_TOOL_OBSERVATION ++ (observation state).dumps) with
    | error e' =>
      rw [hmessage] at h
      have he : e' = e := Except.error.inj h
      exact he ▸ message_error hmessage
    | ok message =>
      rw [hmessage] at h
      cases h

/-- Tool results that do not fit are a validation error, whatever else the prompt is made of. -/
theorem build_of_large (preferences : List (String × Members)) {state : Members}
    (stepCount : ℕ) (h : 8000 < observedSize (toolDataByName state) (lastToolData state)) :
    builder.build records preferences state stepCount = .error .validationError := by
  have hlong : ¬ Returns (observationMessages state) := fun hr =>
    absurd ((returns_observationMessages state).mp hr) (by omega)
  unfold ApiPromptBuilder.build
  cases hrules : Message.create "system" builder.runtimeRules with
  | error e => exact congrArg Except.error (message_error hrules)
  | ok rules =>
    cases hstored : records.mapM fun record =>
        Message.create record.role record.contentRedacted with
    | error e =>
      obtain ⟨record, -, herror⟩ := mapM_eq_error hstored
      exact congrArg Except.error (message_error herror)
    | ok stored =>
      cases hobserved : observationMessages state with
      | error e => exact congrArg Except.error (observation_error hobserved)
      | ok observed => exact absurd ⟨observed, hobserved⟩ hlong

end Totality

end CommerceAgent.Prompt
