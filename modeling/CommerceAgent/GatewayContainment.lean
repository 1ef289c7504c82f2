import CommerceAgent.AgentStep
import CommerceAgent.Attempts
import CommerceAgent.ProviderBodies

/-! `OpenAICompatibleGateway` between a provider, which answers as it likes, and callers that catch
one exception class. -/
namespace CommerceAgent.Gateway

open Json Provider

/-- A `Decision`, with the checks of its contract. -/
structure Decision where
  type : Agent.DecisionType
  intent : String
  route : String
  confidence : ℚ
  missingSlots : List String := []
  tool : Option String := none
  args : Members := []
  evidenceIds : List String := []
  response : Option String := none
  handoffReason : Option String := none
  intent_length : 1 ≤ intent.length ∧ intent.length ≤ 128
  route_length : 1 ≤ route.length ∧ route.length ≤ 128
  confidence_range : 0 ≤ confidence ∧ confidence ≤ 1
  tool_length : ∀ name ∈ tool, name.length ≤ 128
  response_length : ∀ text ∈ response, text.length ≤ 8000
  handoffReason_length : ∀ reason ∈ handoffReason, reason.length ≤ 256

/-- An `IntentClassification`, with the checks of its contract. -/
structure Classification extends IntentClassification where
  routeHint : String
  requiredSlots : List String := []
  intent_length : 1 ≤ intent.length ∧ intent.length ≤ 128
  routeHint_length : 1 ≤ routeHint.length ∧ routeHint.length ≤ 128
  confidence_range : 0 ≤ confidence ∧ confidence ≤ 1
  domainConfidence_range : ∀ c ∈ domainConfidence, 0 ≤ c ∧ c ≤ 1
  riskConfidence_range : ∀ c ∈ riskConfidence, 0 ≤ c ∧ c ≤ 1

/-- The parser of JSON texts and the validators of the two contracts. -/
structure Codec where
  loads : String → Decoded
  /-- `Decision.model_validate_json`, none for a `ValidationError`. -/
  decision : String → Option Decision
  /-- `IntentClassification.model_validate`. -/
  classification : Members → Option Classification

structure Settings where
  retryAttempts : ℕ
  maxTokens : ℕ
  classifierMaxTokens : ℕ
  one_le_retryAttempts : 1 ≤ retryAttempts
  retryAttempts_le : retryAttempts ≤ 2

structure ModelDecision where
  decision : Decision
  repaired : Bool
  usageTokens : Option ℕ
  tokenUsage : Costs.TokenUsage

structure ClassificationResult where
  classification : Classification
  tokenUsage : Costs.TokenUsage
  repaired : Bool

/-- What each `POST` of one request comes to. -/
abbrev Outcomes : Type := ℕ → HttpOutcome

/-- `_post_to`: a server error or a transport error is tried again. -/
def postTo (outcomes : Outcomes) : (retryAttempts : ℕ) → Except Fault Decoded
  | 0 => .error .runtimeError
  | remaining + 1 =>
    match outcomes 0 with
    | .response status body =>
      if isSuccess status then .ok body
      else if status < 500 ∨ remaining = 0 then .error .httpError
      else postTo (fun k => outcomes (k + 1)) remaining
    | .transportError =>
      if remaining = 0 then .error .httpError else postTo (fun k => outcomes (k + 1)) remaining
    | .requestError => .error .httpError

/-- The text inside a fence of three backticks, if there is one. -/
def unfence (content : String) : String :=
  let content := (Texts.strip content).toList
  let fence := List.replicate 3 (Char.ofNat 96)
  let inner (start : ℕ) : String :=
    Texts.strip (String.ofList ((content.take (content.length - 3)).drop start))
  if (fence ++ "json".toList) <+: content ∧ fence <:+ content then inner 7
  else if fence <+: content ∧ fence <:+ content then inner 3
  else String.ofList content

/-- The values that no set holds. -/
def unhashable : Payload → Bool
  | .arr _ | .obj _ => true
  | _ => false

/-- The types of decision that a provider may send in the older shape. -/
def supported : String → Option Agent.DecisionType
  | "respond" => some .respond
  | "ask_user" => some .askUser
  | "handoff" => some .handoff
  | "finish" => some .finish
  | _ => none

theorem zero_confidence : (0 : ℚ) ≤ 0 ∧ (0 : ℚ) ≤ 1 := ⟨le_rfl, zero_le_one⟩

/-- The decision that stands for one in the older shape, none for a `ValidationError`. -/
def legacyDecision (type : Agent.DecisionType) (workflowId : Option String) (rationale : String) :
    Option Decision :=
  match workflowId with
  | none => none
  | some workflow =>
    if h : (1 ≤ workflow.length ∧ workflow.length ≤ 128) ∧ rationale.length ≤ 8000 then
      some {
        type, intent := workflow, route := workflow, confidence := 0, response := some rationale
        intent_length := h.1
        route_length := h.1
        confidence_range := zero_confidence
        tool_length := by simp
        response_length := fun _ htext => Option.some.inj htext ▸ h.2
        handoffReason_length := by simp }
    else none

/-- The handler of `_parse_decision`, for what is no `Decision`. -/
def parseLegacy (workflowId : Option String) (raw : Payload) : Except Fault Decision :=
  match raw with
  | .obj members =>
    let legacyType := Members.get? members "decision"
    if legacyType.any unhashable then .error .typeError
    else
      match legacyType, Members.get? members "rationale" with
      | some (.str type), some (.str rationale) =>
        match supported type with
        | some type => (legacyDecision type workflowId rationale).elim (.error .valueError) .ok
        | none => .error .valueError
      | _, _ => .error .valueError
  | _ => .error .valueError

/-- `_parse_decision`; only a string has a `strip`. -/
def parseDecision (π : Codec) (workflowId : Option String) : Payload → Except Fault Decision
  | .str content =>
    match π.decision (unfence content) with
    | some decision => .ok decision
    | none => (π.loads (unfence content)).get >>= parseLegacy workflowId
  | _ => .error .attributeError

/-- `value if value in {...} else ...`, where nothing unhashable can be looked for. -/
def looked (value : Option Payload) (known : String → Option String) : Except Fault String :=
  match value with
  | some (.str s) => .ok ((known s).getD "unknown")
  | some value => if unhashable value then .error .typeError else .ok "unknown"
  | none => .ok "unknown"

def riskHintAlias : String → Option String
  | "read_only" => some "read_only"
  | "write" => some "write"
  | "unknown" => some "unknown"
  | "low" => some "read_only"
  | _ => none

def domainAlias : String → Option String
  | "ecommerce" => some "commerce"
  | "commerce" => some "commerce"
  | "social" => some "social"
  | "capability" => some "capability"
  | "unsupported" => some "unsupported"
  | "unknown" => some "unknown"
  | _ => none

def riskLevel (s : String) : Option String :=
  if s ∈ ["low", "medium", "high", "unknown"] then some s else none

/-- The intent of one alternative. -/
def alternativeOf : Payload → Except Fault String
  | .str s => .ok s
  | .obj members => match Members.get? members "intent" with
    | some (.str s) => .ok s
    | _ => .error .valueError
  | _ => .error .valueError

def alternativesOf : Option Payload → Except Fault (List String)
  | none | some .null => .ok []
  | some (.arr items) => items.mapM alternativeOf
  | some _ => .error .valueError

def ALLOWED_FIELDS : List String :=
  ["intent", "route_hint", "confidence", "domain_confidence", "risk_confidence",
    "required_slots", "request_risk_level"]

/-- The normalized fields of a classification. -/
def normalizedFields (raw : Members) : Except Fault Members := do
  let allowed : Members :=
    ALLOWED_FIELDS.filterMap fun key => (Members.get? raw key).map fun value => (key, value)
  let riskHint ← looked (Members.get? raw "risk_hint") riskHintAlias
  let domain := match Members.get? raw "domain" with
    | some (.str s) => (domainAlias s).getD "unknown"
    | _ => "unknown"
  let requestRiskLevel ← looked (Members.get? raw "request_risk_level") riskLevel
  let alternatives ← alternativesOf (Members.get? raw "alternatives")
  pure (Members.set (Members.set (Members.set (Members.set allowed "risk_hint" (.str riskHint))
    "domain" (.str domain)) "request_risk_level" (.str requestRiskLevel))
    "alternatives" (.arr (alternatives.map .str)))

/-- `_parse_classification`, which checks for a string. -/
def parseClassification (π : Codec) : Payload → Except Fault Classification
  | .str content => do
    let raw ← (π.loads (unfence content)).get
    match raw with
    | .obj raw => do
      let fields ← normalizedFields raw
      (π.classification fields).elim (.error .valueError) .ok
    | _ => .error .valueError
  | _ => .error .valueError

section Calls

variable (π : Codec) (settings : Settings)

/-- `_request`. -/
def request (workflowId : Option String) (outcomes : Outcomes) (repair : Bool) :
    Except Fault ModelDecision := do
  let response ← postTo outcomes settings.retryAttempts
  let body ← response.get
  let content ← contentOf body
  let reported ← normalizeTokenUsage (rawUsage body)
  let usage := reported.getD (Costs.conservativeUsage settings.maxTokens)
  let decision ← parseDecision π workflowId content
  pure { decision, repaired := repair, usageTokens := usage.totalTokens, tokenUsage := usage }

/-- `OpenAICompatibleGateway.decide`. -/
def decide (workflowId : Option String) (first second : Outcomes) : Except Fault ModelDecision :=
  match request π settings workflowId first false with
  | .ok result => .ok result
  | .error e =>
    if e.Malformed then
      match request π settings workflowId second true with
      | .ok result => .ok result
      | .error e => if e.Handled then .error .modelGatewayError else .error e
    else if e = .httpError then .error .modelGatewayError
    else .error e

/-- One turn of the loop of `classify`, with the usages that were observed before it. -/
def classifyOnce (observed : List (Option Costs.TokenUsage)) (attempt : Bool × Outcomes) :
    List (Option Costs.TokenUsage) × Except Fault ClassificationResult :=
  match postTo attempt.2 settings.retryAttempts >>= Decoded.get with
  | .error e => (observed, .error e)
  | .ok body =>
    match normalizeTokenUsage (rawUsage body) with
    | .error e => (observed, .error e)
    | .ok usage => (observed ++ [usage], do
        let content ← contentOf body
        let classification ← parseClassification π content
        pure {
          classification
          tokenUsage :=
            Costs.classificationUsage settings.classifierMaxTokens (observed ++ [usage])
          repaired := attempt.1 })

/-- `OpenAICompatibleGateway.classify`. -/
def classify (first second : Outcomes) : Except Fault ClassificationResult :=
  match Attempts.firstOk (classifyOnce π settings) Fault.Handled [] [(false, first), (true, second)]
  with
  | .ok (some result) => .ok result
  | .ok none => .error .modelGatewayError
  | .error e => .error e

end Calls

/-- How the request of `execute_step` ends. -/
inductive StepEnd where
  | decided (result : ModelDecision)
  | stopped (reason : String)
  | raised (e : Fault)

/-- `execute_step` around its request; the failure is recorded first. -/
def requestDecision (recorded : Bool) : Except Fault ModelDecision → StepEnd
  | .ok result => .decided result
  | .error .modelGatewayError =>
    .stopped (if recorded then "model_unavailable" else "model_audit_failed")
  | .error e => .raised e

/-- How the routing of a message ends. -/
inductive RouteEnd where
  | classified (result : ClassificationResult)
  | handoff (reason : String)
  | failed (reason : String)

/-- `_execute_message_run` around its classification. -/
def routeMessage : Except Fault ClassificationResult → RouteEnd
  | .ok result => .classified result
  | .error .modelGatewayError => .handoff "CLASSIFIER_UNAVAILABLE"
  | .error _ => .failed "UNEXPECTED_EXECUTION_ERROR"

/-- The outcomes that lead to another `POST` while there are attempts left. -/
def Retried : HttpOutcome → Prop
  | .response status _ => 500 ≤ status
  | .transportError => True
  | .requestError => False

/-- The first outcome that is not tried again is this response. -/
def Delivers (outcomes : Outcomes) (retryAttempts : ℕ) (body : Decoded) : Prop :=
  ∃ k < retryAttempts, (∀ j < k, Retried (outcomes j)) ∧
    ∃ status, outcomes k = .response status body ∧ isSuccess status

/-- The version of the usage, if it has counts, fits its field. -/
def UsageFits (body : Payload) : Prop := ∃ usage, normalizeTokenUsage (rawUsage body) = .ok usage

section Conditions

variable (π : Codec)

/-- The responses that `_request` takes for a decision. -/
inductive DecisionAccepted (workflowId : Option String) : Decoded → Prop
  | mk {body content : Payload} {decision : Decision} (found : HasContent body content)
      (fits : UsageFits body) (parses : parseDecision π workflowId content = .ok decision) :
      DecisionAccepted workflowId (.value body)

/-- The responses out of which `_request` raises what `decide` does not catch. -/
inductive DecisionCrash : Decoded → Prop
  | tooDeep : DecisionCrash .tooDeep
  | noChoice {body : Payload} (h : NoChoice body) : DecisionCrash (.value body)
  | notText {body content : Payload} (found : HasContent body content) (fits : UsageFits body)
      (other : ∀ s, content ≠ .str s) : DecisionCrash (.value body)
  | deepText {body : Payload} {s : String} (found : HasContent body (.str s))
      (fits : UsageFits body) (invalid : π.decision (unfence s) = none)
      (deep : π.loads (unfence s) = .tooDeep) : DecisionCrash (.value body)

inductive ClassificationAccepted : Decoded → Prop
  | mk {body content : Payload} {classification : Classification}
      (found : HasContent body content) (fits : UsageFits body)
      (parses : parseClassification π content = .ok classification) :
      ClassificationAccepted (.value body)

/-- The usage is read before the content is, and a content is checked to be a string. -/
inductive ClassificationCrash : Decoded → Prop
  | tooDeep : ClassificationCrash .tooDeep
  | noChoice {body : Payload} (h : NoChoice body) (fits : UsageFits body) :
      ClassificationCrash (.value body)
  | deepText {body : Payload} {s : String} (found : HasContent body (.str s))
      (fits : UsageFits body) (deep : π.loads (unfence s) = .tooDeep) :
      ClassificationCrash (.value body)

variable (settings : Settings)

/-- The first response does not crash, and neither does the one to the repair that is asked for. -/
def DecideSpared (workflowId : Option String) (first second : Outcomes) : Prop :=
  ∀ body, Delivers first settings.retryAttempts body → ¬DecisionCrash π body ∧
    (¬DecisionAccepted π workflowId body →
      ∀ repaired, Delivers second settings.retryAttempts repaired → ¬DecisionCrash π repaired)

/-- The same for `classify`, which asks a second time after every kind of failure. -/
def ClassifySpared (first second : Outcomes) : Prop :=
  (∀ body, Delivers first settings.retryAttempts body → ¬ClassificationCrash π body) ∧
    ((∀ body, Delivers first settings.retryAttempts body → ¬ClassificationAccepted π body) →
      ∀ repaired, Delivers second settings.retryAttempts repaired →
        ¬ClassificationCrash π repaired)

end Conditions

/-- A decision or a `ModelGatewayError`, and no exception out of `execute_step`. -/
def DecisionContained (recorded : Bool) (answer : Except Fault ModelDecision) : Prop :=
  ((∃ result, answer = .ok result) ∨ answer = .error .modelGatewayError) ∧
    ∀ e, requestDecision recorded answer ≠ .raised e

/-- A classification or a `ModelGatewayError`, and no run that fails over it. -/
def ClassificationContained (answer : Except Fault ClassificationResult) : Prop :=
  ((∃ result, answer = .ok result) ∨ answer = .error .modelGatewayError) ∧
    ∀ reason, routeMessage answer ≠ .failed reason

section Requests

variable {outcomes : Outcomes} {n : ℕ} {body : Decoded} {e : Fault}

theorem delivers_succ : Delivers outcomes (n + 1) body ↔
    (∃ status, outcomes 0 = .response status body ∧ isSuccess status) ∨
      Retried (outcomes 0) ∧ Delivers (fun k => outcomes (k + 1)) n body := by
  constructor
  · rintro ⟨k, hk, hretried, hresponse⟩
    cases k with
    | zero => exact Or.inl hresponse
    | succ k =>
      refine Or.inr ⟨hretried 0 k.succ_pos, k, Nat.lt_of_succ_lt_succ hk, ?_, hresponse⟩
      exact fun j hj => hretried (j + 1) (Nat.succ_lt_succ hj)
  · rintro (hresponse | ⟨hzero, k, hk, hretried, hresponse⟩)
    · exact ⟨0, n.succ_pos, fun _ hj => absurd hj (Nat.not_lt_zero _), hresponse⟩
    · refine ⟨k + 1, Nat.succ_lt_succ hk, fun j hj => ?_, hresponse⟩
      cases j with
      | zero => exact hzero
      | succ j => exact hretried j (Nat.lt_of_succ_lt_succ hj)

theorem not_delivers_zero : ¬Delivers outcomes 0 body := by
  rintro ⟨k, hk, -⟩
  exact Nat.not_lt_zero k hk

theorem postTo_eq_ok : postTo outcomes n = .ok body ↔ Delivers outcomes n body := by
  induction n generalizing outcomes with
  | zero => exact iff_of_false (fun h => nomatch h) not_delivers_zero
  | succ n ih =>
    rw [delivers_succ, ← ih, postTo]
    cases hzero : outcomes 0 with
    | response status delivered =>
      by_cases hsuccess : isSuccess status
      · have hnot : ¬500 ≤ status := fun h => absurd hsuccess.2 (by omega)
        simp [hsuccess, Retried, hnot]
      · by_cases hstop : status < 500 ∨ n = 0
        · rcases hstop with hlow | rfl
          · have hnot : ¬500 ≤ status := Nat.not_le.mpr hlow
            simp [hsuccess, hlow, Retried, hnot]
          · simp [hsuccess, postTo]
        · have hretried : 500 ≤ status := Nat.not_lt.mp fun h => hstop (Or.inl h)
          simp [hsuccess, hstop, Retried, hretried]
    | transportError =>
      by_cases hn : n = 0
      · simp [hn, Retried, postTo]
      · simp [hn, Retried]
    | requestError => simp [Retried]

/-- `unreachable retry state`. -/
theorem postTo_error (hn : 1 ≤ n) (h : postTo outcomes n = .error e) : e = .httpError := by
  induction n generalizing outcomes with
  | zero => exact absurd hn (by decide)
  | succ n ih =>
    rw [postTo] at h
    split at h
    · split_ifs at h with hsuccess hstop
      · exact (Except.error.inj h).symm
      · exact ih (Nat.pos_of_ne_zero fun h => hstop (Or.inr h)) h
    · split_ifs at h with hzero
      · exact (Except.error.inj h).symm
      · exact ih (Nat.pos_of_ne_zero hzero) h
    · exact (Except.error.inj h).symm

end Requests

section Parsing

variable {π : Codec} {content : Payload} {e : Fault}

theorem malformed_of_elim {α : Type} {valid : Option α}
    (h : valid.elim (Except.error Fault.valueError) Except.ok = .error e) : e.Malformed := by
  cases valid with
  | none => exact Except.error.inj h ▸ trivial
  | some a => exact nomatch h

theorem malformed_of_parseLegacy {workflowId : Option String}
    (h : parseLegacy workflowId content = .error e) : e.Malformed := by
  unfold parseLegacy at h
  split at h
  · dsimp only at h
    split_ifs at h
    · exact Except.error.inj h ▸ trivial
    · split at h
      · split at h
        · exact malformed_of_elim h
        · exact Except.error.inj h ▸ trivial
      · exact Except.error.inj h ▸ trivial
  · exact Except.error.inj h ▸ trivial

theorem parseDecision_error {workflowId : Option String}
    (h : parseDecision π workflowId content = .error e) :
    e.Malformed ∨ e = .attributeError ∧ (∀ s, content ≠ .str s) ∨
      e = .recursionError ∧ ∃ s, content = .str s ∧ π.decision (unfence s) = none ∧
        π.loads (unfence s) = .tooDeep := by
  cases content with
  | str s =>
    rw [parseDecision] at h
    split at h
    · exact nomatch h
    · rename_i hstrict
      rcases Except.bind_eq_error h with hloads | ⟨raw, _, hlegacy⟩
      · rcases get_error hloads with hmalformed | ⟨rfl, hdeep⟩
        · exact Or.inl hmalformed
        · exact Or.inr (Or.inr ⟨rfl, s, rfl, hstrict, hdeep⟩)
      · exact Or.inl (malformed_of_parseLegacy hlegacy)
  | _ => exact Or.inr (Or.inl ⟨(Except.error.inj h).symm, fun _ hs => nomatch hs⟩)

theorem malformed_of_looked {value : Option Payload} {known : String → Option String}
    (h : looked value known = .error e) : e.Malformed := by
  unfold looked at h
  split at h
  · exact nomatch h
  · split_ifs at h
    exact Except.error.inj h ▸ trivial
  · exact nomatch h

theorem malformed_of_alternatives {items : List Payload}
    (h : items.mapM alternativeOf = .error e) : e.Malformed := by
  induction items with
  | nil => exact nomatch h
  | cons item items ih =>
    rw [List.mapM_cons] at h
    rcases Except.bind_eq_error h with hitem | ⟨intent, _, hrest⟩
    · unfold alternativeOf at hitem
      split at hitem
      · exact nomatch hitem
      · split at hitem
        · exact nomatch hitem
        · exact Except.error.inj hitem ▸ trivial
      · exact Except.error.inj hitem ▸ trivial
    · rcases Except.bind_eq_error hrest with hitems | ⟨intents, _, hpure⟩
      · exact ih hitems
      · exact nomatch hpure

theorem malformed_of_normalizedFields {raw : Members}
    (h : normalizedFields raw = .error e) : e.Malformed := by
  unfold normalizedFields at h
  rcases Except.bind_eq_error h with hhint | ⟨riskHint, _, h⟩
  · exact malformed_of_looked hhint
  rcases Except.bind_eq_error h with hlevel | ⟨level, _, h⟩
  · exact malformed_of_looked hlevel
  rcases Except.bind_eq_error h with halternatives | ⟨alternatives, _, h⟩
  · unfold alternativesOf at halternatives
    split at halternatives
    · exact nomatch halternatives
    · exact nomatch halternatives
    · exact malformed_of_alternatives halternatives
    · exact Except.error.inj halternatives ▸ trivial
  · exact nomatch h

/-- What a classification raises that is not caught is raised by the parser of its JSON. -/
theorem parseClassification_error (h : parseClassification π content = .error e) :
    e.Malformed ∨ e = .recursionError ∧
      ∃ s, content = .str s ∧ π.loads (unfence s) = .tooDeep := by
  cases content with
  | str s =>
    rw [parseClassification] at h
    rcases Except.bind_eq_error h with hloads | ⟨raw, _, hraw⟩
    · rcases get_error hloads with hmalformed | ⟨rfl, hdeep⟩
      · exact Or.inl hmalformed
      · exact Or.inr ⟨rfl, s, rfl, hdeep⟩
    · split at hraw
      · rcases Except.bind_eq_error hraw with hfields | ⟨fields, _, hvalid⟩
        · exact Or.inl (malformed_of_normalizedFields hfields)
        · exact Or.inl (malformed_of_elim hvalid)
      · exact Or.inl (Except.error.inj hraw ▸ trivial)
  | _ => exact Or.inl (Except.error.inj h ▸ trivial)

end Parsing

section Answers

variable {π : Codec} {settings : Settings} {workflowId : Option String} {outcomes : Outcomes}
  {repair : Bool} {e : Fault}

theorem request_eq_ok : (∃ result, request π settings workflowId outcomes repair = .ok result) ↔
    ∃ body, Delivers outcomes settings.retryAttempts body ∧
      DecisionAccepted π workflowId body := by
  constructor
  · rintro ⟨result, h⟩
    simp only [request, Except.bind_eq_ok] at h
    obtain ⟨response, hpost, body, hbody, content, hcontent, reported, husage, decision, hparse, -⟩ :=
      h
    obtain rfl := eq_value_of_get hbody
    exact ⟨_, postTo_eq_ok.mp hpost, .mk (contentOf_eq_ok.mp hcontent) ⟨reported, husage⟩ hparse⟩
  · rintro ⟨_, hdelivers, ⟨hfound, ⟨reported, husage⟩, hparse⟩⟩
    simp only [request, postTo_eq_ok.mpr hdelivers, bind, Except.bind, Decoded.get,
      contentOf_eq_ok.mpr hfound, husage, hparse]
    exact ⟨_, rfl⟩

/-- A request fails without a response, over a response that is refused, or it crashes. -/
theorem request_error (h : request π settings workflowId outcomes repair = .error e) :
    (e = .httpError ∧ ∀ body, ¬Delivers outcomes settings.retryAttempts body) ∨
      ∃ body, Delivers outcomes settings.retryAttempts body ∧
        (e.Malformed ∨ e.Escapes ∧ DecisionCrash π body) := by
  rcases Except.bind_eq_error h with hpost | ⟨response, hpost, hread⟩
  · refine Or.inl ⟨postTo_error settings.one_le_retryAttempts hpost, fun body hbody => ?_⟩
    exact nomatch (postTo_eq_ok.mpr hbody).symm.trans hpost
  refine Or.inr ⟨response, postTo_eq_ok.mp hpost, ?_⟩
  rcases Except.bind_eq_error hread with hget | ⟨body, hget, hindexed⟩
  · rcases get_error hget with hmalformed | ⟨rfl, rfl⟩
    · exact Or.inl hmalformed
    · exact Or.inr ⟨trivial, .tooDeep⟩
  obtain rfl := eq_value_of_get hget
  rcases Except.bind_eq_error hindexed with hcontent | ⟨content, hcontent, hcounted⟩
  · rcases contentOf_error hcontent with hmalformed | ⟨rfl, hnone⟩
    · exact Or.inl hmalformed
    · exact Or.inr ⟨trivial, .noChoice hnone⟩
  have hfound := contentOf_eq_ok.mp hcontent
  rcases Except.bind_eq_error hcounted with husage | ⟨reported, husage, hdecided⟩
  · exact Or.inl (normalizeTokenUsage_error husage ▸ trivial)
  rcases Except.bind_eq_error hdecided with hparse | ⟨decision, _, hdone⟩
  · rcases parseDecision_error hparse with
      hmalformed | ⟨rfl, hother⟩ | ⟨rfl, s, rfl, hinvalid, hdeep⟩
    · exact Or.inl hmalformed
    · exact Or.inr ⟨trivial, .notText hfound ⟨reported, husage⟩ hother⟩
    · exact Or.inr ⟨trivial, .deepText hfound ⟨reported, husage⟩ hinvalid hdeep⟩
  · exact nomatch hdone

theorem request_crash (workflowId : Option String) (repair : Bool) {body : Decoded}
    (hdelivers : Delivers outcomes settings.retryAttempts body) (hcrash : DecisionCrash π body) :
    ∃ e, request π settings workflowId outcomes repair = .error e ∧ e.Escapes := by
  have hpost := postTo_eq_ok.mpr hdelivers
  cases hcrash with
  | tooDeep =>
    refine ⟨.recursionError, ?_, trivial⟩
    simp only [request, hpost, bind, Except.bind, Decoded.get]
  | noChoice hnone =>
    refine ⟨.indexError, ?_, trivial⟩
    simp only [request, hpost, bind, Except.bind, Decoded.get, contentOf_noChoice hnone]
  | @notText value content hfound hfits hother =>
    obtain ⟨reported, husage⟩ := hfits
    have hparse : parseDecision π workflowId content = .error .attributeError := by
      cases content with
      | str s => exact absurd rfl (hother s)
      | _ => rfl
    refine ⟨.attributeError, ?_, trivial⟩
    simp only [request, hpost, bind, Except.bind, Decoded.get, contentOf_eq_ok.mpr hfound, husage,
      hparse]
  | @deepText value s hfound hfits hinvalid hdeep =>
    obtain ⟨reported, husage⟩ := hfits
    have hparse : parseDecision π workflowId (.str s) = .error .recursionError := by
      simp only [parseDecision, hinvalid, hdeep, Decoded.get, bind, Except.bind]
    refine ⟨.recursionError, ?_, trivial⟩
    simp only [request, hpost, bind, Except.bind, Decoded.get, contentOf_eq_ok.mpr hfound, husage,
      hparse]

theorem Delivers.unique {n : ℕ} {body other : Decoded} (h : Delivers outcomes n body)
    (h' : Delivers outcomes n other) : body = other :=
  Except.ok.inj ((postTo_eq_ok.mpr h).symm.trans (postTo_eq_ok.mpr h'))

/-- A response that is neither accepted nor crashes asks for a repair. -/
theorem decide_eq_of_error {first second : Outcomes}
    (h : request π settings workflowId first false = .error e) (hmalformed : e.Malformed) :
    decide π settings workflowId first second =
      match request π settings workflowId second true with
      | .ok result => .ok result
      | .error e => if e.Handled then .error .modelGatewayError else .error e := by
  simp only [decide, h, if_pos hmalformed]

theorem decide_contained {first second : Outcomes}
    (hspared : DecideSpared π settings workflowId first second) :
    (∃ result, decide π settings workflowId first second = .ok result) ∨
      decide π settings workflowId first second = .error .modelGatewayError := by
  cases hfirst : request π settings workflowId first false with
  | ok result =>
    refine Or.inl ⟨result, ?_⟩
    simp only [decide, hfirst]
  | error e =>
    rcases request_error hfirst with ⟨rfl, -⟩ | ⟨body, hbody, hmalformed | ⟨-, hcrash⟩⟩
    · refine Or.inr ?_
      simp [decide, hfirst, Fault.Malformed]
    · rw [decide_eq_of_error hfirst hmalformed]
      have hrefused : ¬DecisionAccepted π workflowId body := fun haccepted => by
        obtain ⟨result, hresult⟩ := request_eq_ok.mpr ⟨body, hbody, haccepted⟩
        exact nomatch hresult.symm.trans hfirst
      cases hsecond : request π settings workflowId second true with
      | ok result => exact Or.inl ⟨result, rfl⟩
      | error e' =>
        refine Or.inr (if_pos ?_)
        rcases request_error hsecond with
          ⟨rfl, -⟩ | ⟨repaired, hrepaired, hmalformed' | ⟨-, hcrash⟩⟩
        · exact Or.inr rfl
        · exact Or.inl hmalformed'
        · exact absurd hcrash ((hspared body hbody).2 hrefused repaired hrepaired)
    · exact absurd hcrash (hspared body hbody).1

theorem decide_escapes {first second : Outcomes}
    (h : ¬DecideSpared π settings workflowId first second) :
    ∃ e, decide π settings workflowId first second = .error e ∧ e.Escapes := by
  by_cases hcrash : ∃ body, Delivers first settings.retryAttempts body ∧ DecisionCrash π body
  · obtain ⟨body, hbody, hcrash⟩ := hcrash
    obtain ⟨e, he, hescapes⟩ := request_crash workflowId false hbody hcrash
    have hnot := hescapes.not_handled
    refine ⟨e, ?_, hescapes⟩
    simp only [decide, he]
    rw [if_neg fun hm => hnot (Or.inl hm), if_neg fun hhttp => hnot (Or.inr hhttp)]
  -- The first response does not crash, so the second one does, and it is asked for.
  have hsecond : ∃ body, Delivers first settings.retryAttempts body ∧
      ¬DecisionAccepted π workflowId body ∧
      ∃ repaired, Delivers second settings.retryAttempts repaired ∧ DecisionCrash π repaired := by
    by_contra hnone
    refine h fun body hbody => ⟨fun hc => hcrash ⟨body, hbody, hc⟩, ?_⟩
    intro hrefused repaired hrepaired hc
    exact hnone ⟨body, hbody, hrefused, repaired, hrepaired, hc⟩
  obtain ⟨body, hbody, hrefused, repaired, hrepaired, hc⟩ := hsecond
  obtain ⟨e', he', hescapes⟩ := request_crash workflowId true hrepaired hc
  cases hfirst : request π settings workflowId first false with
  | ok result =>
    obtain ⟨other, hother, haccepted⟩ := request_eq_ok.mp ⟨result, hfirst⟩
    exact absurd (hbody.unique hother ▸ haccepted) hrefused
  | error e =>
    rcases request_error hfirst with ⟨-, hnone⟩ | ⟨other, hother, hmalformed | ⟨-, hcrash'⟩⟩
    · exact absurd hbody (hnone body)
    · refine ⟨e', ?_, hescapes⟩
      rw [decide_eq_of_error hfirst hmalformed, he']
      exact if_neg hescapes.not_handled
    · exact absurd ⟨other, hother, hcrash'⟩ hcrash

section Turns

variable {observed : List (Option Costs.TokenUsage)} {attempt : Bool × Outcomes}

/-- A turn without what it leaves in the usages observed. -/
theorem classifyOnce_snd : (classifyOnce π settings observed attempt).2 = (do
    let response ← postTo attempt.2 settings.retryAttempts
    let body ← response.get
    let usage ← normalizeTokenUsage (rawUsage body)
    let content ← contentOf body
    let classification ← parseClassification π content
    pure {
      classification
      tokenUsage := Costs.classificationUsage settings.classifierMaxTokens (observed ++ [usage])
      repaired := attempt.1 }) := by
  unfold classifyOnce
  cases postTo attempt.2 settings.retryAttempts with
  | error e => rfl
  | ok response =>
    cases hget : response.get with
    | error e => simp [bind, Except.bind, hget]
    | ok body => cases husage : normalizeTokenUsage (rawUsage body) <;>
        simp [bind, Except.bind, hget, husage]

theorem classifyOnce_ok :
    (∃ body, Delivers attempt.2 settings.retryAttempts body ∧ ClassificationAccepted π body) ↔
      ∃ result, (classifyOnce π settings observed attempt).2 = .ok result := by
  rw [classifyOnce_snd]
  constructor
  · rintro ⟨_, hdelivers, ⟨hfound, ⟨usage, husage⟩, hparse⟩⟩
    simp only [postTo_eq_ok.mpr hdelivers, bind, Except.bind, Decoded.get,
      contentOf_eq_ok.mpr hfound, husage, hparse]
    exact ⟨_, rfl⟩
  · rintro ⟨result, h⟩
    simp only [Except.bind_eq_ok] at h
    obtain ⟨response, hpost, body, hbody, usage, husage, content, hcontent, c, hparse, -⟩ := h
    obtain rfl := eq_value_of_get hbody
    exact ⟨_, postTo_eq_ok.mp hpost, .mk (contentOf_eq_ok.mp hcontent) ⟨usage, husage⟩ hparse⟩

theorem classifyOnce_error {e : Fault}
    (h : (classifyOnce π settings observed attempt).2 = .error e) :
    e.Handled ∨ e.Escapes ∧
      ∃ body, Delivers attempt.2 settings.retryAttempts body ∧ ClassificationCrash π body := by
  rw [classifyOnce_snd] at h
  rcases Except.bind_eq_error h with hpost | ⟨response, hpost, hread⟩
  · exact Or.inl (Or.inr (postTo_error settings.one_le_retryAttempts hpost))
  have hdelivers := postTo_eq_ok.mp hpost
  rcases Except.bind_eq_error hread with hget | ⟨body, hget, hcounted⟩
  · rcases get_error hget with hmalformed | ⟨rfl, rfl⟩
    · exact Or.inl (Or.inl hmalformed)
    · exact Or.inr ⟨trivial, _, hdelivers, .tooDeep⟩
  obtain rfl := eq_value_of_get hget
  rcases Except.bind_eq_error hcounted with husage | ⟨usage, husage, hindexed⟩
  · exact Or.inl (Or.inl (normalizeTokenUsage_error husage ▸ trivial))
  rcases Except.bind_eq_error hindexed with hcontent | ⟨content, hcontent, hclassified⟩
  · rcases contentOf_error hcontent with hmalformed | ⟨rfl, hnone⟩
    · exact Or.inl (Or.inl hmalformed)
    · exact Or.inr ⟨trivial, _, hdelivers, .noChoice hnone ⟨usage, husage⟩⟩
  rcases Except.bind_eq_error hclassified with hparse | ⟨c, _, hdone⟩
  · rcases parseClassification_error hparse with hmalformed | ⟨rfl, s, rfl, hdeep⟩
    · exact Or.inl (Or.inl hmalformed)
    · exact Or.inr ⟨trivial, _, hdelivers,
        .deepText (contentOf_eq_ok.mp hcontent) ⟨usage, husage⟩ hdeep⟩
  · exact nomatch hdone

theorem classifyOnce_crash {body : Decoded}
    (hdelivers : Delivers attempt.2 settings.retryAttempts body)
    (hcrash : ClassificationCrash π body) :
    ∃ e, (classifyOnce π settings observed attempt).2 = .error e ∧ e.Escapes := by
  have hpost := postTo_eq_ok.mpr hdelivers
  rw [classifyOnce_snd]
  cases hcrash with
  | tooDeep =>
    refine ⟨.recursionError, ?_, trivial⟩
    simp only [hpost, bind, Except.bind, Decoded.get]
  | noChoice hnone hfits =>
    obtain ⟨usage, husage⟩ := hfits
    refine ⟨.indexError, ?_, trivial⟩
    simp only [hpost, bind, Except.bind, Decoded.get, husage, contentOf_noChoice hnone]
  | @deepText value s hfound hfits hdeep =>
    obtain ⟨usage, husage⟩ := hfits
    have hparse : parseClassification π (.str s) = .error .recursionError := by
      simp only [parseClassification, hdeep, Decoded.get, bind, Except.bind]
    refine ⟨.recursionError, ?_, trivial⟩
    simp only [hpost, bind, Except.bind, Decoded.get, husage, contentOf_eq_ok.mpr hfound, hparse]

end Turns

theorem classify_judges : Attempts.Judges (classifyOnce π settings) Fault.Handled
    (fun attempt => ∃ body, Delivers attempt.2 settings.retryAttempts body ∧
      ClassificationAccepted π body)
    (fun attempt => ∃ body, Delivers attempt.2 settings.retryAttempts body ∧
      ClassificationCrash π body) where
  accepted_iff _ _ := classifyOnce_ok
  crashes_iff observed attempt := by
    constructor
    · rintro ⟨body, hdelivers, hcrash⟩
      obtain ⟨e, he, hescapes⟩ := classifyOnce_crash hdelivers hcrash
      exact ⟨e, he, hescapes.not_handled⟩
    · rintro ⟨e, he, hnot⟩
      rcases classifyOnce_error he with hhandled | ⟨-, hcrash⟩
      · exact absurd hhandled hnot
      · exact hcrash

theorem classifySpared_iff {first second : Outcomes} : ClassifySpared π settings first second ↔
    ¬∃ attempt, Attempts.Reached
      (fun attempt => ∃ body, Delivers attempt.2 settings.retryAttempts body ∧
        ClassificationAccepted π body) [(false, first), (true, second)] attempt ∧
      ∃ body, Delivers attempt.2 settings.retryAttempts body ∧ ClassificationCrash π body := by
  have hnil (accepted : Bool × Outcomes → Prop) (attempt : Bool × Outcomes) :
      ¬Attempts.Reached accepted [] attempt := by
    rintro ⟨before, rest, heq, -⟩
    exact absurd heq.symm (List.append_ne_nil_of_right_ne_nil _ (List.cons_ne_nil _ _))
  simp only [Attempts.reached_cons, hnil, and_false, or_false, ClassifySpared]
  constructor
  · rintro ⟨hfirst, hsecond⟩ ⟨attempt, rfl | ⟨hrefused, rfl⟩, body, hbody, hcrash⟩
    · exact hfirst body hbody hcrash
    · exact hsecond (fun b hb ha => hrefused ⟨b, hb, ha⟩) body hbody hcrash
  · intro hnone
    refine ⟨fun body hbody hcrash => hnone ⟨_, Or.inl rfl, body, hbody, hcrash⟩, ?_⟩
    intro hrefused body hbody hcrash
    refine hnone ⟨_, Or.inr ⟨?_, rfl⟩, body, hbody, hcrash⟩
    rintro ⟨b, hb, ha⟩
    exact hrefused b hb ha

theorem classify_contained_iff {first second : Outcomes} :
    ((∃ result, classify π settings first second = .ok result) ∨
      classify π settings first second = .error .modelGatewayError) ↔
      ClassifySpared π settings first second := by
  rw [classifySpared_iff, ← Attempts.firstOk_error_iff (s := []) classify_judges]
  constructor
  · rintro hcontained ⟨e, he⟩
    have hanswer : classify π settings first second = .error e := by
      simp only [classify, he]
    obtain ⟨observed, attempt, -, hturn⟩ := Attempts.exists_of_firstOk_error he
    rcases classifyOnce_error hturn with hhandled | ⟨hescapes, -⟩
    · exact Attempts.not_handled_of_firstOk he hhandled
    · rcases hcontained with ⟨result, hresult⟩ | hgateway
      · cases hresult.symm.trans hanswer
      · exact hescapes.ne_modelGatewayError (Except.error.inj (hanswer.symm.trans hgateway))
  · intro hnone
    rw [classify]
    split
    · exact Or.inl ⟨_, rfl⟩
    · exact Or.inr rfl
    · rename_i he
      exact absurd ⟨_, he⟩ hnone

end Answers

theorem requestDecision_contained {answer : Except Fault ModelDecision} (recorded : Bool) :
    DecisionContained recorded answer ↔
      (∃ result, answer = .ok result) ∨ answer = .error .modelGatewayError := by
  refine ⟨And.left, fun h => ⟨h, fun e => ?_⟩⟩
  rcases h with ⟨result, rfl⟩ | rfl <;> exact fun hraised => nomatch hraised

theorem routeMessage_contained {answer : Except Fault ClassificationResult} :
    ClassificationContained answer ↔
      (∃ result, answer = .ok result) ∨ answer = .error .modelGatewayError := by
  refine ⟨And.left, fun h => ⟨h, fun reason => ?_⟩⟩
  rcases h with ⟨result, rfl⟩ | rfl <;> exact fun hfailed => nomatch hfailed

/-- Nothing but a `ModelGatewayError` leaves the two calls if and only if no response that is read
has an empty list of choices, a content that is no text, or JSON that nests too deeply. -/
theorem gateway_contained_iff (π : Codec) (settings : Settings) (workflowId : Option String)
    (first second : Outcomes) (recorded : Bool) :
    (DecisionContained recorded (decide π settings workflowId first second) ↔
        DecideSpared π settings workflowId first second) ∧
      (ClassificationContained (classify π settings first second) ↔
        ClassifySpared π settings first second) := by
  rw [requestDecision_contained, routeMessage_contained]
  refine ⟨⟨fun hcontained => ?_, decide_contained⟩, classify_contained_iff⟩
  by_contra hnot
  obtain ⟨e, he, hescapes⟩ := decide_escapes hnot
  rcases hcontained with ⟨result, hresult⟩ | hgateway
  · exact nomatch hresult.symm.trans he
  · exact hescapes.ne_modelGatewayError (Except.error.inj (he.symm.trans hgateway))

/-- A response with status 200 to every attempt. -/
def answering (body : Members) : Outcomes := fun _ => .response 200 (.value (.obj body))

/-- No texts are read here. -/
def unread : Codec where
  loads _ := .notJson
  decision _ := none
  classification _ := none

theorem one_le_two_attempts : 1 ≤ 2 := by decide

def twoAttempts : Settings where
  retryAttempts := 2
  maxTokens := 2048
  classifierMaxTokens := 1024
  one_le_retryAttempts := one_le_two_attempts
  retryAttempts_le := le_rfl

/-- A response with no choices, and one whose content is null. -/
theorem empty_choices_escape :
    decide unread twoAttempts (some "catalog_qa") (answering [("choices", .arr [])])
        (answering [("choices", .arr [])]) = .error .indexError ∧
      classify unread twoAttempts (answering [("choices", .arr [])])
        (answering [("choices", .arr [])]) = .error .indexError ∧
      decide unread twoAttempts (some "catalog_qa")
        (answering [("choices", .arr [.obj [("message", .obj [("content", .null)])]])])
        (answering []) = .error .attributeError ∧
      ¬(∀ (π : Codec) (settings : Settings) (workflowId : Option String)
        (first second : Outcomes) (recorded : Bool),
          DecisionContained recorded (decide π settings workflowId first second) ∧
            ClassificationContained (classify π settings first second)) := by
  refine ⟨rfl, rfl, rfl, fun h => ?_⟩
  have hcontained := h unread twoAttempts (some "catalog_qa") (answering [("choices", .arr [])])
    (answering [("choices", .arr [])]) true
  exact hcontained.1.2 .indexError rfl

end CommerceAgent.Gateway
