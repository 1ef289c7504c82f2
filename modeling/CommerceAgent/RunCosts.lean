import CommerceAgent.Histories
import CommerceAgent.Json
import CommerceAgent.Texts
import Mathlib.Data.Rat.Floor

/-! What the model calls of a run cost, and what `agent_runs.total_cost_microusd` says of it. -/
namespace CommerceAgent

open Json Histories

namespace Costs

/-- Token counts that the provider does not report stay null. -/
structure TokenUsage where
  inputTokens : Option ℕ := none
  outputTokens : Option ℕ := none
  cachedInputTokens : Option ℕ := none
  reasoningTokens : Option ℕ := none
  totalTokens : Option ℕ := none
  estimated : Bool := false
  providerUsageVersion : Option String := none

/-- Prices in USD for a million tokens. -/
structure ModelPricing where
  inputPerMillion : ℚ≥0
  outputPerMillion : ℚ≥0
  cachedInputPerMillion : Option ℚ≥0 := none
  reasoningPerMillion : Option ℚ≥0 := none

def MICROUSD_PER_USD : ℚ := 1000000

def TOKENS_PER_MILLION : ℚ := 1000000

/-- `_charge`, rounded half up. -/
def charge (tokens : Option ℕ) (pricePerMillion : ℚ≥0) : ℤ :=
  match tokens with
  | none => 0
  | some tokens =>
    ⌊(pricePerMillion : ℚ) * tokens * MICROUSD_PER_USD / TOKENS_PER_MILLION + 1 / 2⌋

def usageHasBillableTokens (usage : TokenUsage) : Bool :=
  usage.inputTokens.isSome || usage.cachedInputTokens.isSome || usage.outputTokens.isSome ||
    usage.reasoningTokens.isSome

/-- The price of each kind of token, none for one that is not charged. -/
def ModelPricing.cached (pricing : ModelPricing) : ℚ≥0 :=
  pricing.cachedInputPerMillion.getD pricing.inputPerMillion

def ModelPricing.reasoning (pricing : ModelPricing) : ℚ≥0 := pricing.reasoningPerMillion.getD 0

/-- `CostCalculator.calculate`, in total. -/
def totalMicrousd (usage : Option TokenUsage) (pricing : Option ModelPricing) : Option ℤ :=
  match usage, pricing with
  | some usage, some pricing =>
    if usageHasBillableTokens usage then
      some (charge usage.inputTokens pricing.inputPerMillion +
        charge usage.cachedInputTokens pricing.cached +
        charge usage.outputTokens pricing.outputPerMillion +
        charge usage.reasoningTokens pricing.reasoning)
    else none
  | _, _ => none

/-- The exceptions that the gateway catches (`KeyError`, `TypeError`, `ValueError`, HTTP errors),
and those that leave it. -/
inductive Trouble where
  | http
  | handled
  | escaped
  deriving DecidableEq, Repr

/-- `_non_negative_int`. -/
def nonNegativeInt : Option Value → Option ℕ
  | some (.int i) => if i < 0 then none else some i.toNat
  | _ => none

/-- A count, or the one in the details of the payload. -/
def detailed (count : Option ℕ) (details : Option Value) (key : String) : Option ℕ :=
  match count, details with
  | none, some (.obj d) => nonNegativeInt (Dict.get? d key)
  | count, _ => count

/-- `_normalize_token_usage`; the contract takes versions of at most 32 characters. -/
def normalizeTokenUsage : Option Value → Except Trouble (Option TokenUsage)
  | some (.obj raw) =>
    let inputTokens :=
      nonNegativeInt ((Dict.get? raw "input_tokens").or (Dict.get? raw "prompt_tokens"))
    let outputTokens :=
      nonNegativeInt ((Dict.get? raw "output_tokens").or (Dict.get? raw "completion_tokens"))
    let totalTokens := nonNegativeInt (Dict.get? raw "total_tokens")
    let cachedInputTokens := detailed (nonNegativeInt (Dict.get? raw "cached_input_tokens"))
      (Dict.get? raw "prompt_tokens_details") "cached_tokens"
    let reasoningTokens := detailed (nonNegativeInt (Dict.get? raw "reasoning_tokens"))
      (Dict.get? raw "completion_tokens_details") "reasoning_tokens"
    let version := (Dict.getStr? raw "provider_usage_version").filter fun s => Texts.strip s != ""
    if inputTokens.isNone && outputTokens.isNone && totalTokens.isNone &&
        cachedInputTokens.isNone && reasoningTokens.isNone then .ok none
    else if version.any fun s => 32 < s.length then .error .handled
    else .ok (some {
      inputTokens, outputTokens, cachedInputTokens, reasoningTokens, totalTokens
      estimated := inputTokens.isNone || outputTokens.isNone || totalTokens.isNone
      providerUsageVersion := version })
  | _ => .ok none

/-- A count that every attempt reports. -/
def combined (counts : List (Option ℕ)) : Option ℕ :=
  if none ∈ counts then none else some (counts.map (·.getD 0)).sum

/-- `_combine_token_usage`. -/
def combineTokenUsage (attempts : List (Option TokenUsage)) : Option TokenUsage :=
  if attempts = [] ∨ attempts.any Option.isNone then none
  else
    let usages := attempts.filterMap id
    let versions := (usages.map TokenUsage.providerUsageVersion).dedup
    some {
      inputTokens := combined (usages.map TokenUsage.inputTokens)
      outputTokens := combined (usages.map TokenUsage.outputTokens)
      cachedInputTokens := combined (usages.map TokenUsage.cachedInputTokens)
      reasoningTokens := combined (usages.map TokenUsage.reasoningTokens)
      totalTokens := combined (usages.map TokenUsage.totalTokens)
      estimated := usages.any TokenUsage.estimated
      providerUsageVersion := match versions with
        | [version] => version
        | _ => some "aggregate-v1" }

/-- `value[key]`. -/
def itemAt (value : Value) (key : String) : Except Trouble Value :=
  match value with
  | .obj d => (Dict.get? d key).elim (.error .handled) .ok
  | _ => .error .handled

/-- `value[0]`; an `IndexError` is not among those that are caught. -/
def firstItem : Value → Except Trouble Value
  | .arr (item :: _) => .ok item
  | .arr [] => .error .escaped
  | .str s => match s.toList with
    | c :: _ => .ok (.str (String.ofList [c]))
    | [] => .error .escaped
  | _ => .error .handled

/-- `body["choices"][0]["message"]["content"]`. -/
def contentOf (body : Value) : Except Trouble Value := do
  let choices ← itemAt body "choices"
  let choice ← firstItem choices
  let message ← itemAt choice "message"
  itemAt message "content"

/-- `body.get("usage")`, of a dictionary. -/
def usageOf (body : Value) : Except Trouble (Option TokenUsage) :=
  normalizeTokenUsage (body.asObj?.bind fun d => Dict.get? d "usage")

/-- What comes of one request: no response, one that is no JSON, or its body. -/
inductive Attempt where
  | httpError
  | notJson
  | body (body : Value)

/-- Whether a content is a decision, or a classification. -/
abbrev Parses : Type := String → Bool

/-- What the gateway charges to a response that reports nothing. -/
def conservativeUsage (maxTokens : ℕ) : TokenUsage where
  totalTokens := some maxTokens
  estimated := true
  providerUsageVersion := some "conservative-v1"

/-- `_parse_decision`; a content that is no string has no `strip`. -/
def parseDecision (parses : Parses) : Value → Except Trouble Unit
  | .str s => if parses s then .ok () else .error .handled
  | _ => .error .escaped

/-- `_parse_classification`, which checks for a string. -/
def parseClassification (parses : Parses) : Value → Except Trouble Unit
  | .str s => if parses s then .ok () else .error .handled
  | _ => .error .handled

/-- The usage of `_request`. -/
def requestUsage (maxTokens : ℕ) (parses : Parses) : Attempt → Except Trouble TokenUsage
  | .httpError => .error .http
  | .notJson => .error .handled
  | .body value => do
    let content ← contentOf value
    let usage ← usageOf value
    -- A content that does not parse takes the usage with it.
    parseDecision parses content
    pure (usage.getD (conservativeUsage maxTokens))

/-- What a caller of the gateway sees: a usage, a `ModelGatewayError`, or another exception. -/
inductive Answer where
  | usage (usage : TokenUsage)
  | gatewayError
  | escaped

/-- `OpenAICompatibleGateway.decide`. -/
def decideAnswer (maxTokens : ℕ) (parses : Parses) (first second : Attempt) : Answer :=
  match requestUsage maxTokens parses first with
  | .ok usage => .usage usage
  | .error .http => .gatewayError
  | .error .escaped => .escaped
  | .error .handled =>
    match requestUsage maxTokens parses second with
    | .ok usage => .usage usage
    | .error .escaped => .escaped
    | .error _ => .gatewayError

/-- One turn of the loop of `classify`: the usages observed so far, and how the turn ends. -/
def classifyOnce (parses : Parses) (observed : List (Option TokenUsage)) :
    Attempt → List (Option TokenUsage) × Except Trouble Unit
  | .httpError => (observed, .error .http)
  | .notJson => (observed, .error .handled)
  | .body value =>
    match usageOf value with
    | .error e => (observed, .error e)
    -- The usage is noted before the content is read, so a response that is repaired counts.
    | .ok usage => (observed ++ [usage], contentOf value >>= parseClassification parses)

def classificationUsage (maxTokens : ℕ) (observed : List (Option TokenUsage)) : TokenUsage :=
  (combineTokenUsage observed).getD (conservativeUsage maxTokens)

/-- `OpenAICompatibleGateway.classify`. -/
def classifyAnswer (maxTokens : ℕ) (parses : Parses) (first second : Attempt) : Answer :=
  match classifyOnce parses [] first with
  | (observed, .ok ()) => .usage (classificationUsage maxTokens observed)
  | (_, .error .escaped) => .escaped
  | (observed, .error _) =>
    match classifyOnce parses observed second with
    | (observed, .ok ()) => .usage (classificationUsage maxTokens observed)
    | (_, .error .escaped) => .escaped
    | (_, .error _) => .gatewayError

/-- Which caller asks the model: the router, `execute_step`, or its one semantic retry. -/
inductive Caller where
  | classification
  | decision
  | semanticRetry
  deriving DecidableEq, Repr

/-- One call of the gateway for a run. -/
structure ModelCall where
  caller : Caller
  maxTokens : ℕ
  parses : Parses
  first : Attempt
  second : Attempt
  /-- The price of the model when the call is recorded. -/
  pricing : Option ModelPricing
  /-- The statements of the recording go through. -/
  stored : Bool

def ModelCall.answer (call : ModelCall) : Answer :=
  match call.caller with
  | .classification => classifyAnswer call.maxTokens call.parses call.first call.second
  | _ => decideAnswer call.maxTokens call.parses call.first call.second

/-- The attempts that are made. -/
def ModelCall.attempts (call : ModelCall) : List Attempt :=
  match call.caller with
  | .classification =>
    match (classifyOnce call.parses [] call.first).2 with
    | .ok () | .error .escaped => [call.first]
    | .error _ => [call.first, call.second]
  | _ =>
    match requestUsage call.maxTokens call.parses call.first with
    | .error .handled => [call.first, call.second]
    | _ => [call.first]

/-- What the usage that a response reports costs; an error status is no response. -/
def Attempt.cost? (pricing : Option ModelPricing) : Attempt → Option (Option ℤ)
  | .httpError => none
  | .notJson => some none
  | .body value => match usageOf value with
    | .ok usage => some (totalMicrousd usage pricing)
    | .error _ => some none

/-- What each response costs that is received. -/
def ModelCall.costs (call : ModelCall) : List (Option ℤ) :=
  call.attempts.filterMap (Attempt.cost? call.pricing)

/-- The cost of the row that the caller inserts, if it inserts one. -/
def ModelCall.row (call : ModelCall) : Option (Option ℤ) :=
  if call.stored then
    match call.answer, call.caller with
    | .usage usage, _ => some (totalMicrousd (some usage) call.pricing)
    -- Only `execute_step` records a failed call.
    | .gatewayError, .decision => some none
    | _, _ => none
  else none

/-- The run's rows and total, and what its responses cost. -/
structure RunLedger where
  rows : List (Option ℤ) := []
  totalCostMicrousd : Option ℤ := none
  received : List (Option ℤ) := []

/-- The sum of the rows if every one has a cost. -/
def runTotal (rows : List (Option ℤ)) : Option ℤ :=
  if rows = [] ∨ none ∈ rows then none else some (rows.map (·.getD 0)).sum

/-- One model call, with the row and the total of `_insert`. -/
def recordCall (s : RunLedger) (call : ModelCall) : RunLedger :=
  match call.row with
  | some cost =>
    { rows := s.rows ++ [cost]
      totalCostMicrousd := runTotal (s.rows ++ [cost])
      received := s.received ++ call.costs }
  | none => { s with received := s.received ++ call.costs }

/-- A total that is there covers every response, whose costs are all known. -/
def RunLedger.Covers (s : RunLedger) : Prop := ∀ total, s.totalCostMicrousd = some total →
  ∃ costs : List ℤ, s.received = costs.map some ∧ costs.sum ≤ total

/-- The usage that a response reports. -/
def Attempt.reported : Attempt → Option TokenUsage
  | .body value => match usageOf value with
    | .ok usage => usage
    | .error _ => none
  | _ => none

/-- How one attempt of a call ends. -/
def ModelCall.turn (call : ModelCall) (attempt : Attempt) : Except Trouble Unit :=
  match call.caller with
  | .classification => (classifyOnce call.parses [] attempt).2
  | _ => (requestUsage call.maxTokens call.parses attempt).map fun _ => ()

/-- The usage with which a repaired call is recorded. -/
def ModelCall.repairUsage (call : ModelCall) : Option TokenUsage :=
  match call.caller with
  | .classification => combineTokenUsage
      (classifyOnce call.parses (classifyOnce call.parses [] call.first).1 call.second).1
  | _ => call.second.reported

/-- A count that both attempts report. -/
def addTokens : Option ℕ → Option ℕ → Option ℕ
  | some m, some n => some (m + n)
  | _, _ => none

/-- The charges of two usages are not above the charges of their sum: each count that one of them
reports the other reports too, and rounding loses nothing. -/
structure KeepsCharges (pricing : ModelPricing) (u v : TokenUsage) : Prop where
  input : charge u.inputTokens pricing.inputPerMillion +
    charge v.inputTokens pricing.inputPerMillion ≤
      charge (addTokens u.inputTokens v.inputTokens) pricing.inputPerMillion
  cached : charge u.cachedInputTokens pricing.cached + charge v.cachedInputTokens pricing.cached ≤
    charge (addTokens u.cachedInputTokens v.cachedInputTokens) pricing.cached
  output : charge u.outputTokens pricing.outputPerMillion +
    charge v.outputTokens pricing.outputPerMillion ≤
      charge (addTokens u.outputTokens v.outputTokens) pricing.outputPerMillion
  reasoning : charge u.reasoningTokens pricing.reasoning +
    charge v.reasoningTokens pricing.reasoning ≤
      charge (addTokens u.reasoningTokens v.reasoningTokens) pricing.reasoning

/-- A repair that is recorded with all that its two responses cost, or without a cost. -/
def ModelCall.RepairCounted (call : ModelCall) : Prop :=
  totalMicrousd call.repairUsage call.pricing = none ∨
    call.caller = .classification ∧ ∃ u v pricing, call.first.reported = some u ∧
      call.second.reported = some v ∧ call.pricing = some pricing ∧
      usageHasBillableTokens u = true ∧ usageHasBillableTokens v = true ∧ KeepsCharges pricing u v

/-- No response is received without a row that counts it. -/
def ModelCall.Accounted (call : ModelCall) : Prop :=
  (∀ attempt ∈ call.attempts, attempt = .httpError) ∨ call.stored = true ∧
    (call.turn call.first = .ok () ∨
      call.caller = .classification ∧ call.first = .httpError ∧ call.turn call.second = .ok () ∨
      call.caller = .decision ∧ call.turn call.first = .error .handled ∧
        (call.turn call.second = .error .handled ∨ call.turn call.second = .error .http) ∨
      call.turn call.first = .error .handled ∧ call.turn call.second = .ok () ∧
        call.RepairCounted)

section Usages

variable {pricing : Option ModelPricing}

/-- A usage without counts has no cost. -/
theorem totalMicrousd_conservative (maxTokens : ℕ) (usage : Option TokenUsage) :
    totalMicrousd (some (usage.getD (conservativeUsage maxTokens))) pricing =
      totalMicrousd usage pricing := by
  cases usage with
  | some usage => rfl
  | none => cases pricing <;> rfl

/-- Only the four billable counts matter. -/
theorem totalMicrousd_congr {u v : TokenUsage} (hinput : u.inputTokens = v.inputTokens)
    (hcached : u.cachedInputTokens = v.cachedInputTokens)
    (houtput : u.outputTokens = v.outputTokens)
    (hreasoning : u.reasoningTokens = v.reasoningTokens) :
    totalMicrousd (some u) pricing = totalMicrousd (some v) pricing := by
  cases pricing with
  | none => rfl
  | some pricing =>
    unfold totalMicrousd usageHasBillableTokens
    dsimp only
    rw [hinput, hcached, houtput, hreasoning]

theorem combined_singleton (count : Option ℕ) : combined [count] = count := by
  cases count <;> simp [combined]

theorem combined_pair (m n : Option ℕ) : combined [m, n] = addTokens m n := by
  cases m <;> cases n <;> simp [combined, addTokens]

theorem totalMicrousd_combine_singleton (usage : Option TokenUsage) :
    totalMicrousd (combineTokenUsage [usage]) pricing = totalMicrousd usage pricing := by
  cases usage with
  | none => rfl
  | some u =>
    have hcombine : ∃ v, combineTokenUsage [some u] = some v ∧ v.inputTokens = u.inputTokens ∧
        v.cachedInputTokens = u.cachedInputTokens ∧ v.outputTokens = u.outputTokens ∧
        v.reasoningTokens = u.reasoningTokens :=
      ⟨_, rfl, combined_singleton _, combined_singleton _, combined_singleton _,
        combined_singleton _⟩
    obtain ⟨v, hv, hinput, hcached, houtput, hreasoning⟩ := hcombine
    rw [hv]
    exact totalMicrousd_congr hinput hcached houtput hreasoning

/-- The combined cost of two usages that are billed covers both. -/
theorem totalMicrousd_combine_pair {u v : TokenUsage} {p : ModelPricing} {c : ℤ}
    (hu : usageHasBillableTokens u = true) (hv : usageHasBillableTokens v = true)
    (hkeeps : KeepsCharges p u v)
    (h : totalMicrousd (combineTokenUsage [some u, some v]) (some p) = some c) :
    ∃ a b, totalMicrousd (some u) (some p) = some a ∧ totalMicrousd (some v) (some p) = some b ∧
      a + b ≤ c := by
  have hcombine : ∃ w, combineTokenUsage [some u, some v] = some w ∧
      w.inputTokens = addTokens u.inputTokens v.inputTokens ∧
      w.cachedInputTokens = addTokens u.cachedInputTokens v.cachedInputTokens ∧
      w.outputTokens = addTokens u.outputTokens v.outputTokens ∧
      w.reasoningTokens = addTokens u.reasoningTokens v.reasoningTokens :=
    ⟨_, rfl, combined_pair _ _, combined_pair _ _, combined_pair _ _, combined_pair _ _⟩
  obtain ⟨w, hw, hinput, hcached, houtput, hreasoning⟩ := hcombine
  rw [hw] at h
  refine ⟨_, _, if_pos hu, if_pos hv, ?_⟩
  unfold totalMicrousd at h
  dsimp only at h
  split at h
  · have hsum := Option.some.inj h
    rw [hinput, hcached, houtput, hreasoning] at hsum
    have := hkeeps.input
    have := hkeeps.cached
    have := hkeeps.output
    have := hkeeps.reasoning
    -- Of the four kinds of tokens each is covered by its own charge.
    omega
  · cases h

end Usages

section Calls

variable {call : ModelCall}

/-- What a call leaves in the ledger: a row without a cost, nothing at all, or a row that covers
every response. -/
inductive ModelCall.Settled (call : ModelCall) : Prop
  | unknown (row : call.row = some none)
  | silent (row : call.row = none) (costs : call.costs = [])
  | covered (cost : ℤ) (costs : List ℤ) (row : call.row = some (some cost))
      (received : call.costs = costs.map some) (le : costs.sum ≤ cost)

/-- One response whose usage is recorded. -/
theorem ModelCall.Settled.alone {usage : Option TokenUsage}
    (hrow : call.row = some (totalMicrousd usage call.pricing))
    (hcosts : call.costs = [totalMicrousd usage call.pricing]) : call.Settled := by
  cases htotal : totalMicrousd usage call.pricing with
  | none => exact .unknown (hrow.trans (congrArg some htotal))
  | some cost =>
    rw [htotal] at hrow hcosts
    exact .covered cost [cost] hrow hcosts (by simp)

theorem bind_ok {α β : Type} {x : Except Trouble α} {f : α → Except Trouble β} {b : β}
    (h : x >>= f = .ok b) : ∃ a, x = .ok a ∧ f a = .ok b := by
  cases x with
  | error e => cases h
  | ok a => exact ⟨a, rfl, h⟩

/-- A request that ends with a usage was answered with it. -/
theorem requestUsage_ok {maxTokens : ℕ} {parses : Parses} {attempt : Attempt} {usage : TokenUsage}
    (h : requestUsage maxTokens parses attempt = .ok usage) :
    usage = attempt.reported.getD (conservativeUsage maxTokens) ∧
      ∀ pricing, attempt.cost? pricing = some (totalMicrousd attempt.reported pricing) := by
  cases attempt with
  | httpError => cases h
  | notJson => cases h
  | body value =>
    obtain ⟨content, _, h⟩ := bind_ok h
    obtain ⟨reported, hreported, h⟩ := bind_ok h
    obtain ⟨_, _, h⟩ := bind_ok h
    obtain rfl := Except.ok.inj h
    constructor
    · rw [Attempt.reported, hreported]
    · intro pricing
      rw [Attempt.cost?, Attempt.reported, hreported]

/-- A turn that ends with a classification has observed what its response reports. -/
theorem classifyOnce_ok {parses : Parses} {observed : List (Option TokenUsage)} {attempt : Attempt}
    (h : (classifyOnce parses observed attempt).2 = .ok ()) :
    (classifyOnce parses observed attempt).1 = observed ++ [attempt.reported] ∧
      ∀ pricing, attempt.cost? pricing = some (totalMicrousd attempt.reported pricing) := by
  cases attempt with
  | httpError => cases h
  | notJson => cases h
  | body value =>
    cases hreported : usageOf value with
    | error e =>
      rw [classifyOnce, hreported] at h
      cases h
    | ok reported =>
      rw [classifyOnce, Attempt.reported, hreported]
      refine ⟨rfl, fun pricing => ?_⟩
      rw [Attempt.cost?, hreported]

/-- A response that reports a usage is observed with it. -/
theorem observed_of_reported {parses : Parses} {attempt : Attempt} {usage : TokenUsage}
    {pricing : Option ModelPricing} (h : attempt.reported = some usage) :
    (classifyOnce parses [] attempt).1 = [some usage] ∧
      attempt.cost? pricing = some (totalMicrousd (some usage) pricing) := by
  cases attempt with
  | httpError => cases h
  | notJson => cases h
  | body value =>
    cases hreported : usageOf value with
    | error e =>
      rw [Attempt.reported, hreported] at h
      cases h
    | ok reported =>
      rw [Attempt.reported, hreported] at h
      obtain rfl : reported = some usage := h
      rw [classifyOnce, Attempt.cost?, hreported]
      exact ⟨rfl, rfl⟩

/-- The end of a turn does not depend on what was observed before it. -/
theorem classifyOnce_end (parses : Parses) (observed : List (Option TokenUsage))
    (attempt : Attempt) :
    (classifyOnce parses observed attempt).2 = (classifyOnce parses [] attempt).2 := by
  cases attempt with
  | httpError => rfl
  | notJson => rfl
  | body value =>
    rw [classifyOnce, classifyOnce]
    cases usageOf value <;> rfl

theorem turn_ok {usage : Except Trouble TokenUsage} (h : usage.map (fun _ => ()) = .ok ()) :
    ∃ u, usage = .ok u := by
  cases usage with
  | error e => cases h
  | ok u => exact ⟨u, rfl⟩

theorem turn_error {usage : Except Trouble TokenUsage} {e : Trouble}
    (h : usage.map (fun _ => ()) = .error e) : usage = .error e := by
  cases usage with
  | error e' =>
    cases h
    rfl
  | ok u => cases h

/-- The row of a stored call that ends with a usage. -/
theorem row_of_usage (hstored : call.stored = true) {usage : TokenUsage}
    (h : call.answer = .usage usage) :
    call.row = some (totalMicrousd (some usage) call.pricing) := by
  rw [ModelCall.row, if_pos hstored, h]

section Decisions

variable (hcaller : call.caller ≠ .classification)

include hcaller

theorem turn_of_decision (attempt : Attempt) : call.turn attempt =
    (requestUsage call.maxTokens call.parses attempt).map fun _ => () := by
  unfold ModelCall.turn
  split
  · contradiction
  · rfl

theorem answer_of_decision :
    call.answer = decideAnswer call.maxTokens call.parses call.first call.second := by
  unfold ModelCall.answer
  split
  · contradiction
  · rfl

theorem attempts_of_decision : call.attempts =
    match requestUsage call.maxTokens call.parses call.first with
    | .error .handled => [call.first, call.second]
    | _ => [call.first] := by
  unfold ModelCall.attempts
  split
  · contradiction
  · rfl

theorem repairUsage_of_decision : call.repairUsage = call.second.reported := by
  unfold ModelCall.repairUsage
  split
  · contradiction
  · rfl

/-- Without a response there is a row without a cost, or none. -/
theorem decision_silent (h : ∀ attempt ∈ call.attempts, attempt = .httpError) : call.Settled := by
  have hmem : call.first ∈ call.attempts := by
    rw [attempts_of_decision hcaller]
    split <;> exact List.mem_cons_self
  have hhttp := h _ hmem
  have hfailed : call.answer = .gatewayError := by
    rw [answer_of_decision hcaller, hhttp]
    rfl
  have hcosts : call.costs = [] := by
    rw [ModelCall.costs, attempts_of_decision hcaller, hhttp]
    rfl
  cases hrow : call.row with
  | none => exact .silent hrow hcosts
  | some cost =>
    -- A gateway error is recorded by a decision only, and then without a cost.
    apply ModelCall.Settled.unknown
    rw [ModelCall.row, hfailed] at hrow
    rw [ModelCall.row, hfailed]
    split at hrow
    · rename_i hstored
      rw [if_pos hstored]
      split at hrow
      · contradiction
      · rfl
      · cases hrow
    · cases hrow

/-- The first answer stands, and its response is the only one. -/
theorem decision_first (hstored : call.stored = true) (hfirst : call.turn call.first = .ok ()) :
    call.Settled := by
  rw [turn_of_decision hcaller] at hfirst
  obtain ⟨usage, husage⟩ := turn_ok hfirst
  obtain ⟨rfl, hcost⟩ := requestUsage_ok husage
  have hrow := row_of_usage hstored
    ((answer_of_decision hcaller).trans (by rw [decideAnswer, husage]))
  rw [totalMicrousd_conservative] at hrow
  refine .alone hrow ?_
  rw [ModelCall.costs, attempts_of_decision hcaller, husage, List.filterMap_cons_some (hcost _),
    List.filterMap_nil]

/-- A decision that fails leaves a row without a cost. -/
theorem decision_failed (hstored : call.stored = true) (hdecision : call.caller = .decision)
    (hfirst : call.turn call.first = .error .handled)
    (hsecond : call.turn call.second = .error .handled ∨ call.turn call.second = .error .http) :
    call.Settled := by
  rw [turn_of_decision hcaller] at hfirst hsecond
  have hfailed : call.answer = .gatewayError := by
    rw [answer_of_decision hcaller, decideAnswer, turn_error hfirst]
    rcases hsecond with hsecond | hsecond
    · rw [turn_error hsecond]
    · rw [turn_error hsecond]
  apply ModelCall.Settled.unknown
  rw [ModelCall.row, if_pos hstored, hfailed, hdecision]

/-- The row of a repair shows its own response alone, so only an unknown cost is safe. -/
theorem decision_repaired (hstored : call.stored = true)
    (hfirst : call.turn call.first = .error .handled) (hsecond : call.turn call.second = .ok ())
    (hunknown : totalMicrousd call.repairUsage call.pricing = none) : call.Settled := by
  rw [turn_of_decision hcaller] at hfirst hsecond
  obtain ⟨usage, husage⟩ := turn_ok hsecond
  obtain ⟨rfl, _⟩ := requestUsage_ok husage
  have hrow := row_of_usage hstored
    ((answer_of_decision hcaller).trans (by rw [decideAnswer, turn_error hfirst, husage]))
  rw [repairUsage_of_decision hcaller] at hunknown
  rw [totalMicrousd_conservative] at hrow
  exact .unknown (hrow.trans (congrArg some hunknown))

theorem settled_of_decision (h : call.Accounted) : call.Settled := by
  rcases h with hsilent | ⟨hstored, hfirst | ⟨hother, _⟩ | ⟨hdecision, hfirst, hsecond⟩ |
    ⟨hfirst, hsecond, hunknown | ⟨hother, _⟩⟩⟩
  · exact decision_silent hcaller hsilent
  · exact decision_first hcaller hstored hfirst
  · exact absurd hother hcaller
  · exact decision_failed hcaller hstored hdecision hfirst hsecond
  · exact decision_repaired hcaller hstored hfirst hsecond hunknown
  · exact absurd hother hcaller

end Decisions

section Classifications

variable (hcaller : call.caller = .classification)

include hcaller

theorem turn_of_classification (attempt : Attempt) :
    call.turn attempt = (classifyOnce call.parses [] attempt).2 := by
  rw [ModelCall.turn, hcaller]

theorem answer_of_classification :
    call.answer = classifyAnswer call.maxTokens call.parses call.first call.second := by
  rw [ModelCall.answer, hcaller]

theorem attempts_of_classification : call.attempts =
    match (classifyOnce call.parses [] call.first).2 with
    | .ok () | .error .escaped => [call.first]
    | .error _ => [call.first, call.second] := by
  rw [ModelCall.attempts, hcaller]

theorem repairUsage_of_classification : call.repairUsage = combineTokenUsage
    (classifyOnce call.parses (classifyOnce call.parses [] call.first).1 call.second).1 := by
  rw [ModelCall.repairUsage, hcaller]

/-- The router records no row for a classification that fails. -/
theorem classification_silent (h : ∀ attempt ∈ call.attempts, attempt = .httpError) :
    call.Settled := by
  have hattempts := attempts_of_classification hcaller
  have hmem : call.first ∈ call.attempts := by
    rw [hattempts]
    split <;> exact List.mem_cons_self
  have hhttp := h _ hmem
  rw [hhttp] at hattempts
  have hhttp' := h call.second (hattempts ▸ List.mem_cons_of_mem _ List.mem_cons_self)
  refine .silent ?_ ?_
  · rw [ModelCall.row, answer_of_classification hcaller, hhttp, hhttp', hcaller]
    split <;> rfl
  · rw [ModelCall.costs, hattempts, hhttp']
    rfl

theorem classification_first (hstored : call.stored = true)
    (hfirst : call.turn call.first = .ok ()) : call.Settled := by
  rw [turn_of_classification hcaller] at hfirst
  obtain ⟨hobserved, hcost⟩ := classifyOnce_ok hfirst
  have hended : call.answer =
      .usage (classificationUsage call.maxTokens [call.first.reported]) := by
    rw [answer_of_classification hcaller, classifyAnswer,
      ← Prod.eta (classifyOnce call.parses [] call.first), hfirst, hobserved]
    rfl
  have hrow := row_of_usage hstored hended
  rw [classificationUsage, totalMicrousd_conservative, totalMicrousd_combine_singleton] at hrow
  refine .alone hrow ?_
  rw [ModelCall.costs, attempts_of_classification hcaller, hfirst,
    List.filterMap_cons_some (hcost _), List.filterMap_nil]

/-- An HTTP error observes nothing, and the loop goes on as if it began with the second attempt. -/
theorem classification_late (hstored : call.stored = true) (hhttp : call.first = .httpError)
    (hsecond : call.turn call.second = .ok ()) : call.Settled := by
  rw [turn_of_classification hcaller] at hsecond
  obtain ⟨hobserved, hcost⟩ := classifyOnce_ok hsecond
  have hended : call.answer =
      .usage (classificationUsage call.maxTokens [call.second.reported]) := by
    rw [answer_of_classification hcaller, classifyAnswer, hhttp]
    change (match classifyOnce call.parses [] call.second with
      | (observed, .ok ()) => Answer.usage (classificationUsage call.maxTokens observed)
      | (_, .error .escaped) => .escaped
      | (_, .error _) => .gatewayError) = _
    rw [← Prod.eta (classifyOnce call.parses [] call.second), hsecond, hobserved]
    rfl
  have hrow := row_of_usage hstored hended
  rw [classificationUsage, totalMicrousd_conservative, totalMicrousd_combine_singleton] at hrow
  refine .alone hrow ?_
  rw [ModelCall.costs, attempts_of_classification hcaller, hhttp]
  change [Attempt.httpError, call.second].filterMap _ = _
  rw [List.filterMap_cons_none rfl, List.filterMap_cons_some (hcost _), List.filterMap_nil]

/-- The row of a repaired classification has the cost of all usages that were observed. -/
theorem classification_repaired (hstored : call.stored = true)
    (hfirst : call.turn call.first = .error .handled) (hsecond : call.turn call.second = .ok ())
    (hcounted : call.RepairCounted) : call.Settled := by
  have hrepair := repairUsage_of_classification hcaller
  rw [turn_of_classification hcaller] at hfirst hsecond
  have hrepaired : (classifyOnce call.parses (classifyOnce call.parses [] call.first).1
      call.second).2 = .ok () := by rw [classifyOnce_end, hsecond]
  have hended : call.answer = .usage (classificationUsage call.maxTokens
      (classifyOnce call.parses (classifyOnce call.parses [] call.first).1 call.second).1) := by
    rw [answer_of_classification hcaller, classifyAnswer,
      ← Prod.eta (classifyOnce call.parses [] call.first), hfirst]
    dsimp only
    rw [← Prod.eta (classifyOnce call.parses _ call.second), hrepaired]
  have hrow := row_of_usage hstored hended
  rw [classificationUsage, totalMicrousd_conservative, ← hrepair] at hrow
  cases htotal : totalMicrousd call.repairUsage call.pricing with
  | none => exact .unknown (hrow.trans (congrArg some htotal))
  | some cost =>
    rcases hcounted with hunknown |
      ⟨_, u, v, pricing, hu, hv, hpricing, hbilled, hbilled', hkeeps⟩
    · rw [hunknown] at htotal
      cases htotal
    · -- Both responses report a usage, and the row has the cost of their sum.
      have hobserved : (classifyOnce call.parses [] call.first).1 = [some u] ∧
          call.first.cost? call.pricing = some (totalMicrousd (some u) call.pricing) :=
        observed_of_reported hu
      obtain ⟨hboth, hcost⟩ := classifyOnce_ok hrepaired
      rw [hrepair, hboth, hobserved.1, hv, hpricing] at htotal
      obtain ⟨a, b, ha, hb, hle⟩ := totalMicrousd_combine_pair hbilled hbilled' hkeeps htotal
      have hcosts : call.costs = [some a, some b] := by
        rw [ModelCall.costs, attempts_of_classification hcaller, hfirst]
        dsimp only
        rw [List.filterMap_cons_some hobserved.2, List.filterMap_cons_some (hcost _),
          List.filterMap_nil, hv, hpricing, ha, hb]
      refine .covered cost [a, b] (hrow.trans ?_) hcosts ?_
      · rw [hrepair, hboth, hobserved.1, hv, hpricing]
        exact congrArg some htotal
      · rw [List.sum_cons, List.sum_cons, List.sum_nil, add_zero]
        exact hle

theorem settled_of_classification (h : call.Accounted) : call.Settled := by
  rcases h with hsilent | ⟨hstored, hfirst | ⟨_, hhttp, hsecond⟩ | ⟨hother, _⟩ |
    ⟨hfirst, hsecond, hcounted⟩⟩
  · exact classification_silent hcaller hsilent
  · exact classification_first hcaller hstored hfirst
  · exact classification_late hcaller hstored hhttp hsecond
  · rw [hcaller] at hother
    cases hother
  · exact classification_repaired hcaller hstored hfirst hsecond hcounted

end Classifications

/-- A call that is accounted for never leaves a response out of the rows. -/
theorem ModelCall.Accounted.settled (h : call.Accounted) : call.Settled := by
  by_cases hcaller : call.caller = .classification
  · exact settled_of_classification hcaller h
  · exact settled_of_decision hcaller h

end Calls

section Runs

/-- The total is the one of the rows, and one row has no cost or the rows cover the responses. -/
structure RunLedger.Sound (s : RunLedger) : Prop where
  total : s.totalCostMicrousd = runTotal s.rows
  covers : none ∈ s.rows ∨ ∃ costs : List ℤ, s.received = costs.map some ∧
    costs.sum ≤ (s.rows.map (·.getD 0)).sum

theorem RunLedger.Sound.spends {s : RunLedger} (h : s.Sound) : s.Covers := by
  intro total htotal
  rw [h.total, runTotal] at htotal
  split at htotal
  · cases htotal
  · rename_i hpriced
    rw [not_or] at hpriced
    obtain rfl := Option.some.inj htotal
    exact h.covers.resolve_left hpriced.2

/-- One call keeps the ledger sound, if a row without a cost is there or the call is accounted
for. -/
theorem RunLedger.Sound.recordCall {s : RunLedger} {call : ModelCall} (h : s.Sound)
    (hcall : none ∈ s.rows ∨ call.Accounted) : (recordCall s call).Sound := by
  rcases hcall with hnone | hcall
  · -- A row without a cost keeps the total null for good.
    unfold Costs.recordCall
    split
    · exact ⟨rfl, .inl (List.mem_append_left _ hnone)⟩
    · exact ⟨h.total, .inl hnone⟩
  · cases hcall.settled with
    | unknown hrow =>
      rw [Costs.recordCall, hrow]
      exact ⟨rfl, .inl (List.mem_append_right _ (List.mem_singleton_self _))⟩
    | silent hrow hcosts =>
      rw [Costs.recordCall, hrow, hcosts]
      exact ⟨h.total, by simpa using h.covers⟩
    | covered cost costs hrow hcosts hle =>
      rw [Costs.recordCall, hrow]
      refine ⟨rfl, ?_⟩
      rcases h.covers with hnone | ⟨before, hreceived, hbefore⟩
      · exact .inl (List.mem_append_left _ hnone)
      · refine .inr ⟨before ++ costs, ?_, ?_⟩
        · rw [hreceived, hcosts, List.map_append]
        · rw [List.sum_append, List.map_append, List.sum_append]
          have hone : ([some cost].map (·.getD 0)).sum = cost := by simp
          rw [hone]
          omega

end Runs

end Costs

open Costs

/-- The total of a run covers all that its model calls cost, as long as no response is lost before
a row without a cost is there. -/
theorem run_cost_covers {calls : List ModelCall}
    (h : Along recordCall (fun s call => none ∈ s.rows ∨ call.Accounted) {} calls) :
    (run recordCall {} calls).Covers := by
  have hsound : (run recordCall {} calls).Sound := by
    refine h.invariant ⟨rfl, .inr ⟨[], rfl, le_refl _⟩⟩ ?_
    exact fun s call hs hcall => hs.recordCall hcall
  exact hsound.spends

section Demo

/-- A response with its content and its two token counts. -/
def demoResponse (content : String) (promptTokens completionTokens : ℤ) : Attempt :=
  .body (.obj [("choices", .arr [.obj [("message", .obj [("content", .str content)])]]),
    ("usage", .obj [("prompt_tokens", .int promptTokens),
      ("completion_tokens", .int completionTokens)])])

/-- A call whose answers are valid if they read `valid`. -/
def demoCall (caller : Caller) (first second : Attempt) : ModelCall where
  caller := caller
  maxTokens := 2048
  parses s := s == "valid"
  first := first
  second := second
  pricing := some { inputPerMillion := 2, outputPerMillion := 8 }
  stored := true

def demoCalls : List ModelCall :=
  [demoCall .classification (demoResponse "valid" 100 20) .httpError,
    demoCall .decision (demoResponse "valid" 200 50) .httpError]

instance demoCalls_facts : Fact ((run recordCall {} demoCalls).totalCostMicrousd = some 1160 ∧
    (∀ call ∈ demoCalls, call.stored = true) ∧ ∀ call ∈ demoCalls, call.turn call.first = .ok ()) :=
  ⟨by decide +kernel⟩

theorem run_cost_covers_demo :
    (run recordCall {} demoCalls).totalCostMicrousd = some 1160 ∧
      (run recordCall {} demoCalls).Covers := by
  obtain ⟨htotal, hstored, hturns⟩ := demoCalls_facts.out
  have hcounted : ∀ call ∈ demoCalls, call.Accounted := fun call hcall =>
    .inr ⟨hstored call hcall, .inl (hturns call hcall)⟩
  exact ⟨htotal, run_cost_covers (Along.of_mem fun call hcall _ => .inr (hcounted call hcall))⟩

/-- A decision whose first answer is no decision: the total is what the repair alone costs. -/
def repairedCalls : List ModelCall :=
  [demoCall .decision (demoResponse "a decision" 1000 500) (demoResponse "valid" 100 20)]

instance repairedCalls_facts : Fact ((run recordCall {} repairedCalls).totalCostMicrousd = some 360 ∧
    (run recordCall {} repairedCalls).received = [some 6000, some 360]) := ⟨by decide +kernel⟩

theorem repair_undercounts : ¬ ∀ calls : List ModelCall, (run recordCall {} calls).Covers := by
  intro hall
  obtain ⟨htotal, hreceived⟩ := repairedCalls_facts.out
  obtain ⟨costs, hcosts, hle⟩ := hall repairedCalls 360 htotal
  rw [hreceived] at hcosts
  have hsame : costs = [6000, 360] :=
    (List.map_injective_iff.mpr (Option.some_injective ℤ)) hcosts.symm
  rw [hsame] at hle
  exact absurd hle (by decide)

end Demo

end CommerceAgent
