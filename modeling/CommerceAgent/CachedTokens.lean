import CommerceAgent.RunCosts

/-! Cached tokens on the bill: `_normalize_token_usage` passes a prompt count that holds them, and the
calculator charges them beside it. -/
namespace CommerceAgent

open Json

namespace Costs

section Payloads

variable {raw : Dict} {usage : TokenUsage}

def promptCount (raw : Dict) : Option ℕ :=
  nonNegativeInt ((Dict.get? raw "input_tokens").or (Dict.get? raw "prompt_tokens"))

def completionCount (raw : Dict) : Option ℕ :=
  nonNegativeInt ((Dict.get? raw "output_tokens").or (Dict.get? raw "completion_tokens"))

def cachedCount (raw : Dict) : Option ℕ :=
  detailed (nonNegativeInt (Dict.get? raw "cached_input_tokens")) (Dict.get? raw "prompt_tokens_details")
    "cached_tokens"

def reasoningCount (raw : Dict) : Option ℕ :=
  detailed (nonNegativeInt (Dict.get? raw "reasoning_tokens"))
    (Dict.get? raw "completion_tokens_details") "reasoning_tokens"

/-- A payload whose cached tokens are prompt tokens, and whose reasoning tokens completion tokens. -/
structure Included (raw : Dict) : Prop where
  cached : ∀ c ∈ cachedCount raw, ∃ p ∈ promptCount raw, c ≤ p
  reasoning : ∀ r ∈ reasoningCount raw, ∃ p ∈ completionCount raw, r ≤ p

/-- The payload with its cached count, wherever it is read from, set to zero. -/
def withoutCache (raw : Dict) : Dict :=
  if (nonNegativeInt (Dict.get? raw "cached_input_tokens")).isSome then
    Dict.set raw "cached_input_tokens" (.int 0)
  else match Dict.get? raw "prompt_tokens_details" with
    | some (.obj details) =>
      if (nonNegativeInt (Dict.get? details "cached_tokens")).isSome then
        Dict.set raw "prompt_tokens_details" (.obj (Dict.set details "cached_tokens" (.int 0)))
      else raw
    | _ => raw

theorem get?_withoutCache {k : String} (hcached : "cached_input_tokens" ≠ k)
    (hdetails : "prompt_tokens_details" ≠ k) : Dict.get? (withoutCache raw) k = Dict.get? raw k := by
  unfold withoutCache
  split
  · exact Dict.get?_set_of_ne raw _ hcached
  · split
    · split
      · exact Dict.get?_set_of_ne raw _ hdetails
      · rfl
    · rfl

theorem cachedCount_withoutCache : cachedCount (withoutCache raw) = (cachedCount raw).map fun _ => 0 := by
  unfold withoutCache
  split
  · rename_i hcount
    obtain ⟨n, hn⟩ := Option.isSome_iff_exists.mp hcount
    rw [cachedCount, cachedCount, Dict.get?_set_self, hn]
    rfl
  · rename_i hcount
    rw [Option.not_isSome_iff_eq_none] at hcount
    split
    · rename_i details hdetails
      have hread : cachedCount raw = nonNegativeInt (Dict.get? details "cached_tokens") := by
        rw [cachedCount, hcount, hdetails]
        rfl
      split
      · rename_i hcached
        obtain ⟨n, hn⟩ := Option.isSome_iff_exists.mp hcached
        rw [hread, hn, cachedCount, Dict.get?_set_self, Dict.get?_set_of_ne raw _ (by decide), hcount]
        rw [detailed, Dict.get?_set_self]
        rfl
      · rename_i hcached
        rw [Option.not_isSome_iff_eq_none] at hcached
        rw [hread, hcached]
        rfl
    · rename_i hdetails
      have hread : cachedCount raw = none := by
        rw [cachedCount, hcount, detailed]
        exact fun details _ => hdetails details
      rw [hread]
      rfl

def totalCount (raw : Dict) : Option ℕ := nonNegativeInt (Dict.get? raw "total_tokens")

def usageVersion (raw : Dict) : Option String :=
  (Dict.getStr? raw "provider_usage_version").filter fun s => Texts.strip s != ""

/-- What `_normalize_token_usage` reads of a payload. -/
theorem normalize_eq : normalizeTokenUsage (some (.obj raw)) =
    if (promptCount raw).isNone && (completionCount raw).isNone && (totalCount raw).isNone &&
        (cachedCount raw).isNone && (reasoningCount raw).isNone then .ok none
    else if (usageVersion raw).any fun s => 32 < s.length then .error .handled
    else .ok (some {
      inputTokens := promptCount raw
      outputTokens := completionCount raw
      cachedInputTokens := cachedCount raw
      reasoningTokens := reasoningCount raw
      totalTokens := totalCount raw
      estimated := (promptCount raw).isNone || (completionCount raw).isNone || (totalCount raw).isNone
      providerUsageVersion := usageVersion raw }) := rfl

theorem counts_of_normalized (h : normalizeTokenUsage (some (.obj raw)) = .ok (some usage)) :
    usage.inputTokens = promptCount raw ∧ usage.outputTokens = completionCount raw ∧
    usage.cachedInputTokens = cachedCount raw ∧ usage.reasoningTokens = reasoningCount raw := by
  rw [normalize_eq] at h
  split_ifs at h
  · exact nomatch Except.ok.inj h
  · obtain rfl := Option.some.inj (Except.ok.inj h)
    exact ⟨rfl, rfl, rfl, rfl⟩

/-- Without the cached count the payload is read as before. -/
theorem normalize_withoutCache (h : normalizeTokenUsage (some (.obj raw)) = .ok (some usage)) :
    normalizeTokenUsage (some (.obj (withoutCache raw))) =
      .ok (some { usage with cachedInputTokens := usage.cachedInputTokens.map fun _ => 0 }) := by
  have hkept : ∀ k, "cached_input_tokens" ≠ k → "prompt_tokens_details" ≠ k →
      Dict.get? (withoutCache raw) k = Dict.get? raw k := fun k => get?_withoutCache
  have hprompt : promptCount (withoutCache raw) = promptCount raw := by
    rw [promptCount, promptCount, hkept _ (by decide) (by decide), hkept _ (by decide) (by decide)]
  have hcompletion : completionCount (withoutCache raw) = completionCount raw := by
    rw [completionCount, completionCount, hkept _ (by decide) (by decide),
      hkept _ (by decide) (by decide)]
  have hreasoning : reasoningCount (withoutCache raw) = reasoningCount raw := by
    rw [reasoningCount, reasoningCount, hkept _ (by decide) (by decide),
      hkept _ (by decide) (by decide)]
  have htotal : totalCount (withoutCache raw) = totalCount raw := by
    rw [totalCount, totalCount, hkept _ (by decide) (by decide)]
  have hversion : usageVersion (withoutCache raw) = usageVersion raw := by
    rw [usageVersion, usageVersion, Dict.getStr?, Dict.getStr?, hkept _ (by decide) (by decide)]
  rw [normalize_eq] at h ⊢
  rw [hprompt, hcompletion, hreasoning, htotal, hversion, cachedCount_withoutCache, Option.isNone_map]
  split_ifs at h ⊢
  · exact nomatch Except.ok.inj h
  · obtain rfl := Option.some.inj (Except.ok.inj h)
    rfl

end Payloads

section Charges

variable {usage : TokenUsage} {pricing : ModelPricing}

/-- The tokens that the calculator charges at a rate of the input side. -/
def TokenUsage.inputCharges (usage : TokenUsage) (pricing : ModelPricing) : List (Option ℕ × ℚ≥0) :=
  [(usage.inputTokens, pricing.inputPerMillion), (usage.cachedInputTokens, pricing.cached)]

/-- The cost is what the tokens of the input side are charged, and those of the output side. -/
theorem totalMicrousd_eq (hbillable : usageHasBillableTokens usage = true) :
    totalMicrousd (some usage) (some pricing) =
      some (((usage.inputCharges pricing).map fun c => charge c.1 c.2).sum +
        charge usage.outputTokens pricing.outputPerMillion +
        charge usage.reasoningTokens pricing.reasoning) := by
  rw [totalMicrousd, if_pos hbillable]
  simp [TokenUsage.inputCharges]

theorem charge_nonneg (tokens : Option ℕ) (price : ℚ≥0) : 0 ≤ charge tokens price := by
  unfold charge
  split
  · exact le_rfl
  · have hprice : (0 : ℚ) ≤ price := price.2
    apply Int.floor_nonneg.mpr
    rw [MICROUSD_PER_USD, TOKENS_PER_MILLION]
    positivity

theorem charge_zero (tokens : Option ℕ) (price : ℚ≥0) : charge (tokens.map fun _ => 0) price = 0 := by
  cases tokens with
  | none => rfl
  | some n =>
    rw [Option.map_some, charge]
    norm_num

/-- The tokens that are charged on the input side, as often as they are charged. -/
def TokenUsage.chargedInput (usage : TokenUsage) (pricing : ModelPricing) : ℕ :=
  ((usage.inputCharges pricing).map fun c => c.1.getD 0).sum

/-- The cost of a payload. -/
def payloadCost (pricing : ModelPricing) (raw : Dict) : Option ℤ :=
  match normalizeTokenUsage (some (.obj raw)) with
  | .ok usage => totalMicrousd usage (some pricing)
  | .error _ => none

/-- Caching does not raise the bill of a payload, and each prompt token is charged at one input rate. -/
structure CachingSaves (pricing : ModelPricing) (raw : Dict) (usage : TokenUsage) : Prop where
  cheaper : ∀ cost ∈ payloadCost pricing raw, ∃ cost' ∈ payloadCost pricing (withoutCache raw), cost ≤ cost'
  once : usage.chargedInput pricing = (promptCount raw).getD 0

variable {raw : Dict}

/-- Without the cached count a bill is smaller by what the cached tokens are charged. -/
theorem payloadCost_withoutCache {cost : ℤ} (h : normalizeTokenUsage (some (.obj raw)) = .ok (some usage))
    (hcost : payloadCost pricing raw = some cost) :
    payloadCost pricing (withoutCache raw) =
      some (cost - charge usage.cachedInputTokens pricing.cached) := by
  rw [payloadCost, h] at hcost
  rw [payloadCost, normalize_withoutCache h]
  dsimp only at hcost ⊢
  have hbillable : usageHasBillableTokens usage = true := by
    by_contra hnone
    rw [totalMicrousd, if_neg hnone] at hcost
    exact nomatch hcost
  have hbillable' : usageHasBillableTokens
      { usage with cachedInputTokens := usage.cachedInputTokens.map fun _ => 0 } = true := by
    simpa [usageHasBillableTokens] using hbillable
  rw [totalMicrousd_eq hbillable, Option.some.injEq] at hcost
  rw [totalMicrousd_eq hbillable', Option.some.injEq]
  simp only [TokenUsage.inputCharges, List.map_cons, List.map_nil, List.sum_cons, List.sum_nil,
    charge_zero] at hcost ⊢
  omega

/-- The bill is not raised exactly when the cached tokens are charged nothing. -/
theorem cheaper_iff (h : normalizeTokenUsage (some (.obj raw)) = .ok (some usage))
    (hbillable : usageHasBillableTokens usage = true) :
    (∀ cost ∈ payloadCost pricing raw, ∃ cost' ∈ payloadCost pricing (withoutCache raw), cost ≤ cost') ↔
      charge usage.cachedInputTokens pricing.cached = 0 := by
  obtain ⟨cost, hcost⟩ : ∃ cost, payloadCost pricing raw = some cost := by
    rw [payloadCost, h]
    exact ⟨_, totalMicrousd_eq hbillable⟩
  have hcost' := payloadCost_withoutCache h hcost
  have hnonneg := charge_nonneg usage.cachedInputTokens pricing.cached
  rw [hcost, hcost']
  simp only [Option.mem_def, Option.some.injEq, forall_eq', exists_eq_left']
  omega

/-- Every cached token is charged a second time: caching is without harm exactly where there is none. -/
theorem caching_saves_iff (pricing : ModelPricing) (raw : Dict) (usage : TokenUsage)
    (h : normalizeTokenUsage (some (.obj raw)) = .ok (some usage)) :
    CachingSaves pricing raw usage ↔ (cachedCount raw).getD 0 = 0 := by
  obtain ⟨hinput, _, hcached, _⟩ := counts_of_normalized h
  have honce : usage.chargedInput pricing = (promptCount raw).getD 0 ↔ (cachedCount raw).getD 0 = 0 := by
    simp [TokenUsage.chargedInput, TokenUsage.inputCharges, hinput, hcached]
  rw [← honce]
  refine ⟨CachingSaves.once, fun hcharged => ⟨?_, hcharged⟩⟩
  intro cost hcost
  have hfree : charge usage.cachedInputTokens pricing.cached = 0 := by
    rw [hcached]
    have hzero := honce.mp hcharged
    cases hcount : cachedCount raw with
    | none => rfl
    | some n =>
      rw [hcount] at hzero
      obtain rfl : n = 0 := hzero
      exact charge_zero (some 0) pricing.cached
  refine ⟨_, payloadCost_withoutCache h hcost, ?_⟩
  rw [hfree]
  omega

def demoPricing : ModelPricing where
  inputPerMillion := 0.5
  outputPerMillion := 1
  cachedInputPerMillion := some 0.1

/-- A prompt of 100 tokens, of which 40 are cached. -/
def demoPayload (cached : ℤ) : Dict :=
  [("prompt_tokens", .int 100), ("completion_tokens", .int 10), ("total_tokens", .int 110),
    ("prompt_tokens_details", .obj [("cached_tokens", .int cached)])]

def demoUsage (cached : ℕ) : TokenUsage where
  inputTokens := some 100
  outputTokens := some 10
  cachedInputTokens := some cached
  totalTokens := some 110

theorem caching_saves_iff_uncached : CachingSaves demoPricing (demoPayload 0) (demoUsage 0) :=
  (caching_saves_iff demoPricing (demoPayload 0) (demoUsage 0) rfl).mpr rfl

/-- With 40 of the 100 tokens in the cache the bill is 64 microusd, without it 60. -/
theorem caching_raises_bill :
    Included (demoPayload 40) ∧
    (∀ price ∈ demoPricing.cachedInputPerMillion, price ≤ demoPricing.inputPerMillion) ∧
    normalizeTokenUsage (some (.obj (demoPayload 40))) = .ok (some (demoUsage 40)) ∧
    payloadCost demoPricing (demoPayload 40) = some 64 ∧
    payloadCost demoPricing (withoutCache (demoPayload 40)) = some 60 ∧
    (demoUsage 40).chargedInput demoPricing = 140 ∧
    ¬ CachingSaves demoPricing (demoPayload 40) (demoUsage 40) := by
  have hcost : payloadCost demoPricing (demoPayload 40) = some 64 := by decide +kernel
  have hzero : payloadCost demoPricing (withoutCache (demoPayload 40)) = some 60 := by decide +kernel
  have hincluded : Included (demoPayload 40) := by
    constructor
    · intro c hc
      obtain rfl : 40 = c := Option.some.inj hc
      exact ⟨100, rfl, by decide⟩
    · exact fun r hr => nomatch hr
  refine ⟨hincluded, ?_, rfl, hcost, hzero, rfl, ?_⟩
  · intro price hprice
    obtain rfl : 0.1 = price := Option.some.inj hprice
    decide +kernel
  · intro hsaves
    obtain ⟨cost, hcost', hle⟩ := hsaves.cheaper 64 hcost
    obtain rfl : 60 = cost := Option.some.inj (hzero.symm.trans hcost')
    exact absurd hle (by decide)

end Charges

end Costs

end CommerceAgent
