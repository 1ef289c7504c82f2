import CommerceAgent.ReleaseLifecycle
import Mathlib.Tactic.NormNum

/-! The four measures that the canary guard compares with a baseline: one that is missing passes. -/
namespace CommerceAgent.Delivery

section Measures

variable {F : Type}

inductive Measure where
  | p95E2e
  | p99E2e
  | p95Cost
  | lowRiskHandoff
  deriving DecidableEq

def CanaryMetrics.value (metrics : CanaryMetrics F) : Measure → Option F
  | .p95E2e => metrics.p95E2eMs
  | .p99E2e => metrics.p99E2eMs
  | .p95Cost => metrics.p95CostMicrousd
  | .lowRiskHandoff => metrics.lowRiskHandoffRate

def CanaryMetrics.baseline (metrics : CanaryMetrics F) : Measure → Option F
  | .p95E2e => metrics.baselineP95E2eMs
  | .p99E2e => metrics.baselineP99E2eMs
  | .p95Cost => metrics.baselineP95CostMicrousd
  | .lowRiskHandoff => metrics.baselineLowRiskHandoffRate

def Measure.multiplier : Measure → ℚ
  | .p95E2e => 1.15
  | .p99E2e => 1.25
  | .p95Cost => 1.10
  | .lowRiskHandoff => 1.20

/-- The record with another value of a measure. -/
def CanaryMetrics.withValue (metrics : CanaryMetrics F) (i : Measure) (value : Option F) : CanaryMetrics F :=
  match i with
  | .p95E2e => { metrics with p95E2eMs := value }
  | .p99E2e => { metrics with p99E2eMs := value }
  | .p95Cost => { metrics with p95CostMicrousd := value }
  | .lowRiskHandoff => { metrics with lowRiskHandoffRate := value }

def CanaryMetrics.withBaseline (metrics : CanaryMetrics F) (i : Measure) (baseline : Option F) :
    CanaryMetrics F :=
  match i with
  | .p95E2e => { metrics with baselineP95E2eMs := baseline }
  | .p99E2e => { metrics with baselineP99E2eMs := baseline }
  | .p95Cost => { metrics with baselineP95CostMicrousd := baseline }
  | .lowRiskHandoff => { metrics with baselineLowRiskHandoffRate := baseline }

variable {metrics : CanaryMetrics F} {i j : Measure}

theorem value_withValue {value : Option F} :
    (metrics.withValue i value).value j = if i = j then value else metrics.value j := by
  cases i <;> cases j <;> rfl

theorem value_withBaseline {baseline : Option F} :
    (metrics.withBaseline i baseline).value j = metrics.value j := by
  cases i <;> cases j <;> rfl

theorem baseline_withValue {value : Option F} :
    (metrics.withValue i value).baseline j = metrics.baseline j := by
  cases i <;> cases j <;> rfl

theorem baseline_withBaseline {baseline : Option F} :
    (metrics.withBaseline i baseline).baseline j = if i = j then baseline else metrics.baseline j := by
  cases i <;> cases j <;> rfl

end Measures

section Guard

variable {metrics metrics' : CanaryMetrics ℚ} {i j : Measure} {stage : Stage} {version : String}

/-- A measure that is there with its baseline and above its multiple. -/
def CanaryMetrics.Above (metrics : CanaryMetrics ℚ) (i : Measure) : Prop :=
  above (metrics.value i) (metrics.baseline i) i.multiplier = true

/-- A measure that is there with its baseline and within its multiple. -/
def CanaryMetrics.Within (metrics : CanaryMetrics ℚ) (i : Measure) : Prop :=
  ∃ value ∈ metrics.value i, ∃ baseline ∈ metrics.baseline i, value ≤ baseline * i.multiplier

/-- A measure or a baseline that is missing. -/
def CanaryMetrics.Missing (metrics : CanaryMetrics ℚ) (i : Measure) : Prop :=
  metrics.value i = none ∨ metrics.baseline i = none

/-- The checks of the guard other than those of the measures. -/
structure ChecksPass (metrics : CanaryMetrics ℚ) : Prop where
  quality : metrics.qualityGatePass = some true
  safety : metrics.safetyGatePass = some true
  p0 : metrics.p0Events ≤ 0
  coverage : ∃ coverage ∈ metrics.terminalResponseCoverage, 1 ≤ coverage
  scope : metrics.skillScopeViolation = false
  slice : ∀ delta ∈ metrics.targetSliceQualityDelta, 0 ≤ delta

theorem within_or_missing : ¬ metrics.Above i ↔ metrics.Within i ∨ metrics.Missing i := by
  unfold CanaryMetrics.Above CanaryMetrics.Within CanaryMetrics.Missing above
  cases metrics.value i <;> cases metrics.baseline i <;> simp

/-- The guard has no reason to stop exactly when the other checks pass and no measure is above. -/
theorem evaluateCanary_eq_nil :
    evaluateCanary metrics = [] ↔ ChecksPass metrics ∧ ∀ i, ¬ metrics.Above i := by
  have hmeasures : (∀ i, ¬ metrics.Above i) ↔
      ¬ metrics.Above .p95E2e ∧ ¬ metrics.Above .p99E2e ∧ ¬ metrics.Above .p95Cost ∧
        ¬ metrics.Above .lowRiskHandoff := by
    constructor
    · exact fun h => ⟨h _, h _, h _, h _⟩
    · rintro ⟨h95, h99, hcost, hhandoff⟩ i
      cases i
      · exact h95
      · exact h99
      · exact hcost
      · exact hhandoff
  have hcoverage : (∃ coverage ∈ metrics.terminalResponseCoverage, 1 ≤ coverage) ↔
      ¬ (metrics.terminalResponseCoverage.all fun coverage => decide (coverage < 1)) = true := by
    cases metrics.terminalResponseCoverage <;> simp
  have hslice : (∀ delta ∈ metrics.targetSliceQualityDelta, 0 ≤ delta) ↔
      ¬ (metrics.targetSliceQualityDelta.any fun delta => decide (delta < 0)) = true := by
    cases metrics.targetSliceQualityDelta <;> simp
  rw [hmeasures]
  constructor
  · intro h
    simp only [evaluateCanary, List.append_eq_nil_iff, ite_eq_right_iff, List.cons_ne_nil, imp_false,
      not_not] at h
    obtain ⟨⟨⟨⟨⟨⟨⟨⟨⟨hquality, hsafety⟩, hp0⟩, hcover⟩, h95⟩, h99⟩, hcost⟩, hhandoff⟩, hscope⟩, hdelta⟩ := h
    exact ⟨⟨hquality, hsafety, not_lt.mp hp0, hcoverage.mpr hcover, by simpa using hscope,
      hslice.mpr hdelta⟩, h95, h99, hcost, hhandoff⟩
  · rintro ⟨⟨hquality, hsafety, hp0, hcover, hscope, hdelta⟩, h95, h99, hcost, hhandoff⟩
    simp only [evaluateCanary, List.append_eq_nil_iff, ite_eq_right_iff, List.cons_ne_nil, imp_false,
      not_not]
    exact ⟨⟨⟨⟨⟨⟨⟨⟨⟨hquality, hsafety⟩, not_lt.mpr hp0⟩, hcoverage.mp hcover⟩, h95⟩, h99⟩, hcost⟩, hhandoff⟩,
      by simp [hscope]⟩, hslice.mp hdelta⟩

/-- The release is not stopped. -/
def Proceeds (stage : Stage) (version : String) (metrics : CanaryMetrics ℚ) : Prop :=
  (transitionStage stage version metrics).status ≠ .stopped

/-- A stage of the ladder. -/
def Stage.OnLadder (stage : Stage) : Prop := stage = .full ∨ stage.next.isSome

theorem proceeds_iff : Proceeds stage version metrics ↔
    stage.OnLadder ∧ ChecksPass metrics ∧ ∀ i, ¬ metrics.Above i := by
  rw [← evaluateCanary_eq_nil, Proceeds]
  constructor
  · intro h
    rcases transitionStage_cases stage version metrics with ⟨reasons, hstop⟩ | ⟨hpass, hstage⟩
    · rw [hstop] at h
      exact absurd rfl h
    · rcases hstage with ⟨hfull, _⟩ | ⟨next, hnext, _⟩
      · exact ⟨.inl hfull, hpass⟩
      · exact ⟨.inr (hnext ▸ rfl), hpass⟩
  · rintro ⟨hladder, hpass⟩
    rcases hladder with rfl | hnext
    · rw [transitionStage_full hpass]
      decide
    · obtain ⟨next, hnext⟩ := Option.isSome_iff_exists.mp hnext
      rw [transitionStage_next hpass hnext]
      exact nofun

/-- What the runbook asks for before a release advances. -/
structure Green (metrics : CanaryMetrics ℚ) : Prop where
  quality : metrics.qualityGatePass = some true
  safety : metrics.safetyGatePass = some true
  p0 : metrics.p0Events ≤ 0
  coverage : metrics.terminalResponseCoverage = some 1
  measures : ∀ i, metrics.Within i

/-- One of the conditions made worse, or unknown. -/
inductive Worse (metrics : CanaryMetrics ℚ) : CanaryMetrics ℚ → Prop
  | quality (gate : Option Bool) (h : gate ≠ some true) :
      Worse metrics { metrics with qualityGatePass := gate }
  | safety (gate : Option Bool) (h : gate ≠ some true) :
      Worse metrics { metrics with safetyGatePass := gate }
  | p0 (events : ℤ) (h : metrics.p0Events ≤ events) : Worse metrics { metrics with p0Events := events }
  | coverage (coverage' : Option ℚ)
      (h : ∀ c' ∈ coverage', ∃ c ∈ metrics.terminalResponseCoverage, c' ≤ c) :
      Worse metrics { metrics with terminalResponseCoverage := coverage' }
  | value (i : Measure) (value' : Option ℚ) (h : ∀ v' ∈ value', ∃ v ∈ metrics.value i, v ≤ v') :
      Worse metrics (metrics.withValue i value')
  | baseline (i : Measure) (baseline' : Option ℚ)
      (h : ∀ b' ∈ baseline', ∃ b ∈ metrics.baseline i, b' ≤ b) :
      Worse metrics (metrics.withBaseline i baseline')

/-- The guard fails closed at a record: it lets only what is green advance, and what is stopped stays
so when it gets worse. -/
structure FailsClosed (stage : Stage) (version : String) (metrics : CanaryMetrics ℚ) : Prop where
  advanced : Proceeds stage version metrics → Green metrics
  stopped : ∀ metrics', Worse metrics metrics' → ¬ Proceeds stage version metrics →
    ¬ Proceeds stage version metrics'

/-- A record that hangs on the measures alone: none is above and one is missing (or the coverage is no
fraction), or a single one is above. -/
def Exposed (metrics : CanaryMetrics ℚ) : Prop :=
  ChecksPass metrics ∧
    ((∀ i, ¬ metrics.Above i) ∧
      ((∃ i, metrics.Missing i) ∨ ∃ coverage ∈ metrics.terminalResponseCoverage, 1 < coverage) ∨
    ∃ i, metrics.Above i ∧ ∀ j, j ≠ i → ¬ metrics.Above j)

theorem checks_withValue {value : Option ℚ} : ChecksPass (metrics.withValue i value) ↔ ChecksPass metrics := by
  constructor <;> rintro ⟨hquality, hsafety, hp0, hcoverage, hscope, hslice⟩ <;>
    cases i <;> exact ⟨hquality, hsafety, hp0, hcoverage, hscope, hslice⟩

theorem checks_withBaseline {baseline : Option ℚ} :
    ChecksPass (metrics.withBaseline i baseline) ↔ ChecksPass metrics := by
  constructor <;> rintro ⟨hquality, hsafety, hp0, hcoverage, hscope, hslice⟩ <;>
    cases i <;> exact ⟨hquality, hsafety, hp0, hcoverage, hscope, hslice⟩

/-- A change of one measure leaves the others as they are. -/
theorem above_withValue {value : Option ℚ} (h : j ≠ i) :
    (metrics.withValue i value).Above j ↔ metrics.Above j := by
  rw [CanaryMetrics.Above, CanaryMetrics.Above, value_withValue, baseline_withValue, if_neg h.symm]

theorem above_withBaseline {baseline : Option ℚ} (h : j ≠ i) :
    (metrics.withBaseline i baseline).Above j ↔ metrics.Above j := by
  rw [CanaryMetrics.Above, CanaryMetrics.Above, value_withBaseline, baseline_withBaseline, if_neg h.symm]

/-- A measure that is not known is not above. -/
theorem not_above_withValue_none : ¬ (metrics.withValue i none).Above i := by
  rw [CanaryMetrics.Above, value_withValue, if_pos rfl]
  exact Bool.false_ne_true

/-- With one measure changed and none above, none was above before, unless that one alone was. -/
theorem none_above_of_changed (hsound : ChecksPass metrics) (hexposed : ¬ Exposed metrics)
    (hothers : ∀ j, j ≠ i → ¬ metrics.Above j) : ∀ j, ¬ metrics.Above j := by
  intro j hj
  by_cases hji : j = i
  · subst hji
    exact hexposed ⟨hsound, .inr ⟨j, hj, hothers⟩⟩
  · exact hothers j hji hj

theorem green_of_passed (hsound : ChecksPass metrics) (hnone : ∀ i, ¬ metrics.Above i)
    (hexposed : ¬ Exposed metrics) : Green metrics := by
  have hmissing : ∀ i, ¬ metrics.Missing i := fun i hi => hexposed ⟨hsound, .inl ⟨hnone, .inl ⟨i, hi⟩⟩⟩
  obtain ⟨coverage, hcoverage, hfull⟩ := hsound.coverage
  have hfraction : coverage ≤ 1 := by
    by_contra hlt
    exact hexposed ⟨hsound, .inl ⟨hnone, .inr ⟨coverage, hcoverage, not_le.mp hlt⟩⟩⟩
  refine ⟨hsound.quality, hsound.safety, hsound.p0, ?_, ?_⟩
  · rw [Option.mem_def.mp hcoverage, le_antisymm hfraction hfull]
  · exact fun i => (within_or_missing.mp (hnone i)).resolve_right (hmissing i)

/-- What is stopped and not exposed is stopped for a reason that no worsening takes away. -/
theorem passed_before (hexposed : ¬ Exposed metrics) (hworse : Worse metrics metrics')
    (hsound' : ChecksPass metrics') (hnone' : ∀ i, ¬ metrics'.Above i) :
    ChecksPass metrics ∧ ∀ i, ¬ metrics.Above i := by
  obtain ⟨hquality', hsafety', hp0', hcoverage', hscope', hslice'⟩ := id hsound'
  cases hworse with
  | quality gate h => exact absurd hquality' h
  | safety gate h => exact absurd hsafety' h
  | p0 events h => exact ⟨⟨hquality', hsafety', h.trans hp0', hcoverage', hscope', hslice'⟩, hnone'⟩
  | coverage coverage' h =>
    obtain ⟨c', hc', hfull⟩ := hcoverage'
    obtain ⟨c, hc, hle⟩ := h c' hc'
    exact ⟨⟨hquality', hsafety', hp0', ⟨c, hc, hfull.trans hle⟩, hscope', hslice'⟩, hnone'⟩
  | value i value' h =>
    have hsound := checks_withValue.mp hsound'
    exact ⟨hsound, none_above_of_changed hsound hexposed fun j hj => (above_withValue hj).not.mp (hnone' j)⟩
  | baseline i baseline' h =>
    have hsound := checks_withBaseline.mp hsound'
    exact ⟨hsound,
      none_above_of_changed hsound hexposed fun j hj => (above_withBaseline hj).not.mp (hnone' j)⟩

/-- The guard fails closed at exactly the records that are not exposed, and at a stage that it does not
know. -/
theorem failsClosed_iff (stage : Stage) (version : String) (metrics : CanaryMetrics ℚ) :
    FailsClosed stage version metrics ↔ (stage.OnLadder → ¬ Exposed metrics) := by
  constructor
  · rintro ⟨hadvanced, hstopped⟩ hladder ⟨hsound, hbare | ⟨i, hi, hothers⟩⟩
    · obtain ⟨hnone, hgap⟩ := hbare
      have hgreen := hadvanced (proceeds_iff.mpr ⟨hladder, hsound, hnone⟩)
      rcases hgap with ⟨i, hi⟩ | ⟨coverage, hcoverage, hlt⟩
      · obtain ⟨value, hvalue, baseline, hbaseline, _⟩ := hgreen.measures i
        rcases hi with hi | hi
        · exact nomatch hi.symm.trans hvalue
        · exact nomatch hi.symm.trans hbaseline
      · obtain rfl : 1 = coverage := Option.some.inj (hgreen.coverage.symm.trans hcoverage)
        exact lt_irrefl _ hlt
    · -- The one measure that stops the release becomes unknown.
      have hworse : Worse metrics (metrics.withValue i none) := .value i none fun _ h => nomatch h
      refine hstopped _ hworse (fun h => (proceeds_iff.mp h).2.2 i hi) (proceeds_iff.mpr ⟨hladder, ?_, ?_⟩)
      · exact checks_withValue.mpr hsound
      · intro j
        by_cases hj : j = i
        · subst hj
          exact not_above_withValue_none
        · exact (above_withValue hj).not.mpr (hothers j hj)
  · intro hexposed
    constructor
    · intro h
      obtain ⟨hladder, hsound, hnone⟩ := proceeds_iff.mp h
      exact green_of_passed hsound hnone (hexposed hladder)
    · intro metrics' hworse hstop h'
      obtain ⟨hladder, hsound', hnone'⟩ := proceeds_iff.mp h'
      exact hstop (proceeds_iff.mpr ⟨hladder, passed_before (hexposed hladder) hworse hsound' hnone'⟩)

/-- The latency of a canary, twice that of the baseline or not known. -/
def demoSlow (value : Option ℚ) : CanaryMetrics ℚ :=
  { greenMetrics with p95E2eMs := value, baselineP95E2eMs := some 100 }

/-- A canary that is too slow is stopped; with its latency unknown it advances. -/
theorem unknown_latency_proceeds :
    ¬ Proceeds .canary5 "v1" (demoSlow (some 200)) ∧ Worse (demoSlow (some 200)) (demoSlow none) ∧
    Proceeds .canary5 "v1" (demoSlow none) ∧ ¬ Green (demoSlow none) ∧
    ¬ FailsClosed .canary5 "v1" (demoSlow (some 200)) ∧ ¬ FailsClosed .canary5 "v1" (demoSlow none) := by
  have hstop : ¬ Proceeds .canary5 "v1" (demoSlow (some 200)) := by
    unfold Proceeds
    decide +kernel
  have hadvances : Proceeds .canary5 "v1" (demoSlow none) := by
    unfold Proceeds
    decide +kernel
  have hworse : Worse (demoSlow (some 200)) (demoSlow none) := .value .p95E2e none fun _ h => nomatch h
  have hgreen : ¬ Green (demoSlow none) := by
    intro hgreen
    obtain ⟨value, hvalue, _⟩ := hgreen.measures .p95E2e
    exact nomatch hvalue
  exact ⟨hstop, hworse, hadvances, hgreen, fun h => h.stopped _ hworse hstop hadvances,
    fun h => hgreen (h.advanced hadvances)⟩

end Guard

end CommerceAgent.Delivery
