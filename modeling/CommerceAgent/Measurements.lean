import CommerceAgent.Histories
import CommerceAgent.Quantiles
import CommerceAgent.Rounding
import CommerceAgent.Schema
import Mathlib.Data.List.Dedup
import Mathlib.Tactic.NormNum

/-! The measurements that are kept of the running system: the baseline that is frozen from a week of samples,
and the bounded histograms of the process. -/
namespace CommerceAgent.Measurements

open Histories Quantiles Rounding

section Baseline

inductive BaselineError where
  | value (message : String)
  | validation (message : String)
  deriving DecidableEq

/-- `occurredAt` is the instant; `aware` tells whether it came with a timezone. -/
structure BaselineSample where
  occurredAt : ℤ
  aware : Bool := true
  e2eLatencyMs : Option ℚ
  costMicrousd : Option ℚ
  lowRiskHandoffRate : Option ℚ
  terminalResponseCoverage : Option ℚ := none
  deriving DecidableEq

structure FrozenSLOBaseline where
  timezone : String
  windowStart : ℤ
  windowEnd : ℤ
  observedHours : ℚ
  distinctDates : ℕ
  weekdaySamples : ℕ
  weekendSamples : ℕ
  sampleCount : ℕ
  latencySampleCount : ℕ
  costSampleCount : ℕ
  handoffSampleCount : ℕ
  terminalCoverageSampleCount : ℕ
  baselineP50E2eMs : ℚ
  baselineP95E2eMs : ℚ
  baselineP99E2eMs : ℚ
  baselineP95CostMicrousd : ℚ
  baselineLowRiskHandoffRate : ℚ
  baselineTerminalResponseCoverage : ℚ
  deriving DecidableEq

/-- `if bad: raise error`. -/
def refuse (bad : Prop) [Decidable bad] (error : BaselineError) : Except BaselineError Unit :=
  if bad then .error error else .ok ()

def nonNegative (value : Option ℚ) (field : String) : Except BaselineError (Option ℚ) :=
  if value.any fun value => decide (value < 0) then .error (.validation s!"{field}_must_be_non_negative")
  else .ok value

def bounded (value : Option ℚ) (field : String) : Except BaselineError (Option ℚ) :=
  if value.any fun value => !decide (0 ≤ value ∧ value ≤ 1) then
    .error (.validation s!"{field}_must_be_between_0_and_1")
  else .ok value

/-- One hour and one day, in microseconds. -/
def hour : ℤ := 3600 * 1000000

def dayLength : ℤ := 24 * hour

-- the wall clock of the zone at an instant, in microseconds since the first of January of year 1
variable (wall : ℤ → ℤ)

/-- `_normalize_sample`: the clock of the sample is then the wall clock of the zone. -/
def normalizeSample (sample : BaselineSample) : Except BaselineError BaselineSample := do
  let _ ← refuse (sample.aware = false) (.validation "baseline_timestamp_must_be_timezone_aware")
  let latency ← nonNegative sample.e2eLatencyMs "e2e_latency_ms"
  let cost ← nonNegative sample.costMicrousd "cost_microusd"
  let handoff ← bounded sample.lowRiskHandoffRate "low_risk_handoff_rate"
  let coverage ← bounded sample.terminalResponseCoverage "terminal_response_coverage"
  return ⟨wall sample.occurredAt, true, latency, cost, handoff, coverage⟩

/-- `occurred_at.date()`, as a number of days. -/
def BaselineSample.date (row : BaselineSample) : ℤ := row.occurredAt / dayLength

/-- `occurred_at.weekday() < 5`; the first day of the calendar was a Monday. -/
def BaselineSample.weekday (row : BaselineSample) : Bool := decide (row.date % 7 < 5)

def requiredValues (rows : List BaselineSample) (field : String) (get : BaselineSample → Option ℚ)
    (minimumSamples : ℤ) : Except BaselineError (List ℚ) :=
  let values := rows.filterMap get
  if values.length < minimumSamples then
    .error (.validation s!"insufficient_{field}_samples:{values.length}<{minimumSamples}")
  else .ok values

/-- `fmean`. -/
def mean (values : List ℚ) : ℚ := values.sum / values.length

/-- The earliest and the latest of the times. -/
def earliest (rows : List BaselineSample) : ℤ := ((rows.map BaselineSample.occurredAt).min?).getD 0

def latest (rows : List BaselineSample) : ℤ := ((rows.map BaselineSample.occurredAt).max?).getD 0

def hoursOf (rows : List BaselineSample) : ℚ := (latest rows - earliest rows : ℤ) / hour

def datesOf (rows : List BaselineSample) : ℕ := (rows.map BaselineSample.date).dedup.length

/-- What is frozen of samples that suffice. -/
def FrozenSLOBaseline.of (timezone : String) (rows : List BaselineSample)
    (latency cost handoff coverage : List ℚ) : FrozenSLOBaseline where
  timezone := timezone
  windowStart := earliest rows
  windowEnd := latest rows
  observedHours := toDigits 3 (hoursOf rows)
  distinctDates := datesOf rows
  weekdaySamples := rows.countP BaselineSample.weekday
  weekendSamples := rows.length - rows.countP BaselineSample.weekday
  sampleCount := rows.length
  latencySampleCount := latency.length
  costSampleCount := cost.length
  handoffSampleCount := handoff.length
  terminalCoverageSampleCount := coverage.length
  baselineP50E2eMs := toDigits 3 (quantile latency 0.50)
  baselineP95E2eMs := toDigits 3 (quantile latency 0.95)
  baselineP99E2eMs := toDigits 3 (quantile latency 0.99)
  baselineP95CostMicrousd := toDigits 3 (quantile cost 0.95)
  baselineLowRiskHandoffRate := toDigits 6 (mean handoff)
  baselineTerminalResponseCoverage := toDigits 6 (mean coverage)

def freezeBaseline (samples : List BaselineSample) (timezone : String) (minimumSamples : ℤ) :
    Except BaselineError FrozenSLOBaseline := do
  let _ ← refuse (minimumSamples < 1) (.value "minimum_samples_must_be_positive")
  let rows ← samples.mapM (normalizeSample wall)
  let _ ← refuse (rows = []) (.validation "no_baseline_samples")
  let weekdaySamples := rows.countP BaselineSample.weekday
  let weekendSamples := rows.length - weekdaySamples
  let _ ← refuse (hoursOf rows < 7 * 24) (.validation "baseline_window_must_cover_at_least_168_hours")
  let _ ← refuse (datesOf rows < 7) (.validation "baseline_must_cover_at_least_7_local_dates")
  let _ ← refuse (weekdaySamples = 0 ∨ weekendSamples = 0)
    (.validation "baseline_must_include_weekday_and_weekend")
  let latency ← requiredValues rows "e2e_latency_ms" BaselineSample.e2eLatencyMs minimumSamples
  let cost ← requiredValues rows "cost_microusd" BaselineSample.costMicrousd minimumSamples
  let handoff ← requiredValues rows "low_risk_handoff_rate" BaselineSample.lowRiskHandoffRate minimumSamples
  let coverage ← requiredValues rows "terminal_response_coverage" BaselineSample.terminalResponseCoverage
    minimumSamples
  return .of timezone rows latency cost handoff coverage

end Baseline

section Samples

variable {wall : ℤ → ℤ} {samples samples' : List BaselineSample} {rows rows' : List BaselineSample}
  {timezone : String} {minimumSamples : ℤ} {b : FrozenSLOBaseline}

/-- A sample that `_normalize_sample` accepts. -/
structure BaselineSample.Valid (sample : BaselineSample) : Prop where
  aware : sample.aware = true
  latency : ∀ value ∈ sample.e2eLatencyMs, 0 ≤ value
  cost : ∀ value ∈ sample.costMicrousd, 0 ≤ value
  handoff : ∀ value ∈ sample.lowRiskHandoffRate, 0 ≤ value ∧ value ≤ 1
  coverage : ∀ value ∈ sample.terminalResponseCoverage, 0 ≤ value ∧ value ≤ 1

def BaselineSample.localized (wall : ℤ → ℤ) (sample : BaselineSample) : BaselineSample :=
  { sample with occurredAt := wall sample.occurredAt, aware := true }

theorem nonNegative_ok {value out : Option ℚ} {field : String} :
    nonNegative value field = .ok out ↔ (∀ v ∈ value, 0 ≤ v) ∧ out = value := by
  unfold nonNegative
  cases value with
  | none => simp [eq_comm]
  | some v =>
    by_cases hv : v < 0
    · simp [hv]
    · simp [hv, not_lt.mp hv, eq_comm]

theorem bounded_ok {value out : Option ℚ} {field : String} :
    bounded value field = .ok out ↔ (∀ v ∈ value, 0 ≤ v ∧ v ≤ 1) ∧ out = value := by
  unfold bounded
  cases value with
  | none => simp [eq_comm]
  | some v =>
    by_cases hv : 0 ≤ v ∧ v ≤ 1
    · simp [hv, eq_comm]
    · have hbad : (some v).any (fun value => !decide (0 ≤ value ∧ value ≤ 1)) = true := by
        rw [Option.any_some, decide_eq_false hv]
        rfl
      rw [if_pos hbad]
      simp only [Option.mem_def, Option.some.injEq, forall_eq', hv, false_and, reduceCtorEq]

theorem refuse_ok {bad : Prop} [Decidable bad] {error : BaselineError} {u : Unit} :
    refuse bad error = .ok u ↔ ¬ bad := by
  unfold refuse
  by_cases h : bad <;> simp [h]

theorem normalizeSample_ok {sample row : BaselineSample} :
    normalizeSample wall sample = .ok row ↔ sample.Valid ∧ row = sample.localized wall := by
  unfold normalizeSample
  simp only [Except.bind_eq_ok, nonNegative_ok, bounded_ok, refuse_ok, pure, Except.pure]
  constructor
  · rintro ⟨_, haware, _, ⟨hlatency, rfl⟩, _, ⟨hcost, rfl⟩, _, ⟨hhandoff, rfl⟩, _, ⟨hcoverage, rfl⟩, hrow⟩
    refine ⟨⟨by simpa using haware, hlatency, hcost, hhandoff, hcoverage⟩, ?_⟩
    exact (Except.ok.inj hrow).symm
  · rintro ⟨hvalid, rfl⟩
    exact ⟨(), by simp [hvalid.aware], _, ⟨hvalid.latency, rfl⟩, _, ⟨hvalid.cost, rfl⟩, _,
      ⟨hvalid.handoff, rfl⟩, _, ⟨hvalid.coverage, rfl⟩, rfl⟩

/-- The samples are normalized exactly if each of them is accepted. -/
theorem mapM_normalizeSample_ok :
    samples.mapM (normalizeSample wall) = .ok rows ↔
      (∀ sample ∈ samples, sample.Valid) ∧ rows = samples.map (BaselineSample.localized wall) := by
  induction samples generalizing rows with
  | nil => simp [pure, Except.pure, eq_comm]
  | cons sample samples ih =>
    rw [List.mapM_cons]
    simp only [Except.bind_eq_ok, normalizeSample_ok, ih, pure, Except.pure, List.forall_mem_cons,
      List.map_cons]
    constructor
    · rintro ⟨_, ⟨hvalid, rfl⟩, _, ⟨hrest, rfl⟩, hrows⟩
      exact ⟨⟨hvalid, hrest⟩, (Except.ok.inj hrows).symm⟩
    · rintro ⟨⟨hvalid, hrest⟩, rfl⟩
      exact ⟨_, ⟨hvalid, rfl⟩, _, ⟨hrest, rfl⟩, rfl⟩

theorem requiredValues_ok {field : String} {get : BaselineSample → Option ℚ} {values : List ℚ} :
    requiredValues rows field get minimumSamples = .ok values ↔
      minimumSamples ≤ (rows.filterMap get).length ∧ values = rows.filterMap get := by
  unfold requiredValues
  by_cases h : ((rows.filterMap get).length : ℤ) < minimumSamples
  · simp [h]
  · simp [h, not_lt.mp h, eq_comm]

/-- The values that a baseline requires of its samples. -/
def measures : List (BaselineSample → Option ℚ) :=
  [BaselineSample.e2eLatencyMs, BaselineSample.costMicrousd, BaselineSample.lowRiskHandoffRate,
    BaselineSample.terminalResponseCoverage]

/-- The evidence suffices: valid samples that span 168 hours, seven dates and both kinds of days, with enough
values of each measure. -/
structure Sufficient (wall : ℤ → ℤ) (minimumSamples : ℤ) (samples : List BaselineSample) : Prop where
  positive : 1 ≤ minimumSamples
  valid : ∀ sample ∈ samples, sample.Valid
  hours : 168 ≤ hoursOf (samples.map (BaselineSample.localized wall))
  dates : 7 ≤ datesOf (samples.map (BaselineSample.localized wall))
  weekday : ∃ row ∈ samples.map (BaselineSample.localized wall), row.weekday = true
  weekend : ∃ row ∈ samples.map (BaselineSample.localized wall), row.weekday = false
  enough : ∀ get ∈ measures,
    minimumSamples ≤ ((samples.map (BaselineSample.localized wall)).filterMap get).length

/-- What is frozen of the samples if they suffice. -/
def frozen (wall : ℤ → ℤ) (timezone : String) (samples : List BaselineSample) : FrozenSLOBaseline :=
  let rows := samples.map (BaselineSample.localized wall)
  .of timezone rows (rows.filterMap BaselineSample.e2eLatencyMs) (rows.filterMap BaselineSample.costMicrousd)
    (rows.filterMap BaselineSample.lowRiskHandoffRate)
    (rows.filterMap BaselineSample.terminalResponseCoverage)

theorem both_days (rows : List BaselineSample) :
    ¬ (rows.countP BaselineSample.weekday = 0 ∨ rows.length - rows.countP BaselineSample.weekday = 0) ↔
      (∃ row ∈ rows, row.weekday = true) ∧ ∃ row ∈ rows, row.weekday = false := by
  have hle : rows.countP BaselineSample.weekday ≤ rows.length := List.countP_le_length
  have hall : rows.length - rows.countP BaselineSample.weekday = 0 ↔
      rows.countP BaselineSample.weekday = rows.length := by omega
  rw [not_or, hall, List.countP_eq_zero, List.countP_eq_length]
  simp

/-- A baseline is frozen exactly of sufficient evidence. -/
theorem freezeBaseline_ok_iff : freezeBaseline wall samples timezone minimumSamples = .ok b ↔
    Sufficient wall minimumSamples samples ∧ b = frozen wall timezone samples := by
  unfold freezeBaseline
  simp only [Except.bind_eq_ok, refuse_ok, mapM_normalizeSample_ok, requiredValues_ok, pure, Except.pure,
    both_days]
  constructor
  · rintro ⟨_, hpositive, _, ⟨hvalid, rfl⟩, _, _, _, hhours, _, hdates, _, ⟨hweekday, hweekend⟩, _,
      ⟨hlatency, rfl⟩, _, ⟨hcost, rfl⟩, _, ⟨hhandoff, rfl⟩, _, ⟨hcoverage, rfl⟩, hb⟩
    refine ⟨⟨by omega, hvalid, ?_, by omega, hweekday, hweekend, ?_⟩, (Except.ok.inj hb).symm⟩
    · have hspan := not_lt.mp hhours
      norm_num at hspan
      exact hspan
    · simp only [measures, List.forall_mem_cons, List.not_mem_nil, false_implies, implies_true, and_true]
      exact ⟨hlatency, hcost, hhandoff, hcoverage⟩
  · rintro ⟨hsufficient, rfl⟩
    have henough := hsufficient.enough
    simp only [measures, List.forall_mem_cons, List.not_mem_nil, false_implies, implies_true, and_true] at henough
    obtain ⟨hlatency, hcost, hhandoff, hcoverage⟩ := henough
    have hpositive := hsufficient.positive
    have hdates := hsufficient.dates
    refine ⟨(), by omega, _, ⟨hsufficient.valid, rfl⟩, (), ?_, (), ?_, (), by omega, (),
      ⟨hsufficient.weekday, hsufficient.weekend⟩, _, ⟨hlatency, rfl⟩, _, ⟨hcost, rfl⟩, _, ⟨hhandoff, rfl⟩, _,
      ⟨hcoverage, rfl⟩, rfl⟩
    · obtain ⟨row, hrow, _⟩ := hsufficient.weekday
      exact List.ne_nil_of_mem hrow
    · have hspan := hsufficient.hours
      norm_num
      exact hspan

/-- The members of the list alone decide on its least one. -/
theorem min?_perm {l l' : List ℤ} (h : l.Perm l') : l.min? = l'.min? := by
  ext a
  simp only [List.min?_eq_some_iff, h.mem_iff]

theorem max?_perm {l l' : List ℤ} (h : l.Perm l') : l.max? = l'.max? := by
  ext a
  simp only [List.max?_eq_some_iff, h.mem_iff]

theorem hoursOf_perm (h : rows.Perm rows') : hoursOf rows = hoursOf rows' := by
  simp only [hoursOf, latest, earliest, min?_perm (h.map _), max?_perm (h.map _)]

theorem datesOf_perm (h : rows.Perm rows') : datesOf rows = datesOf rows' :=
  (h.map BaselineSample.date).dedup.length_eq

theorem sufficient_perm (h : samples.Perm samples') (hs : Sufficient wall minimumSamples samples) :
    Sufficient wall minimumSamples samples' := by
  have hrows := h.map (BaselineSample.localized wall)
  refine ⟨hs.positive, ?_, ?_, ?_, ?_, ?_, ?_⟩
  · exact fun sample hsample => hs.valid sample (h.mem_iff.mpr hsample)
  · rw [← hoursOf_perm hrows]
    exact hs.hours
  · rw [← datesOf_perm hrows]
    exact hs.dates
  · obtain ⟨row, hrow, hday⟩ := hs.weekday
    exact ⟨row, hrows.mem_iff.mp hrow, hday⟩
  · obtain ⟨row, hrow, hday⟩ := hs.weekend
    exact ⟨row, hrows.mem_iff.mp hrow, hday⟩
  · intro get hget
    rw [← (hrows.filterMap get).length_eq]
    exact hs.enough get hget

theorem frozen_perm (h : samples.Perm samples') : frozen wall timezone samples = frozen wall timezone samples' := by
  have hrows := h.map (BaselineSample.localized wall)
  have hmean : ∀ get : BaselineSample → Option ℚ,
      mean ((samples.map (BaselineSample.localized wall)).filterMap get) =
        mean ((samples'.map (BaselineSample.localized wall)).filterMap get) := by
    intro get
    rw [mean, mean, (hrows.filterMap get).sum_eq, (hrows.filterMap get).length_eq]
  unfold frozen FrozenSLOBaseline.of
  simp only [hmean, quantile_perm (hrows.filterMap _), (hrows.filterMap _).length_eq, hrows.length_eq,
    hrows.countP_eq, hoursOf_perm hrows, datesOf_perm hrows]
  simp only [earliest, latest, min?_perm (hrows.map _), max?_perm (hrows.map _)]

theorem mean_mem {l : List ℚ} (hl : l ≠ []) (h : ∀ v ∈ l, 0 ≤ v ∧ v ≤ 1) : 0 ≤ mean l ∧ mean l ≤ 1 := by
  have hpos : (0 : ℚ) < l.length := by exact_mod_cast List.length_pos_of_ne_nil hl
  have hnonneg : 0 ≤ l.sum := List.sum_nonneg fun v hv => (h v hv).1
  have hsum : l.sum ≤ l.length := by
    have hle := List.sum_le_card_nsmul l 1 fun v hv => (h v hv).2
    simpa using hle
  constructor
  · exact div_nonneg hnonneg hpos.le
  · exact (div_le_one hpos).mpr hsum

theorem toDigits_mem {digits : ℕ} {q : ℚ} (h : 0 ≤ q ∧ q ≤ 1) : 0 ≤ toDigits digits q ∧ toDigits digits q ≤ 1 := by
  have hzero : toDigits digits 0 = 0 := toDigits_of_int (n := 0) (by simp)
  have hone : toDigits digits 1 = 1 := toDigits_of_int (n := 10 ^ digits) (by simp)
  have hlow := toDigits_mono digits h.1
  have hhigh := toDigits_mono digits h.2
  rw [hzero] at hlow
  rw [hone] at hhigh
  exact ⟨hlow, hhigh⟩

section Values

variable {get : BaselineSample → Option ℚ}

/-- The values of a measure over the samples in the zone. -/
theorem mem_values (hget : ∀ sample, get (sample.localized wall) = get sample) {v : ℚ}
    (hv : v ∈ (samples.map (BaselineSample.localized wall)).filterMap get) :
    ∃ sample ∈ samples, v ∈ get sample := by
  obtain ⟨row, hrow, hvalue⟩ := List.mem_filterMap.mp hv
  obtain ⟨sample, hsample, rfl⟩ := List.mem_map.mp hrow
  rw [hget] at hvalue
  exact ⟨sample, hsample, hvalue⟩

theorem Sufficient.values_ne_nil (hs : Sufficient wall minimumSamples samples)
    (get : BaselineSample → Option ℚ) (hget : get ∈ measures) :
    (samples.map (BaselineSample.localized wall)).filterMap get ≠ [] := by
  intro hnil
  have henough := hs.enough get hget
  have hpositive := hs.positive
  rw [hnil, List.length_nil] at henough
  omega

end Values

end Samples


section Demo

/-- A sample a day, from a Monday to the Monday after it. -/
def demoSamples : List BaselineSample :=
  (List.range 8).map fun day =>
    { occurredAt := day * dayLength, e2eLatencyMs := some (100 + day), costMicrousd := some 5
      lowRiskHandoffRate := some (1 / 4), terminalResponseCoverage := some 1 }

instance demoSamples_facts : Fact ((freezeBaseline id demoSamples "UTC" 1).toOption.map
    FrozenSLOBaseline.baselineP50E2eMs = some (207 / 2)) :=
  ⟨by decide +kernel⟩

end Demo

section Histograms

/-- A value that is given to `observe`. -/
inductive Reading where
  | finite (q : ℚ)
  | infinite
  | notANumber
  | notNumeric

inductive MetricCall where
  | increment (name : String) (amount : ℤ)
  | observe (name : String) (value : Reading)

/-- `_MAX_SAMPLES`. -/
def MAX_SAMPLES : ℕ := 4096

/-- The counters and the samples of each name that has any. -/
structure Metrics where
  counts : String → Option ℤ := fun _ => none
  samples : String → Option (List ℚ) := fun _ => none

def Metrics.increment (metrics : Metrics) (name : String) (amount : ℤ) : Except String Metrics :=
  if name = "" ∨ amount < 0 then .error "invalid metric increment"
  else .ok { metrics with
    counts := Function.update metrics.counts name (some ((metrics.counts name).getD 0 + amount)) }

/-- The samples of a name after one more. -/
def appended (samples : List ℚ) (value : ℚ) : List ℚ :=
  let samples := samples ++ [value]
  if MAX_SAMPLES < samples.length then samples.drop (samples.length - MAX_SAMPLES) else samples

def Metrics.observe (metrics : Metrics) (name : String) : Reading → Except String Metrics
  | .finite value =>
    if name = "" ∨ value < 0 then .error "invalid metric observation"
    else .ok { metrics with
      samples := Function.update metrics.samples name
        (some (appended ((metrics.samples name).getD []) value)) }
  | _ => .error "invalid metric observation"

/-- A call that raises changes nothing. -/
def Metrics.after (metrics : Metrics) : MetricCall → Metrics
  | .increment name amount => ((metrics.increment name amount).toOption).getD metrics
  | .observe name value => ((metrics.observe name value).toOption).getD metrics

structure Histogram where
  count : ℕ
  p50 : ℚ
  p95 : ℚ
  p99 : ℚ

def percentile (values : List ℚ) (probability : ℚ) : ℚ :=
  if values.length = 1 then values.getD 0 0
  else interpolate values ((values.length - 1) * probability)

/-- `_distribution`. -/
def distribution (values : List ℚ) : Histogram :=
  if values = [] then ⟨0, 0, 0, 0⟩
  else
    let ordered := values.insertionSort (· ≤ ·)
    ⟨ordered.length, toDigits 4 (percentile ordered 0.50), toDigits 4 (percentile ordered 0.95),
      toDigits 4 (percentile ordered 0.99)⟩

/-- The reading of a call that `observe` accepts for the name. -/
def MetricCall.reading? (name : String) : MetricCall → Option ℚ
  | .observe name' (.finite value) => if name' = name ∧ name ≠ "" ∧ 0 ≤ value then some value else none
  | _ => none

/-- The amount of a call that `increment` accepts for the name. -/
def MetricCall.amount? (name : String) : MetricCall → Option ℤ
  | .increment name' amount => if name' = name ∧ name ≠ "" ∧ 0 ≤ amount then some amount else none
  | _ => none

variable {metrics : Metrics} {name : String} {h : List MetricCall} {l : List ℚ}

/-- The window after one more reading is the window of all the readings. -/
theorem appended_rtake (l : List ℚ) (value : ℚ) :
    appended (l.rtake MAX_SAMPLES) value = (l ++ [value]).rtake MAX_SAMPLES := by
  unfold appended
  generalize MAX_SAMPLES = n
  have htrim : ∀ m : List ℚ, (if n < m.length then m.drop (m.length - n) else m) = m.rtake n := by
    intro m
    unfold List.rtake
    split
    · rfl
    · rename_i hshort
      rw [Nat.sub_eq_zero_of_le (Nat.le_of_not_lt hshort), List.drop_zero]
  have hsnoc : l.rtake n ++ [value] = (l ++ [value]).drop (l.length - n) := by
    unfold List.rtake
    rw [List.drop_append_of_le_length (Nat.sub_le _ _)]
  dsimp only
  rw [htrim, hsnoc, List.rtake, List.rtake, List.drop_drop]
  congr 1
  simp only [List.length_drop, List.length_append, List.length_singleton]
  omega

/-- What a call does to the samples of a name. -/
theorem samples_after (metrics : Metrics) (e : MetricCall) (name : String) :
    (metrics.after e).samples name = match e.reading? name with
      | some value => some (appended ((metrics.samples name).getD []) value)
      | none => metrics.samples name := by
  cases e with
  | increment name' amount =>
    by_cases hbad : name' = "" ∨ amount < 0 <;>
      simp [Metrics.after, Metrics.increment, MetricCall.reading?, Except.toOption, hbad]
  | observe name' value =>
    cases value with
    | finite value =>
      by_cases hbad : name' = "" ∨ value < 0
      · have hnone : ¬ (name' = name ∧ name ≠ "" ∧ 0 ≤ value) := by
          rintro ⟨rfl, hname, hvalue⟩
          exact hbad.elim hname (not_lt.mpr hvalue)
        simp only [Metrics.after, Metrics.observe, MetricCall.reading?, Except.toOption, if_pos hbad,
          if_neg hnone, Option.getD_none]
      · obtain ⟨hname, hvalue⟩ := not_or.mp hbad
        by_cases hsame : name' = name
        · subst hsame
          simp [Metrics.after, Metrics.observe, MetricCall.reading?, Except.toOption, hname, hvalue, not_lt.mp hvalue]
        · have hother : name ≠ name' := fun h => hsame h.symm
          simp [Metrics.after, Metrics.observe, MetricCall.reading?, Except.toOption, hname, hvalue, hsame, Function.update_of_ne hother]
    | infinite => rfl
    | notANumber => rfl
    | notNumeric => rfl

/-- What a call does to the counter of a name. -/
theorem counts_after (metrics : Metrics) (e : MetricCall) (name : String) :
    (metrics.after e).counts name = match e.amount? name with
      | some amount => some ((metrics.counts name).getD 0 + amount)
      | none => metrics.counts name := by
  cases e with
  | increment name' amount =>
    by_cases hbad : name' = "" ∨ amount < 0
    · have hnone : ¬ (name' = name ∧ name ≠ "" ∧ 0 ≤ amount) := by
        rintro ⟨rfl, hname, hamount⟩
        exact hbad.elim hname (not_lt.mpr hamount)
      simp only [Metrics.after, Metrics.increment, MetricCall.amount?, Except.toOption, if_pos hbad,
        if_neg hnone, Option.getD_none]
    · obtain ⟨hname, hamount⟩ := not_or.mp hbad
      by_cases hsame : name' = name
      · subst hsame
        simp [Metrics.after, Metrics.increment, MetricCall.amount?, Except.toOption, hname, hamount, not_lt.mp hamount]
      · have hother : name ≠ name' := fun h => hsame h.symm
        simp [Metrics.after, Metrics.increment, MetricCall.amount?, Except.toOption, hname, hamount, hsame, Function.update_of_ne hother]
  | observe name' value =>
    cases value with
    | finite value =>
      by_cases hbad : name' = "" ∨ value < 0 <;>
        simp [Metrics.after, Metrics.observe, MetricCall.amount?, Except.toOption, hbad]
    | infinite => rfl
    | notANumber => rfl
    | notNumeric => rfl

/-- The samples of a name are its last accepted readings. -/
theorem run_samples (h : List MetricCall) (name : String) :
    ((run Metrics.after {} h).samples name).getD [] =
      (h.filterMap (MetricCall.reading? name)).rtake MAX_SAMPLES := by
  induction h using List.reverseRecOn with
  | nil => rw [List.filterMap_nil, List.rtake, List.drop_nil, run_nil, Option.getD_none]
  | append_singleton h e ih =>
    rw [run_append, run_cons, run_nil, samples_after, List.filterMap_append]
    cases he : e.reading? name with
    | none => simpa [he] using ih
    | some value =>
      have hone : [e].filterMap (MetricCall.reading? name) = [value] := by simp [he]
      rw [hone, ← appended_rtake, ← ih, Option.getD_some]

theorem run_counts (h : List MetricCall) (name : String) :
    ((run Metrics.after {} h).counts name).getD 0 = (h.filterMap (MetricCall.amount? name)).sum := by
  induction h using List.reverseRecOn with
  | nil => rfl
  | append_singleton h e ih =>
    rw [run_append, run_cons, run_nil, counts_after, List.filterMap_append, List.sum_append]
    cases he : e.amount? name with
    | none => simpa [he] using ih
    | some amount =>
      have hone : [e].filterMap (MetricCall.amount? name) = [amount] := by simp [he]
      rw [hone, List.sum_singleton, Option.getD_some, ih]

theorem percentile_eq (l : List ℚ) (q : ℚ) :
    percentile (l.insertionSort (· ≤ ·)) q = quantile l q := by
  unfold percentile quantile
  rw [List.length_insertionSort]
  split
  · rename_i hone
    have hzero : ((l.length : ℚ) - 1) * q = 0 := by rw [hone]; simp
    rw [hzero]
    simp [interpolate, hone]
  · rfl

end Histograms

end CommerceAgent.Measurements
