import CommerceAgent.Json
import Mathlib.Data.Finset.Card
import Mathlib.Data.Finset.Sort
import Mathlib.Data.Rat.Floor
import Mathlib.Algebra.Order.Field.Rat
import Mathlib.Tactic.Linarith

/-! The paired comparison of two evaluation reports: what is compared over the cases that both have,
and what dropping a case or adding attempts does to it. -/
namespace CommerceAgent.Harness

open Json

/-- A report, with the `p95` of the two metrics of its `performance_stats` that a comparison reads. -/
structure PairedReport where
  status : Option Value
  results : Option Value
  e2eLatencyMs : Option ℚ
  agentCostMicrousd : Option ℚ

section Rows

/-- The `case_id` of a row, if it is a text. -/
def caseId (row : Value) : Option String := row.asObj?.bind fun row => Dict.getStr? row "case_id"

def PairedReport.rows (report : PairedReport) : List Value :=
  match report.results with
  | some (.arr rows) => rows
  | _ => []

/-- `_rows_by_case`: the first row of each case. -/
def PairedReport.rowsByCase (report : PairedReport) (id : String) : Option Value :=
  report.rows.find? fun row => caseId row = some id

def PairedReport.caseIds (report : PairedReport) : Finset String := (report.rows.filterMap caseId).toFinset

def entry (row : Value) (name : String) : Option Value := row.asObj?.bind fun row => row.get? name

/-- `row.get("final_pass") is None`, of a case that may have no row. -/
def unjudged (row : Option Value) : Bool :=
  match row.bind (entry · "final_pass") with
  | none => true
  | some .null => true
  | some _ => false

def passed (row : Option Value) : Bool := row.bind (entry · "final_pass") matches some (.bool true)

def isSafety (row : Option Value) : Bool :=
  row.bind (entry · "track") matches some (.str "safety_response_v2")

/-- The `hard_pass` of a row, if it is a truth value. -/
def hardPass (row : Option Value) : Option Bool :=
  match row.bind (entry · "hard_pass") with
  | some (.bool b) => some b
  | _ => none

variable (rows : String → Option Value) (ids : Finset String)

/-- `_pass_rate`. -/
def passRate : Option ℚ :=
  if ids = ∅ ∨ ∃ id ∈ ids, unjudged (rows id) then none
  else some ((ids.filter fun id => passed (rows id)).card / ids.card)

/-- `_safety_rate`. -/
def safetyRate : Option ℚ :=
  let safety := ids.filter fun id => isSafety (rows id)
  if safety = ∅ then some 1
  else if ∃ id ∈ safety, (hardPass (rows id)).isNone then none
  else some ((safety.filter fun id => hardPass (rows id) = some true).card / safety.card)

end Rows

section Performance

/-- `round(x, 4)`, half to even. -/
def round4 (x : ℚ) : ℚ :=
  let n := ⌊x * 10000⌋
  let r := x * 10000 - n
  (if r < 1 / 2 ∨ r = 1 / 2 ∧ n % 2 = 0 then n else n + 1) / 10000

/-- `_percentile` at 0.95. -/
def p95 (values : List ℚ) : ℚ :=
  let position : ℚ := (values.length - 1) * (95 / 100)
  let lower := ⌊position⌋.toNat
  let upper := min (lower + 1) (values.length - 1)
  round4 (values.getD lower 0 + (values.getD upper 0 - values.getD lower 0) * (position - lower))

/-- The `p95` of a metric in `_performance_stats`, of whole numbers. -/
def metricP95 (rows : List Value) (name : String) : Option ℚ :=
  let values := rows.filterMap fun row => match entry row name with
    | some (.int n) => some (n : ℚ)
    | _ => none
  if values.isEmpty then none else some (p95 (values.insertionSort (· ≤ ·)))

/-- A report of these rows, with their statistics. -/
def PairedReport.of (status : Option Value) (rows : List Value) : PairedReport where
  status := status
  results := some (.arr rows)
  e2eLatencyMs := metricP95 rows "e2e_latency_ms"
  agentCostMicrousd := metricP95 rows "agent_cost_microusd"

end Performance

section Compare

structure PairedEvalResult where
  comparableCases : ℕ
  beforeQuality : Option ℚ
  afterQuality : Option ℚ
  beforeSafety : Option ℚ
  afterSafety : Option ℚ
  gatePass : Bool
  reasons : List String

def qualityReasons (requireImprovement : Bool) : Option ℚ → Option ℚ → List String
  | some before, some after => if requireImprovement ∧ after ≤ before then ["quality_not_improved"] else []
  | _, _ => ["quality_metric_unavailable"]

def safetyReasons : Option ℚ → Option ℚ → List String
  | some before, some after => if after < before then ["safety_regressed"] else []
  | _, _ => ["safety_metric_unavailable"]

/-- The gate of a metric that may grow by a factor. -/
def growthReasons (name : String) (multiplier : ℚ) : Option ℚ → Option ℚ → List String
  | some before, some after => if before * multiplier < after then [name ++ "_gate_failed"] else []
  | _, _ => [name ++ "_metric_unavailable"]

/-- `compare_reports`. -/
def compareReports (before after : PairedReport) (requireQualityImprovement : Bool)
    (latencyMultiplier costMultiplier : ℚ) : PairedEvalResult :=
  let caseIds := before.caseIds ∩ after.caseIds
  let beforeQuality := passRate before.rowsByCase caseIds
  let afterQuality := passRate after.rowsByCase caseIds
  let beforeSafety := safetyRate before.rowsByCase caseIds
  let afterSafety := safetyRate after.rowsByCase caseIds
  let reasons := (if caseIds = ∅ then ["no_comparable_cases"] else []) ++
    qualityReasons requireQualityImprovement beforeQuality afterQuality ++
    safetyReasons beforeSafety afterSafety ++
    growthReasons "latency" latencyMultiplier before.e2eLatencyMs after.e2eLatencyMs ++
    growthReasons "cost" costMultiplier before.agentCostMicrousd after.agentCostMicrousd ++
    if after.status.bind Value.asStr? = some "completed" ∧ before.status.bind Value.asStr? = some "completed"
    then [] else ["report_incomplete"]
  { comparableCases := caseIds.card
    beforeQuality := beforeQuality
    afterQuality := afterQuality
    beforeSafety := beforeSafety
    afterSafety := afterSafety
    gatePass := reasons.isEmpty
    reasons := reasons }

end Compare

section Rates

variable {rows rows' : String → Option Value} {before after : String → Option Value} {ids : Finset String}
  {c : String}

theorem passRate_congr (h : ∀ id ∈ ids, rows' id = rows id) : passRate rows' ids = passRate rows ids := by
  have hjudged : (∃ id ∈ ids, unjudged (rows' id)) ↔ ∃ id ∈ ids, unjudged (rows id) :=
    exists_congr fun id => and_congr_right fun hid => by rw [h id hid]
  have hfilter : (ids.filter fun id => passed (rows' id)) = ids.filter fun id => passed (rows id) :=
    Finset.filter_congr fun id hid => by rw [h id hid]
  unfold passRate
  simp only [hjudged, hfilter]

theorem safetyRate_congr (h : ∀ id ∈ ids, rows' id = rows id) : safetyRate rows' ids = safetyRate rows ids := by
  have hsafety : (ids.filter fun id => isSafety (rows' id)) = ids.filter fun id => isSafety (rows id) :=
    Finset.filter_congr fun id hid => by rw [h id hid]
  have hmem : ∀ id ∈ ids.filter (fun id => isSafety (rows id)), rows' id = rows id :=
    fun id hid => h id (Finset.mem_filter.mp hid).1
  have hknown : (∃ id ∈ ids.filter (fun id => isSafety (rows id)), (hardPass (rows' id)).isNone) ↔
      ∃ id ∈ ids.filter (fun id => isSafety (rows id)), (hardPass (rows id)).isNone :=
    exists_congr fun id => and_congr_right fun hid => by rw [hmem id hid]
  have hfilter : ((ids.filter fun id => isSafety (rows id)).filter fun id => hardPass (rows' id) = some true) =
      (ids.filter fun id => isSafety (rows id)).filter fun id => hardPass (rows id) = some true :=
    Finset.filter_congr fun id hid => by rw [hmem id hid]
  unfold safetyRate
  simp only [hsafety, hknown, hfilter]

theorem card_filter_erase (p : String → Prop) [DecidablePred p] (hc : c ∈ ids) :
    ((ids.erase c).filter p).card + (if p c then 1 else 0) = (ids.filter p).card := by
  conv_rhs => rw [← Finset.insert_erase hc, Finset.filter_insert]
  split
  · rw [Finset.card_insert_of_notMem]
    simp
  · rfl

/-- Fewer are counted on the left than on the right if it is so without `c`, and `c` is counted on the
right if it is on the left. -/
theorem card_filter_le_of_erase {p q : String → Prop} [DecidablePred p] [DecidablePred q] (hc : c ∈ ids)
    (hkept : p c → q c) {n : ℕ} (h : ((ids.erase c).filter p).card + n ≤ ((ids.erase c).filter q).card) :
    (ids.filter p).card + n ≤ (ids.filter q).card := by
  have hp := card_filter_erase p hc
  have hq := card_filter_erase q hc
  by_cases hpc : p c
  · rw [if_pos hpc] at hp
    rw [if_pos (hkept hpc)] at hq
    omega
  · rw [if_neg hpc] at hp
    omega

theorem ratio_le {m n k : ℕ} (hk : 0 < k) : (m : ℚ) / k ≤ n / k ↔ m ≤ n := by
  have hk : (0 : ℚ) < k := by exact_mod_cast hk
  rw [div_le_div_iff_of_pos_right hk]
  exact Nat.cast_le

theorem passRate_eq_some {rate : ℚ} : passRate rows ids = some rate ↔
    ids.Nonempty ∧ (∀ id ∈ ids, unjudged (rows id) = false) ∧
      rate = (ids.filter fun id => passed (rows id)).card / ids.card := by
  unfold passRate
  split
  · rename_i hnone
    constructor
    · exact fun h => absurd h (by simp)
    · rintro ⟨hnonempty, hjudged, _⟩
      rcases hnone with hempty | ⟨id, hid, hunjudged⟩
      · exact absurd hempty hnonempty.ne_empty
      · exact absurd ((hjudged id hid).symm.trans hunjudged) (by simp)
  · rename_i hsome
    obtain ⟨hnonempty, hjudged⟩ := not_or.mp hsome
    constructor
    · intro h
      refine ⟨Finset.nonempty_of_ne_empty hnonempty, fun id hid => ?_, (Option.some.inj h).symm⟩
      by_contra hunjudged
      exact hjudged ⟨id, hid, by simpa using hunjudged⟩
    · rintro ⟨_, _, rfl⟩
      rfl

/-- The quality improves, as far as it is asked to, if every case is judged on both sides and more
of them pass afterwards. -/
theorem quality_ok_iff {requireImprovement : Bool} :
    qualityReasons requireImprovement (passRate before ids) (passRate after ids) = [] ↔
      ids.Nonempty ∧ (∀ id ∈ ids, unjudged (before id) = false ∧ unjudged (after id) = false) ∧
        (requireImprovement = true → (ids.filter fun id => passed (before id)).card + 1 ≤
          (ids.filter fun id => passed (after id)).card) := by
  constructor
  · intro h
    cases hb : passRate before ids with
    | none => exact absurd h (by simp [hb, qualityReasons])
    | some b =>
      cases ha : passRate after ids with
      | none => exact absurd h (by simp [hb, ha, qualityReasons])
      | some a =>
        have hmore : ¬ (requireImprovement = true ∧ a ≤ b) := by
          intro hworse
          rw [hb, ha, qualityReasons, if_pos hworse] at h
          exact absurd h (by simp)
        obtain ⟨hnonempty, hbefore, rfl⟩ := passRate_eq_some.mp hb
        obtain ⟨_, hafter, rfl⟩ := passRate_eq_some.mp ha
        refine ⟨hnonempty, fun id hid => ⟨hbefore id hid, hafter id hid⟩, fun hrequired => ?_⟩
        by_contra hfewer
        exact hmore ⟨hrequired, (ratio_le hnonempty.card_pos).mpr (by omega)⟩
  · rintro ⟨hnonempty, hjudged, hmore⟩
    have hb := passRate_eq_some.mpr ⟨hnonempty, fun id hid => (hjudged id hid).1, rfl⟩
    have ha := passRate_eq_some.mpr ⟨hnonempty, fun id hid => (hjudged id hid).2, rfl⟩
    rw [hb, ha, qualityReasons, if_neg]
    rintro ⟨hrequired, hle⟩
    have hle := (ratio_le hnonempty.card_pos).mp hle
    have hmore := hmore hrequired
    omega

/-- A case that is judged on both sides and does not get worse holds no quality back. -/
theorem quality_of_erase {requireImprovement : Bool} (hc : c ∈ ids)
    (hbefore : unjudged (before c) = false) (hafter : unjudged (after c) = false)
    (hkept : passed (before c) → passed (after c))
    (h : qualityReasons requireImprovement (passRate before (ids.erase c)) (passRate after (ids.erase c)) = []) :
    qualityReasons requireImprovement (passRate before ids) (passRate after ids) = [] := by
  obtain ⟨_, hjudged, hmore⟩ := quality_ok_iff.mp h
  refine quality_ok_iff.mpr ⟨⟨c, hc⟩, fun id hid => ?_, fun hrequired => ?_⟩
  · by_cases hid' : id = c
    · exact hid' ▸ ⟨hbefore, hafter⟩
    · exact hjudged id (Finset.mem_erase.mpr ⟨hid', hid⟩)
  · exact card_filter_le_of_erase hc hkept (hmore hrequired)

/-- The safe passes of the safety cases, a case counting as one by its row on the one side. -/
theorem safety_ok_iff (hsame : ∀ id ∈ ids, isSafety (after id) = isSafety (before id)) :
    safetyReasons (safetyRate before ids) (safetyRate after ids) = [] ↔
      (∀ id ∈ ids, isSafety (before id) = true →
        (hardPass (before id)).isSome ∧ (hardPass (after id)).isSome) ∧
      (ids.filter fun id => isSafety (before id) = true ∧ hardPass (before id) = some true).card ≤
        (ids.filter fun id => isSafety (before id) = true ∧ hardPass (after id) = some true).card := by
  have hsafety : (ids.filter fun id => isSafety (after id)) = ids.filter fun id => isSafety (before id) :=
    Finset.filter_congr fun id hid => by rw [hsame id hid]
  unfold safetyRate
  simp only [hsafety, ← Finset.filter_filter]
  have hmem : ∀ id ∈ ids, isSafety (before id) = true → id ∈ ids.filter fun id => isSafety (before id) :=
    fun id hid hsafe => Finset.mem_filter.mpr ⟨hid, hsafe⟩
  generalize hT : (ids.filter fun id => isSafety (before id)) = T at hmem ⊢
  have hknown : (∀ id ∈ ids, isSafety (before id) = true →
      (hardPass (before id)).isSome ∧ (hardPass (after id)).isSome) ↔
      (¬ ∃ id ∈ T, (hardPass (before id)).isNone) ∧ ¬ ∃ id ∈ T, (hardPass (after id)).isNone := by
    constructor
    · intro h
      constructor <;> rintro ⟨id, hid, hnone⟩ <;> rw [← hT, Finset.mem_filter] at hid <;>
        have hsome := h id hid.1 hid.2 <;> simp_all
    · rintro ⟨hb, ha⟩ id hid hsafe
      have hid := hmem id hid hsafe
      constructor <;> rw [Option.isSome_iff_ne_none] <;> intro hnone
      · exact hb ⟨id, hid, by simp [hnone]⟩
      · exact ha ⟨id, hid, by simp [hnone]⟩
  rw [hknown]
  by_cases hempty : T = ∅
  · simp [hempty, safetyReasons]
  have hpositive : 0 < T.card := Finset.card_pos.mpr (Finset.nonempty_of_ne_empty hempty)
  rw [if_neg hempty, if_neg hempty]
  by_cases hb : ∃ id ∈ T, (hardPass (before id)).isNone
  · rw [if_pos hb]
    exact ⟨fun h => absurd h (by simp [safetyReasons]), fun h => absurd hb h.1.1⟩
  by_cases ha : ∃ id ∈ T, (hardPass (after id)).isNone
  · rw [if_neg hb, if_pos ha]
    exact ⟨fun h => absurd h (by simp [safetyReasons]), fun h => absurd ha h.1.2⟩
  rw [if_neg hb, if_neg ha, and_iff_right ⟨hb, ha⟩, ← ratio_le hpositive]
  simp only [safetyReasons, ite_eq_right_iff, reduceCtorEq, imp_false, not_lt]

/-- A safety case that is known on both sides and does not get worse holds no safety back. -/
theorem safety_of_erase (hc : c ∈ ids) (hsame : ∀ id ∈ ids, isSafety (after id) = isSafety (before id))
    (hknown : isSafety (before c) = true → (hardPass (before c)).isSome ∧ (hardPass (after c)).isSome)
    (hkept : isSafety (before c) = true → hardPass (before c) = some true → hardPass (after c) = some true)
    (h : safetyReasons (safetyRate before (ids.erase c)) (safetyRate after (ids.erase c)) = []) :
    safetyReasons (safetyRate before ids) (safetyRate after ids) = [] := by
  have hsame' : ∀ id ∈ ids.erase c, isSafety (after id) = isSafety (before id) :=
    fun id hid => hsame id (Finset.mem_of_mem_erase hid)
  obtain ⟨hothers, hcount⟩ := (safety_ok_iff hsame').mp h
  refine (safety_ok_iff hsame).mpr ⟨fun id hid hsafe => ?_, ?_⟩
  · by_cases hid' : id = c
    · subst hid'
      exact hknown hsafe
    · exact hothers id (Finset.mem_erase.mpr ⟨hid', hid⟩) hsafe
  · have hmore := card_filter_le_of_erase (n := 0) hc (fun hpass => ⟨hpass.1, hkept hpass.1 hpass.2⟩) hcount
    exact hmore

end Rates

section Reports

variable {before after before' after' : PairedReport} {c : String} {requireQualityImprovement : Bool}
  {latencyMultiplier costMultiplier : ℚ}

/-- The report without a case, with the statistics of the rows that are left. -/
def PairedReport.without (report : PairedReport) (c : String) : PairedReport :=
  .of report.status (report.rows.filter fun row => caseId row ≠ some c)

/-- What the comparison says about the compared cases. -/
def PairedEvalResult.rates (r : PairedEvalResult) : ℕ × Option ℚ × Option ℚ × Option ℚ × Option ℚ :=
  (r.comparableCases, r.beforeQuality, r.afterQuality, r.beforeSafety, r.afterSafety)

theorem mem_caseIds {report : PairedReport} {id : String} :
    id ∈ report.caseIds ↔ ∃ row ∈ report.rows, caseId row = some id := by
  simp [PairedReport.caseIds]

theorem caseIds_without (report : PairedReport) (c : String) :
    (report.without c).caseIds = report.caseIds.erase c := by
  ext id
  have hrows : (report.without c).rows = report.rows.filter fun row => caseId row ≠ some c := rfl
  rw [Finset.mem_erase, mem_caseIds, mem_caseIds, hrows]
  constructor
  · rintro ⟨row, hrow, hid⟩
    obtain ⟨hrow, hother⟩ := List.mem_filter.mp hrow
    refine ⟨?_, row, hrow, hid⟩
    rintro rfl
    exact of_decide_eq_true hother hid
  · rintro ⟨hother, row, hrow, hid⟩
    refine ⟨row, List.mem_filter.mpr ⟨hrow, decide_eq_true ?_⟩, hid⟩
    rw [hid]
    exact fun h => hother (Option.some.inj h)

theorem rowsByCase_without (report : PairedReport) {id : String} (hother : id ≠ c) :
    (report.without c).rowsByCase id = report.rowsByCase id := by
  have hrows : (report.without c).rows = report.rows.filter fun row => caseId row ≠ some c := rfl
  unfold PairedReport.rowsByCase
  rw [hrows, List.find?_filter]
  congr 1
  funext row
  by_cases hid : caseId row = some id
  · simp [hid, hother]
  · simp [hid]

/-- Rows of cases that have come up before are not the first of their case. -/
theorem rowsByCase_further {status : Option Value} {first extra rest : List Value} (id : String)
    (hextra : ∀ row ∈ extra, ∃ row' ∈ first, caseId row' = caseId row) :
    (PairedReport.of status (first ++ extra ++ rest)).rowsByCase id =
      (PairedReport.of status (first ++ rest)).rowsByCase id := by
  change (first ++ extra ++ rest).find? _ = (first ++ rest).find? _
  rw [List.find?_append, List.find?_append, List.find?_append]
  cases hfirst : first.find? fun row => caseId row = some id with
  | some row => rfl
  | none =>
    have hnone : (extra.find? fun row => caseId row = some id) = none := by
      rw [List.find?_eq_none] at hfirst ⊢
      intro row hrow hid
      obtain ⟨row', hrow', hsame⟩ := hextra row hrow
      exact hfirst row' hrow' (by simpa [hsame] using hid)
    rw [hnone]
    rfl

theorem caseIds_further {status : Option Value} {first extra rest : List Value}
    (hextra : ∀ row ∈ extra, ∃ row' ∈ first, caseId row' = caseId row) :
    (PairedReport.of status (first ++ extra ++ rest)).caseIds =
      (PairedReport.of status (first ++ rest)).caseIds := by
  ext id
  rw [mem_caseIds, mem_caseIds]
  change (∃ row ∈ first ++ extra ++ rest, _) ↔ ∃ row ∈ first ++ rest, _
  constructor
  · rintro ⟨row, hrow, hid⟩
    rcases List.mem_append.mp hrow with hrow | hrow
    · rcases List.mem_append.mp hrow with hrow | hrow
      · exact ⟨row, List.mem_append_left _ hrow, hid⟩
      · obtain ⟨row', hrow', hsame⟩ := hextra row hrow
        exact ⟨row', List.mem_append_left _ hrow', hsame.trans hid⟩
    · exact ⟨row, List.mem_append_right _ hrow, hid⟩
  · rintro ⟨row, hrow, hid⟩
    rcases List.mem_append.mp hrow with hrow | hrow
    · exact ⟨row, List.mem_append_left _ (List.mem_append_left _ hrow), hid⟩
    · exact ⟨row, List.mem_append_right _ hrow, hid⟩

/-- Nothing about the quality closes the gate. -/
def PairedEvalResult.QualityHolds (requireImprovement : Bool) (r : PairedEvalResult) : Prop :=
  qualityReasons requireImprovement r.beforeQuality r.afterQuality = []

/-- Nothing about the safety closes the gate. -/
def PairedEvalResult.SafetyHolds (r : PairedEvalResult) : Prop :=
  safetyReasons r.beforeSafety r.afterSafety = []

/-- The rates of both sides over a set of cases. -/
def ratesOver (before after : String → Option Value) (ids : Finset String) :
    ℕ × Option ℚ × Option ℚ × Option ℚ × Option ℚ :=
  (ids.card, passRate before ids, passRate after ids, safetyRate before ids, safetyRate after ids)

theorem ratesOver_congr {before before' after after' : String → Option Value} {ids : Finset String}
    (hbefore : ∀ id ∈ ids, before' id = before id) (hafter : ∀ id ∈ ids, after' id = after id) :
    ratesOver before' after' ids = ratesOver before after ids := by
  unfold ratesOver
  rw [passRate_congr hbefore, passRate_congr hafter, safetyRate_congr hbefore, safetyRate_congr hafter]

theorem rates_eq : (compareReports before after requireQualityImprovement latencyMultiplier costMultiplier).rates =
    ratesOver before.rowsByCase after.rowsByCase (before.caseIds ∩ after.caseIds) := rfl

theorem rates_without : (compareReports before (after.without c) requireQualityImprovement latencyMultiplier
    costMultiplier).rates =
      ratesOver before.rowsByCase after.rowsByCase ((before.caseIds ∩ after.caseIds).erase c) := by
  rw [rates_eq, caseIds_without, Finset.inter_erase]
  apply ratesOver_congr
  · exact fun _ _ => rfl
  · exact fun id hid => rowsByCase_without after (Finset.ne_of_mem_erase hid)

/-- The first attempts of a case in the two reports: judged on both sides, and not worse afterwards. -/
structure Steady (before after : PairedReport) (c : String) : Prop where
  judged : unjudged (before.rowsByCase c) = false ∧ unjudged (after.rowsByCase c) = false
  passes : passed (before.rowsByCase c) → passed (after.rowsByCase c)
  known : isSafety (before.rowsByCase c) = true →
    (hardPass (before.rowsByCase c)).isSome ∧ (hardPass (after.rowsByCase c)).isSome
  safe : isSafety (before.rowsByCase c) = true →
    hardPass (before.rowsByCase c) = some true → hardPass (after.rowsByCase c) = some true

/-- Quality and safety are compared over the cases that both reports have, on both sides over the same
ones and by their first rows. So more attempts at the cases of a report change nothing about them, and
neither check comes to pass by the removal of a case that did not get worse. -/
theorem paired_over_common_cases (before after : PairedReport) (requireQualityImprovement : Bool)
    (latencyMultiplier costMultiplier : ℚ) :
    (∀ before' after' : PairedReport,
      before'.caseIds ∩ after'.caseIds = before.caseIds ∩ after.caseIds →
      (∀ id ∈ before.caseIds ∩ after.caseIds,
        before'.rowsByCase id = before.rowsByCase id ∧ after'.rowsByCase id = after.rowsByCase id) →
      (compareReports before' after' requireQualityImprovement latencyMultiplier costMultiplier).rates =
        (compareReports before after requireQualityImprovement latencyMultiplier costMultiplier).rates) ∧
    (∀ first extra rest, after.rows = first ++ rest →
      (∀ row ∈ extra, ∃ row' ∈ first, caseId row' = caseId row) →
      (compareReports before (.of after.status (first ++ extra ++ rest)) requireQualityImprovement
        latencyMultiplier costMultiplier).rates =
        (compareReports before after requireQualityImprovement latencyMultiplier costMultiplier).rates) ∧
    ∀ c, (∀ id ∈ before.caseIds ∩ after.caseIds,
        isSafety (after.rowsByCase id) = isSafety (before.rowsByCase id)) →
      (c ∈ before.caseIds ∩ after.caseIds → Steady before after c) →
      let r := compareReports before after requireQualityImprovement latencyMultiplier costMultiplier
      let r' := compareReports before (after.without c) requireQualityImprovement latencyMultiplier costMultiplier
      (r'.QualityHolds requireQualityImprovement → r.QualityHolds requireQualityImprovement) ∧
        (r'.SafetyHolds → r.SafetyHolds) := by
  refine ⟨fun before' after' hids hrows => ?_, fun first extra rest hafter hextra => ?_, ?_⟩
  · rw [rates_eq, rates_eq, hids]
    exact ratesOver_congr (fun id hid => (hrows id hid).1) fun id hid => (hrows id hid).2
  · have hids : after.caseIds = (PairedReport.of after.status (first ++ rest)).caseIds := by
      unfold PairedReport.caseIds
      rw [hafter]
      rfl
    have hrow : ∀ id, (PairedReport.of after.status (first ++ rest)).rowsByCase id = after.rowsByCase id := by
      intro id
      unfold PairedReport.rowsByCase
      rw [hafter]
      rfl
    rw [rates_eq, rates_eq, caseIds_further hextra, hids]
    exact ratesOver_congr (fun _ _ => rfl) fun id _ => (rowsByCase_further id hextra).trans (hrow id)
  · intro c htrack hsteady r r'
    have hrates : r.rates = ratesOver before.rowsByCase after.rowsByCase (before.caseIds ∩ after.caseIds) := rates_eq
    have hrates' : r'.rates = ratesOver before.rowsByCase after.rowsByCase
        ((before.caseIds ∩ after.caseIds).erase c) := rates_without
    obtain ⟨_, hrates⟩ := Prod.mk.inj hrates
    obtain ⟨_, hrates'⟩ := Prod.mk.inj hrates'
    obtain ⟨hbq, haq, hbs, has⟩ : _ ∧ _ ∧ _ ∧ _ := by simpa using hrates
    obtain ⟨hbq', haq', hbs', has'⟩ : _ ∧ _ ∧ _ ∧ _ := by simpa using hrates'
    unfold PairedEvalResult.QualityHolds PairedEvalResult.SafetyHolds
    rw [hbq, haq, hbs, has, hbq', haq', hbs', has']
    by_cases hc : c ∈ before.caseIds ∩ after.caseIds
    · obtain ⟨hjudged, hpasses, hknown, hsafe⟩ := hsteady hc
      exact ⟨quality_of_erase hc hjudged.1 hjudged.2 hpasses, safety_of_erase hc htrack hknown hsafe⟩
    · rw [Finset.erase_eq_of_notMem hc]
      exact ⟨id, id⟩

end Reports

section Demo

def demoRow (id : String) (passes : Bool) : Value :=
  .obj [("case_id", .str id), ("track", .str "order_status"), ("hard_pass", .bool true),
    ("final_pass", .bool passes), ("e2e_latency_ms", .int 100), ("agent_cost_microusd", .int 100)]

/-- A report in which the one case passes and the other one does not. -/
def demoPair (first second : Bool) : PairedReport :=
  .of (some (.str "completed")) [demoRow "case_a" first, demoRow "case_b" second]

def demoGate (after : PairedReport) : PairedEvalResult :=
  compareReports (demoPair true false) after true (115 / 100) (110 / 100)

end Demo

theorem paired_over_common_cases_demo :
    ((demoGate ((demoPair false true).without "case_b")).QualityHolds true →
      (demoGate (demoPair false true)).QualityHolds true) ∧
    (demoGate (.of (some (.str "completed")) ([demoRow "case_a" false, demoRow "case_b" true] ++
      [demoRow "case_a" false] ++ []))).rates = (demoGate (demoPair false true)).rates := by
  have htheorem := paired_over_common_cases (demoPair true false) (demoPair false true) true (115 / 100) (110 / 100)
  constructor
  · have htrack : ∀ id ∈ (demoPair true false).caseIds ∩ (demoPair false true).caseIds,
        isSafety ((demoPair false true).rowsByCase id) = isSafety ((demoPair true false).rowsByCase id) := by
      decide +kernel
    have hsteady : Steady (demoPair true false) (demoPair false true) "case_b" :=
      ⟨by decide +kernel, by decide +kernel, by decide +kernel, by decide +kernel⟩
    exact (htheorem.2.2 "case_b" htrack fun _ => hsteady).1
  · apply htheorem.2.1 _ _ _ rfl
    intro row hrow
    rw [List.mem_singleton.mp hrow]
    exact ⟨_, List.mem_cons_self, rfl⟩

/-- The gate that is closed by a case which got worse is opened by dropping this case. -/
theorem dropped_case_passes : (demoGate (demoPair false true)).gatePass = false ∧
    (demoGate ((demoPair false true).without "case_a")).gatePass = true := by
  decide +kernel

end CommerceAgent.Harness
