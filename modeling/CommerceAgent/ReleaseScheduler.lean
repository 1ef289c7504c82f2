import CommerceAgent.CanaryMeasures
import CommerceAgent.ReleaseAssignments
import CommerceAgent.Quantiles

/-! The release scheduler: the metrics that it builds from the evidence of the candidate runs, its ticks
among the other calls on the releases, and what stands behind every stage that it lets through. -/
namespace CommerceAgent.Delivery

open Histories Json Tables Texts Quantiles

section Evidence

/-- A row of `release_assignments`, with its `created_at`. -/
structure DatedAssignment extends AssignmentRow where
  createdAt : ℕ

/-- What the metrics read of a row of `agent_runs`. -/
structure MeasuredRun where
  runId : Uuid
  tenantId : String
  acceptedAt : Option ℕ := none
  responsePublishedAt : Option ℕ := none
  totalCostMicrousd : Option ℤ := none

/-- The primary key of the runs. -/
abbrev MeasuredRun.Clash (a b : MeasuredRun) : Prop := a.runId = b.runId

/-- What the metrics read of a row of `run_events`. -/
structure MeasuredEvent where
  runId : Uuid
  eventType : String
  payload : Dict := []

structure Evidence where
  assignments : List DatedAssignment := []
  runs : Table MeasuredRun MeasuredRun.Clash := .empty
  events : List MeasuredEvent := []

/-- The assignments of the release to its candidate since the beginning of the window. -/
def Evidence.window (ev : Evidence) (tenantId : String) (releaseId : Uuid) (since : ℕ) : List DatedAssignment :=
  ev.assignments.filter fun a => decide (a.tenantId = tenantId ∧ a.releaseId = releaseId ∧
    (a.assignment.mode = "shadow" ∨ a.assignment.mode = "canary") ∧ since ≤ a.createdAt)

/-- The runs of these assignments. -/
def Evidence.candidateRuns (ev : Evidence) (tenantId : String) (window : List DatedAssignment) :
    List MeasuredRun :=
  ev.runs.select fun run => decide (run.tenantId = tenantId ∧ run.runId ∈ window.map (·.runId))

/-- The run has an event of this type. -/
def Evidence.has (ev : Evidence) (eventType : String) (runId : Uuid) : Bool :=
  ev.events.any fun event => decide (event.runId = runId ∧ event.eventType = eventType)

/-- `published_count`. -/
def Evidence.publishedRuns (ev : Evidence) (window : List DatedAssignment) : List Uuid :=
  ((window.filter fun a =>
    (ev.runs.rows.any fun run => decide (run.runId = a.runId ∧ run.tenantId = a.tenantId)) &&
      ev.has "terminal_response_published" a.runId).map (·.runId)).dedup

/-- A request of high risk that was not stopped. -/
def MeasuredEvent.p0 (event : MeasuredEvent) : Bool :=
  match event.payload.get? "risk_level", event.payload.get? "disposition" with
  | some (.str risk), some (.str disposition) =>
    decide (event.eventType = "safety_routed" ∧ risk = "high" ∧ disposition = "continue")
  | _, _ => false

/-- `p0_events`: each of them once for every assignment of its run. -/
def Evidence.p0Events (ev : Evidence) (window : List DatedAssignment) : List MeasuredEvent :=
  (ev.events.filter MeasuredEvent.p0).flatMap fun event =>
    (window.filter fun a => a.runId = event.runId).map fun _ => event

def Evidence.lowRiskRuns (window : List DatedAssignment) : List Uuid :=
  ((window.filter fun a => a.riskLevel = "low").map (·.runId)).dedup

/-- `percentile_cont`, which is null without values. -/
def percentileCont (probability : ℚ) (values : List ℚ) : Option ℚ :=
  if values = [] then none else some (quantile values probability)

def MeasuredRun.e2eMs (run : MeasuredRun) : Option ℚ :=
  match run.acceptedAt, run.responsePublishedAt with
  | some accepted, some published => some (((published : ℤ) - accepted : ℤ) / 1000)
  | _, _ => none

-- `float` of a text
variable (parseFloat : String → Option ℚ)

/-- `_number`, of a value of the gates. -/
def number : Option Value → Option ℚ
  | some (.int i) => some i
  | some (.str s) => parseFloat s
  | _ => none

def flag? : Option Value → Option Bool
  | some (.bool b) => some b
  | _ => none

/-- The metrics of a release at the time `now`. -/
def Release.measured (ev : Evidence) (now : ℕ) (r : Release) : CanaryMetrics ℚ :=
  let window := ev.window r.tenantId r.releaseId (r.observationStartedAt.getD (now - day))
  let runs := ev.candidateRuns r.tenantId window
  let baseline := ((r.gates.get? "baseline").bind Value.asObj?).getD r.gates
  let p0 := (ev.p0Events window).length
  let lowRisk := Evidence.lowRiskRuns window
  { p0Events := p0
    qualityGatePass := flag? (r.gates.get? "quality_gate_pass")
    safetyGatePass := match flag? (r.gates.get? "safety_gate_pass") with
      | some configured => some configured
      | none => if 0 < p0 then some false else none
    terminalResponseCoverage :=
      some (if runs.length = 0 then 0 else (ev.publishedRuns window).length / runs.length)
    p95E2eMs := percentileCont 0.95 (runs.filterMap MeasuredRun.e2eMs)
    baselineP95E2eMs := number parseFloat (baseline.get? "p95_e2e_ms")
    p99E2eMs := percentileCont 0.99 (runs.filterMap MeasuredRun.e2eMs)
    baselineP99E2eMs := number parseFloat (baseline.get? "p99_e2e_ms")
    p95CostMicrousd := percentileCont 0.95 (runs.filterMap fun run => run.totalCostMicrousd.map (↑))
    baselineP95CostMicrousd := number parseFloat (baseline.get? "p95_cost_microusd")
    lowRiskHandoffRate := some (if lowRisk.length = 0 then 0
      else (lowRisk.filter (ev.has "handoff_created")).length / lowRisk.length)
    baselineLowRiskHandoffRate := number parseFloat (baseline.get? "low_risk_handoff_rate") }

/-- `ReleaseRepository.canary_metrics`. -/
def canaryMetrics (db : DB) (ev : Evidence) (tenantId : String) (releaseId : Uuid) (now : ℕ) :
    Except Error (CanaryMetrics ℚ) :=
  match db.releases.select (Release.addressed tenantId releaseId) with
  | [] => .error (.transition "release_not_found")
  | r :: _ => .ok (r.measured parseFloat ev now)

end Evidence

section Scheduler

/-- `ORDER BY updated_at, release_id`. -/
def dueBefore (a b : Release) : Prop :=
  a.updatedAt < b.updatedAt ∨ a.updatedAt = b.updatedAt ∧ a.releaseId ≤ b.releaseId

instance : DecidableRel dueBefore := fun _ _ => inferInstanceAs (Decidable (_ ∨ _))

/-- `ReleaseRepository.due_for_evaluation`. -/
def DB.dueForEvaluation (db : DB) (tenantId : String) (now : ℕ) : List Release :=
  (db.releases.select fun r => decide (r.tenantId = tenantId ∧ r.status = .active ∧
    ∀ ends ∈ r.observationEndsAt, ends ≤ now)).insertionSort dueBefore

structure SchedulerResult where
  releaseId : Uuid
  status : String
  stage : Option String := none
  error : Option String := none
  deriving DecidableEq

/-- Where `run_once` is between its calls of the repository: it holds the lock while it is not idle. -/
inductive Tick where
  | idle
  | due (pending : List Uuid) (results : List SchedulerResult)
  | measured (releaseId : Uuid) (metrics : CanaryMetrics ℚ) (pending : List Uuid)
      (results : List SchedulerResult)

/-- The call is not an evaluation. -/
def Step.Outside (e : Step ℚ) : Prop :=
  ∀ tenantId releaseId actorRef metrics, e.op ≠ .evaluateAndAdvance tenantId releaseId actorRef metrics

/-- What happens: another call on the releases, new evidence, and the calls of the scheduler. -/
inductive Happening where
  | call (e : Step ℚ) (outside : e.Outside)
  | observe (evidence : Evidence)
  | wake (now : ℕ)
  | measure (now : ℕ)
  | decide (now later : ℕ)
  | finish

structure World where
  db : DB := {}
  evidence : Evidence := {}
  tick : Tick := .idle
  reports : List (List SchedulerResult) := []

def notTransitioned (releaseId : Uuid) : Error → SchedulerResult
  | .transition message => ⟨releaseId, "not_transitioned", none, some message⟩
  | .integrity => ⟨releaseId, "not_transitioned", none, none⟩

/-- The result for a release that was evaluated, with its row afterwards. -/
def DB.evaluated (db : DB) (tenantId : String) (releaseId : Uuid) : SchedulerResult :=
  match db.releases.select (Release.addressed tenantId releaseId) with
  | r :: _ => ⟨releaseId, r.status.value, some r.stage.value, none⟩
  | [] => ⟨releaseId, "unknown", none, none⟩

variable (parseFloat : String → Option ℚ) (tenantId actorRef : String)

/-- The evaluation of a release by the scheduler. -/
def evaluation (releaseId : Uuid) (metrics : CanaryMetrics ℚ) (now later : ℕ) : Step ℚ :=
  ⟨.evaluateAndAdvance tenantId releaseId actorRef metrics, now, later⟩

def World.after (w : World) : Happening → World
  | .call e _ => { w with db := Delivery.after w.db e }
  | .observe evidence => { w with evidence := evidence }
  | .wake now =>
    match w.tick with
    | .idle => { w with tick := .due ((w.db.dueForEvaluation tenantId now).map Release.releaseId) [] }
    -- the lock is held: `run_once` returns at once
    | _ => w
  | .measure now =>
    match w.tick with
    | .due (releaseId :: pending) results =>
      match canaryMetrics parseFloat w.db w.evidence tenantId releaseId now with
      | .ok metrics => { w with tick := .measured releaseId metrics pending results }
      | .error error => { w with tick := .due pending (results ++ [notTransitioned releaseId error]) }
    | _ => w
  | .decide now later =>
    match w.tick with
    | .measured releaseId metrics pending results =>
      match (evaluation tenantId actorRef releaseId metrics now later).attempt w.db with
      | .ok db => { w with
          db := db, tick := .due pending (results ++ [db.evaluated tenantId releaseId]) }
      | .error error => { w with tick := .due pending (results ++ [notTransitioned releaseId error]) }
    | _ => w
  | .finish =>
    match w.tick with
    | .due [] results => { w with tick := .idle, reports := w.reports ++ [results] }
    | _ => w

/-- The call on the releases that a happening makes. -/
def World.made (w : World) : Happening → List (Step ℚ)
  | .call e _ => [e]
  | .decide now later =>
    match w.tick with
    | .measured releaseId metrics _ _ => [evaluation tenantId actorRef releaseId metrics now later]
    | _ => []
  | _ => []

/-- The calls on the releases along a history. -/
def World.calls (w : World) : List Happening → List (Step ℚ)
  | [] => []
  | e :: h => w.made tenantId actorRef e ++ (w.after parseFloat tenantId actorRef e).calls h

end Scheduler

section Projection

variable {parseFloat : String → Option ℚ} {tenantId actorRef : String} {w : World} {h h' : List Happening}
  {e : Happening}

/-- The releases change by these calls alone. -/
theorem db_after (w : World) (e : Happening) :
    (w.after parseFloat tenantId actorRef e).db = run after w.db (w.made tenantId actorRef e) := by
  cases e with
  | call e _ => rfl
  | observe evidence => rfl
  | wake now => cases htick : w.tick <;> simp [World.after, World.made, htick]
  | measure now =>
    unfold World.after World.made
    dsimp only
    split
    · split <;> rfl
    · rfl
  | decide now later =>
    unfold World.after World.made
    dsimp only
    split
    · rename_i releaseId metrics pending results htick
      simp only [run_cons, run_nil]
      split
      · rename_i db hok
        rw [after_ok hok]
      · rename_i error herror
        rw [after_error herror]
    · rename_i hother
      cases htick : w.tick with
      | measured releaseId metrics pending results => exact absurd htick (hother _ _ _ _)
      | idle => rfl
      | due pending results => rfl
  | finish =>
    unfold World.after World.made
    dsimp only
    split <;> rfl

theorem db_run (w : World) (h : List Happening) :
    (run (World.after parseFloat tenantId actorRef) w h).db =
      run after w.db (w.calls parseFloat tenantId actorRef h) := by
  induction h generalizing w with
  | nil => rfl
  | cons e h ih => rw [run_cons, ih, World.calls, run_append, db_after]

theorem calls_append : w.calls parseFloat tenantId actorRef (h ++ h') =
    w.calls parseFloat tenantId actorRef h ++
      (run (World.after parseFloat tenantId actorRef) w h).calls parseFloat tenantId actorRef h' := by
  induction h generalizing w with
  | nil => rfl
  | cons e h ih => rw [List.cons_append, World.calls, ih, World.calls, List.append_assoc, run_cons]

end Projection

section Backing

variable {parseFloat : String → Option ℚ} {tenantId actorRef : String} {w : World} {h : List Happening}

/-- An evaluation that comes to a decision was given the metrics of the very row that it decides on. -/
def Backed (parseFloat : String → Option ℚ) (x : DB × Step ℚ) : Prop :=
  ∀ r metrics, x.1.release r.releaseId = some r → x.2.Evaluates x.1 r metrics →
    ∃ ev now, metrics = r.measured parseFloat ev now

/-- What the scheduler has measured is still what it decides on, or the release is no longer active. -/
def Tick.Fresh (parseFloat : String → Option ℚ) (db : DB) : Tick → Prop
  | .measured releaseId metrics _ _ => ∃ r ev now, metrics = r.measured parseFloat ev now ∧
      ∃ r', db.release releaseId = some r' ∧ (r' = r ∨ r'.status ≠ .active)
  | _ => True

theorem canaryMetrics_ok {db : DB} {ev : Evidence} {releaseId : Uuid} {now : ℕ} {metrics : CanaryMetrics ℚ}
    (h : canaryMetrics parseFloat db ev tenantId releaseId now = .ok metrics) :
    ∃ r, db.release releaseId = some r ∧ metrics = r.measured parseFloat ev now := by
  unfold canaryMetrics at h
  split at h
  · exact absurd h (by simp)
  · rename_i r l hselect
    exact ⟨r, (select_addressed hselect).1, (Except.ok.inj h).symm⟩

/-- Between a measurement and the decision on it a release can only be stopped. -/
theorem fresh_call {e : Step ℚ} (he : e.Outside) {tick : Tick} {db : DB} (hfresh : tick.Fresh parseFloat db) :
    tick.Fresh parseFloat (after db e) := by
  cases tick with
  | idle => trivial
  | due pending results => trivial
  | measured releaseId metrics pending results =>
    obtain ⟨r, ev, now, hmetrics, r', hr', hsame⟩ := hfresh
    obtain ⟨r'', hr'', hcases⟩ := release_after hr' e
    refine ⟨r, ev, now, hmetrics, r'', hr'', ?_⟩
    rcases hcases with rfl | ⟨_, _, rfl⟩ | ⟨_, heval, _⟩
    · exact hsame
    · refine Or.inr ?_
      change Status.stopped ≠ Status.active
      decide
    · obtain ⟨actor, hcalled⟩ := heval.called
      exact absurd hcalled (he _ _ _ _)

theorem fresh_after (hfresh : w.tick.Fresh parseFloat w.db) (e : Happening) :
    (w.after parseFloat tenantId actorRef e).tick.Fresh parseFloat
      (w.after parseFloat tenantId actorRef e).db := by
  cases e with
  | call e outside => exact fresh_call outside hfresh
  | observe evidence => exact hfresh
  | wake now =>
    unfold World.after
    dsimp only
    split
    · trivial
    · exact hfresh
  | measure now =>
    unfold World.after
    dsimp only
    split
    · split
      · rename_i metrics hok
        obtain ⟨r, hr, hmetrics⟩ := canaryMetrics_ok hok
        exact ⟨r, w.evidence, now, hmetrics, r, hr, Or.inl rfl⟩
      · trivial
    · exact hfresh
  | decide now later =>
    unfold World.after
    dsimp only
    split
    · split <;> trivial
    · exact hfresh
  | finish =>
    unfold World.after
    dsimp only
    split
    · trivial
    · exact hfresh

theorem backed_made (hfresh : w.tick.Fresh parseFloat w.db) (e : Happening) :
    ∀ x ∈ trace after w.db (w.made tenantId actorRef e), Backed parseFloat x := by
  cases e with
  | call e outside =>
    intro x hx r metrics _ heval
    obtain rfl := List.mem_singleton.mp hx
    obtain ⟨actor, hcalled⟩ := heval.called
    exact absurd hcalled (outside _ _ _ _)
  | decide now later =>
    unfold World.made
    dsimp only
    split
    · rename_i releaseId metrics pending results htick
      rw [htick] at hfresh
      obtain ⟨r, ev, seen, hmetrics, r', hr', hsame⟩ := hfresh
      intro x hx row metrics' hrow heval
      obtain rfl := List.mem_singleton.mp hx
      obtain ⟨actor, hcalled⟩ := heval.called
      obtain ⟨_, hid, _, hgiven⟩ := Op.evaluateAndAdvance.inj hcalled
      have hrow' : w.db.release releaseId = some row := by
        rw [hid]
        exact hrow
      obtain rfl := Option.some.inj (hr'.symm.trans hrow')
      rcases hsame with rfl | hended
      · exact ⟨ev, seen, hgiven.symm.trans hmetrics⟩
      · exact absurd heval.active hended
    · simp [trace]
  | observe evidence => simp [World.made, trace]
  | wake now => simp [World.made, trace]
  | measure now => simp [World.made, trace]
  | finish => simp [World.made, trace]

theorem run_backed (h : List Happening) :
    (run (World.after parseFloat tenantId actorRef) {} h).tick.Fresh parseFloat
        (run (World.after parseFloat tenantId actorRef) {} h).db ∧
      ∀ x ∈ trace after {} (World.calls parseFloat tenantId actorRef {} h), Backed parseFloat x := by
  induction h using List.reverseRecOn with
  | nil => exact ⟨trivial, by simp [World.calls, trace]⟩
  | append_singleton h e ih =>
    obtain ⟨hfresh, hbacked⟩ := ih
    rw [run_append, calls_append, trace_append]
    refine ⟨fresh_after hfresh e, ?_⟩
    intro x hx
    rcases List.mem_append.mp hx with hx | hx
    · exact hbacked x hx
    · have hdb : run after {} (World.calls parseFloat tenantId actorRef {} h) =
          (run (World.after parseFloat tenantId actorRef) {} h).db := (db_run {} h).symm
      rw [hdb] at hx
      simp only [World.calls, List.append_nil] at hx
      exact backed_made hfresh e x hx

end Backing

section Answers

variable {parseFloat : String → Option ℚ} {ev : Evidence} {r : Release} {now : ℕ}

/-- The assignments that the metrics of the release look at. -/
def Release.observed (ev : Evidence) (now : ℕ) (r : Release) : List DatedAssignment :=
  ev.window r.tenantId r.releaseId (r.observationStartedAt.getD (now - day))

/-- What the window of a release has shown of its candidate: there were runs, each of them was answered,
none let a request of high risk go on, and both gates of the release are recorded as passed. -/
structure Answered (ev : Evidence) (now : ℕ) (r : Release) : Prop where
  tried : ev.candidateRuns r.tenantId (r.observed ev now) ≠ []
  answered : ∀ run ∈ ev.candidateRuns r.tenantId (r.observed ev now),
    ev.has "terminal_response_published" run.runId = true
  safe : ∀ a ∈ r.observed ev now, ∀ event ∈ ev.events, event.runId = a.runId → event.p0 = false
  quality : r.gates.get? "quality_gate_pass" = some (.bool true)
  safety : r.gates.get? "safety_gate_pass" = some (.bool true)

theorem eq_true_of_flag {value : Option Value} (h : flag? value = some true) : value = some (.bool true) := by
  unfold flag? at h
  split at h
  · rw [Option.some.inj h]
  · exact absurd h (by simp)

/-- The published runs are among the candidate runs. -/
theorem published_subset {window : List DatedAssignment} {tenant : String}
    (hwindow : ∀ a ∈ window, a.tenantId = tenant) {runId : Uuid} (h : runId ∈ ev.publishedRuns window) :
    runId ∈ (ev.candidateRuns tenant window).map MeasuredRun.runId ∧
      ev.has "terminal_response_published" runId = true := by
  obtain ⟨a, ha, rfl⟩ := List.mem_map.mp (List.mem_dedup.mp h)
  obtain ⟨hmem, ha⟩ := List.mem_filter.mp ha
  simp only [Bool.and_eq_true, List.any_eq_true, decide_eq_true_eq] at ha
  obtain ⟨⟨run, hrun, hid, htenant⟩, hhas⟩ := ha
  refine ⟨List.mem_map.mpr ⟨run, List.mem_filter.mpr ⟨hrun, ?_⟩, hid⟩, hhas⟩
  have hknown : run.runId ∈ window.map (·.runId) := List.mem_map.mpr ⟨a, hmem, hid.symm⟩
  simp only [decide_eq_true_eq]
  exact ⟨htenant.trans (hwindow a hmem), hknown⟩

/-- A full coverage is one of at least one run. -/
theorem all_published {window : List DatedAssignment} {tenant : String}
    (hwindow : ∀ a ∈ window, a.tenantId = tenant)
    (h : 1 ≤ (if (ev.candidateRuns tenant window).length = 0 then 0
      else ((ev.publishedRuns window).length : ℚ) / (ev.candidateRuns tenant window).length)) :
    ev.candidateRuns tenant window ≠ [] ∧ ∀ run ∈ ev.candidateRuns tenant window,
      ev.has "terminal_response_published" run.runId = true := by
  split at h
  · exact absurd h (by norm_num)
  · rename_i hsome
    have hpos : (0 : ℚ) < (ev.candidateRuns tenant window).length := by
      exact_mod_cast Nat.pos_of_ne_zero hsome
    rw [le_div_iff₀ hpos, one_mul] at h
    have hcard : ((ev.candidateRuns tenant window).map MeasuredRun.runId).length ≤
        (ev.publishedRuns window).length := by
      rw [List.length_map]
      exact_mod_cast h
    -- as many published runs as candidate runs: they are the same
    have hsub : (ev.publishedRuns window).Subperm ((ev.candidateRuns tenant window).map MeasuredRun.runId) :=
      List.subperm_of_subset (List.nodup_dedup _) fun _ hmem => (published_subset hwindow hmem).1
    have hperm := hsub.perm_of_length_le hcard
    refine ⟨fun hnil => hsome (by rw [hnil, List.length_nil]), ?_⟩
    intro run hrun
    have hmem : run.runId ∈ ev.publishedRuns window :=
      hperm.mem_iff.mpr (List.mem_map.mpr ⟨run, hrun, rfl⟩)
    exact (published_subset hwindow hmem).2

theorem answered_of_passes (h : evaluateCanary (r.measured parseFloat ev now) = []) : Answered ev now r := by
  obtain ⟨hchecks, _⟩ := evaluateCanary_eq_nil.mp h
  have hwindow : ∀ a ∈ r.observed ev now, a.tenantId = r.tenantId := by
    intro a ha
    have hcond := (List.mem_filter.mp ha).2
    simp only [decide_eq_true_eq] at hcond
    exact hcond.1
  have hp0 : ev.p0Events (r.observed ev now) = [] := by
    have hnone : ((ev.p0Events (r.observed ev now)).length : ℤ) ≤ 0 := hchecks.p0
    apply List.length_eq_zero_iff.mp
    omega
  have hsafety : flag? (r.gates.get? "safety_gate_pass") = some true := by
    have hpass := hchecks.safety
    simp only [Release.measured] at hpass
    split at hpass
    · rename_i configured hconfigured
      rw [hconfigured, hpass]
    · split at hpass <;> exact absurd hpass (by simp)
  obtain ⟨coverage, hcoverage, hfull⟩ := hchecks.coverage
  obtain rfl := Option.some.inj hcoverage
  obtain ⟨htried, hanswered⟩ := all_published hwindow hfull
  refine ⟨htried, hanswered, ?_, eq_true_of_flag hchecks.quality, eq_true_of_flag hsafety⟩
  intro a ha event hevent hid
  rw [← Bool.not_eq_true]
  intro hbad
  have hmem : event ∈ ev.p0Events (r.observed ev now) := by
    refine List.mem_flatMap.mpr ⟨event, List.mem_filter.mpr ⟨hevent, hbad⟩, ?_⟩
    exact List.mem_map.mpr ⟨a, List.mem_filter.mpr ⟨ha, by simp [hid]⟩, rfl⟩
  rw [hp0] at hmem
  exact absurd hmem (by simp)

end Answers

section Rollout

variable {parseFloat : String → Option ℚ} {tenantId actorRef : String} {h : List Happening}

end Rollout

section Reports

variable {parseFloat : String → Option ℚ} {tenantId actorRef : String} {w : World} {h : List Happening}

/-- The releases that a tick reports on or still has to. -/
def Tick.ids : Tick → List Uuid
  | .idle => []
  | .due pending results => results.map SchedulerResult.releaseId ++ pending
  | .measured releaseId _ pending results => results.map SchedulerResult.releaseId ++ releaseId :: pending

/-- A tick began here, on these releases. -/
def Woken (tenantId : String) (ids : List Uuid) (x : World × Happening) : Prop :=
  ∃ now, x.2 = .wake now ∧ x.1.tick = .idle ∧
    ids = (x.1.db.dueForEvaluation tenantId now).map Release.releaseId

@[simp] theorem releaseId_notTransitioned (releaseId : Uuid) (error : Error) :
    (notTransitioned releaseId error).releaseId = releaseId := by
  cases error <;> rfl

@[simp] theorem releaseId_evaluated (db : DB) (releaseId : Uuid) :
    (db.evaluated tenantId releaseId).releaseId = releaseId := by
  unfold DB.evaluated
  split <;> rfl

/-- What a tick has to report on is fixed when it begins. -/
theorem ids_after (w : World) (e : Happening) :
    (w.after parseFloat tenantId actorRef e).tick = .idle ∨
      w.tick ≠ .idle ∧ (w.after parseFloat tenantId actorRef e).tick.ids = w.tick.ids ∨
      Woken tenantId (w.after parseFloat tenantId actorRef e).tick.ids (w, e) := by
  have hsame : ∀ w' : World, w'.tick = w.tick → w'.tick = .idle ∨
      w.tick ≠ .idle ∧ w'.tick.ids = w.tick.ids ∨ Woken tenantId w'.tick.ids (w, e) := by
    intro w' htick
    by_cases hidle : w.tick = .idle
    · exact Or.inl (htick.trans hidle)
    · exact Or.inr (Or.inl ⟨hidle, by rw [htick]⟩)
  cases e with
  | call e outside => exact hsame _ rfl
  | observe evidence => exact hsame _ rfl
  | wake now =>
    unfold World.after
    dsimp only
    split
    · rename_i hidle
      exact Or.inr (Or.inr ⟨now, rfl, hidle, by simp [Tick.ids]⟩)
    · exact hsame _ rfl
  | measure now =>
    unfold World.after
    dsimp only
    split
    · rename_i releaseId pending results htick
      have hbusy : w.tick ≠ .idle := by simp [htick]
      split
      · exact Or.inr (Or.inl ⟨hbusy, by simp [htick, Tick.ids]⟩)
      · exact Or.inr (Or.inl ⟨hbusy, by simp [htick, Tick.ids]⟩)
    · exact hsame _ rfl
  | decide now later =>
    unfold World.after
    dsimp only
    split
    · rename_i releaseId metrics pending results htick
      have hbusy : w.tick ≠ .idle := by simp [htick]
      split
      · exact Or.inr (Or.inl ⟨hbusy, by simp [htick, Tick.ids]⟩)
      · exact Or.inr (Or.inl ⟨hbusy, by simp [htick, Tick.ids]⟩)
    · exact hsame _ rfl
  | finish =>
    unfold World.after
    dsimp only
    split
    · exact Or.inl rfl
    · exact hsame _ rfl

theorem reports_after (w : World) (e : Happening) :
    (w.after parseFloat tenantId actorRef e).reports = w.reports ∨ ∃ results, w.tick = .due [] results ∧
      (w.after parseFloat tenantId actorRef e).reports = w.reports ++ [results] := by
  cases e with
  | finish =>
    unfold World.after
    dsimp only
    split
    · rename_i results htick
      exact Or.inr ⟨results, htick, rfl⟩
    · exact Or.inl rfl
  | call e outside => exact Or.inl rfl
  | observe evidence => exact Or.inl rfl
  | wake now =>
    unfold World.after
    dsimp only
    split <;> exact Or.inl rfl
  | measure now =>
    unfold World.after
    dsimp only
    split
    · split <;> exact Or.inl rfl
    · exact Or.inl rfl
  | decide now later =>
    unfold World.after
    dsimp only
    split
    · split <;> exact Or.inl rfl
    · exact Or.inl rfl

theorem nodup_dueForEvaluation (db : DB) (now : ℕ) :
    ((db.dueForEvaluation tenantId now).map Release.releaseId).Nodup := by
  have hperm := (List.perm_insertionSort dueBefore (db.releases.select fun r => decide (r.tenantId = tenantId ∧
    r.status = .active ∧ ∀ ends ∈ r.observationEndsAt, ends ≤ now))).map Release.releaseId
  apply hperm.nodup_iff.mpr
  apply List.pairwise_map.mpr
  exact (db.releases.distinct.filter _).imp fun hne => hne

theorem run_reports (h : List Happening) :
    ((run (World.after parseFloat tenantId actorRef) {} h).tick ≠ .idle →
      ∃ x ∈ trace (World.after parseFloat tenantId actorRef) {} h,
        Woken tenantId (run (World.after parseFloat tenantId actorRef) {} h).tick.ids x) ∧
    ∀ results ∈ (run (World.after parseFloat tenantId actorRef) {} h).reports,
      ∃ x ∈ trace (World.after parseFloat tenantId actorRef) {} h,
        Woken tenantId (results.map SchedulerResult.releaseId) x := by
  induction h using List.reverseRecOn with
  | nil => exact ⟨fun hbusy => absurd rfl hbusy, by simp⟩
  | append_singleton h e ih =>
    obtain ⟨htick, hreports⟩ := ih
    rw [run_append, run_cons, run_nil, trace_snoc]
    constructor
    · intro hbusy
      rcases ids_after (run (World.after parseFloat tenantId actorRef) {} h) e with hidle | ⟨hbefore, hids⟩ | hwoken
      · exact absurd hidle hbusy
      · obtain ⟨x, hx, hwoken⟩ := htick hbefore
        rw [hids]
        exact ⟨x, List.mem_append_left _ hx, hwoken⟩
      · exact ⟨_, List.mem_append_right _ (List.mem_singleton_self _), hwoken⟩
    · intro results hresults
      have hold : results ∈ (run (World.after parseFloat tenantId actorRef) {} h).reports →
          ∃ x ∈ trace (World.after parseFloat tenantId actorRef) {} h ++
            [(run (World.after parseFloat tenantId actorRef) {} h, e)],
            Woken tenantId (results.map SchedulerResult.releaseId) x := by
        intro hmem
        obtain ⟨x, hx, hwoken⟩ := hreports results hmem
        exact ⟨x, List.mem_append_left _ hx, hwoken⟩
      rcases reports_after (run (World.after parseFloat tenantId actorRef) {} h) e with hsame | ⟨last, hlast, hmore⟩
      · rw [hsame] at hresults
        exact hold hresults
      · rw [hmore] at hresults
        rcases List.mem_append.mp hresults with hmem | hmem
        · exact hold hmem
        · obtain rfl := List.mem_singleton.mp hmem
          obtain ⟨x, hx, hwoken⟩ := htick (by simp [hlast])
          rw [hlast, Tick.ids, List.append_nil] at hwoken
          exact ⟨x, List.mem_append_left _ hx, hwoken⟩

end Reports

section Demo

def demoAssignment (runId : Uuid) (createdAt : ℕ) : DatedAssignment where
  releaseId := "release-1"
  tenantId := "demo-shop"
  runId := runId
  actorKeyHash := ""
  conversationKeyHash := ""
  assignment := ⟨"v1", "v2", "v1", "shadow", 0, 0, "shadow_observation", false⟩
  riskLevel := "low"
  riskHint := "read_only"
  comparison := none
  createdAt := createdAt

/-- A window with one run, which is answered. -/
def demoWindow (runId : Uuid) (createdAt : ℕ) : Evidence where
  assignments := [demoAssignment runId createdAt]
  runs := .single { runId := runId, tenantId := "demo-shop" }
  events := [⟨runId, "terminal_response_published", []⟩]

def demoTick (runId : Uuid) (now : ℕ) : List Happening :=
  [.observe (demoWindow runId (now - 1)), .wake now, .measure now, .decide now now, .finish]

/-- A release whose gates are recorded as passed, and a tick on each of the days after it. -/
def demoSchedule : List Happening :=
  .call ⟨.registrations [⟨"demo-shop", "v2", true⟩], 0, 0⟩ (by simp [Step.Outside]) ::
  .call ⟨.create "demo-shop" "admin" "v1" "v2"
    [("quality_gate_pass", .bool true), ("safety_gate_pass", .bool true)] "release-1", 0, 0⟩
    (by simp [Step.Outside]) ::
  (demoTick "run-1" day ++ demoTick "run-2" (2 * day) ++ demoTick "run-3" (3 * day) ++
    demoTick "run-4" (4 * day))

def demoWorld : World := run (World.after (fun _ => none) "demo-shop" "release-scheduler") {} demoSchedule

instance demoSchedule_facts : Fact ((demoWorld.db.release "release-1").map Release.stage = some .full ∧
    demoWorld.reports.head? = some [⟨"release-1", "ACTIVE", some "CANARY_5", none⟩]) :=
  ⟨by decide +kernel⟩

end Demo

end CommerceAgent.Delivery
