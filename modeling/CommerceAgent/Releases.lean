import CommerceAgent.Histories
import CommerceAgent.Tables
import CommerceAgent.Texts
import CommerceAgent.Json
import CommerceAgent.Protocols

/-! Progressive delivery releases: the guard over the metrics, the stage machine, and the table that
keeps what the evaluations decided. -/
namespace CommerceAgent.Delivery

open Histories Json Tables Texts

inductive Stage where
  | shadow
  | canary5
  | canary25
  | canary50
  | full
  | stopped
  | rolledBack
  deriving DecidableEq, Repr

inductive Status where
  | active
  | paused
  | stopped
  | completed
  | rolledBack
  deriving DecidableEq, Repr

def Stage.value : Stage → String
  | .shadow => "SHADOW"
  | .canary5 => "CANARY_5"
  | .canary25 => "CANARY_25"
  | .canary50 => "CANARY_50"
  | .full => "FULL"
  | .stopped => "STOPPED"
  | .rolledBack => "ROLLED_BACK"

def Status.value : Status → String
  | .active => "ACTIVE"
  | .paused => "PAUSED"
  | .stopped => "STOPPED"
  | .completed => "COMPLETED"
  | .rolledBack => "ROLLED_BACK"

section Guard

/-- What the guard reads of the metrics, over the numbers `F` of the measurements. -/
structure CanaryMetrics (F : Type) where
  p0Events : ℤ := 0
  qualityGatePass : Option Bool := none
  safetyGatePass : Option Bool := none
  terminalResponseCoverage : Option F := none
  p95E2eMs : Option F := none
  baselineP95E2eMs : Option F := none
  p99E2eMs : Option F := none
  baselineP99E2eMs : Option F := none
  p95CostMicrousd : Option F := none
  baselineP95CostMicrousd : Option F := none
  lowRiskHandoffRate : Option F := none
  baselineLowRiskHandoffRate : Option F := none
  skillScopeViolation : Bool := false
  targetSliceQualityDelta : Option F := none

variable {F : Type} [LT F] [DecidableLT F] [Mul F] [OfScientific F] [Zero F] [One F]

/-- `_above`. -/
def above (value baseline : Option F) (multiplier : F) : Bool :=
  match value, baseline with
  | some value, some baseline => decide (baseline * multiplier < value)
  | _, _ => false

/-- The reasons of `evaluate_canary`; it stops if there are any. -/
def evaluateCanary (metrics : CanaryMetrics F) : List String :=
  (if metrics.qualityGatePass ≠ some true then
    [if metrics.qualityGatePass = some false then "quality_gate_failed" else "quality_gate_incomplete"]
  else []) ++
  (if metrics.safetyGatePass ≠ some true then
    [if metrics.safetyGatePass = some false then "safety_gate_failed" else "safety_gate_incomplete"]
  else []) ++
  (if 0 < metrics.p0Events then ["p0_safety_event"] else []) ++
  (if metrics.terminalResponseCoverage.all fun coverage => decide (coverage < 1) then
    ["terminal_response_coverage_below_100_percent"] else []) ++
  (if above metrics.p95E2eMs metrics.baselineP95E2eMs 1.15 then ["p95_e2e_above_15_percent"] else []) ++
  (if above metrics.p99E2eMs metrics.baselineP99E2eMs 1.25 then ["p99_e2e_above_25_percent"] else []) ++
  (if above metrics.p95CostMicrousd metrics.baselineP95CostMicrousd 1.10 then
    ["p95_cost_above_10_percent"] else []) ++
  (if above metrics.lowRiskHandoffRate metrics.baselineLowRiskHandoffRate 1.20 then
    ["low_risk_handoff_rate_regression"] else []) ++
  (if metrics.skillScopeViolation then ["skill_scope_violation"] else []) ++
  (if metrics.targetSliceQualityDelta.any fun delta => decide (delta < 0) then
    ["skill_target_slice_quality_regression"] else [])

structure StageTransition where
  stage : Stage
  status : Status
  trafficPercent : ℕ
  rollbackVersion : Option String
  reasons : List String

/-- `_STAGES`. -/
def STAGES : List (Stage × ℕ) :=
  [(.shadow, 0), (.canary5, 5), (.canary25, 25), (.canary50, 50), (.full, 100)]

def stopTransition (currentVersion : String) (reasons : List String) : StageTransition where
  stage := .stopped
  status := .stopped
  trafficPercent := 0
  rollbackVersion := some currentVersion
  reasons := reasons

def transitionStage (currentStage : Stage) (currentVersion : String) (metrics : CanaryMetrics F) :
    StageTransition :=
  if evaluateCanary metrics ≠ [] then stopTransition currentVersion (evaluateCanary metrics)
  else match STAGES.findIdx? fun item => item.1 = currentStage with
  | none => stopTransition currentVersion ["unknown_release_stage"]
  | some index =>
    if currentStage = .full then ⟨.full, .completed, 100, none, []⟩
    else match STAGES[index + 1]? with
    | some (nextStage, traffic) => ⟨nextStage, .active, traffic, none, []⟩
    -- no stage but the last one is without a successor
    | none => stopTransition currentVersion []

end Guard

structure Release where
  releaseId : Uuid
  tenantId : String
  ownerRef : String
  currentVersion : String
  candidateVersion : String
  stage : Stage
  status : Status
  trafficPercent : ℕ
  observationStartedAt : Option ℕ
  observationEndsAt : Option ℕ
  gates : Dict
  stopReason : Option String := none
  rollbackVersion : Option String := none
  updatedAt : ℕ

structure RuntimeRegistration where
  tenantId : String
  version : String
  active : Bool

structure ReleaseEvent where
  releaseId : Uuid
  eventType : String
  actorRef : String
  payload : Dict

/-- The primary key of the releases. -/
abbrev Clash (a b : Release) : Prop := a.releaseId = b.releaseId

structure DB where
  releases : Table Release Clash := .empty
  registrations : List RuntimeRegistration := []
  events : List ReleaseEvent := []

def DB.release (db : DB) (releaseId : Uuid) : Option Release :=
  db.releases.lookup Release.releaseId releaseId

/-- `timedelta(hours=24)`, in microseconds. -/
def day : ℕ := 24 * 60 * 60 * 1000000

inductive Error where
  | transition (message : String)
  | integrity
  deriving DecidableEq, Repr

section Repository

variable {F : Type} [LT F] [DecidableLT F] [Mul F] [OfScientific F] [Zero F] [One F]

/-- The row that `create` inserts. -/
def Release.shadowing (tenantId ownerRef currentVersion candidateVersion : String) (gates : Dict)
    (releaseId : Uuid) (now : ℕ) : Release where
  releaseId := releaseId
  tenantId := tenantId
  ownerRef := ownerRef
  currentVersion := currentVersion
  candidateVersion := candidateVersion
  stage := .shadow
  status := .active
  trafficPercent := 0
  observationStartedAt := some now
  observationEndsAt := some (now + day)
  gates := gates
  updatedAt := now

/-- `ReleaseRepository.create`, with the identifier that it draws. -/
def create (db : DB) (tenantId ownerRef currentVersion candidateVersion : String) (gates : Dict)
    (releaseId : Uuid) (now : ℕ) : Except Error DB :=
  match db.releases.insert? (Release.shadowing tenantId ownerRef currentVersion candidateVersion gates
    releaseId now) with
  | none => .error .integrity
  | some releases => .ok { db with
      releases := releases
      events := db.events ++ [⟨releaseId, "created", ownerRef,
        [("stage", .str "SHADOW"), ("traffic_percent", .int 0)]⟩] }

/-- `WHERE tenant_id = :tenant_id AND release_id = :release_id`. -/
def Release.addressed (tenantId : String) (releaseId : Uuid) (r : Release) : Bool :=
  decide (r.tenantId = tenantId ∧ r.releaseId = releaseId)

theorem neutral_keep {f : Release → Release} (hf : ∀ r, (f r).releaseId = r.releaseId) :
    Table.Neutral Clash f := by
  intro a b
  simp [Clash, hf]

/-- The row that `stop` leaves. -/
def Release.halted (reason : String) (now : ℕ) (r : Release) : Release :=
  { r with stage := .stopped, status := .stopped, trafficPercent := 0
           stopReason := some (take reason 128), updatedAt := now }

/-- `ReleaseRepository.stop`. -/
def stop (db : DB) (tenantId : String) (releaseId : Uuid) (actorRef reason : String) (now : ℕ) :
    Except Error DB :=
  let active := fun r : Release => r.addressed tenantId releaseId && decide (r.status = .active)
  if strip reason = "" then .error (.transition "stop_reason_required")
  else if (db.releases.select active).isEmpty then .error (.transition "release_not_active")
  else .ok { db with
    releases := db.releases.update active (Release.halted reason now) (neutral_keep fun _ => rfl)
    events := db.events ++ [⟨releaseId, "stopped", actorRef, [("reason", .str (take reason 128))]⟩] }

/-- Whether the candidate of the release has an active runtime registration of the tenant. -/
def DB.candidateAvailable (db : DB) (tenantId : String) (r : Release) : Bool :=
  db.registrations.any fun registration => decide (registration.tenantId = tenantId ∧
    registration.version = r.candidateVersion) && registration.active

/-- What a decision writes; the window of the next observation begins at `now`. -/
def Release.decided (transition : StageTransition) (now : ℕ) (r : Release) : Release :=
  let observes := decide (transition.status = .active ∧ transition.stage ≠ .full)
  { r with
    stage := transition.stage
    status := transition.status
    trafficPercent := transition.trafficPercent
    rollbackVersion := transition.rollbackVersion
    stopReason := if transition.reasons = [] then none
      else some (take (String.intercalate "," transition.reasons) 128)
    observationStartedAt :=
      if observes || decide (transition.status = .completed) then some now else r.observationStartedAt
    observationEndsAt := if observes then some (now + day) else none
    updatedAt := now }

/-- `ReleaseRepository.evaluate_and_advance`: the window is checked at `now`, the decision is
written at `later`. -/
def evaluateAndAdvance (db : DB) (tenantId : String) (releaseId : Uuid) (actorRef : String)
    (metrics : CanaryMetrics F) (now later : ℕ) : Except Error DB :=
  match db.releases.select (Release.addressed tenantId releaseId) with
  | [] => .error (.transition "release_not_found")
  | r :: _ =>
    if r.status ≠ .active then .error (.transition "release_not_active")
    else if ¬ db.candidateAvailable tenantId r then .error (.transition "candidate_runtime_unavailable")
    else if r.observationEndsAt.any fun ends => decide (now < ends) then
      .error (.transition "observation_window_not_finished")
    else
      let transition := transitionStage r.stage r.currentVersion metrics
      .ok { db with
        releases := db.releases.update (Release.addressed tenantId releaseId)
          (Release.decided transition later) (neutral_keep fun _ => rfl)
        events := db.events ++ [⟨releaseId, "stage_evaluated", actorRef,
          [("stage", .str transition.stage.value), ("status", .str transition.status.value),
            ("traffic_percent", .int transition.trafficPercent),
            ("reasons", .arr (transition.reasons.map .str))]⟩] }

/-- A call of the repository, or a change of the runtime registrations. -/
inductive Op (F : Type) where
  | create (tenantId ownerRef currentVersion candidateVersion : String) (gates : Dict) (releaseId : Uuid)
  | stop (tenantId : String) (releaseId : Uuid) (actorRef reason : String)
  | evaluateAndAdvance (tenantId : String) (releaseId : Uuid) (actorRef : String)
      (metrics : CanaryMetrics F)
  | registrations (rows : List RuntimeRegistration)

/-- A call, with the times at which it begins and ends. -/
structure Step (F : Type) where
  op : Op F
  now : ℕ
  later : ℕ

def Step.attempt (db : DB) (e : Step F) : Except Error DB :=
  match e.op with
  | .create tenantId ownerRef currentVersion candidateVersion gates releaseId =>
    Delivery.create db tenantId ownerRef currentVersion candidateVersion gates releaseId e.later
  | .stop tenantId releaseId actorRef reason => Delivery.stop db tenantId releaseId actorRef reason e.later
  | .evaluateAndAdvance tenantId releaseId actorRef metrics =>
    Delivery.evaluateAndAdvance db tenantId releaseId actorRef metrics e.now e.later
  | .registrations rows => .ok { db with registrations := rows }

/-- A call that raises is rolled back. -/
def after (db : DB) (e : Step F) : DB := (e.attempt db).toOption.getD db

end Repository

end CommerceAgent.Delivery
