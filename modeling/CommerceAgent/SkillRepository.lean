import CommerceAgent.Tables
import CommerceAgent.Json
import CommerceAgent.Texts
import CommerceAgent.Protocols
import Mathlib.Algebra.Order.Field.Rat
import Mathlib.Data.List.Dedup
import Mathlib.Data.List.Sort

/-! The registry of experience Skills: the candidates, their versions and evaluations, and the
transactions of the repository on them. -/
namespace CommerceAgent.Skills

open Json Tables

inductive SkillStatus where
  | candidate
  | pendingReview
  | approved
  | canary
  | active
  | rejected
  | expired
  | rolledBack
  deriving DecidableEq, Repr

/-- `_TRANSITIONS`. -/
def TRANSITIONS : SkillStatus → List SkillStatus
  | .candidate => [.pendingReview, .expired]
  | .pendingReview => [.approved, .rejected, .expired]
  | .approved => [.canary, .rolledBack, .expired]
  | .canary => [.active, .rolledBack, .expired]
  | .active => [.rolledBack, .expired]
  | .rejected => []
  | .expired => []
  | .rolledBack => []

abbrev SkillStatus.Waiting (s : SkillStatus) : Prop := s = .candidate ∨ s = .pendingReview

abbrev SkillStatus.Deployed (s : SkillStatus) : Prop := s = .canary ∨ s = .active

abbrev SkillStatus.Live (s : SkillStatus) : Prop := s = .approved ∨ s.Deployed

structure Candidate where
  skillId : Uuid
  tenantId : String
  owner : String
  kind : String
  scopeType : String
  scopeValue : String
  trigger : Dict
  strategy : Dict
  provenance : Dict
  clusterKey : String
  status : SkillStatus := .candidate
  sourceCount : ℕ
  offlineGatePass : Bool
  safetyGatePass : Bool
  reviewDeadline : Option ℕ
  updatedAt : ℕ

/-- The primary key, and the unique index `uq_skill_candidates_active_scope`. -/
abbrev CandidateClash (a b : Candidate) : Prop :=
  a.skillId = b.skillId ∨ a.status.Deployed ∧ b.status.Deployed ∧ a.tenantId = b.tenantId ∧
    a.scopeType = b.scopeType ∧ a.scopeValue = b.scopeValue

structure Version where
  skillVersionId : Uuid
  skillId : Uuid
  versionNo : ℕ := 1
  definition : Dict
  definitionHash : String
  approvedBy : Option String := none
  approvedAt : Option ℕ := none
  activatedAt : Option ℕ := none
  expiresAt : ℕ
  status : SkillStatus := .pendingReview

/-- The primary key, `UNIQUE (definition_hash)` and `UNIQUE (skill_id, version_no)`. -/
abbrev VersionClash (a b : Version) : Prop :=
  a.skillVersionId = b.skillVersionId ∨ a.definitionHash = b.definitionHash ∨
    a.skillId = b.skillId ∧ a.versionNo = b.versionNo

structure SkillEvaluation where
  evaluationId : Uuid
  skillId : Uuid
  skillVersionId : Option Uuid
  datasetHash : String
  safetyResult : String
  gatePass : Bool
  judgeDisagreementCount : ℤ

structure FailureCase where
  tenantId : String
  clusterKey : String
  failureId : String
  runId : Option String := none
  caseId : Option String := none

/-- `COALESCE(case_id, run_id::text, failure_id::text)`. -/
def FailureCase.ref (f : FailureCase) : String := (f.caseId.or f.runId).getD f.failureId

structure Registry where
  candidates : Table Candidate CandidateClash := .empty
  versions : Table Version VersionClash := .empty
  evaluations : List SkillEvaluation := []
  failureCases : List FailureCase := []

inductive SkillError where
  | transition (message : String)
  | value (message : String)
  | integrity
  deriving DecidableEq, Repr

section Requests

structure CandidateRequest where
  tenantId : String
  scopeType : String
  scopeValue : String
  trigger : Dict
  strategy : Dict
  provenance : Dict
  clusterKey : String
  sourceCount : ℤ
  offlineGatePass : Bool
  safetyGatePass : Bool
  definition : Dict
  ttlDays : ℤ := 30
  owner : String := "tenant"
  kind : String := "experience"

abbrev Metrics : Type := List (String × Option ℚ)

structure EvaluationRequest where
  tenantId : String
  skillId : Uuid
  skillVersionId : Option Uuid := none
  datasetHash : String
  before : Metrics
  after : Metrics
  safetyResult : String
  gatePass : Bool
  judgeDisagreementCount : ℤ

/-- `_metric_map`. -/
def metricMap (value : Metrics) : Except SkillError Unit :=
  let allowed := ["quality", "safety_pass_rate", "p95_latency_ms", "p95_cost_microusd", "handoff_rate"]
  if value.any fun kv => kv.1 ∉ allowed then .error (.transition "skill_evaluation_metric_not_allowed")
  else if value.any fun kv => kv.2.any fun x =>
      (decide (kv.1 ∈ ["quality", "safety_pass_rate", "handoff_rate"]) && !decide (0 ≤ x ∧ x ≤ 1)) ||
      (decide (kv.1 ∈ ["p95_latency_ms", "p95_cost_microusd"]) && decide (x < 0)) then
    .error (.transition "skill_evaluation_metric_range_invalid")
  else .ok ()

/-- What `validate_skill_definition` finds wrong with a definition, and the hash of its canonical text. -/
structure Definitions where
  errors : Dict → List String
  hash : Dict → String

/-- The checks of `create_candidate` on its arguments. -/
def CandidateRequest.check (δ : Definitions) (r : CandidateRequest) : Except SkillError Unit :=
  if r.sourceCount < 5 then .error (.transition "skill_generation_threshold_not_met")
  else if ¬ r.safetyGatePass ∨ ¬ r.offlineGatePass then .error (.transition "skill_gate_not_passed")
  else if r.scopeType ∉ ["tenant", "route", "global"] ∨ r.scopeValue = "" then
    .error (.transition "invalid_skill_scope")
  else if r.owner ∉ ["tenant", "project"] ∨ r.kind ∉ ["experience", "safety"] then
    .error (.transition "invalid_skill_owner_or_kind")
  else if r.scopeType = "global" ∧ (r.owner ≠ "project" ∨ r.kind ≠ "safety") then
    .error (.transition "global_skill_requires_project_safety")
  else if ¬ (1 ≤ r.ttlDays ∧ r.ttlDays ≤ 90) then .error (.transition "invalid_skill_ttl")
  else if δ.errors r.definition ≠ [] then
    .error (.transition ("invalid_skill_definition:" ++ String.intercalate "," (δ.errors r.definition)))
  else .ok ()

/-- The constraints `skill_candidates_json_contract` and `skill_versions_json_contract`. -/
def CandidateRequest.contract (r : CandidateRequest) : Bool :=
  (r.trigger.get? "keywords").isSome && (r.strategy.get? "response_policy").isSome &&
    ["trigger", "response_policy", "scope", "positive_examples", "negative_examples", "forbidden_tools",
      "ttl_seconds"].all fun key => (r.definition.get? key).isSome

/-- `timedelta(days=n)` in microseconds. -/
def days (n : ℤ) : ℕ := n.toNat * 86400000000

/-- The row of `skill_candidates` that `create_candidate` inserts. -/
def CandidateRequest.candidate (r : CandidateRequest) (skillId : Uuid) (verifiedSourceCount now : ℕ) :
    Candidate where
  skillId := skillId
  tenantId := r.tenantId
  owner := r.owner
  kind := r.kind
  scopeType := r.scopeType
  scopeValue := r.scopeValue
  trigger := r.trigger
  strategy := r.strategy
  provenance := r.provenance.set "verified_source_count" (.int verifiedSourceCount)
  clusterKey := r.clusterKey
  sourceCount := verifiedSourceCount
  offlineGatePass := r.offlineGatePass
  safetyGatePass := r.safetyGatePass
  reviewDeadline := some (now + days r.ttlDays)
  updatedAt := now

/-- The row of `skill_versions` that `create_candidate` inserts. -/
def CandidateRequest.version (δ : Definitions) (r : CandidateRequest) (skillId versionId : Uuid) (now : ℕ) :
    Version where
  skillVersionId := versionId
  skillId := skillId
  definition := r.definition
  definitionHash := δ.hash r.definition
  expiresAt := now + days r.ttlDays

end Requests

namespace Registry

variable (reg : Registry)

/-- A failure case is recorded; a run has one for each cluster, and repeating it leaves its references. -/
def recordFailure (f : FailureCase) : Registry :=
  if f.runId.isSome ∧ reg.failureCases.any fun g =>
      decide (g.tenantId = f.tenantId ∧ g.runId = f.runId ∧ g.clusterKey = f.clusterKey) then reg
  else { reg with failureCases := reg.failureCases ++ [f] }

/-- The distinct references of the failure cases of a cluster. -/
def refs (tenantId clusterKey : String) : List String :=
  ((reg.failureCases.filter fun f => f.tenantId = tenantId ∧ f.clusterKey = clusterKey).map
    FailureCase.ref).dedup

/-- `create_candidate`, which reads the clock twice: for the review deadline and for the expiry. -/
def createCandidate (δ : Definitions) (r : CandidateRequest) (skillId versionId : Uuid) (now later : ℕ) :
    Except SkillError Registry := do
  r.check δ
  -- the count of the caller is not trusted: the transaction counts the failure cases itself
  let verifiedSourceCount := (reg.refs r.tenantId r.clusterKey).length
  if verifiedSourceCount < 5 then
    .error (.transition "skill_generation_distinct_evidence_threshold_not_met")
  else if ¬ r.contract then .error .integrity
  else
    match reg.candidates.insert? (r.candidate skillId verifiedSourceCount now),
      reg.versions.insert? (r.version δ skillId versionId later) with
    | some candidates, some versions => .ok { reg with candidates := candidates, versions := versions }
    | _, _ => .error .integrity

/-- A transaction that changes the candidate that `p` finds, or is refused if there is none, and then
its versions. -/
def change (refusal : String) (p : Candidate → Bool) (f : Candidate → Candidate) (q : Version → Bool)
    (g : Version → Version) : Except SkillError Registry :=
  if reg.candidates.count p = 0 then .error (.transition refusal)
  else match reg.candidates.update? p f, reg.versions.update? q g with
    | some candidates, some versions => .ok { reg with candidates := candidates, versions := versions }
    | _, _ => .error .integrity

/-- The name of a status in `skill_transition_requires_…`. -/
def requires : SkillStatus → String
  | .candidate => "skill_transition_requires_candidate"
  | .pendingReview => "skill_transition_requires_pending_review"
  | .approved => "skill_transition_requires_approved"
  | .canary => "skill_transition_requires_canary"
  | .active => "skill_transition_requires_active"
  | .rejected => "skill_transition_requires_rejected"
  | .expired => "skill_transition_requires_expired"
  | .rolledBack => "skill_transition_requires_rolled_back"

/-- `_transition`. -/
def transition (tenantId : String) (skillId : Uuid) (expected target : SkillStatus)
    (versionTarget : Option SkillStatus) (now : ℕ) : Except SkillError Registry :=
  reg.change (requires expected)
    (fun c => decide (c.tenantId = tenantId ∧ c.skillId = skillId ∧ c.status = expected))
    (fun c => { c with status := target, updatedAt := now })
    (fun v => versionTarget.isSome && decide (v.skillId = skillId ∧ v.status = expected))
    -- without a target for the version the second statement is not made
    (fun v => { v with
      status := versionTarget.getD v.status
      activatedAt := if versionTarget = some .canary then some now else v.activatedAt })

def submitForReview (tenantId : String) (skillId : Uuid) (now : ℕ) : Except SkillError Registry :=
  reg.transition tenantId skillId .candidate .pendingReview none now

/-- An evaluation that lets a candidate be approved. -/
def evaluated (skillId : Uuid) : Bool := reg.evaluations.any fun e =>
  decide (e.skillId = skillId ∧ e.gatePass = true ∧ e.safetyResult = "pass" ∧ e.judgeDisagreementCount = 0)

/-- The condition under which `approve` finds the candidate. -/
def approvable (tenantId : String) (skillId : Uuid) (c : Candidate) : Bool :=
  decide (c.tenantId = tenantId ∧ c.skillId = skillId ∧ c.status = .pendingReview ∧
    c.offlineGatePass = true ∧ c.safetyGatePass = true ∧ reg.evaluated c.skillId = true)

def approve (tenantId : String) (skillId : Uuid) (reviewer : String) (now : ℕ) :
    Except SkillError Registry :=
  if reviewer = "" then .error (.transition "reviewer_required")
  else reg.change "skill_not_pending_or_evaluation_gate_failed" (reg.approvable tenantId skillId)
    (fun c => { c with status := .approved, updatedAt := now })
    (fun v => decide (v.skillId = skillId ∧ v.status = .pendingReview))
    (fun v => { v with status := .approved, approvedBy := some reviewer, approvedAt := some now })

def reject (tenantId : String) (skillId : Uuid) (reviewer reason : String) (now : ℕ) :
    Except SkillError Registry :=
  if reviewer = "" ∨ Texts.strip reason = "" then .error (.transition "reviewer_and_reason_required")
  else reg.change "skill_not_pending"
    (fun c => decide (c.tenantId = tenantId ∧ c.skillId = skillId ∧ c.status = .pendingReview))
    (fun c => { c with
      status := .rejected, updatedAt := now
      provenance := c.provenance.update [("review_reason", .str (Texts.take reason 500)),
        ("reviewer", .str reviewer)] })
    (fun v => decide (v.skillId = skillId ∧ (v.status = .pendingReview ∨ v.status = .approved)))
    (fun v => { v with status := .rolledBack })

def canary (tenantId : String) (skillId : Uuid) (now : ℕ) : Except SkillError Registry :=
  reg.transition tenantId skillId .approved .canary (some .canary) now

def rollback (tenantId : String) (skillId : Uuid) (reason : String) (now : ℕ) :
    Except SkillError Registry :=
  if Texts.strip reason = "" then .error (.transition "rollback_reason_required")
  else reg.change "skill_transition_requires_canary_or_active"
    (fun c => decide (c.tenantId = tenantId ∧ c.skillId = skillId ∧ c.status.Deployed))
    (fun c => { c with status := .rolledBack, updatedAt := now })
    (fun v => decide (v.skillId = skillId ∧ v.status.Deployed))
    (fun v => { v with status := .rolledBack })

/-- The tenant that a sweep is for, or all of them. -/
def covers (tenantId : Option String) (candidate : Candidate) : Bool :=
  tenantId.all fun tenantId => candidate.tenantId = tenantId

def dueVersion (tenantId : Option String) (now : ℕ) (v : Version) : Bool :=
  decide (v.expiresAt ≤ now ∧ (v.status = .pendingReview ∨ v.status.Live)) &&
    reg.candidates.rows.any fun c => decide (c.skillId = v.skillId) && covers tenantId c

def dueReview (tenantId : Option String) (now : ℕ) (c : Candidate) : Bool :=
  decide c.status.Waiting && (c.reviewDeadline.any fun deadline => decide (deadline ≤ now)) && covers tenantId c

/-- No version is left to serve. -/
def dueDeployed (tenantId : Option String) (now : ℕ) (c : Candidate) : Bool :=
  decide c.status.Deployed && covers tenantId c &&
    !(reg.versions.rows.any fun v => decide (v.skillId = c.skillId ∧ v.status.Live ∧ now < v.expiresAt))

end Registry

def Version.expire (v : Version) : Version := { v with status := .expired }

def Candidate.expire (now : ℕ) (c : Candidate) : Candidate := { c with status := .expired, updatedAt := now }

namespace Registry

variable (reg : Registry)

/-- `expire_due`. -/
def expireDue (tenantId : Option String) (now : ℕ) : Except SkillError Registry :=
  match reg.versions.update? (reg.dueVersion tenantId now) Version.expire with
  | none => .error .integrity
  | some versions =>
    -- approved candidates are in neither of the next two updates
    match reg.candidates.update? (dueReview tenantId now) (Candidate.expire now) with
    | none => .error .integrity
    | some candidates =>
      let reg' := { reg with versions := versions, candidates := candidates }
      match candidates.update? (reg'.dueDeployed tenantId now) (Candidate.expire now) with
      | none => .error .integrity
      | some candidates => .ok { reg' with candidates := candidates }

def recordEvaluation (r : EvaluationRequest) (evaluationId : Uuid) : Except SkillError Registry := do
  if ¬ "sha256:".toList <+: r.datasetHash.toList ∨ r.safetyResult ∉ ["pass", "fail", "incomplete"] then
    .error (.transition "invalid_skill_evaluation")
  else if r.judgeDisagreementCount < 0 ∨ r.gatePass = true ∧ 0 < r.judgeDisagreementCount then
    .error (.transition "judge_disagreement_blocks_gate")
  else do
    metricMap r.before
    metricMap r.after
    if reg.candidates.count (fun c => decide (c.tenantId = r.tenantId ∧ c.skillId = r.skillId)) = 0 then
      .error (.transition "skill_not_found")
    else if r.skillVersionId.any fun versionId =>
        decide (reg.versions.count (fun v => decide (v.skillId = r.skillId ∧ v.skillVersionId = versionId)) = 0) then
      .error (.transition "skill_version_not_found")
    else .ok { reg with evaluations := reg.evaluations ++ [⟨evaluationId, r.skillId, r.skillVersionId,
      r.datasetHash, r.safetyResult, r.gatePass, r.judgeDisagreementCount⟩] }

end Registry

/-- The transactions: those of the operations, the sweep with which `get`, `list` and
`candidates_for_match` begin (and with which so every change of a status ends), and the failure cases
that other parts of the program record. -/
inductive Transaction where
  | recordFailure (failure : FailureCase)
  | createCandidate (request : CandidateRequest) (skillId versionId : Uuid) (later : ℕ)
  | submitForReview (tenantId : String) (skillId : Uuid)
  | approve (tenantId : String) (skillId : Uuid) (reviewer : String)
  | reject (tenantId : String) (skillId : Uuid) (reviewer reason : String)
  | canary (tenantId : String) (skillId : Uuid)
  | rollback (tenantId : String) (skillId : Uuid) (reason : String)
  | recordEvaluation (request : EvaluationRequest) (evaluationId : Uuid)
  | expireDue (tenantId : Option String)

structure Step where
  transaction : Transaction
  now : ℕ

def Registry.execute (δ : Definitions) (reg : Registry) (e : Step) : Except SkillError Registry :=
  match e.transaction with
  | .recordFailure failure => .ok (reg.recordFailure failure)
  | .createCandidate request skillId versionId later =>
    reg.createCandidate δ request skillId versionId e.now later
  | .submitForReview tenantId skillId => reg.submitForReview tenantId skillId e.now
  | .approve tenantId skillId reviewer => reg.approve tenantId skillId reviewer e.now
  | .reject tenantId skillId reviewer reason => reg.reject tenantId skillId reviewer reason e.now
  | .canary tenantId skillId => reg.canary tenantId skillId e.now
  | .rollback tenantId skillId reason => reg.rollback tenantId skillId reason e.now
  | .recordEvaluation request evaluationId => reg.recordEvaluation request evaluationId
  | .expireDue tenantId => reg.expireDue tenantId e.now

/-- The registry after a transaction; one that raises is rolled back. -/
def Registry.after (δ : Definitions) (reg : Registry) (e : Step) : Registry :=
  match reg.execute δ e with
  | .ok reg' => reg'
  | .error _ => reg

section Effects

variable {δ : Definitions} {reg reg' : Registry} {now later : ℕ}

/-- What a request that is let through has. -/
theorem CandidateRequest.check_ok {r : CandidateRequest} (h : r.check δ = .ok ()) :
    r.safetyGatePass = true ∧ r.offlineGatePass = true := by
  unfold CandidateRequest.check at h
  split at h
  · exact absurd h (by simp)
  split at h
  · exact absurd h (by simp)
  · rename_i hgates
    simpa [not_or] using hgates

theorem createCandidate_ok {r : CandidateRequest} {skillId versionId : Uuid}
    (h : reg.createCandidate δ r skillId versionId now later = .ok reg') :
    r.check δ = .ok () ∧ 5 ≤ (reg.refs r.tenantId r.clusterKey).length ∧
      reg.candidates.insert? (r.candidate skillId (reg.refs r.tenantId r.clusterKey).length now) =
        some reg'.candidates ∧
      reg.versions.insert? (r.version δ skillId versionId later) = some reg'.versions ∧
      reg'.evaluations = reg.evaluations ∧ reg'.failureCases = reg.failureCases := by
  unfold Registry.createCandidate at h
  cases hcheck : r.check δ with
  | error error => simp [hcheck, bind, Except.bind] at h
  | ok u =>
    simp only [hcheck, bind, Except.bind] at h
    split at h
    · exact absurd h (by simp)
    rename_i hsources
    split at h
    · exact absurd h (by simp)
    split at h
    · rename_i candidates versions hcandidates hversions
      obtain rfl := Except.ok.inj h
      exact ⟨rfl, by omega, hcandidates, hversions, rfl, rfl⟩
    · exact absurd h (by simp)

/-- A change that is not refused finds a candidate, and writes both tables. -/
theorem change_ok {refusal : String} {p : Candidate → Bool} {f : Candidate → Candidate} {q : Version → Bool}
    {g : Version → Version} (h : reg.change refusal p f q g = .ok reg') :
    (∃ c ∈ reg.candidates.rows, p c = true) ∧ reg.candidates.update? p f = some reg'.candidates ∧
      reg.versions.update? q g = some reg'.versions ∧ reg'.evaluations = reg.evaluations ∧
      reg'.failureCases = reg.failureCases := by
  unfold Registry.change at h
  split at h
  · exact absurd h (by simp)
  rename_i hcount
  split at h
  · rename_i candidates versions hcandidates hversions
    obtain rfl := Except.ok.inj h
    have hfound : 0 < reg.candidates.count p := Nat.pos_of_ne_zero hcount
    exact ⟨List.countP_pos_iff.mp hfound, hcandidates, hversions, rfl, rfl⟩
  · exact absurd h (by simp)

/-- The three updates of a sweep. -/
theorem expireDue_ok {tenantId : Option String} (h : reg.expireDue tenantId now = .ok reg') :
    ∃ candidates,
      reg.versions.update? (reg.dueVersion tenantId now) Version.expire = some reg'.versions ∧
      reg.candidates.update? (Registry.dueReview tenantId now) (Candidate.expire now) = some candidates ∧
      candidates.update? (Registry.dueDeployed { reg' with candidates := candidates } tenantId now)
        (Candidate.expire now) = some reg'.candidates ∧
      reg'.evaluations = reg.evaluations ∧ reg'.failureCases = reg.failureCases := by
  unfold Registry.expireDue at h
  split at h
  · exact absurd h (by simp)
  rename_i versions hversions
  split at h
  · exact absurd h (by simp)
  rename_i candidates hcandidates
  dsimp only at h
  split at h
  · exact absurd h (by simp)
  rename_i deployed hdeployed
  obtain rfl := Except.ok.inj h
  exact ⟨candidates, hversions, hcandidates, hdeployed, rfl, rfl⟩

/-- An evaluation leaves everything else. -/
theorem recordEvaluation_ok {r : EvaluationRequest} {evaluationId : Uuid}
    (h : reg.recordEvaluation r evaluationId = .ok reg') :
    reg'.candidates = reg.candidates ∧ reg'.versions = reg.versions ∧
      reg'.failureCases = reg.failureCases := by
  unfold Registry.recordEvaluation at h
  split at h
  · exact absurd h (by simp)
  split at h
  · exact absurd h (by simp)
  cases hbefore : metricMap r.before with
  | error error => simp [hbefore, bind, Except.bind] at h
  | ok _ =>
    cases hafter : metricMap r.after with
    | error error => simp [hbefore, hafter, bind, Except.bind] at h
    | ok _ =>
      simp only [hbefore, hafter, bind, Except.bind] at h
      split at h
      · exact absurd h (by simp)
      split at h
      · exact absurd h (by simp)
      · obtain rfl := Except.ok.inj h
        exact ⟨rfl, rfl, rfl⟩

theorem recordFailure_tables (f : FailureCase) : (reg.recordFailure f).candidates = reg.candidates ∧
    (reg.recordFailure f).versions = reg.versions := by
  unfold Registry.recordFailure
  split
  · exact ⟨rfl, rfl⟩
  · exact ⟨rfl, rfl⟩

/-- The references of a cluster are never lost. -/
theorem refs_recordFailure (f : FailureCase) (tenantId clusterKey : String) :
    (reg.refs tenantId clusterKey).length ≤ ((reg.recordFailure f).refs tenantId clusterKey).length := by
  unfold Registry.recordFailure
  split
  · exact le_rfl
  · unfold Registry.refs
    apply List.Subperm.length_le
    apply List.subperm_of_subset (List.nodup_dedup _)
    intro ref href
    rw [List.mem_dedup] at href ⊢
    rw [List.filter_append, List.map_append]
    exact List.mem_append_left _ href

theorem after_ok {e : Step} (h : reg.execute δ e = .ok reg') : reg.after δ e = reg' := by
  simp [Registry.after, h]

theorem after_error {e : Step} {error : SkillError} (h : reg.execute δ e = .error error) :
    reg.after δ e = reg := by
  simp [Registry.after, h]

end Effects

end CommerceAgent.Skills
