import CommerceAgent.SkillActions
import CommerceAgent.SkillDefinitions
import CommerceAgent.SkillRepository

/-! From a failure cluster to a Skill candidate: the endpoint asks for a candidate whose gates have not
passed, and the repository creates none. -/
namespace CommerceAgent.Skills

open Json ControlPlane

structure StoredFailure where
  failureId : Uuid
  tenantId : String
  clusterKey : String
  /-- The latest row of `failure_attributions`. -/
  attribution : Option Dict := none

/-- The tables that the endpoint works on; of the idempotency table, the record of its key. -/
structure Bridge where
  registry : Registry
  failures : List StoredFailure
  record : Option Record := none
  audits : List (String × Dict) := []

section Generation

variable (δ : Definitions)

structure SkillParts where
  trigger : Dict
  strategy : Dict
  definition : Dict

def buildSkillCandidate (clusterKey : String) (keywords : List String)
    (responsePolicy scopeType scopeValue : String) (ttlDays : ℤ) : Except SkillError SkillParts :=
  let forbiddenTools : Value := .arr [.str "business_write_tools", .str "unknown_risk_tools"]
  let trigger : Dict := [("keywords", .arr ((keywords.take 32).map .str))]
  let allowedDecisions : Value := .arr [.str "respond", .str "finish"]
  let definition : Dict :=
    [("trigger", .obj trigger), ("response_policy", .str responsePolicy),
      ("allowed_actions", .arr [.str "respond"]), ("allowed_decisions", allowedDecisions),
      ("forbidden_tools", forbiddenTools),
      ("scope", .obj [("type", .str scopeType), ("value", .str scopeValue)]),
      ("positive_examples", .arr [.str "同类低风险模糊请求"]),
      ("negative_examples", .arr [.str "涉及交易、账户或高风险动作的请求"]),
      ("ttl_seconds", .int (ttlDays * 86400)), ("cluster_key", .str clusterKey)]
  if δ.errors definition ≠ [] then
    .error (.value ("invalid_skill_definition:" ++ String.intercalate "," (δ.errors definition)))
  else .ok {
    trigger := trigger
    strategy := [("response_policy", .str responsePolicy), ("allowed_decisions", allowedDecisions),
      ("forbidden_tools", forbiddenTools), ("ttl_seconds", .int (ttlDays * 86400))]
    definition := definition }

structure ClusterRequest where
  tenantId : String
  clusterKey : String
  scopeType : String
  scopeValue : String
  keywords : List String
  responsePolicy : String
  offlineGatePass : Bool
  safetyGatePass : Bool
  provenance : Dict
  ttlDays : ℤ := 30
  owner : String := "tenant"
  kind : String := "experience"

/-- `cluster_evidence_refs`, in the order of the database. -/
def Registry.clusterEvidenceRefs (reg : Registry) (tenantId clusterKey : String) (limit : ℕ) :
    List String :=
  ((reg.refs tenantId clusterKey).insertionSort (· ≤ ·)).take (max 5 (min limit 5000))

/-- The identifiers that are drawn, and the readings of the clock. -/
structure Draws where
  recordId : String
  skillId : Uuid
  versionId : Uuid
  now : ℕ
  later : ℕ

def generateFromCluster (reg : Registry) (r : ClusterRequest) (draws : Draws) :
    Except SkillError Registry :=
  if r.scopeType = "global" ∧ (r.owner ≠ "project" ∨ r.kind ≠ "safety") then
    .error (.transition "global_skill_requires_project_safety")
  else
    let evidenceRefs := reg.clusterEvidenceRefs r.tenantId r.clusterKey 500
    if evidenceRefs.length < 5 then
      .error (.transition "skill_generation_distinct_evidence_threshold_not_met")
    else do
      let candidate ← buildSkillCandidate δ r.clusterKey r.keywords r.responsePolicy r.scopeType
        r.scopeValue r.ttlDays
      let provenance := Dict.update r.provenance
        [("generation", .str "failure_cluster"), ("cluster_key", .str r.clusterKey),
          ("evidence_refs", .arr (evidenceRefs.map .str)), ("evidence_count", .int evidenceRefs.length)]
      reg.createCandidate δ
        { tenantId := r.tenantId
          scopeType := r.scopeType
          scopeValue := r.scopeValue
          trigger := candidate.trigger
          strategy := candidate.strategy
          provenance := provenance
          clusterKey := r.clusterKey
          sourceCount := evidenceRefs.length
          offlineGatePass := r.offlineGatePass
          safetyGatePass := r.safetyGatePass
          owner := r.owner
          kind := r.kind
          definition := candidate.definition
          ttlDays := r.ttlDays } draws.skillId draws.versionId draws.now draws.later

end Generation

section Endpoint

variable (π : Platform) (δ : Definitions)

def DEMO_TENANT_ID : String := "demo-tenant"

/-- What a client asks for; `view` is the stored Skill as its answer shows it. -/
structure FailureSkillCreate where
  failureId : Uuid
  idempotencyKey : String
  admin : String
  view : Registry → Uuid → Option Dict

def StoredFailure.category (failure : StoredFailure) : String :=
  match (failure.attribution.getD []).get? "deterministic_category" with
  | some v => if v.truthy then π.str v else "unknown"
  | none => "unknown"

/-- The request that the endpoint makes of the registry, with both gates false. -/
def StoredFailure.clusterRequest (failure : StoredFailure) : ClusterRequest :=
  let category := failure.category π
  { tenantId := DEMO_TENANT_ID
    clusterKey := failure.clusterKey
    scopeType := "tenant"
    scopeValue := DEMO_TENANT_ID
    keywords := [category, "低风险模糊请求"]
    responsePolicy := if category = "safety_error" then "safety_deescalation" else "conversational_response"
    offlineGatePass := false
    safetyGatePass := false
    provenance := [("source", .str "failure_cluster"), ("category", .str category)] }

def SkillError.raised : SkillError → Raised
  | .transition message => .skillTransition message
  | .value message => .other message
  | .integrity => .other "IntegrityError"

/-- The rest of the endpoint, once it has acquired the claim. -/
def createUnderClaim (payload : FailureSkillCreate) (draws : Draws) (failure : StoredFailure)
    (recordId : String) (db : Bridge) : Exit × Bridge :=
  match generateFromCluster δ db.registry (failure.clusterRequest π) draws with
  | .error (.transition message) =>
    (.http 409 message, { db with record := abandoned recordId db.record })
  | .error e => (.raises e.raised, db)
  | .ok registry =>
    let encoded := (payload.view registry draws.skillId).getD
      [("skill_id", .str draws.skillId), ("status", .str "PENDING_REVIEW")]
    let db : Bridge := { db with
      registry := registry
      audits := db.audits ++ [("skill_candidate_requested_from_failure",
        [("actor_ref", .str payload.admin), ("failure_id", .str payload.failureId),
          ("cluster_key", .str failure.clusterKey), ("category", .str (failure.category π))])] }
    if completes recordId db.record then
      (.responds encoded, { db with record := completed recordId encoded db.record })
    else (.raises (.other "idempotency_completion_failed"), db)

def createSkillFromFailure (payload : FailureSkillCreate) (draws : Draws) (db : Bridge) : Exit × Bridge :=
  match db.failures.find? fun f => f.tenantId = DEMO_TENANT_ID ∧ f.failureId = payload.failureId with
  | none => (.http 404 "failure_not_found", db)
  | some failure =>
    let slot : Slot := ⟨DEMO_TENANT_ID, "skill_from_failure", payload.idempotencyKey⟩
    let fingerprint := hashSecret π
      ("skill-from-failure:" ++ payload.failureId ++ ":" ++ failure.clusterKey)
    match claimRecord slot draws.recordId fingerprint db.record with
    | (.error .conflict, _) => (.http 409 "idempotency_fingerprint_conflict", db)
    | (.error .inProgress, _) => (.http 409 "idempotency_request_in_progress", db)
    | (.error (.valueError message), _) => (.raises (.other message), db)
    | (.error (.runtimeError message), _) => (.raises (.other message), db)
    | (.error _, _) => (.raises (.other "database"), db)
    | (.ok claim, record) =>
      if claim.acquired then
        createUnderClaim π δ payload draws failure claim.recordId { db with record := record }
      else (.responds (claim.response.getD []), db)

/-- The request creates one candidate for the cluster of a failure, with both gates false, and completes
its key with the answer, which the request has again when it is repeated. -/
structure ReachesReview (payload : FailureSkillCreate) (draws : Draws) (db : Bridge) : Prop where
  created : ∃ failure ∈ db.failures, failure.failureId = payload.failureId ∧
    ∃ c, (createSkillFromFailure π δ payload draws db).2.registry.candidates.rows =
        db.registry.candidates.rows ++ [c] ∧
      c.clusterKey = failure.clusterKey ∧ c.offlineGatePass = false ∧ c.safetyGatePass = false
  completed : ∃ response record,
    (createSkillFromFailure π δ payload draws db).1 = .responds response ∧
    (createSkillFromFailure π δ payload draws db).2.record = some record ∧
      record.status = .completed ∧ record.response = some response
  repeated : ∀ draws', createSkillFromFailure π δ payload draws'
      (createSkillFromFailure π δ payload draws db).2 = createSkillFromFailure π δ payload draws db

end Endpoint

section Refused

variable {π : Platform} {δ : Definitions}

/-- The repository creates no candidate whose gates have not passed. -/
theorem gates_of_created {reg reg' : Registry} {r : ClusterRequest} {draws : Draws}
    (h : generateFromCluster δ reg r draws = .ok reg') :
    r.safetyGatePass = true ∧ r.offlineGatePass = true := by
  unfold generateFromCluster at h
  split at h
  · cases h
  dsimp only at h
  split at h
  · cases h
  cases hbuild : buildSkillCandidate δ r.clusterKey r.keywords r.responsePolicy r.scopeType r.scopeValue
      r.ttlDays with
  | error e =>
    rw [hbuild] at h
    cases h
  | ok candidate =>
    rw [hbuild] at h
    exact CandidateRequest.check_ok (createCandidate_ok h).1

theorem createUnderClaim_registry (payload : FailureSkillCreate) (draws : Draws) (failure : StoredFailure)
    (recordId : String) (db : Bridge) :
    (createUnderClaim π δ payload draws failure recordId db).2.registry = db.registry := by
  unfold createUnderClaim
  cases hgenerate : generateFromCluster δ db.registry (failure.clusterRequest π) draws with
  | error e => cases e <;> rfl
  | ok registry => exact absurd (gates_of_created hgenerate).1 Bool.false_ne_true

/-- No request changes the registry. -/
theorem createSkillFromFailure_registry (payload : FailureSkillCreate) (draws : Draws) (db : Bridge) :
    (createSkillFromFailure π δ payload draws db).2.registry = db.registry := by
  unfold createSkillFromFailure
  split
  · rfl
  · dsimp only
    split
    all_goals try rfl
    split
    · exact createUnderClaim_registry payload draws _ _ _
    · rfl

variable (π δ) in
/-- No failure cluster reaches review, whatever its evidence. -/
theorem no_cluster_reaches_review (payload : FailureSkillCreate) (draws : Draws) (db : Bridge) :
    ¬ ReachesReview π δ payload draws db := by
  rintro ⟨⟨_, -, -, c, hrows, -⟩, -, -⟩
  rw [createSkillFromFailure_registry] at hrows
  have hlength := congrArg List.length hrows
  rw [List.length_append, List.length_singleton] at hlength
  omega

theorem clusterEvidenceRefs_length (reg : Registry) (tenantId clusterKey : String) :
    (reg.clusterEvidenceRefs tenantId clusterKey 500).length =
      min 500 (reg.refs tenantId clusterKey).length := by
  rw [Registry.clusterEvidenceRefs, List.length_take, List.length_insertionSort]
  rfl

theorem createCandidate_refused_at_gates {reg : Registry} {r : CandidateRequest}
    {skillId versionId : Uuid} {now later : ℕ} (hcount : 5 ≤ r.sourceCount)
    (hgate : r.safetyGatePass = false) :
    reg.createCandidate δ r skillId versionId now later = .error (.transition "skill_gate_not_passed") := by
  have hcheck : r.check δ = .error (.transition "skill_gate_not_passed") := by
    unfold CandidateRequest.check
    rw [if_neg (not_lt.mpr hcount), if_pos (by simp [hgate])]
  unfold Registry.createCandidate
  rw [hcheck]
  rfl

theorem generate_refused_at_gates {reg : Registry} {r : ClusterRequest} {draws : Draws} {parts : SkillParts}
    (hscope : r.scopeType ≠ "global") (hrefs : 5 ≤ (reg.refs r.tenantId r.clusterKey).length)
    (hparts : buildSkillCandidate δ r.clusterKey r.keywords r.responsePolicy r.scopeType r.scopeValue
      r.ttlDays = .ok parts) (hgate : r.safetyGatePass = false) :
    generateFromCluster δ reg r draws = .error (.transition "skill_gate_not_passed") := by
  have henough : 5 ≤ (reg.clusterEvidenceRefs r.tenantId r.clusterKey 500).length := by
    rw [clusterEvidenceRefs_length]
    omega
  unfold generateFromCluster
  rw [if_neg (fun h => hscope h.1)]
  dsimp only
  rw [if_neg (not_lt.mpr henough), hparts]
  exact createCandidate_refused_at_gates (Int.ofNat_le.mpr henough) hgate

/-- A first request for a cluster with enough evidence is refused at the gates that the endpoint itself
has left false, and its key is given up. -/
theorem refused_at_gates {payload : FailureSkillCreate} {draws : Draws} {db : Bridge}
    {failure : StoredFailure} {parts : SkillParts}
    (hfind : (db.failures.find? fun f => f.tenantId = DEMO_TENANT_ID ∧ f.failureId = payload.failureId) =
      some failure)
    (hkey : 8 ≤ payload.idempotencyKey.length ∧ payload.idempotencyKey.length ≤ 128)
    (hfirst : db.record = none)
    (hrefs : 5 ≤ (db.registry.refs DEMO_TENANT_ID failure.clusterKey).length)
    (hparts : buildSkillCandidate δ failure.clusterKey (failure.clusterRequest π).keywords
      (failure.clusterRequest π).responsePolicy "tenant" DEMO_TENANT_ID 30 = .ok parts) :
    createSkillFromFailure π δ payload draws db = (.http 409 "skill_gate_not_passed", db) := by
  obtain ⟨registry, failures, record, audits⟩ := db
  dsimp only at hfind hfirst hrefs
  subst hfirst
  have hclaim : claimRecord ⟨DEMO_TENANT_ID, "skill_from_failure", payload.idempotencyKey⟩ draws.recordId
      (hashSecret π ("skill-from-failure:" ++ payload.failureId ++ ":" ++ failure.clusterKey)) none =
      (.ok ⟨draws.recordId, true, none⟩, some ⟨draws.recordId,
        hashSecret π ("skill-from-failure:" ++ payload.failureId ++ ":" ++ failure.clusterKey),
        .inProgress, none⟩) := by
    have hprint : hashSecret π ("skill-from-failure:" ++ payload.failureId ++ ":" ++ failure.clusterKey) ≠
        "" := by
      intro hempty
      have hlength := congrArg String.length hempty
      rw [hashSecret, String.length_append] at hlength
      exact absurd hlength (by simp)
    have hoperation : "skill_from_failure".length = 18 := rfl
    unfold claimRecord
    rw [if_neg (not_not.mpr hkey), if_neg (by simp [hprint, hoperation])]
    simp
  have hgates : generateFromCluster δ registry (failure.clusterRequest π) draws =
      .error (.transition "skill_gate_not_passed") :=
    generate_refused_at_gates (by simp [StoredFailure.clusterRequest]) hrefs hparts rfl
  unfold createSkillFromFailure
  rw [hfind]
  dsimp only
  rw [hclaim]
  dsimp only
  rw [if_pos rfl, createUnderClaim]
  dsimp only
  rw [hgates]
  simp [abandoned]

end Refused

section Demo

/-- The validation of the definitions that the generator builds. -/
def generatedDefinitions : Definitions where
  errors := fun definition =>
    match validateSkillDefinition isAsciiWord asciiCasefold (Payload.ofDict definition) with
    | .ok (_, errors) => errors
    | .error e => [e]
  hash := fun _ => "sha256:0"

def demoCase (caseId : String) : FailureCase where
  tenantId := DEMO_TENANT_ID
  clusterKey := "cluster-1"
  failureId := caseId
  caseId := some caseId

/-- A cluster with five independent cases. -/
def clusteredDB : Bridge where
  registry := { failureCases := ["case-1", "case-2", "case-3", "case-4", "case-5"].map demoCase }
  failures := [⟨"failure-1", DEMO_TENANT_ID, "cluster-1", none⟩]

def demoDraws : Draws := ⟨"record-1", "skill-1", "version-1", 1, 2⟩

def demoCreate : FailureSkillCreate where
  failureId := "failure-1"
  idempotencyKey := "skill-key-1"
  admin := "admin"
  view := fun _ _ => none

instance demo_qualifies : Fact (5 ≤ (clusteredDB.registry.refs DEMO_TENANT_ID "cluster-1").length ∧
    (buildSkillCandidate generatedDefinitions "cluster-1" ["unknown", "低风险模糊请求"]
      "conversational_response" "tenant" DEMO_TENANT_ID 30).isOk = true) :=
  ⟨by decide +kernel⟩

/-- Five distinct cases and a fresh key: the request is refused, with the state as it was. -/
theorem qualifying_cluster_refused :
    createSkillFromFailure demoPlatform generatedDefinitions demoCreate demoDraws clusteredDB =
      (.http 409 "skill_gate_not_passed", clusteredDB) ∧
    ¬ ReachesReview demoPlatform generatedDefinitions demoCreate demoDraws clusteredDB := by
  obtain ⟨hrefs, hparts⟩ := demo_qualifies.out
  have hrefused : createSkillFromFailure demoPlatform generatedDefinitions demoCreate demoDraws clusteredDB =
      (.http 409 "skill_gate_not_passed", clusteredDB) := by
    cases hbuild : buildSkillCandidate generatedDefinitions "cluster-1" ["unknown", "低风险模糊请求"]
        "conversational_response" "tenant" DEMO_TENANT_ID 30 with
    | error e =>
      rw [hbuild] at hparts
      cases hparts
    | ok parts => exact refused_at_gates rfl (by decide) rfl hrefs hbuild
  refine ⟨hrefused, fun h => ?_⟩
  obtain ⟨response, record, hexit, -⟩ := h.completed
  rw [hrefused] at hexit
  cases hexit

end Demo

end CommerceAgent.Skills
