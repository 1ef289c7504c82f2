import CommerceAgent.ReleaseLifecycle

/-! Which version serves a request while a release is under way, and what the stages of the release
change about it. -/
namespace CommerceAgent.Delivery

open Histories Json Tables Texts

/-- `_CANARY_PERCENT.get(stage, 0)`. -/
def canaryPercent : Stage → ℕ
  | .shadow => 0
  | .canary5 => 5
  | .canary25 => 25
  | .canary50 => 50
  | .full => 100
  | _ => 0

structure TrafficRequest where
  tenantId : String
  actorId : String
  runId : String
  conversationId : String
  riskLevel : RequestRiskLevel
  riskHint : RiskHint := .readOnly
  candidateRuntimeAvailable : Bool := true
  candidateSkillApproved : Option Bool := none

structure TrafficAssignment where
  currentVersion : String
  candidateVersion : String
  selectedVersion : String
  mode : String
  bucket : ℕ
  trafficPercent : ℕ
  reason : String
  candidateExecutionAllowed : Bool

section Assignment

-- the digest of the bytes of a text
variable (sha256 : ByteArray → List UInt8)

/-- `stable_bucket`; the run identifier is not part of the material. -/
def stableBucket (tenantId actorId conversationId : String) : ℕ :=
  let material := String.intercalate "|" [tenantId, actorId, conversationId]
  ((sha256 material.toUTF8).take 8).foldl (fun n byte => n * 256 + byte.toNat) 0 % 100

def TrafficRequest.bucket (q : TrafficRequest) : ℕ :=
  stableBucket sha256 q.tenantId q.actorId q.conversationId

/-- `_current`. -/
def currentAssignment (currentVersion candidateVersion : String) (bucket percent : ℕ) (reason : String) :
    TrafficAssignment :=
  ⟨currentVersion, candidateVersion, currentVersion, "current", bucket, percent, reason, false⟩

def assignTraffic (q : TrafficRequest) (currentVersion candidateVersion : String) (stage : Stage)
    (status : Status) : TrafficAssignment :=
  let bucket := q.bucket sha256
  let percent := canaryPercent stage
  let current := currentAssignment currentVersion candidateVersion bucket percent
  if status ≠ .active then current "release_not_active"
  else if stage = .shadow then
    ⟨currentVersion, candidateVersion, currentVersion, "shadow", bucket, percent,
      "shadow_never_changes_user_visible_result", false⟩
  else if ¬ q.candidateRuntimeAvailable then current "candidate_runtime_unavailable"
  else if q.candidateSkillApproved = some false then current "candidate_skill_not_approved"
  else if q.riskLevel ≠ .low ∨ q.riskHint = .write then current "risk_boundary_pins_current_version"
  else if candidateVersion ≠ "" ∧ bucket < percent then
    ⟨currentVersion, candidateVersion, candidateVersion, "canary", bucket, percent,
      "stable_canary_bucket_selected", true⟩
  else current "stable_canary_bucket_kept_current"

/-- The version that serves the request in this state of the release. -/
def Release.serves (r : Release) (q : TrafficRequest) : String :=
  (assignTraffic sha256 q r.currentVersion r.candidateVersion r.stage r.status).selectedVersion

/-- What pins a request to the current version. -/
def Pinned (q : TrafficRequest) (r : Release) : Prop :=
  r.status ≠ .active ∨ r.stage = .shadow ∨ r.stage = .stopped ∨ q.riskLevel ≠ .low ∨ q.riskHint = .write ∨
    q.candidateRuntimeAvailable = false ∨ q.candidateSkillApproved = some false

theorem serves_pinned {q : TrafficRequest} {r : Release} (h : Pinned q r) :
    r.serves sha256 q = r.currentVersion := by
  unfold Release.serves assignTraffic
  dsimp only
  split_ifs with hstatus hshadow havailable hskill hrisk hbucket <;> try rfl
  unfold Pinned at h
  rcases h with h | h | h | h | h | h | h
  · exact absurd h hstatus
  · exact absurd h hshadow
  · rw [h] at hbucket
    exact absurd hbucket.2 (Nat.not_lt_zero _)
  · exact absurd (.inl h) hrisk
  · exact absurd (.inr h) hrisk
  · exact absurd havailable (by simp [h])
  · exact absurd h hskill

/-- An active canary serves the candidate to the buckets below its share. -/
theorem serves_canary {q : TrafficRequest} {r : Release} (h : ¬ Pinned q r) :
    r.serves sha256 q =
      if r.candidateVersion ≠ "" ∧ q.bucket sha256 < canaryPercent r.stage then r.candidateVersion
      else r.currentVersion := by
  simp only [Pinned, not_or, not_not] at h
  obtain ⟨hstatus, hshadow, _, hrisk, hhint, havailable, hskill⟩ := h
  unfold Release.serves assignTraffic
  simp only [hstatus, hshadow, hrisk, hhint, havailable, hskill]
  simp only [ne_eq, not_true_eq_false, if_false, or_self]
  split <;> simp_all [currentAssignment]

end Assignment

theorem canaryPercent_eq (stage : Stage) : canaryPercent stage = stage.percent := by
  cases stage <;> rfl

theorem Stage.percent_next {stage next : Stage} (h : stage.next = some next) :
    stage.percent ≤ next.percent ∧ next ≠ .shadow ∧ next ≠ .stopped := by
  cases stage <;> cases h <;> decide

variable {F : Type} [LT F] [DecidableLT F] [Mul F] [OfScientific F] [Zero F] [One F]

/-- A passing evaluation of the release in a database that holds it as `r`, and the row it leaves. -/
def PassesTo (F : Type) [LT F] [DecidableLT F] [Mul F] [OfScientific F] [Zero F] [One F] (r r' : Release) :
    Prop :=
  ∃ (db : DB) (e : Step F) (metrics : CanaryMetrics F), db.release r.releaseId = some r ∧
    e.Evaluates db r metrics ∧ evaluateCanary metrics = [] ∧ (after db e).release r.releaseId = some r'

theorem evaluates_ok {db : DB} {e : Step F} {r : Release} {metrics : CanaryMetrics F}
    (hr : db.release r.releaseId = some r) (h : e.Evaluates db r metrics) :
    ∃ db', e.attempt db = .ok db' := by
  obtain ⟨⟨actorRef, hop⟩, hactive, havailable, hobserved⟩ := h
  have hmem : r ∈ db.releases.select (Release.addressed r.tenantId r.releaseId) :=
    List.mem_filter.mpr ⟨(release_eq_some.mp hr).1, by simp [Release.addressed]⟩
  have hone : (db.releases.select (Release.addressed r.tenantId r.releaseId)).length ≤ 1 := by
    apply db.releases.select_le_one
    intro a b ha hb
    simp only [Release.addressed, decide_eq_true_eq] at ha hb
    exact ha.2.trans hb.2.symm
  unfold Step.attempt
  simp only [hop]
  unfold evaluateAndAdvance
  cases hselect : db.releases.select (Release.addressed r.tenantId r.releaseId) with
  | nil => simp [hselect] at hmem
  | cons r₀ l =>
    rw [hselect, List.length_cons] at hone
    have hl : l = [] := List.eq_nil_of_length_eq_zero (by omega)
    subst hl
    rw [hselect, List.mem_singleton] at hmem
    subst hmem
    have hwindow : ¬ (r.observationEndsAt.any fun ends => decide (e.now < ends)) = true := by
      cases hends : r.observationEndsAt with
      | none => simp
      | some ends => simpa using hobserved ends hends
    simp [hactive, havailable, hwindow]

/-- What a passing evaluation makes of a release. -/
theorem PassesTo.eq {r r' : Release} (h : PassesTo F r r') : r.status = .active ∧
    ∃ now, (r.stage = .full ∧ r' = r.decided ⟨.full, .completed, 100, none, []⟩ now) ∨
      (∃ next, r.stage.next = some next ∧ r' = r.decided ⟨next, .active, next.percent, none, []⟩ now) ∨
      r.stage.percent = 0 ∧ r' = r.decided (stopTransition r.currentVersion ["unknown_release_stage"]) now := by
  obtain ⟨db, e, metrics, hr, heval, hpass, hafter⟩ := h
  refine ⟨heval.active, e.later, ?_⟩
  obtain ⟨db', hok⟩ := evaluates_ok hr heval
  have hattempt := hok
  obtain ⟨⟨actorRef, hop⟩, _⟩ := heval
  unfold Step.attempt at hattempt
  simp only [hop] at hattempt
  obtain ⟨r₀, hr₀, _, _, _, _, hupdate⟩ := evaluateAndAdvance_ok hattempt
  obtain rfl := Option.some.inj (hr.symm.trans hr₀)
  have hrow := @lookup_after db r.releaseId db' _ _ _ hupdate fun _ => rfl
  rw [after_ok hok, hrow, hr] at hafter
  have hr' := (Option.some.inj hafter).symm
  rw [Table.changed, if_pos (by simp [Release.addressed])] at hr'
  by_cases hfull : r.stage = .full
  · rw [hfull, transitionStage_full hpass] at hr'
    exact .inl ⟨hfull, hr'⟩
  · cases hnext : r.stage.next with
    | none =>
      rw [transitionStage_unknown hpass hnext hfull] at hr'
      have hzero : r.stage.percent = 0 := by
        cases hstage : r.stage <;> simp_all [Stage.next, Stage.percent]
      exact .inr (.inr ⟨hzero, hr'⟩)
    | some next =>
      rw [transitionStage_next hpass hnext] at hr'
      exact .inr (.inl ⟨next, rfl, hr'⟩)

/-- What `n` passing evaluations make of a release. -/
inductive Advances (F : Type) [LT F] [DecidableLT F] [Mul F] [OfScientific F] [Zero F] [One F] (r : Release) :
    ℕ → Release → Prop
  | start : Advances F r 0 r
  | pass {n : ℕ} {r' r'' : Release} (h : Advances F r n r') (hpass : PassesTo F r' r'') :
    Advances F r (n + 1) r''

/-- Where a release is after `n` passing evaluations. -/
inductive Reached (r : Release) (n : ℕ) (r' : Release) : Prop
  | same (h : r' = r) (hn : n = 0)
  | further (active : r'.status = .active) (hstage : r'.stage.rank = r.stage.rank + n)
      (more : r.stage.percent ≤ r'.stage.percent) (shown : r'.stage ≠ .shadow ∧ r'.stage ≠ .stopped)
  | completed (h : r'.status = .completed) (hn : 4 - r.stage.rank < n)
  | stopped (h : r'.status = .stopped) (hn : r.stage.percent = 0)

theorem Advances.reached {r r' : Release} {n : ℕ} (h : Advances F r n r') :
    r'.currentVersion = r.currentVersion ∧ r'.candidateVersion = r.candidateVersion ∧
      (n ≠ 0 → r.status = .active) ∧ Reached r n r' := by
  induction h with
  | start => exact ⟨rfl, rfl, fun hn => absurd rfl hn, .same rfl rfl⟩
  | @pass n r' r'' h hpass ih =>
    obtain ⟨hcurrent, hcandidate, hfirst, hreached⟩ := ih
    obtain ⟨hactive, now, hcases⟩ := hpass.eq
    have hstart : r.status = .active := by
      rcases Nat.eq_zero_or_pos n with hn | hn
      · cases hreached with
        | same hr _ => exact hr ▸ hactive
        | _ => subst hn; cases h; exact hactive
      · exact hfirst (by omega)
    have hrank : r'.stage.rank = r.stage.rank + n ∧ r.stage.percent ≤ r'.stage.percent := by
      cases hreached with
      | same hr hn => simp [hr, hn]
      | further _ hstage hmore _ => exact ⟨hstage, hmore⟩
      | completed hended _ => exact absurd (hactive.symm.trans hended) (by simp)
      | stopped hended _ => exact absurd (hactive.symm.trans hended) (by simp)
    rcases hcases with ⟨hfull, rfl⟩ | ⟨next, hnext, rfl⟩ | ⟨hzero, rfl⟩
    · refine ⟨hcurrent, hcandidate, fun _ => hstart, .completed rfl ?_⟩
      have hfour : r'.stage.rank = 4 := by rw [hfull]; rfl
      omega
    · obtain ⟨hmore, hshown⟩ := Stage.percent_next hnext
      have hnextRank := Stage.rank_next hnext
      refine ⟨hcurrent, hcandidate, fun _ => hstart, .further rfl ?_ ?_ hshown⟩
      · change next.rank = _
        omega
      · change r.stage.percent ≤ next.percent
        omega
    · refine ⟨hcurrent, hcandidate, fun _ => hstart, .stopped rfl ?_⟩
      omega

theorem Stage.rank_le (stage : Stage) : stage.rank ≤ 4 := by
  cases stage <;> decide

section Monotone

variable (sha256 : ByteArray → List UInt8)

/-- A low-risk request that writes nothing, while the candidate runtime is there. -/
def TrafficRequest.Eligible (q : TrafficRequest) : Prop :=
  q.riskLevel = .low ∧ q.riskHint ≠ .write ∧ q.candidateRuntimeAvailable = true

/-- Once the candidate serves a request, it serves the later ones of the conversation after `n`
passing evaluations too; and what pins a request to the current version always does. -/
def Monotone (q : TrafficRequest) (r r' : Release) : Prop :=
  (r.serves sha256 q = r.candidateVersion →
    ∀ runId, r'.serves sha256 { q with runId := runId } = r.candidateVersion) ∧
  ∀ q r, Pinned q r → r.serves sha256 q = r.currentVersion

/-- The evaluations stop short of the one that completes the release, or the candidate does not serve
the request to begin with, or there is nothing to choose between. -/
def StopsShort (q : TrafficRequest) (r : Release) (n : ℕ) : Prop :=
  n ≤ 4 - r.stage.rank ∨ canaryPercent r.stage ≤ q.bucket sha256 ∨ q.candidateSkillApproved = some false ∨
    r.candidateVersion = "" ∨ r.candidateVersion = r.currentVersion

theorem serves_candidate {q : TrafficRequest} {r : Release} (h : r.serves sha256 q = r.candidateVersion)
    (hne : r.candidateVersion ≠ r.currentVersion) :
    ¬ Pinned q r ∧ r.candidateVersion ≠ "" ∧ q.bucket sha256 < canaryPercent r.stage := by
  by_cases hpinned : Pinned q r
  · exact absurd (h.symm.trans (serves_pinned sha256 hpinned)) hne
  · rw [serves_canary sha256 hpinned] at h
    split at h
    · rename_i hselected
      exact ⟨hpinned, hselected⟩
    · exact absurd h.symm hne

theorem serves_either (q : TrafficRequest) (r : Release) :
    r.serves sha256 q = r.candidateVersion ∨ r.serves sha256 q = r.currentVersion := by
  by_cases hpinned : Pinned q r
  · exact .inr (serves_pinned sha256 hpinned)
  · rw [serves_canary sha256 hpinned]
    split
    · exact .inl rfl
    · exact .inr rfl

/-- The rollout is monotone exactly as long as it is not completed: the evaluation of the full stage
takes the candidate away from every request again. -/
theorem rollout_monotone_iff {q : TrafficRequest} {r r' : Release} {n : ℕ} (hq : q.Eligible)
    (h : Advances F r n r') : Monotone sha256 q r r' ↔ StopsShort sha256 q r n := by
  obtain ⟨hcurrent, hcandidate, hfirst, hreached⟩ := h.reached
  obtain ⟨hrisk, hhint, havailable⟩ := hq
  constructor
  · rintro ⟨hmonotone, _⟩
    by_contra hlate
    simp only [StopsShort, not_or, not_le] at hlate
    obtain ⟨hmany, hbucket, hskill, hempty, hne⟩ := hlate
    have hpositive : r.stage ≠ .shadow ∧ r.stage ≠ .stopped := by
      constructor <;> intro hstage <;> simp [hstage, canaryPercent] at hbucket
    have hactive := hfirst (by omega)
    have hfree : ¬ Pinned q r := by
      simp [Pinned, hactive, hpositive, hrisk, hhint, havailable, hskill]
    have hserved : r.serves sha256 q = r.candidateVersion := by
      rw [serves_canary sha256 hfree, if_pos ⟨hempty, hbucket⟩]
    have hstill := hmonotone hserved q.runId
    -- So many evaluations do not end at a stage: the release is completed, and serves the current version.
    cases hreached with
    | same _ hn => omega
    | further _ hstage _ _ =>
      have hle := r'.stage.rank_le
      omega
    | completed hended _ =>
      rw [serves_pinned sha256 (.inl (by simp [hended])), hcurrent] at hstill
      exact hne hstill.symm
    | stopped _ hzero =>
      rw [canaryPercent_eq] at hbucket
      omega
  · intro hshort
    refine ⟨fun hserved runId => ?_, fun _ _ hpinned => serves_pinned sha256 hpinned⟩
    -- Where the two versions are one, nothing can be taken away.
    by_cases hne : r.candidateVersion = r.currentVersion
    · rcases serves_either sha256 { q with runId := runId } r' with heither | heither
      · rw [heither, hcandidate]
      · rw [heither, hcurrent, hne]
    obtain ⟨hfree, hempty, hbucket⟩ := serves_candidate sha256 hserved hne
    cases hreached with
    | same hr _ =>
      subst hr
      exact hserved
    | further hactive _ hmore hshown =>
      have hskill : q.candidateSkillApproved ≠ some false := fun hskill =>
        hfree (.inr (.inr (.inr (.inr (.inr (.inr hskill))))))
      have hfree' : ¬ Pinned { q with runId := runId } r' := by
        simp [Pinned, hactive, hshown, hrisk, hhint, havailable, hskill]
      -- A later stage has a larger share, and the bucket of the request does not change.
      have hbucket' : q.bucket sha256 < canaryPercent r'.stage := by
        rw [canaryPercent_eq] at hbucket ⊢
        omega
      rw [serves_canary sha256 hfree', hcandidate, if_pos ⟨hempty, hbucket'⟩]
    | completed _ hmany =>
      rcases hshort with hfew | hlow | hskill | hnone | hsame
      · omega
      · omega
      · exact absurd (.inr (.inr (.inr (.inr (.inr (.inr hskill)))))) hfree
      · exact absurd hnone hempty
      · exact absurd hsame hne
    | stopped _ hzero =>
      rw [canaryPercent_eq] at hbucket
      omega

end Monotone

section Demo

def demoRequest : TrafficRequest where
  tenantId := "demo-shop"
  actorId := "demo-user-001"
  runId := "run-1"
  conversationId := "conversation-1"
  riskLevel := .low

/-- A hash that puts every conversation into the first bucket. -/
def demoHash (_ : ByteArray) : List UInt8 := []

def demoCompletion : Step ℚ := ⟨demoEvaluation, 4 * day, 4 * day⟩

theorem demoRollout_row : ((run after {} demoRollout).release "release-1").any (fun r =>
    r.releaseId = "release-1" ∧ r.tenantId = "demo-shop" ∧ r.status = .active ∧ r.stage = .full ∧
      r.observationEndsAt = none ∧ r.currentVersion = "v1" ∧ r.candidateVersion = "v2" ∧
      (run after {} demoRollout).candidateAvailable r.tenantId r = true) = true := by
  decide +kernel

/-- The full rollout, and the evaluation that completes it. -/
theorem demoRollout_completes : ∃ r r' : Release, Advances ℚ r 1 r' ∧ r.stage = .full ∧
    r.status = .active ∧ r'.status = .completed ∧ r.currentVersion = "v1" ∧ r.candidateVersion = "v2" := by
  obtain ⟨r, hr, hfields⟩ := (Option.any_eq_true _ _).mp demoRollout_row
  obtain ⟨hid, htenant, hactive, hfull, hwindow, hcurrent, hcandidate, havailable⟩ :=
    of_decide_eq_true hfields
  have heval : demoCompletion.Evaluates (run after {} demoRollout) r greenMetrics := by
    refine ⟨⟨"admin", ?_⟩, hactive, havailable, by simp [hwindow]⟩
    rw [hid, htenant]
    rfl
  obtain ⟨r', hr', _⟩ := release_after hr demoCompletion
  rw [← hid] at hr hr'
  have hpasses : PassesTo ℚ r r' := ⟨_, demoCompletion, greenMetrics, hr, heval, by decide +kernel, hr'⟩
  refine ⟨r, r', .pass .start hpasses, hfull, hactive, ?_, hcurrent, hcandidate⟩
  obtain ⟨_, _, ⟨_, hcompleted⟩ | ⟨next, hnext, _⟩ | ⟨hzero, _⟩⟩ := hpasses.eq
  · rw [hcompleted]
    rfl
  · simp [hfull, Stage.next] at hnext
  · simp [hfull, Stage.percent] at hzero

end Demo

/-- The completed rollout takes back what the full one served. -/
theorem completion_takes_back : ∃ r r' : Release, Advances ℚ r 1 r' ∧
    r.serves demoHash demoRequest = r.candidateVersion ∧
      r'.serves demoHash demoRequest ≠ r.candidateVersion := by
  obtain ⟨r, r', hadvances, hfull, hactive, hcompleted, hcurrent, hcandidate⟩ := demoRollout_completes
  obtain ⟨hsame, _⟩ := hadvances.reached
  refine ⟨r, r', hadvances, ?_, ?_⟩
  · have hfree : ¬ Pinned demoRequest r := by simp [Pinned, hactive, hfull, demoRequest]
    have hbucket : demoRequest.bucket demoHash = 0 := rfl
    rw [serves_canary demoHash hfree, hfull, hbucket, hcandidate]
    simp [canaryPercent]
  · rw [serves_pinned demoHash (.inl (by simp [hcompleted])), hsame, hcurrent, hcandidate]
    decide

theorem rollout_monotone_iff_completed :
    ∃ r r' : Release, Advances ℚ r 1 r' ∧ ¬ Monotone demoHash demoRequest r r' := by
  obtain ⟨r, r', hadvances, hfull, _, _, hcurrent, hcandidate⟩ := demoRollout_completes
  refine ⟨r, r', hadvances, fun hmonotone => ?_⟩
  have hshort := (rollout_monotone_iff demoHash ⟨rfl, by decide, rfl⟩ hadvances).mp hmonotone
  have hbucket : demoRequest.bucket demoHash = 0 := rfl
  unfold StopsShort at hshort
  rw [hfull, hcurrent, hcandidate, hbucket] at hshort
  exact absurd hshort (by decide)

end CommerceAgent.Delivery
