import CommerceAgent.HumanGate

/-! The lifecycle of a Skill while time passes between the transactions: its status follows the edges,
and a version with the same status that is still good stands behind each candidate that is live. -/
namespace CommerceAgent.Skills

open Histories Tables

variable {δ : Definitions} {reg reg' : Registry} {e : Step} {c c' : Candidate} {v v' : Version}

section Edges

/-- Each change of a status is an edge of the lifecycle. -/
def Edges (reg reg' : Registry) : Prop :=
  ∀ c ∈ reg.candidates.rows, ∀ c' ∈ reg'.candidates.rows, c'.skillId = c.skillId →
    c'.status = c.status ∨ c'.status ∈ TRANSITIONS c.status

theorem candidate_eq (hc : c ∈ reg.candidates.rows) (hc' : c' ∈ reg.candidates.rows)
    (h : c.skillId = c'.skillId) : c = c' :=
  Table.Keyed.eq (fun a b (hid : a.skillId = b.skillId) => .inl hid) reg.candidates.distinct hc hc' h

theorem Edges.of_candidates (h : reg'.candidates = reg.candidates) : Edges reg reg' := by
  intro c hc c' hc' hid
  rw [h] at hc'
  rw [candidate_eq hc' hc hid]
  exact .inl rfl

/-- The row that an update makes of a candidate. -/
theorem eq_changed {t t' : Table Candidate CandidateClash} {p : Candidate → Bool} {f : Candidate → Candidate}
    (h : t.update? p f = some t') (hid : ∀ c : Candidate, (f c).skillId = c.skillId) (hc : c ∈ t.rows)
    (hc' : c' ∈ t'.rows) (hsame : c'.skillId = c.skillId) : c' = Table.changed p f c := by
  obtain ⟨c₀, hc₀, rfl⟩ := (Table.mem_update? h).mp hc'
  have hkept : (Table.changed p f c₀).skillId = c₀.skillId := Table.key_changed hid c₀
  have heq : c₀ = c := Table.Keyed.eq (fun a b (hid : a.skillId = b.skillId) => .inl hid) t.distinct hc₀ hc
    (hkept.symm.trans hsame)
  rw [heq]

theorem Edges.of_change {refusal : String} {p : Candidate → Bool} {f : Candidate → Candidate}
    {q : Version → Bool} {g : Version → Version} (h : reg.change refusal p f q g = .ok reg')
    (hid : ∀ c : Candidate, (f c).skillId = c.skillId)
    (hedge : ∀ c, p c = true → (f c).status ∈ TRANSITIONS c.status) : Edges reg reg' := by
  intro c hc c' hc' hsame
  rw [eq_changed (change_ok h).2.1 hid hc hc' hsame]
  unfold Table.changed
  split
  · rename_i hp
    exact .inr (hedge c hp)
  · exact .inl rfl

theorem Edges.of_transition {tenantId : String} {skillId : Uuid} {expected target : SkillStatus}
    {versionTarget : Option SkillStatus} {now : ℕ}
    (h : reg.transition tenantId skillId expected target versionTarget now = .ok reg')
    (hedge : target ∈ TRANSITIONS expected) : Edges reg reg' := by
  apply Edges.of_change h (fun _ => rfl)
  intro c hp
  have hstatus : c.status = expected := (of_decide_eq_true hp).2.2
  rw [hstatus]
  exact hedge

theorem Edges.of_expireDue {swept : Option String} {now : ℕ} (h : reg.expireDue swept now = .ok reg') :
    Edges reg reg' := by
  obtain ⟨candidates, _, hreviews, hdeployed, _⟩ := expireDue_ok h
  intro c hc c'' hc'' hsame
  have hmid := (Table.mem_update? hreviews).mpr ⟨c, hc, rfl⟩
  -- a row that the second update expires is left alone by the third, as it is not deployed
  by_cases hdue : Registry.dueReview swept now c = true
  · rw [Table.changed_pos hdue] at hmid
    rw [eq_changed hdeployed (fun _ => rfl) hmid hc'' hsame]
    have hwaiting : c.status.Waiting := by
      simp only [Registry.dueReview, Bool.and_eq_true, decide_eq_true_eq] at hdue
      exact hdue.1.1
    have hexpired : SkillStatus.expired ∈ TRANSITIONS c.status := by
      rcases hwaiting with hstatus | hstatus <;> simp [hstatus, TRANSITIONS]
    unfold Table.changed
    split
    · exact .inr hexpired
    · exact .inr hexpired
  · rw [Table.changed_neg hdue] at hmid
    rw [eq_changed hdeployed (fun _ => rfl) hmid hc'' hsame]
    unfold Table.changed
    split
    · rename_i hgone
      simp only [Registry.dueDeployed, Bool.and_eq_true, decide_eq_true_eq] at hgone
      rcases hgone.1.1 with hstatus | hstatus <;> simp [hstatus, TRANSITIONS, Candidate.expire]
    · exact .inl rfl

theorem Edges.of_create {r : CandidateRequest} {skillId versionId : Uuid} {now later : ℕ}
    (h : reg.createCandidate δ r skillId versionId now later = .ok reg') : Edges reg reg' := by
  obtain ⟨_, _, hcandidates, _⟩ := createCandidate_ok h
  intro c hc c' hc' hsame
  have hmem := (Table.mem_insert? hcandidates).mpr (.inl hc)
  rw [candidate_eq hc' hmem hsame]
  exact .inl rfl

/-- Every transaction. -/
theorem edges_of_execute (h : reg.execute δ e = .ok reg') : Edges reg reg' := by
  unfold Registry.execute at h
  cases he : e.transaction with
  | recordFailure failure =>
    rw [he] at h
    obtain rfl := Except.ok.inj h
    exact .of_candidates (recordFailure_tables failure).1
  | createCandidate request skillId versionId later =>
    rw [he] at h
    exact .of_create h
  | submitForReview tenantId skillId =>
    rw [he] at h
    exact .of_transition h (by simp [TRANSITIONS])
  | approve tenantId skillId reviewer =>
    rw [he] at h
    simp only [Registry.approve] at h
    split at h
    · exact absurd h (by simp)
    · apply Edges.of_change h (fun _ => rfl)
      intro c hp
      rw [(of_decide_eq_true hp).2.2.1]
      simp [TRANSITIONS]
  | reject tenantId skillId reviewer reason =>
    rw [he] at h
    simp only [Registry.reject] at h
    split at h
    · exact absurd h (by simp)
    · apply Edges.of_change h (fun _ => rfl)
      intro c hp
      rw [(of_decide_eq_true hp).2.2]
      simp [TRANSITIONS]
  | canary tenantId skillId =>
    rw [he] at h
    exact .of_transition h (by simp [TRANSITIONS])
  | rollback tenantId skillId reason =>
    rw [he] at h
    simp only [Registry.rollback] at h
    split at h
    · exact absurd h (by simp)
    · apply Edges.of_change h (fun _ => rfl)
      intro c hp
      rcases (of_decide_eq_true hp).2.2 with hstatus | hstatus <;> simp [hstatus, TRANSITIONS]
  | recordEvaluation request evaluationId =>
    rw [he] at h
    exact .of_candidates (recordEvaluation_ok h).1
  | expireDue tenantId =>
    rw [he] at h
    exact .of_expireDue h

end Edges

section World

/-- The registry, and when each candidate was last put or kept in its status by an operation. -/
structure World where
  registry : Registry := {}
  kept : Uuid → ℕ := fun _ => 0

/-- The step approves the candidate, makes a canary of it, or sweeps its tenant. -/
def Registry.touches (reg : Registry) (e : Step) (id : Uuid) : Bool :=
  match e.transaction with
  | .approve _ skillId _ => decide (skillId = id)
  | .canary _ skillId => decide (skillId = id)
  | .expireDue tenantId =>
    reg.candidates.rows.any fun c => decide (c.skillId = id) && Registry.covers tenantId c
  | _ => false

def Registry.keptAfter (reg : Registry) (e : Step) (kept : Uuid → ℕ) (id : Uuid) : ℕ :=
  if reg.touches e id then e.now else kept id

def World.after (δ : Definitions) (w : World) (e : Step) : World :=
  match w.registry.execute δ e with
  | .ok reg' => ⟨reg', w.registry.keptAfter e w.kept⟩
  | .error _ => w

/-- Behind each candidate that is live stands a version with its status, which was still good when the
candidate was last put or kept there. -/
def World.Served (w : World) : Prop :=
  ∀ c ∈ w.registry.candidates.rows, c.status.Live →
    ∃ v ∈ w.registry.versions.rows, v.skillId = c.skillId ∧ v.status = c.status ∧
      w.kept c.skillId < v.expiresAt

/-- The lifecycle of the Skills, at one step. -/
structure Lawful (δ : Definitions) (w : World) (e : Step) : Prop where
  edges : Edges w.registry (w.after δ e).registry
  served : (w.after δ e).Served
  reviewed : ∀ reg', w.registry.execute δ e = .ok reg' → ∀ tenantId skillId reviewer,
    e.transaction = .approve tenantId skillId reviewer →
      ∀ c ∈ w.registry.candidates.rows, c.skillId = skillId → ∀ deadline ∈ c.reviewDeadline, e.now < deadline
  unexpired : ∀ reg', w.registry.execute δ e = .ok reg' → ∀ tenantId skillId,
    e.transaction = .canary tenantId skillId →
      ∀ v ∈ w.registry.versions.rows, v.skillId = skillId → e.now < v.expiresAt

/-- The clock does not go back while a candidate is created. -/
def Step.Forward (e : Step) : Prop :=
  match e.transaction with
  | .createCandidate _ _ _ later => e.now ≤ later
  | _ => True

/-- The Skill has a version that has not expired. -/
def Registry.Good (reg : Registry) (skillId : Uuid) (now : ℕ) : Prop :=
  ∃ v ∈ reg.versions.rows, v.skillId = skillId ∧ now < v.expiresAt

/-- Another canary has the scope of the candidate. -/
def Registry.Occupied (reg : Registry) (c : Candidate) : Prop :=
  ∃ d ∈ reg.candidates.rows, d.skillId ≠ c.skillId ∧ d.status.Deployed ∧ d.tenantId = c.tenantId ∧
    d.scopeType = c.scopeType ∧ d.scopeValue = c.scopeValue

/-- No candidate is approved that is due for expiry, and no sweep and no canary meets an approved
candidate whose version has expired. -/
def World.Timely (w : World) (e : Step) : Prop :=
  match e.transaction with
  | .approve tenantId skillId reviewer => reviewer ≠ "" → ∀ c ∈ w.registry.candidates.rows,
    w.registry.approvable tenantId skillId c = true → ∀ deadline ∈ c.reviewDeadline, e.now < deadline
  | .canary tenantId skillId => ∀ c ∈ w.registry.candidates.rows,
    c.tenantId = tenantId → c.skillId = skillId → c.status = .approved →
      w.registry.Good c.skillId e.now ∨ w.registry.Occupied c
  | .expireDue tenantId => ∀ c ∈ w.registry.candidates.rows,
    Registry.covers tenantId c = true → c.status = .approved → w.registry.Good c.skillId e.now
  | _ => True

instance (e : Step) : Decidable e.Forward := by
  unfold Step.Forward
  cases e.transaction <;> infer_instance

instance (w : World) (e : Step) : Decidable (w.Timely e) := by
  unfold World.Timely Registry.Good Registry.Occupied
  cases e.transaction <;> infer_instance

end World

section Invariant

variable {kept : Uuid → ℕ} {tenantId : String} {skillId : Uuid} {now : ℕ}

/-- The version of a candidate, in time for its status. -/
structure Fit (kept : ℕ) (c : Candidate) (v : Version) : Prop where
  deadline : ∃ deadline, c.reviewDeadline = some deadline ∧ deadline ≤ v.expiresAt
  waiting : c.status.Waiting → v.status = .pendingReview
  live : c.status.Live → v.status = c.status ∧ kept < v.expiresAt

structure Fits (reg : Registry) (kept : Uuid → ℕ) : Prop where
  numbered : ∀ v ∈ reg.versions.rows, v.versionNo = 1
  owned : ∀ v ∈ reg.versions.rows, ∃ c ∈ reg.candidates.rows, c.skillId = v.skillId
  fit : ∀ c ∈ reg.candidates.rows, ∃ v ∈ reg.versions.rows, v.skillId = c.skillId ∧ Fit (kept c.skillId) c v

/-- A Skill has one version. -/
theorem Fits.version_eq (h : Fits reg kept) (hv : v ∈ reg.versions.rows) (hv' : v' ∈ reg.versions.rows)
    (hsame : v.skillId = v'.skillId) : v = v' := by
  have hkey : ∀ a b : Version, (a.skillId, a.versionNo) = (b.skillId, b.versionNo) → VersionClash a b := by
    intro a b hab
    exact .inr (.inr (Prod.mk.inj hab))
  apply Table.Keyed.eq hkey reg.versions.distinct hv hv'
  rw [hsame, h.numbered v hv, h.numbered v' hv']

theorem Fits.served (h : Fits reg kept) : World.Served ⟨reg, kept⟩ := by
  intro c hc hlive
  obtain ⟨v, hv, hskill, hfit⟩ := h.fit c hc
  obtain ⟨hstatus, hkept⟩ := hfit.live hlive
  exact ⟨v, hv, hskill, hstatus, hkept⟩

/-- A candidate that is neither waiting nor live has nothing to fit. -/
theorem Fit.of_closed {k k' : ℕ} (h : Fit k c v) (hdeadline : c'.reviewDeadline = c.reviewDeadline)
    (hexpires : v'.expiresAt = v.expiresAt) (hwaiting : ¬ c'.status.Waiting) (hlive : ¬ c'.status.Live) :
    Fit k' c' v' where
  deadline := by
    rw [hdeadline, hexpires]
    exact h.deadline
  waiting hw := absurd hw hwaiting
  live hl := absurd hl hlive

theorem Fits.of_change {refusal : String} {p : Candidate → Bool} {f : Candidate → Candidate}
    {q : Version → Bool} {g : Version → Version} {kept' : Uuid → ℕ}
    (h : Fits reg kept) (hchange : reg.change refusal p f q g = .ok reg')
    (hf : ∀ c : Candidate, (f c).skillId = c.skillId)
    (hg : ∀ v : Version, (g v).skillId = v.skillId ∧ (g v).versionNo = v.versionNo)
    (hfit : ∀ c ∈ reg.candidates.rows, ∀ v ∈ reg.versions.rows, v.skillId = c.skillId →
      Fit (kept c.skillId) c v → Fit (kept' c.skillId) (Table.changed p f c) (Table.changed q g v)) :
    Fits reg' kept' := by
  obtain ⟨_, hcandidates, hversions, _⟩ := change_ok hchange
  have hfid : ∀ c : Candidate, (Table.changed p f c).skillId = c.skillId := Table.key_changed hf
  have hgid : ∀ v : Version, (Table.changed q g v).skillId = v.skillId :=
    Table.key_changed fun v => (hg v).1
  have hgno : ∀ v : Version, (Table.changed q g v).versionNo = v.versionNo :=
    Table.key_changed fun v => (hg v).2
  constructor
  · intro v' hv'
    obtain ⟨v, hv, rfl⟩ := (Table.mem_update? hversions).mp hv'
    exact (hgno v).trans (h.numbered v hv)
  · intro v' hv'
    obtain ⟨v, hv, rfl⟩ := (Table.mem_update? hversions).mp hv'
    obtain ⟨c, hc, hskill⟩ := h.owned v hv
    refine ⟨_, (Table.mem_update? hcandidates).mpr ⟨c, hc, rfl⟩, ?_⟩
    rw [hfid, hgid, hskill]
  · intro c' hc'
    obtain ⟨c, hc, rfl⟩ := (Table.mem_update? hcandidates).mp hc'
    obtain ⟨v, hv, hskill, hold⟩ := h.fit c hc
    refine ⟨_, (Table.mem_update? hversions).mpr ⟨v, hv, rfl⟩, ?_, ?_⟩
    · rw [hfid, hgid, hskill]
    · rw [hfid]
      exact hfit c hc v hv hskill hold

/-- A change addresses the one candidate with the identifier, or none. -/
theorem addressed_or_other {p : Candidate → Bool} (hp : ∀ c, p c = true → c.skillId = skillId)
    (hfound : ∃ c ∈ reg.candidates.rows, p c = true) (hc : c ∈ reg.candidates.rows) :
    p c = true ∨ c.skillId ≠ skillId := by
  by_cases hsame : c.skillId = skillId
  · obtain ⟨c₀, hc₀, hp₀⟩ := hfound
    have heq : c₀ = c := candidate_eq hc₀ hc ((hp c₀ hp₀).trans hsame.symm)
    exact .inl (heq ▸ hp₀)
  · exact .inr hsame

theorem Fits.submit (h : Fits reg kept) (hsubmit : reg.submitForReview tenantId skillId now = .ok reg') :
    Fits reg' kept := by
  apply h.of_change hsubmit (fun _ => rfl) (fun _ => ⟨rfl, rfl⟩)
  intro c _ v _ _ hfit
  unfold Table.changed
  split
  · rename_i hp
    have hstatus : c.status = .candidate := (of_decide_eq_true hp).2.2
    exact ⟨hfit.deadline, fun _ => hfit.waiting (.inl hstatus), fun hlive => absurd hlive (by simp)⟩
  · exact hfit

/-- A transaction that closes a candidate. -/
theorem Fits.close {refusal : String} {p : Candidate → Bool} {f : Candidate → Candidate}
    {q : Version → Bool} {g : Version → Version} (h : Fits reg kept)
    (hchange : reg.change refusal p f q g = .ok reg') (hp : ∀ c, p c = true → c.skillId = skillId)
    (hq : ∀ v, q v = true → v.skillId = skillId)
    (hf : ∀ c : Candidate, (f c).skillId = c.skillId ∧ (f c).reviewDeadline = c.reviewDeadline)
    (hclosed : ∀ c : Candidate, ¬ (f c).status.Waiting ∧ ¬ (f c).status.Live)
    (hg : ∀ v : Version, (g v).skillId = v.skillId ∧ (g v).versionNo = v.versionNo ∧
      (g v).expiresAt = v.expiresAt) : Fits reg' kept := by
  apply h.of_change hchange (fun c => (hf c).1) (fun v => ⟨(hg v).1, (hg v).2.1⟩)
  intro c hc v _ hskill hfit
  have hexpires : (Table.changed q g v).expiresAt = v.expiresAt :=
    Table.key_changed (fun v => (hg v).2.2) v
  rcases addressed_or_other hp (change_ok hchange).1 hc with hpc | hother
  · rw [Table.changed_pos hpc]
    exact hfit.of_closed (hf c).2 hexpires (hclosed c).1 (hclosed c).2
  · have hpc : ¬ p c = true := fun hpc => hother (hp c hpc)
    have hqv : ¬ q v = true := fun hqv => hother (hskill.symm.trans (hq v hqv))
    rw [Table.changed_neg hpc, Table.changed_neg hqv]
    exact hfit

theorem keptAfter_touched {id : Uuid} (h : reg.touches e id = true) : reg.keptAfter e kept id = e.now :=
  if_pos h

theorem keptAfter_other {id : Uuid} (h : ¬ reg.touches e id = true) : reg.keptAfter e kept id = kept id :=
  if_neg h

theorem Fits.approve {reviewer : String} (h : Fits reg kept)
    (happrove : reg.approve tenantId skillId reviewer e.now = .ok reg')
    (he : e.transaction = .approve tenantId skillId reviewer)
    (htimely : ∀ c ∈ reg.candidates.rows, reg.approvable tenantId skillId c = true →
      ∀ deadline ∈ c.reviewDeadline, e.now < deadline) : Fits reg' (reg.keptAfter e kept) := by
  have htouches : ∀ id, reg.touches e id = decide (skillId = id) := by
    intro id
    simp [Registry.touches, he]
  have hp : ∀ c, reg.approvable tenantId skillId c = true → c.skillId = skillId := fun c hc =>
    (of_decide_eq_true hc).2.1
  unfold Registry.approve at happrove
  split at happrove
  · exact absurd happrove (by simp)
  apply h.of_change happrove (fun _ => rfl) (fun _ => ⟨rfl, rfl⟩)
  intro c hc v _ hskill hfit
  rcases addressed_or_other hp (change_ok happrove).1 hc with hpc | hother
  · -- the approved candidate: its version was waiting with it
    have hstatus : c.status = .pendingReview := (of_decide_eq_true hpc).2.2.1
    have hpending := hfit.waiting (.inr hstatus)
    rw [Table.changed_pos hpc, Table.changed_pos (p := fun v : Version =>
      decide (v.skillId = skillId ∧ v.status = .pendingReview))
      (decide_eq_true ⟨hskill.trans (hp c hpc), hpending⟩)]
    obtain ⟨deadline, hdeadline, hle⟩ := hfit.deadline
    have hnow : e.now < v.expiresAt := (htimely c hc hpc deadline hdeadline).trans_le hle
    have hkept : reg.keptAfter e kept c.skillId = e.now :=
      keptAfter_touched ((htouches _).trans (decide_eq_true (hp c hpc).symm))
    exact ⟨⟨deadline, hdeadline, hle⟩, fun hwaiting => absurd hwaiting (by simp),
      fun _ => ⟨rfl, hkept ▸ hnow⟩⟩
  · have hpc : ¬ reg.approvable tenantId skillId c = true := fun hpc => hother (hp c hpc)
    have hkept : reg.keptAfter e kept c.skillId = kept c.skillId := by
      apply keptAfter_other
      rw [htouches, decide_eq_true_eq]
      exact Ne.symm hother
    rw [Table.changed_neg hpc, Table.changed_neg (p := fun v : Version =>
      decide (v.skillId = skillId ∧ v.status = .pendingReview))
      fun hqv => hother (hskill.symm.trans (of_decide_eq_true hqv).1), hkept]
    exact hfit

/-- The unique index lets no second canary into a scope. -/
theorem not_occupied {t' : Table Candidate CandidateClash} {p : Candidate → Bool} {f : Candidate → Candidate}
    (h : reg.candidates.update? p f = some t') (hp : ∀ c, p c = true → c.skillId = skillId)
    (hc : c ∈ reg.candidates.rows) (hpc : p c = true) (hid : (f c).skillId = c.skillId)
    (hdeployed : (f c).status.Deployed) (htenant : (f c).tenantId = c.tenantId)
    (htype : (f c).scopeType = c.scopeType) (hvalue : (f c).scopeValue = c.scopeValue) : ¬ reg.Occupied c := by
  rintro ⟨d, hd, hother, hd_deployed, hd_tenant, hd_type, hd_value⟩
  have hpd : ¬ p d = true := fun hpd => hother ((hp d hpd).trans (hp c hpc).symm)
  have hc' : f c ∈ t'.rows := (Table.mem_update? h).mpr ⟨c, hc, Table.changed_pos hpc⟩
  have hd' : d ∈ t'.rows := (Table.mem_update? h).mpr ⟨d, hd, Table.changed_neg hpd⟩
  have hsymm : Std.Symm fun a b : Candidate => ¬ CandidateClash a b := by
    constructor
    intro a b hab hba
    apply hab
    rcases hba with hba | ⟨h₁, h₂, h₃, h₄, h₅⟩
    · exact .inl hba.symm
    · exact .inr ⟨h₂, h₁, h₃.symm, h₄.symm, h₅.symm⟩
  have hne : f c ≠ d := fun heq => hother (heq ▸ hid)
  apply t'.distinct.forall hc' hd' hne
  exact .inr ⟨hdeployed, hd_deployed, htenant.trans hd_tenant.symm, htype.trans hd_type.symm,
    hvalue.trans hd_value.symm⟩

theorem good_of_canary (hcanary : reg.canary tenantId skillId now = .ok reg') (hc : c ∈ reg.candidates.rows)
    (hfound : c.tenantId = tenantId ∧ c.skillId = skillId ∧ c.status = .approved)
    (htimely : reg.Good c.skillId now ∨ reg.Occupied c) : reg.Good c.skillId now := by
  rcases htimely with hgood | hoccupied
  · exact hgood
  · exact absurd hoccupied (not_occupied (change_ok hcanary).2.1 (fun c hp => (of_decide_eq_true hp).2.1) hc
      (decide_eq_true hfound) rfl (.inl rfl) rfl rfl rfl)

/-- The version that stands behind a candidate whose Skill is good. -/
theorem Fits.expires (h : Fits reg kept) (hgood : reg.Good c.skillId now) (hv : v ∈ reg.versions.rows)
    (hskill : v.skillId = c.skillId) : now < v.expiresAt := by
  obtain ⟨v₀, hv₀, hskill₀, hnow⟩ := hgood
  rw [h.version_eq hv hv₀ (hskill.trans hskill₀.symm)]
  exact hnow

theorem Fits.canary (h : Fits reg kept) (hcanary : reg.canary tenantId skillId e.now = .ok reg')
    (he : e.transaction = .canary tenantId skillId)
    (htimely : ∀ c ∈ reg.candidates.rows, c.tenantId = tenantId → c.skillId = skillId → c.status = .approved →
      reg.Good c.skillId e.now ∨ reg.Occupied c) : Fits reg' (reg.keptAfter e kept) := by
  have htouches : ∀ id, reg.touches e id = decide (skillId = id) := by
    intro id
    simp [Registry.touches, he]
  apply h.of_change hcanary (fun _ => rfl) (fun _ => ⟨rfl, rfl⟩)
  intro c hc v hv hskill hfit
  rcases addressed_or_other (fun c hp => (of_decide_eq_true hp).2.1) (change_ok hcanary).1 hc with hpc | hother
  · obtain ⟨htenant, hsame, hstatus⟩ := of_decide_eq_true hpc
    have hgood := good_of_canary hcanary hc ⟨htenant, hsame, hstatus⟩ (htimely c hc htenant hsame hstatus)
    have hnow : e.now < v.expiresAt := h.expires hgood hv hskill
    have happroved : v.status = .approved := (hfit.live (.inl hstatus)).1.trans hstatus
    have hkept : reg.keptAfter e kept c.skillId = e.now :=
      keptAfter_touched ((htouches _).trans (decide_eq_true hsame.symm))
    unfold Table.changed
    rw [if_pos hpc, if_pos (by simp [hskill, hsame, happroved])]
    exact ⟨hfit.deadline, fun hwaiting => absurd hwaiting (by simp),
      fun _ => ⟨rfl, hkept ▸ hnow⟩⟩
  · have hkept : reg.keptAfter e kept c.skillId = kept c.skillId := by
      apply keptAfter_other
      rw [htouches, decide_eq_true_eq]
      exact Ne.symm hother
    unfold Table.changed
    rw [if_neg (by simp [hother]), if_neg (by simp [hskill, hother]), hkept]
    exact hfit

/-- The sweep leaves the version of a candidate that it does not expire. -/
theorem dueVersion_iff {swept : Option String} (hc : c ∈ reg.candidates.rows)
    (hskill : v.skillId = c.skillId) : reg.dueVersion swept now v = true ↔
      v.expiresAt ≤ now ∧ (v.status = .pendingReview ∨ v.status.Live) ∧ Registry.covers swept c = true := by
  simp only [Registry.dueVersion, Bool.and_eq_true, decide_eq_true_eq, List.any_eq_true, and_assoc]
  constructor
  · rintro ⟨hexpired, hstatus, c₀, hc₀, hsame, hcovers⟩
    rw [← candidate_eq hc₀ hc (hsame.trans hskill)]
    exact ⟨hexpired, hstatus, hcovers⟩
  · rintro ⟨hexpired, hstatus, hcovers⟩
    exact ⟨hexpired, hstatus, c, hc, hskill.symm, hcovers⟩

theorem touches_sweep {swept : Option String} (he : e.transaction = .expireDue swept)
    (hc : c ∈ reg.candidates.rows) : reg.touches e c.skillId = Registry.covers swept c := by
  rw [Bool.eq_iff_iff]
  simp only [Registry.touches, he, List.any_eq_true, Bool.and_eq_true, decide_eq_true_eq]
  constructor
  · rintro ⟨c₀, hc₀, hsame, hcovers⟩
    rw [← candidate_eq hc₀ hc hsame]
    exact hcovers
  · intro hcovers
    exact ⟨c, hc, rfl, hcovers⟩

theorem changed_expire (q : Version → Bool) (v : Version) :
    (Table.changed q Version.expire v).expiresAt = v.expiresAt := by
  have hexpires : ∀ v : Version, v.expire.expiresAt = v.expiresAt := fun _ => rfl
  exact Table.key_changed hexpires v

/-- A candidate that a sweep leaves, with what it makes of its version. -/
theorem Fit.swept {swept : Option String} (he : e.transaction = .expireDue swept)
    (hc : c ∈ reg.candidates.rows) (hskill : v.skillId = c.skillId) (hfit : Fit (kept c.skillId) c v)
    (hreview : ¬ Registry.dueReview swept e.now c = true)
    (hgood : c.status.Live → Registry.covers swept c = true → e.now < v.expiresAt) :
    Fit (reg.keptAfter e kept c.skillId) c
      (Table.changed (reg.dueVersion swept e.now) Version.expire v) := by
  by_cases hopen : c.status.Waiting ∨ c.status.Live
  · -- the version is due only with its candidate, whose review window ends first
    have hdue : ¬ reg.dueVersion swept e.now v = true := by
      intro hdue
      obtain ⟨hexpired, _, hcovers⟩ := (dueVersion_iff hc hskill).mp hdue
      rcases hopen with hwaiting | hlive
      · obtain ⟨deadline, hdeadline, hle⟩ := hfit.deadline
        apply hreview
        simp [Registry.dueReview, hwaiting, hdeadline, hcovers, hle.trans hexpired]
      · exact absurd (hgood hlive hcovers) (Nat.not_lt.mpr hexpired)
    rw [Table.changed_neg hdue]
    refine ⟨hfit.deadline, hfit.waiting, fun hlive => ⟨(hfit.live hlive).1, ?_⟩⟩
    by_cases hcovers : Registry.covers swept c = true
    · rw [keptAfter_touched ((touches_sweep he hc).trans hcovers)]
      exact hgood hlive hcovers
    · rw [keptAfter_other (touches_sweep he hc ▸ hcovers)]
      exact (hfit.live hlive).2
  · rw [not_or] at hopen
    exact hfit.of_closed rfl (changed_expire _ v) hopen.1 hopen.2

/-- A candidate that serves after a sweep has a good version, unless it is approved only. -/
theorem good_of_served {swept : Option String} {candidates : Table Candidate CandidateClash}
    (hversions : reg.versions.update? (reg.dueVersion swept now) Version.expire =
      some reg'.versions) (hdeployed : c.status.Deployed) (hcovers : Registry.covers swept c = true)
    (hserved : ¬ Registry.dueDeployed { reg' with candidates := candidates } swept now c = true) :
    reg.Good c.skillId now := by
  simp only [Registry.dueDeployed, hdeployed, hcovers, decide_true, Bool.true_and, Bool.not_eq_true',
    Bool.not_eq_false, List.any_eq_true, decide_eq_true_eq] at hserved
  obtain ⟨v', hv', hskill, _, hnow⟩ := hserved
  obtain ⟨v, hv, rfl⟩ := (Table.mem_update? hversions).mp hv'
  rw [changed_expire] at hnow
  have hsame : ∀ v : Version, v.expire.skillId = v.skillId := fun _ => rfl
  have hkept : (Table.changed (reg.dueVersion swept now) Version.expire v).skillId = v.skillId :=
    Table.key_changed hsame v
  exact ⟨v, hv, hkept.symm.trans hskill, hnow⟩

theorem Fits.expireDue {swept : Option String} (h : Fits reg kept)
    (hsweep : reg.expireDue swept e.now = .ok reg') (he : e.transaction = .expireDue swept)
    (htimely : ∀ c ∈ reg.candidates.rows, Registry.covers swept c = true → c.status = .approved →
      reg.Good c.skillId e.now) : Fits reg' (reg.keptAfter e kept) := by
  obtain ⟨candidates, hversions, hreviews, hdeployed, _⟩ := expireDue_ok hsweep
  have hvid : ∀ v : Version,
      (Table.changed (reg.dueVersion swept e.now) Version.expire v).skillId = v.skillId :=
    Table.key_changed fun _ => rfl
  have hvno : ∀ v : Version,
      (Table.changed (reg.dueVersion swept e.now) Version.expire v).versionNo = v.versionNo :=
    Table.key_changed fun _ => rfl
  have hcid : ∀ (p : Candidate → Bool) (c : Candidate),
      (Table.changed p (Candidate.expire e.now) c).skillId = c.skillId := fun _ =>
    Table.key_changed fun _ => rfl
  constructor
  · intro v' hv'
    obtain ⟨v, hv, rfl⟩ := (Table.mem_update? hversions).mp hv'
    exact (hvno v).trans (h.numbered v hv)
  · intro v' hv'
    obtain ⟨v, hv, rfl⟩ := (Table.mem_update? hversions).mp hv'
    obtain ⟨c, hc, hskill⟩ := h.owned v hv
    have hmid := (Table.mem_update? hreviews).mpr ⟨c, hc, rfl⟩
    refine ⟨_, (Table.mem_update? hdeployed).mpr ⟨_, hmid, rfl⟩, ?_⟩
    rw [hcid, hcid, hvid, hskill]
  · intro c'' hc''
    obtain ⟨c', hc', rfl⟩ := (Table.mem_update? hdeployed).mp hc''
    obtain ⟨c, hc, rfl⟩ := (Table.mem_update? hreviews).mp hc'
    obtain ⟨v, hv, hskill, hfit⟩ := h.fit c hc
    refine ⟨_, (Table.mem_update? hversions).mpr ⟨v, hv, rfl⟩, ?_, ?_⟩
    · rw [hcid, hcid, hvid, hskill]
    rw [hcid, hcid]
    have hexpires := changed_expire (reg.dueVersion swept e.now) v
    by_cases hreview : Registry.dueReview swept e.now c = true
    · -- expired with its review window
      rw [Table.changed_pos hreview]
      unfold Table.changed
      split
      · exact hfit.of_closed rfl hexpires (by simp [Candidate.expire]) (by simp [Candidate.expire])
      · exact hfit.of_closed rfl hexpires (by simp [Candidate.expire]) (by simp [Candidate.expire])
    rw [Table.changed_neg hreview]
    by_cases hgone : Registry.dueDeployed { reg' with candidates := candidates } swept e.now c = true
    · -- expired without a version
      rw [Table.changed_pos hgone]
      exact hfit.of_closed rfl hexpires (by simp [Candidate.expire]) (by simp [Candidate.expire])
    rw [Table.changed_neg hgone]
    apply hfit.swept he hc hskill hreview
    intro hlive hcovers
    have hgood : reg.Good c.skillId e.now := by
      rcases hlive with happroved | hserving
      · exact htimely c hc hcovers happroved
      · exact good_of_served hversions hserving hcovers hgone
    exact h.expires hgood hv hskill

theorem Fits.create {r : CandidateRequest} {versionId : Uuid} {later : ℕ} (h : Fits reg kept)
    (hcreate : reg.createCandidate δ r skillId versionId now later = .ok reg') (hclock : now ≤ later) :
    Fits reg' kept := by
  obtain ⟨_, _, hcandidates, hversions, _⟩ := createCandidate_ok hcreate
  constructor
  · intro v hv
    rcases (Table.mem_insert? hversions).mp hv with hv | rfl
    · exact h.numbered v hv
    · rfl
  · intro v hv
    rcases (Table.mem_insert? hversions).mp hv with hv | rfl
    · obtain ⟨c, hc, hskill⟩ := h.owned v hv
      exact ⟨c, (Table.mem_insert? hcandidates).mpr (.inl hc), hskill⟩
    · exact ⟨_, (Table.mem_insert? hcandidates).mpr (.inr rfl), rfl⟩
  · intro c hc
    rcases (Table.mem_insert? hcandidates).mp hc with hc | rfl
    · obtain ⟨v, hv, hskill, hfit⟩ := h.fit c hc
      exact ⟨v, (Table.mem_insert? hversions).mpr (.inl hv), hskill, hfit⟩
    · -- the review has to end before the version expires, as the clock is read for it first
      have hle : now + days r.ttlDays ≤ later + days r.ttlDays := Nat.add_le_add_right hclock _
      refine ⟨_, (Table.mem_insert? hversions).mpr (.inr rfl), rfl, ⟨_, rfl, hle⟩, fun _ => rfl, ?_⟩
      intro hlive
      exact absurd hlive (by simp [CandidateRequest.candidate])

theorem Fits.of_tables (h : Fits reg kept) (hcandidates : reg'.candidates = reg.candidates)
    (hversions : reg'.versions = reg.versions) : Fits reg' kept where
  numbered := hversions ▸ h.numbered
  owned := hversions ▸ hcandidates ▸ h.owned
  fit := hversions ▸ hcandidates ▸ h.fit

theorem keptAfter_eq (h : ∀ id, reg.touches e id = false) : reg.keptAfter e kept = kept := by
  funext id
  exact keptAfter_other (by simp [h id])

/-- One lemma per transaction, and the condition for the three that look at the time. -/
theorem Fits.execute (h : Fits reg kept) (hforward : e.Forward) (htimely : World.Timely ⟨reg, kept⟩ e)
    (hexecute : reg.execute δ e = .ok reg') : Fits reg' (reg.keptAfter e kept) := by
  unfold Registry.execute at hexecute
  unfold World.Timely at htimely
  unfold Step.Forward at hforward
  cases he : e.transaction with
  | recordFailure failure =>
    rw [he] at hexecute
    obtain rfl := Except.ok.inj hexecute
    rw [keptAfter_eq fun id => by simp [Registry.touches, he]]
    exact h.of_tables (recordFailure_tables failure).1 (recordFailure_tables failure).2
  | createCandidate request skillId versionId later =>
    rw [he] at hexecute hforward
    rw [keptAfter_eq fun id => by simp [Registry.touches, he]]
    exact h.create hexecute hforward
  | submitForReview tenantId skillId =>
    rw [he] at hexecute
    rw [keptAfter_eq fun id => by simp [Registry.touches, he]]
    exact h.submit hexecute
  | approve tenantId skillId reviewer =>
    rw [he] at hexecute htimely
    have hreviewer : reviewer ≠ "" := by
      intro hempty
      simp [Registry.approve, hempty] at hexecute
    exact h.approve hexecute he (htimely hreviewer)
  | reject tenantId skillId reviewer reason =>
    rw [he] at hexecute
    rw [keptAfter_eq fun id => by simp [Registry.touches, he]]
    simp only [Registry.reject] at hexecute
    split at hexecute
    · exact absurd hexecute (by simp)
    · exact h.close hexecute (fun c hp => (of_decide_eq_true hp).2.1) (fun v hq => (of_decide_eq_true hq).1)
        (fun c => ⟨rfl, rfl⟩) (fun c => ⟨by simp, by simp⟩) fun v => ⟨rfl, rfl, rfl⟩
  | canary tenantId skillId =>
    rw [he] at hexecute htimely
    exact h.canary hexecute he htimely
  | rollback tenantId skillId reason =>
    rw [he] at hexecute
    rw [keptAfter_eq fun id => by simp [Registry.touches, he]]
    simp only [Registry.rollback] at hexecute
    split at hexecute
    · exact absurd hexecute (by simp)
    · exact h.close hexecute (fun c hp => (of_decide_eq_true hp).2.1) (fun v hq => (of_decide_eq_true hq).1)
        (fun c => ⟨rfl, rfl⟩) (fun c => ⟨by simp, by simp⟩) fun v => ⟨rfl, rfl, rfl⟩
  | recordEvaluation request evaluationId =>
    rw [he] at hexecute
    rw [keptAfter_eq fun id => by simp [Registry.touches, he]]
    exact h.of_tables (recordEvaluation_ok hexecute).1 (recordEvaluation_ok hexecute).2.1
  | expireDue tenantId =>
    rw [he] at hexecute htimely
    exact h.expireDue hexecute he htimely

end Invariant

section Runs

variable {w : World}

theorem World.after_ok (h : w.registry.execute δ e = .ok reg') :
    w.after δ e = ⟨reg', w.registry.keptAfter e w.kept⟩ := by
  simp [World.after, h]

theorem World.after_error {error : SkillError} (h : w.registry.execute δ e = .error error) : w.after δ e = w := by
  simp [World.after, h]

/-- What one step in time keeps. -/
theorem Fits.after (h : Fits w.registry w.kept) (hforward : e.Forward) (htimely : w.Timely e) :
    Fits (w.after δ e).registry (w.after δ e).kept := by
  cases hexecute : w.registry.execute δ e with
  | error error =>
    rw [World.after_error hexecute]
    exact h
  | ok reg' =>
    rw [World.after_ok hexecute]
    exact h.execute hforward htimely hexecute

theorem Fits.lawful (h : Fits w.registry w.kept) (hforward : e.Forward) (htimely : w.Timely e) :
    Lawful δ w e where
  edges := by
    cases hexecute : w.registry.execute δ e with
    | error error =>
      rw [World.after_error hexecute]
      exact .of_candidates rfl
    | ok reg' =>
      rw [World.after_ok hexecute]
      exact edges_of_execute hexecute
  served := (h.after hforward htimely).served
  reviewed := by
    intro reg' hexecute tenantId skillId reviewer he c hc hskill deadline hdeadline
    simp only [Registry.execute, he, Registry.approve] at hexecute
    split at hexecute
    · exact absurd hexecute (by simp)
    rename_i hreviewer
    simp only [World.Timely, he] at htimely
    rcases addressed_or_other (fun c hp => (of_decide_eq_true hp).2.1) (change_ok hexecute).1 hc with hp | hother
    · exact htimely hreviewer c hc hp deadline hdeadline
    · exact absurd hskill hother
  unexpired := by
    intro reg' hexecute tenantId skillId he v hv hskill
    simp only [Registry.execute, he] at hexecute
    simp only [World.Timely, he] at htimely
    obtain ⟨⟨c, hc, hp⟩, _⟩ := change_ok hexecute
    have hfound := of_decide_eq_true hp
    have hgood := good_of_canary hexecute hc hfound (htimely c hc hfound.1 hfound.2.1 hfound.2.2)
    exact h.expires hgood hv (hskill.trans hfound.2.1.symm)

theorem Fits.start : Fits (World.registry {}) (World.kept {}) :=
  ⟨fun v hv => absurd hv (by simp), fun v hv => absurd hv (by simp), fun c hc => absurd hc (by simp)⟩

/-- In a run whose approvals, canaries and sweeps come in time each step is lawful. -/
theorem skill_lifecycle (δ : Definitions) (h : List Step) (hclock : ∀ e ∈ h, e.Forward)
    (htimely : Along (World.after δ) World.Timely {} h) : ∀ x ∈ trace (World.after δ) {} h, Lawful δ x.1 x.2 := by
  have hforward : Along (World.after δ) (fun _ e => e.Forward) {} h := .of_mem fun e he _ => hclock e he
  have hkeeps := (hforward.and htimely).keeping (J := fun w : World => Fits w.registry w.kept) Fits.start
    fun w e hfits hstep => hfits.after hstep.1 hstep.2
  intro x hx
  obtain ⟨hfits, hstep⟩ := hkeeps.mem_trace hx
  exact hfits.lawful hstep.1 hstep.2

theorem skill_lifecycle_demo :
    (∀ x ∈ trace (World.after demoDefinitions) {} demoServed, Lawful demoDefinitions x.1 x.2) ∧
      ((run (World.after demoDefinitions) {} demoServed).registry.candidates.rows.map Candidate.status) =
        [.canary] :=
  ⟨skill_lifecycle demoDefinitions demoServed (by decide +kernel) (by decide +kernel), by decide +kernel⟩

/-- A day later the review window is over, and nothing has swept it yet. -/
def demoOverdue : List Step :=
  demoWaiting ++ [⟨.approve "acme" "skill" "alice", 86400000003⟩, ⟨.expireDue (some "acme"), 86400000004⟩,
    ⟨.canary "acme" "skill", 86400000005⟩]

/-- The overdue candidate is approved, the sweep expires its version and leaves it, and it becomes a
canary. -/
theorem overdue_approved :
    (∀ e ∈ demoOverdue, e.Forward) ∧ (demoOverdue.map Step.now).Pairwise (· ≤ ·) ∧
      (∃ c ∈ (run (World.after demoDefinitions) {} (demoOverdue.take 11)).registry.candidates.rows,
        c.status = .approved ∧ c.reviewDeadline = some 86400000001 ∧
          ∀ v ∈ (run (World.after demoDefinitions) {} (demoOverdue.take 11)).registry.versions.rows,
            v.skillId = c.skillId → v.status = .expired ∧ v.expiresAt = 86400000002) ∧
      ((run (World.after demoDefinitions) {} demoOverdue).registry.candidates.rows.map Candidate.status) =
        [.canary] ∧
      ¬ ∀ x ∈ trace (World.after demoDefinitions) {} demoOverdue, Lawful demoDefinitions x.1 x.2 := by
  have hrow : ∃ c ∈ (run (World.after demoDefinitions) {} (demoOverdue.take 11)).registry.candidates.rows,
      c.status = .approved ∧ c.reviewDeadline = some 86400000001 ∧
        ∀ v ∈ (run (World.after demoDefinitions) {} (demoOverdue.take 11)).registry.versions.rows,
          v.skillId = c.skillId → v.status = .expired ∧ v.expiresAt = 86400000002 := by decide +kernel
  refine ⟨by decide +kernel, by decide +kernel, hrow, by decide +kernel, fun hlawful => ?_⟩
  -- the last step but one leaves the approved candidate without a version of its status
  obtain ⟨c, hc, hstatus, _, hversions⟩ := hrow
  have hlast : (run (World.after demoDefinitions) {} (demoOverdue.take 10),
      (⟨.expireDue (some "acme"), 86400000004⟩ : Step)) ∈ trace (World.after demoDefinitions) {} demoOverdue := by
    have hsplit : demoOverdue = demoOverdue.take 10 ++
        [⟨.expireDue (some "acme"), 86400000004⟩, ⟨.canary "acme" "skill", 86400000005⟩] := rfl
    rw [hsplit, trace_append]
    exact List.mem_append_right _ List.mem_cons_self
  obtain ⟨v, hv, hskill, hsame, _⟩ := (hlawful _ hlast).served c hc (.inl hstatus)
  have hexpired := (hversions v hv hskill).1
  rw [hsame, hstatus] at hexpired
  exact absurd hexpired (by decide)

end Runs

end CommerceAgent.Skills
