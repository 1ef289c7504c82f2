import CommerceAgent.SkillMatching
import CommerceAgent.Histories

/-! The human gate: whatever version is offered to a match, a reviewer approved it when its candidate
had passed the gates, with the evidence and the evaluation that this takes. -/
namespace CommerceAgent.Skills

open Histories Tables

variable {δ : Definitions} {reg reg' : Registry} {e : Step} {tenantId : String} {v v' : Version}
  {c c' : Candidate}

/-- The gates that the candidate passed, and its evidence. -/
structure Registry.Gate (reg : Registry) (c : Candidate) : Prop where
  offline : c.offlineGatePass = true
  safety : c.safetyGatePass = true
  counted : 5 ≤ c.sourceCount
  distinct : 5 ≤ (reg.refs c.tenantId c.clusterKey).length

/-- The step approves the version, for the tenant. -/
structure Approves (δ : Definitions) (reg : Registry) (e : Step) (tenantId : String) (v : Version) :
    Prop where
  succeeded : ∃ reg', reg.execute δ e = .ok reg'
  reviewed : ∃ reviewer, reviewer ≠ "" ∧ e.transaction = .approve tenantId v.skillId reviewer ∧
    v.approvedBy = some reviewer
  approvedAt : v.approvedAt = some e.now
  candidate : ∃ c ∈ reg.candidates.rows, c.skillId = v.skillId ∧ c.tenantId = tenantId ∧
    c.status = .pendingReview ∧ reg.Gate c
  evaluation : ∃ evaluation ∈ reg.evaluations, evaluation.skillId = v.skillId ∧
    evaluation.gatePass = true ∧ evaluation.safetyResult = "pass" ∧ evaluation.judgeDisagreementCount = 0

section Evolution

/-- What no transaction changes of a candidate. -/
structure Candidate.Kept (c c' : Candidate) : Prop where
  skillId : c'.skillId = c.skillId
  tenantId : c'.tenantId = c.tenantId
  clusterKey : c'.clusterKey = c.clusterKey
  sourceCount : c'.sourceCount = c.sourceCount
  offline : c'.offlineGatePass = c.offlineGatePass
  safety : c'.safetyGatePass = c.safetyGatePass

theorem Candidate.Kept.refl (c : Candidate) : c.Kept c := ⟨rfl, rfl, rfl, rfl, rfl, rfl⟩

theorem Candidate.Kept.trans {c'' : Candidate} (h : c.Kept c') (h' : c'.Kept c'') : c.Kept c'' :=
  ⟨h'.skillId.trans h.skillId, h'.tenantId.trans h.tenantId, h'.clusterKey.trans h.clusterKey,
    h'.sourceCount.trans h.sourceCount, h'.offline.trans h.offline, h'.safety.trans h.safety⟩

/-- The versions have one approval. -/
structure Version.Signed (v v' : Version) : Prop where
  skillId : v'.skillId = v.skillId
  approvedBy : v'.approvedBy = v.approvedBy
  approvedAt : v'.approvedAt = v.approvedAt

theorem Version.Signed.refl (v : Version) : v.Signed v := ⟨rfl, rfl, rfl⟩

theorem Approves.signed (h : Approves δ reg e tenantId v) (hsigned : v.Signed v') :
    Approves δ reg e tenantId v' where
  succeeded := h.succeeded
  reviewed := by
    rw [hsigned.skillId, hsigned.approvedBy]
    exact h.reviewed
  approvedAt := hsigned.approvedAt.trans h.approvedAt
  candidate := by
    rw [hsigned.skillId]
    exact h.candidate
  evaluation := by
    rw [hsigned.skillId]
    exact h.evaluation

/-- What a transaction leaves of the candidates, and which versions are live after it. -/
structure Evolves (δ : Definitions) (reg : Registry) (e : Step) (reg' : Registry) : Prop where
  known : ∀ c' ∈ reg'.candidates.rows, (∃ c ∈ reg.candidates.rows, c.Kept c') ∨ reg.Gate c'
  kept : ∀ c ∈ reg.candidates.rows, ∃ c' ∈ reg'.candidates.rows, c.Kept c'
  live : ∀ v' ∈ reg'.versions.rows, v'.status.Live →
    (∃ v ∈ reg.versions.rows, v.status.Live ∧ v.Signed v') ∨ ∃ tenantId, Approves δ reg e tenantId v'
  refs : ∀ tenantId clusterKey,
    (reg.refs tenantId clusterKey).length ≤ (reg'.refs tenantId clusterKey).length

theorem refs_of_failureCases (h : reg'.failureCases = reg.failureCases) (tenantId clusterKey : String) :
    (reg.refs tenantId clusterKey).length ≤ (reg'.refs tenantId clusterKey).length := by
  unfold Registry.refs
  rw [h]

theorem Evolves.of_tables (hcandidates : reg'.candidates = reg.candidates)
    (hversions : reg'.versions = reg.versions) (hrefs : ∀ tenantId clusterKey,
      (reg.refs tenantId clusterKey).length ≤ (reg'.refs tenantId clusterKey).length) :
    Evolves δ reg e reg' where
  known c hc := .inl ⟨c, hcandidates ▸ hc, .refl c⟩
  kept c hc := ⟨c, hcandidates ▸ hc, .refl c⟩
  live v hv hlive := .inl ⟨v, hversions ▸ hv, hlive, .refl v⟩
  refs := hrefs

section Update

variable {t t' : Table Candidate CandidateClash} {p : Candidate → Bool} {f : Candidate → Candidate}

/-- An update that keeps the candidates relates the rows before and after it. -/
theorem kept_of_update (h : t.update? p f = some t') (hf : ∀ c : Candidate, c.Kept (f c)) :
    (∀ c' ∈ t'.rows, ∃ c ∈ t.rows, c.Kept c') ∧ ∀ c ∈ t.rows, ∃ c' ∈ t'.rows, c.Kept c' := by
  have hchanged : ∀ c : Candidate, c.Kept (Table.changed p f c) := by
    intro c
    unfold Table.changed
    split
    · exact hf c
    · exact .refl c
  constructor
  · intro c' hc'
    obtain ⟨c, hc, rfl⟩ := (Table.mem_update? h).mp hc'
    exact ⟨c, hc, hchanged c⟩
  · intro c hc
    exact ⟨_, (Table.mem_update? h).mpr ⟨c, hc, rfl⟩, hchanged c⟩

end Update

theorem Evolves.of_change {refusal : String} {p : Candidate → Bool} {f : Candidate → Candidate}
    {q : Version → Bool} {g : Version → Version} (h : reg.change refusal p f q g = .ok reg')
    (hf : ∀ c : Candidate, c.Kept (f c))
    (hg : ∀ v, q v = true → (g v).status.Live →
      v.status.Live ∧ v.Signed (g v) ∨ ∃ tenantId, Approves δ reg e tenantId (g v)) :
    Evolves δ reg e reg' := by
  obtain ⟨_, hcandidates, hversions, _, hfailures⟩ := change_ok h
  obtain ⟨hknown, hkept⟩ := kept_of_update hcandidates hf
  refine ⟨fun c' hc' => .inl (hknown c' hc'), hkept, ?_, refs_of_failureCases hfailures⟩
  intro v' hv' hlive
  obtain ⟨v, hv, rfl⟩ := (Table.mem_update? hversions).mp hv'
  by_cases hq : q v = true
  · rw [Table.changed_pos hq] at hlive ⊢
    rcases hg v hq hlive with ⟨hbefore, hsigned⟩ | happroved
    · exact .inl ⟨v, hv, hbefore, hsigned⟩
    · exact .inr happroved
  · rw [Table.changed_neg hq] at hlive ⊢
    exact .inl ⟨v, hv, hlive, .refl v⟩

/-- A status that is served is kept or given by the approval only. -/
theorem Evolves.of_transition {skillId : Uuid} {expected target : SkillStatus}
    {versionTarget : Option SkillStatus} {now : ℕ}
    (h : reg.transition tenantId skillId expected target versionTarget now = .ok reg')
    (htarget : versionTarget.isSome → expected.Live) : Evolves δ reg e reg' := by
  refine .of_change h (fun c => ⟨rfl, rfl, rfl, rfl, rfl, rfl⟩) ?_
  intro v hq _
  simp only [Bool.and_eq_true, decide_eq_true_eq] at hq
  obtain ⟨hsome, _, hstatus⟩ := hq
  exact .inl ⟨hstatus ▸ htarget hsome, rfl, rfl, rfl⟩

theorem Evolves.of_approve {skillId : Uuid} {reviewer : String}
    (h : reg.approve tenantId skillId reviewer e.now = .ok reg')
    (he : e.transaction = .approve tenantId skillId reviewer)
    (hgates : ∀ c ∈ reg.candidates.rows, reg.Gate c) : Evolves δ reg e reg' := by
  have hexecute : reg.execute δ e = .ok reg' := by
    unfold Registry.execute
    rw [he]
    exact h
  unfold Registry.approve at h
  split at h
  · exact absurd h (by simp)
  rename_i hreviewer
  refine .of_change h (fun c => ⟨rfl, rfl, rfl, rfl, rfl, rfl⟩) ?_
  intro v hq _
  simp only [decide_eq_true_eq] at hq
  obtain ⟨⟨c, hc, hp⟩, _⟩ := change_ok h
  simp only [Registry.approvable, decide_eq_true_eq] at hp
  obtain ⟨htenant, hskill, hpending, _, _, hevaluated⟩ := hp
  obtain ⟨evaluation, hmem, hpassed⟩ := List.any_eq_true.mp hevaluated
  simp only [decide_eq_true_eq] at hpassed
  obtain ⟨hevaluates, hgate, hsafety, hjudge⟩ := hpassed
  apply Or.inr
  refine ⟨tenantId, ⟨reg', hexecute⟩, ⟨reviewer, hreviewer, ?_, rfl⟩, rfl, ?_, ?_⟩
  · rw [he, hq.1]
  · exact ⟨c, hc, hskill.trans hq.1.symm, htenant, hpending, hgates c hc⟩
  · exact ⟨evaluation, hmem, hevaluates.trans (hskill.trans hq.1.symm), hgate, hsafety, hjudge⟩

theorem Evolves.of_expireDue {swept : Option String} {now : ℕ} (h : reg.expireDue swept now = .ok reg') :
    Evolves δ reg e reg' := by
  obtain ⟨candidates, hversions, hreviews, hdeployed, _, hfailures⟩ := expireDue_ok h
  obtain ⟨hknown, hkept⟩ := kept_of_update hreviews fun c => ⟨rfl, rfl, rfl, rfl, rfl, rfl⟩
  obtain ⟨hknown', hkept'⟩ := kept_of_update hdeployed fun c => ⟨rfl, rfl, rfl, rfl, rfl, rfl⟩
  refine ⟨?_, ?_, ?_, refs_of_failureCases hfailures⟩
  · intro c'' hc''
    obtain ⟨c', hc', hsecond⟩ := hknown' c'' hc''
    obtain ⟨c, hc, hfirst⟩ := hknown c' hc'
    exact .inl ⟨c, hc, hfirst.trans hsecond⟩
  · intro c hc
    obtain ⟨c', hc', hfirst⟩ := hkept c hc
    obtain ⟨c'', hc'', hsecond⟩ := hkept' c' hc'
    exact ⟨c'', hc'', hfirst.trans hsecond⟩
  · intro v' hv' hlive
    obtain ⟨v, hv, rfl⟩ := (Table.mem_update? hversions).mp hv'
    by_cases hq : reg.dueVersion swept now v = true
    · rw [Table.changed_pos hq] at hlive
      exact absurd hlive (by simp [Version.expire])
    · rw [Table.changed_neg hq] at hlive ⊢
      exact .inl ⟨v, hv, hlive, .refl v⟩

theorem Evolves.of_create {r : CandidateRequest} {skillId versionId : Uuid} {now later : ℕ}
    (h : reg.createCandidate δ r skillId versionId now later = .ok reg') : Evolves δ reg e reg' := by
  obtain ⟨hcheck, hsources, hcandidates, hversions, _, hfailures⟩ := createCandidate_ok h
  obtain ⟨hsafety, hoffline⟩ := CandidateRequest.check_ok hcheck
  refine ⟨?_, ?_, ?_, refs_of_failureCases hfailures⟩
  · intro c' hc'
    rcases (Table.mem_insert? hcandidates).mp hc' with hc' | rfl
    · exact .inl ⟨c', hc', .refl c'⟩
    · exact .inr ⟨hoffline, hsafety, hsources, hsources⟩
  · intro c hc
    exact ⟨c, (Table.mem_insert? hcandidates).mpr (.inl hc), .refl c⟩
  · intro v' hv' hlive
    rcases (Table.mem_insert? hversions).mp hv' with hv' | rfl
    · exact .inl ⟨v', hv', hlive, .refl v'⟩
    · -- the new version waits for its review
      exact absurd hlive (by simp [CandidateRequest.version])

/-- Every transaction. -/
theorem evolves (h : reg.execute δ e = .ok reg') (hgates : ∀ c ∈ reg.candidates.rows, reg.Gate c) :
    Evolves δ reg e reg' := by
  have hexecute := h
  unfold Registry.execute at hexecute
  cases he : e.transaction with
  | recordFailure failure =>
    rw [he] at hexecute
    obtain rfl := Except.ok.inj hexecute
    have htables : (reg.recordFailure failure).candidates = reg.candidates ∧
        (reg.recordFailure failure).versions = reg.versions := recordFailure_tables failure
    exact .of_tables htables.1 htables.2 (refs_recordFailure failure)
  | createCandidate request skillId versionId later =>
    rw [he] at hexecute
    exact .of_create hexecute
  | submitForReview tenantId skillId =>
    rw [he] at hexecute
    exact .of_transition hexecute (by simp)
  | approve tenantId skillId reviewer =>
    rw [he] at hexecute
    exact .of_approve hexecute he hgates
  | reject tenantId skillId reviewer reason =>
    rw [he] at hexecute
    simp only [Registry.reject] at hexecute
    split at hexecute
    · exact absurd hexecute (by simp)
    · exact .of_change hexecute (fun c => ⟨rfl, rfl, rfl, rfl, rfl, rfl⟩) fun v _ hlive =>
        absurd hlive (by simp)
  | canary tenantId skillId =>
    rw [he] at hexecute
    exact .of_transition hexecute fun _ => .inl rfl
  | rollback tenantId skillId reason =>
    rw [he] at hexecute
    simp only [Registry.rollback] at hexecute
    split at hexecute
    · exact absurd hexecute (by simp)
    · exact .of_change hexecute (fun c => ⟨rfl, rfl, rfl, rfl, rfl, rfl⟩) fun v _ hlive =>
        absurd hlive (by simp)
  | recordEvaluation request evaluationId =>
    rw [he] at hexecute
    obtain ⟨hcandidates, hversions, hfailures⟩ := recordEvaluation_ok hexecute
    exact .of_tables hcandidates hversions (refs_of_failureCases hfailures)
  | expireDue tenantId =>
    rw [he] at hexecute
    exact .of_expireDue hexecute

end Evolution

section History

variable {h : List Step}

abbrev registryAfter (δ : Definitions) (h : List Step) : Registry := run (Registry.after δ) {} h

/-- A step of the history approved the version. -/
def Passed (δ : Definitions) (h : List Step) (tenantId : String) (v : Version) : Prop :=
  ∃ h₁ e h₂, h = h₁ ++ e :: h₂ ∧ Approves δ (registryAfter δ h₁) e tenantId v

theorem Passed.snoc (hpassed : Passed δ h tenantId v) (hsigned : v.Signed v') (e : Step) :
    Passed δ (h ++ [e]) tenantId v' := by
  obtain ⟨h₁, e₁, h₂, rfl, happroves⟩ := hpassed
  exact ⟨h₁, e₁, h₂ ++ [e], by simp, happroves.signed hsigned⟩

theorem Registry.Gate.later (hgate : reg.Gate c) (hkept : c.Kept c')
    (hrefs : ∀ tenantId clusterKey,
      (reg.refs tenantId clusterKey).length ≤ (reg'.refs tenantId clusterKey).length) : reg'.Gate c' where
  offline := hkept.offline.trans hgate.offline
  safety := hkept.safety.trans hgate.safety
  counted := hkept.sourceCount ▸ hgate.counted
  distinct := by
    rw [hkept.tenantId, hkept.clusterKey]
    exact hgate.distinct.trans (hrefs c.tenantId c.clusterKey)

/-- What the history leaves in the two tables. -/
structure Gated (δ : Definitions) (h : List Step) (reg : Registry) : Prop where
  gates : ∀ c ∈ reg.candidates.rows, reg.Gate c
  passed : ∀ v ∈ reg.versions.rows, v.status.Live →
    ∃ c ∈ reg.candidates.rows, c.skillId = v.skillId ∧ Passed δ h c.tenantId v

theorem Gated.step (hgated : Gated δ h (registryAfter δ h)) (e : Step) :
    Gated δ (h ++ [e]) (registryAfter δ (h ++ [e])) := by
  have hafter : registryAfter δ (h ++ [e]) = (registryAfter δ h).after δ e := run_append
  rw [hafter]
  cases hexecute : (registryAfter δ h).execute δ e with
  | error error =>
    rw [after_error hexecute]
    refine ⟨hgated.gates, fun v hv hlive => ?_⟩
    obtain ⟨c, hc, hskill, hpassed⟩ := hgated.passed v hv hlive
    exact ⟨c, hc, hskill, hpassed.snoc (.refl v) e⟩
  | ok reg' =>
    rw [after_ok hexecute]
    have hevolves := evolves hexecute hgated.gates
    constructor
    · intro c' hc'
      rcases hevolves.known c' hc' with ⟨c, hc, hkept⟩ | hgate
      · exact (hgated.gates c hc).later hkept hevolves.refs
      · exact hgate.later (.refl c') hevolves.refs
    · intro v' hv' hlive
      rcases hevolves.live v' hv' hlive with ⟨v, hv, hbefore, hsigned⟩ | ⟨tenantId, happroves⟩
      · obtain ⟨c, hc, hskill, hpassed⟩ := hgated.passed v hv hbefore
        obtain ⟨c', hc', hkept⟩ := hevolves.kept c hc
        refine ⟨c', hc', hkept.skillId.trans (hskill.trans hsigned.skillId.symm), ?_⟩
        rw [hkept.tenantId]
        exact hpassed.snoc hsigned e
      · -- the step itself approved the version
        obtain ⟨c, hc, hskill, htenant, _⟩ := happroves.candidate
        obtain ⟨c', hc', hkept⟩ := hevolves.kept c hc
        refine ⟨c', hc', hkept.skillId.trans hskill, ?_⟩
        rw [hkept.tenantId, htenant]
        exact ⟨h, e, [], rfl, happroves⟩

/-- The induction is on the history, from its end. -/
theorem gated_after (δ : Definitions) (h : List Step) : Gated δ h (registryAfter δ h) := by
  induction h using List.reverseRecOn with
  | nil => exact ⟨fun c hc => absurd hc (by simp), fun v hv => absurd hv (by simp)⟩
  | append_singleton h e ih => exact ih.step e

end History

section Match

/-- What is known of a version that a match is offered. -/
structure HumanGated (δ : Definitions) (h : List Step) (tenantId : String) (now : ℕ)
    (row : Candidate × Version) : Prop where
  tenant : row.1.tenantId = tenantId
  version : row.2.skillId = row.1.skillId
  unexpired : now < row.2.expiresAt
  approvedBy : ∃ reviewer, reviewer ≠ "" ∧ row.2.approvedBy = some reviewer
  passed : Passed δ h tenantId row.2

variable {mode : String} {limit : ℤ} {now later : ℕ} {offers : List (Candidate × Version)} {h : List Step}

/-- A sweep serves no version that was not served before. -/
theorem live_before_sweep {swept : Option String} (hsweep : reg.expireDue swept now = .ok reg')
    (hv : v ∈ reg'.versions.rows) (hlive : v.status.Live) : v ∈ reg.versions.rows := by
  obtain ⟨_, hversions, _⟩ := expireDue_ok hsweep
  obtain ⟨before, hbefore, rfl⟩ := (Table.mem_update? hversions).mp hv
  by_cases hdue : reg.dueVersion swept now before = true
  · rw [Table.changed_pos hdue] at hlive
    exact absurd hlive (by simp [Version.expire])
  · rw [Table.changed_neg hdue]
    exact hbefore

theorem offered_gated
    (hoffers : (registryAfter δ h).candidatesForMatch tenantId mode limit now later = .ok offers) :
    ∀ row ∈ offers, HumanGated δ h tenantId later row := by
  intro row hrow
  obtain ⟨reg', allowed, hsweep, hmode, hrows⟩ := candidatesForMatch_ok hoffers
  obtain ⟨hc, htenant, hallowed, hv, hskill, hstatus, hexpires⟩ := hrows row hrow
  have hlive : row.2.status.Live := hstatus ▸ live_of_mem_statuses hmode hallowed
  have hgated := gated_after δ h
  obtain ⟨c, hcandidate, hsame, hpassed⟩ := hgated.passed row.2 (live_before_sweep hsweep hv hlive) hlive
  -- the candidate of the join is the one that was approved, as the sweep keeps both
  have hevolves : Evolves δ (registryAfter δ h) ⟨.expireDue (some tenantId), now⟩ reg' :=
    .of_expireDue hsweep
  obtain ⟨c', hc', hkept⟩ := hevolves.kept c hcandidate
  have hjoined : c' = row.1 := by
    apply Table.Keyed.eq (fun a b (hid : a.skillId = b.skillId) => .inl hid) reg'.candidates.distinct hc' hc
    exact hkept.skillId.trans (hsame.trans hskill)
  have hpassed : Passed δ h tenantId row.2 := by
    rw [← htenant, ← hjoined, hkept.tenantId]
    exact hpassed
  obtain ⟨_, _, _, _, happroves⟩ := id hpassed
  obtain ⟨reviewer, hreviewer, _, hby⟩ := happroves.reviewed
  exact ⟨htenant, hskill, hexpires, ⟨reviewer, hreviewer, hby⟩, hpassed⟩

/-- Whatever the history and the mode, each version that is offered is of the tenant, has not expired,
and was approved under the gate; so is what `select_skill` takes of them. Without an approval in the
history nothing is offered. -/
theorem matches_human_gated (δ : Definitions) (h : List Step) (tenantId mode : String) (limit : ℤ)
    (now later : ℕ) {offers : List (Candidate × Version)}
    (hoffers : (registryAfter δ h).candidatesForMatch tenantId mode limit now later = .ok offers) :
    (∀ row ∈ offers, HumanGated δ h tenantId later row) ∧
      (∀ casefold textValue route mode' minimumScore now' m,
        selectSkill casefold textValue tenantId route mode' minimumScore now' offers = .ok (some m) →
          ∃ row ∈ offers, m.skillId = row.1.skillId ∧ m.skillVersionId = row.2.skillVersionId ∧
            HumanGated δ h tenantId now' row) ∧
      ((∀ e ∈ h, ∀ tenantId skillId reviewer, e.transaction ≠ .approve tenantId skillId reviewer) →
        offers = []) := by
  have hgated := offered_gated hoffers
  refine ⟨hgated, ?_, ?_⟩
  · intro casefold textValue route mode' minimumScore now' m hselect
    obtain ⟨row, hrow, _, hexpires, hskill, hversion⟩ := selectSkill_mem hselect
    have hoffer := hgated row hrow
    exact ⟨row, hrow, hskill, hversion, hoffer.tenant, hoffer.version, hexpires, hoffer.approvedBy,
      hoffer.passed⟩
  · intro hautomated
    apply List.eq_nil_iff_forall_not_mem.mpr
    intro row hrow
    obtain ⟨h₁, e, h₂, rfl, happroves⟩ := (hgated row hrow).passed
    obtain ⟨reviewer, _, happrove, _⟩ := happroves.reviewed
    exact hautomated e (by simp) _ _ _ happrove

section Demo

def demoDefinitions : Definitions where
  errors _ := []
  hash _ := "sha256:1"

def demoFailure (failureId : String) : Step where
  transaction := .recordFailure { tenantId := "acme", clusterKey := "late-delivery", failureId }
  now := 0

def demoRequest : CandidateRequest where
  tenantId := "acme"
  scopeType := "tenant"
  scopeValue := "acme"
  trigger := [("keywords", .arr [.str "late"])]
  strategy := [("response_policy", .str "conversational_response")]
  provenance := []
  clusterKey := "late-delivery"
  sourceCount := 5
  offlineGatePass := true
  safetyGatePass := true
  definition := [("trigger", .null), ("response_policy", .null), ("scope", .null), ("positive_examples", .null),
    ("negative_examples", .null), ("forbidden_tools", .null), ("ttl_seconds", .null)]
  ttlDays := 1

def demoEvaluation : EvaluationRequest where
  tenantId := "acme"
  skillId := "skill"
  datasetHash := "sha256:2"
  before := []
  after := []
  safetyResult := "pass"
  gatePass := true
  judgeDisagreementCount := 0

/-- The Skill that waits for its review. -/
def demoWaiting : List Step :=
  ["1", "2", "3", "4", "5"].map demoFailure ++
    [⟨.createCandidate demoRequest "skill" "version" 2, 1⟩, ⟨.recordEvaluation demoEvaluation "evaluation", 3⟩,
      ⟨.submitForReview "acme" "skill", 4⟩, ⟨.expireDue (some "acme"), 5⟩]

def demoServed : List Step :=
  demoWaiting ++ [⟨.approve "acme" "skill" "alice", 6⟩, ⟨.expireDue (some "acme"), 7⟩,
    ⟨.canary "acme" "skill", 8⟩, ⟨.expireDue (some "acme"), 9⟩]

theorem matches_human_gated_demo : ∃ offers,
    (registryAfter demoDefinitions demoServed).candidatesForMatch "acme" "active" 100 10 11 = .ok offers ∧
      offers.length = 1 ∧ ∀ row ∈ offers, HumanGated demoDefinitions demoServed "acme" 11 row := by
  have hlength : ((registryAfter demoDefinitions demoServed).candidatesForMatch "acme" "active" 100
      10 11).toOption.map List.length = some 1 := by decide +kernel
  cases hoffers : (registryAfter demoDefinitions demoServed).candidatesForMatch "acme" "active" 100 10 11 with
  | error error =>
    rw [hoffers] at hlength
    exact absurd hlength (by simp [Except.toOption])
  | ok offers =>
    rw [hoffers] at hlength
    have hone : offers.length = 1 := Option.some.inj hlength
    exact ⟨offers, rfl, hone, (matches_human_gated _ _ _ _ _ _ _ hoffers).1⟩

end Demo

end Match

end CommerceAgent.Skills
