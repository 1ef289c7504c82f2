import CommerceAgent.Admission
import CommerceAgent.RunConstraints
import CommerceAgent.RunMoves

/-! What a request or a worker knows of the route that its run is pinned to. -/
namespace CommerceAgent

open Json Tables Programs

section Learning

/-- What a call tells about the modes that runs are pinned to. -/
def Event.teaches : Event → List (Uuid × ExecutionMode)
  | ⟨.runs (.selectRoute runId _ decision), .ok n⟩ =>
    if n = 1 ∧ decision.outcome = .execute then decision.executionMode.toList.map fun m => (runId, m)
    else []
  | ⟨.runs (.loadLatestCheckpoint runId _), .ok (some context)⟩ =>
    context.executionMode.toList.map fun m => (runId, m)
  | ⟨.runs (.loadRun runId _ _), .ok (some run)⟩ => run.executionMode.toList.map fun m => (runId, m)
  | _ => []

/-- What a process has been told. -/
def learn (known : List (Uuid × ExecutionMode)) (e : Event) : List (Uuid × ExecutionMode) :=
  e.teaches ++ known

/-- What a process may rely on: a checkpoint is of its run, and a row keeps its constraints. -/
def Event.Trusted : Event → Prop
  | ⟨.runs (.loadLatestCheckpoint runId _), .ok (some context)⟩ => context.runId = runId
  | ⟨.runs (.loadRun _ _ _), .ok (some run)⟩ => run.Checked
  | _ => True

/-- The promise about a call: a checkpoint is of its run and of a mode that the process knows the run
to be pinned to, its status fits such a mode unless it needs none, and a selected decision is
complete. Only a resolution completes a run that it knows nothing of. -/
def Op.Informed (resolving : Bool) (known : List (Uuid × ExecutionMode)) : {α : Type} → Op α → Prop
  | _, .runs (.commitStep p) => p.checkpoint.runId = p.runId ∧
      (∀ m ∈ p.checkpoint.executionMode, (p.runId, m) ∈ known) ∧
      (p.nextStatus ∈ UNPINNED ∨ (∃ m, (p.runId, m) ∈ known ∧ p.nextStatus.Fits m) ∨
        (resolving = true ∧ p.nextStatus = .completed))
  | _, .runs t => t.Complete
  | _, _ => True

/-- The calls of a process, under answers that it may rely on. -/
abbrev trusting : Machine Op Exc (List (Uuid × ExecutionMode)) :=
  (Machine.ghost learn).restrict Event.Trusted

variable {α β : Type} {resolving : Bool} {known base : List (Uuid × ExecutionMode)} {runId : Uuid}
  {mode : Option ExecutionMode} {allowed : List RunStatus}

theorem learn_subset (h : base ⊆ known) (e : Event) : base ⊆ learn known e :=
  fun _ hk => List.mem_append_right _ (h hk)

/-- The statuses that a process may write to a run, for what it knows. -/
def Suits (resolving : Bool) (base : List (Uuid × ExecutionMode)) (runId : Uuid)
    (allowed : List RunStatus) : Prop :=
  ∀ status ∈ allowed, status ∈ UNPINNED ∨ (∃ m, (runId, m) ∈ base ∧ status.Fits m) ∨
    (resolving = true ∧ status = .completed)

theorem Op.Moves.informed {o : Op α} (ho : o.Moves runId mode allowed) (hknown : base ⊆ known)
    (hmode : ∀ m ∈ mode, (runId, m) ∈ base) (hsuits : Suits resolving base runId allowed) :
    o.Informed resolving known := by
  cases o with
  | runs t =>
    cases t with
    | commitStep p =>
      obtain ⟨rfl, hcheckpoint, rfl, _, hallowed⟩ := ho
      refine ⟨hcheckpoint, fun m hm => hknown (hmode m hm), ?_⟩
      rcases hsuits _ hallowed with hstatus | ⟨m, hm, hfits⟩ | hresolving
      · exact .inl hstatus
      · exact .inr (.inl ⟨m, hknown hm, hfits⟩)
      · exact .inr (.inr hresolving)
    | selectRoute => exact absurd ho id
    | _ => trivial
  | _ => trivial

/-- A program with checkpoints of one run, whose mode is known. -/
theorem safe_moves {p : Act α} (hp : Uses (Op.Moves runId mode allowed) p) (hknown : base ⊆ known)
    (hmode : ∀ m ∈ mode, (runId, m) ∈ base) (hsuits : Suits resolving base runId allowed) :
    Safe trusting (fun known {_} o => o.Informed resolving known) (fun _ known => base ⊆ known) p
      known := by
  refine (Yields.keeps (J := fun known => base ⊆ known) hp ?_ hknown).mono ?_ fun _ _ h => h.1
  · rintro known β o r known' hbase _ ⟨rfl, _⟩
    exact learn_subset hbase _
  · intro known β o ⟨hbase, ho⟩
    exact ho.informed hbase hmode hsuits

/-- The programs without a checkpoint and a selection. -/
abbrev Quiet (p : Act α) : Prop := Uses (Op.Moves "" none []) p

theorem Quiet.seq {p : Act α} {f : α → Act β} {Q : Except Exc β → List (Uuid × ExecutionMode) → Prop}
    (hp : Quiet p) (hknown : base ⊆ known)
    (hf : ∀ a known', base ⊆ known' →
      Safe trusting (fun known {_} o => o.Informed resolving known) Q (f a) known')
    (herror : ∀ e known', base ⊆ known' → Q (.error e) known') :
    Safe trusting (fun known {_} o => o.Informed resolving known) Q (p >>= f) known := by
  rw [safe_bind]
  refine (safe_moves hp hknown (by simp) (by simp [Suits])).post ?_
  intro r known' hbase
  cases r with
  | ok a => exact hf a known' hbase
  | error e => exact herror e known' hbase

end Learning

section Worker

variable {α : Type} {resolving : Bool} {known base : List (Uuid × ExecutionMode)} {runId : Uuid}
  {π : Platform} {settings : Settings} {job : Dispatch} {context : RunContext} {routed : RouteDecision}

theorem conversationalRefusal_outcome {rule : IntentRouteRule} {candidate : IntentClassification}
    {decision : RouteDecision} (h : conversationalRefusal rule candidate = some decision) :
    decision.outcome ≠ .execute := by
  unfold conversationalRefusal at h
  split at h
  · exact absurd h (by simp)
  · dsimp only at h
    split_ifs at h
    · obtain rfl := Option.some.inj h
      simp [askUserDecision]
    · obtain rfl := Option.some.inj h
      simp [handoffDecision]
    · obtain rfl := Option.some.inj h
      simp [handoffDecision]
    · obtain rfl := Option.some.inj h
      simp [handoffDecision]

theorem handoffDecision_complete (reasonCode : String) : (handoffDecision reasonCode).Complete :=
  fun h => absurd h (by simp [handoffDecision])

theorem decide_complete (rules : List IntentRouteRule) (candidate : IntentClassification) :
    (IntentRouter.decide rules candidate).Complete := by
  unfold IntentRouter.decide
  split
  · exact handoffDecision_complete _
  · split
    · exact handoffDecision_complete _
    split
    · exact fun h => absurd h (by simp [askUserDecision])
    split
    · rename_i hrefusal
      exact fun h => absurd h (conversationalRefusal_outcome hrefusal)
    · split
      · exact handoffDecision_complete _
      · exact fun _ => ⟨rfl, rfl, rfl⟩

theorem complete_decideRoute {candidate : IntentClassification} :
    Yields (Op.Moves "" none []) RouteDecision.Complete (decideRoute settings job candidate) := by
  unfold decideRoute
  refine Yields.bind (moves_observe _ _ _) fun _ _ => ?_
  refine Yields.bind (uses_recordRelease_of job trivial) fun canary _ => ?_
  apply Yields.pure
  split
  · exact decide_complete _ _
  · exact decide_complete _ _

/-- After a selection that succeeded, the process knows what the run is pinned to. -/
theorem select_seq {f : Unit → Act α} {Q : Except Exc α → List (Uuid × ExecutionMode) → Prop}
    (hcomplete : routed.Complete)
    (hf : ∀ known', known ⊆ known' →
      (routed.outcome = .execute → ∀ m ∈ routed.executionMode, (context.runId, m) ∈ known') →
      Safe trusting (fun known {_} o => o.Informed resolving known) Q (f ()) known')
    (herror : ∀ e known', known ⊆ known' → Q (.error e) known') :
    Safe trusting (fun known {_} o => o.Informed resolving known) Q
      (selectRoute context routed >>= f) known := by
  unfold selectRoute
  rw [safe_bind]
  refine (safe_ite _ _ _ _).mpr ⟨fun _ => herror _ _ (List.Subset.refl _), fun _ => ?_⟩
  rw [safe_bind, safe_perform]
  refine ⟨hcomplete, ?_⟩
  rintro r known' ⟨rfl, _⟩
  have hkept := learn_subset (List.Subset.refl known)
    ⟨.runs (.selectRoute context.runId context.tenantId routed), r⟩
  cases r with
  | error e => exact herror _ _ hkept
  | ok n =>
    refine (safe_ite _ _ _ _).mpr ⟨fun hone => ?_, fun _ => herror _ _ hkept⟩
    refine hf _ hkept fun houtcome m hm => ?_
    have htold : (context.runId, m) ∈ Event.teaches
        ⟨.runs (.selectRoute context.runId context.tenantId routed), .ok n⟩ := by
      simp only [Event.teaches, hone, houtcome, true_and, if_true]
      exact List.mem_map_of_mem (Option.mem_toList.mpr hm)
    exact List.mem_append_left _ htold

theorem suits_worked {m : ExecutionMode} (hm : (runId, m) ∈ base) :
    Suits resolving base runId (worked m) := by
  intro status hstatus
  have hfits : ∀ m ∈ [ExecutionMode.readonlyLoop, .workflow], ∀ status ∈ worked m, status.Fits m := by
    decide
  refine .inr (.inl ⟨m, hm, hfits m ?_ status hstatus⟩)
  cases m <;> decide

theorem suits_unpinned {allowed : List RunStatus} (h : allowed ⊆ UNPINNED) :
    Suits resolving base runId allowed := fun _ hstatus => .inl (h hstatus)

theorem safe_runRoute (hrun : context.runId = runId)
    (hmode : ∀ m ∈ context.executionMode, (runId, m) ∈ base) (hbase : base ⊆ known)
    (hrouted : routed.outcome = .execute → ∀ m ∈ routed.executionMode, (runId, m) ∈ known)
    {risk : RiskAssessment} :
    Safe trusting (fun known {_} o => o.Informed resolving known) (fun _ known => base ⊆ known)
      (runRoute π settings job context risk routed) known := by
  unfold runRoute
  cases houtcome : routed.outcome with
  | handoff =>
    exact safe_moves (moves_handoffRun ⟨hrun, rfl⟩) hbase hmode (suits_unpinned (by decide))
  | askUser =>
    exact safe_moves (moves_clarifyRun ⟨hrun, rfl⟩) hbase hmode (suits_unpinned (by decide))
  | execute =>
    cases hm : routed.executionMode with
    | none =>
      have hraise : executeRoute π settings job context routed = .raise .assertion := by
        unfold executeRoute
        rw [hm]
      change Safe _ _ _ (executeRoute π settings job context routed) _
      rw [hraise]
      exact hbase
    | some m =>
      have hknown : (runId, m) ∈ known := hrouted houtcome m hm
      have hmoves : Uses (Op.Moves runId (some m) (worked m))
        (executeRoute π settings job context routed) := moves_executeRoute hrun hm
      have hexecute := safe_moves hmoves (List.Subset.refl known) (by simpa using hknown)
        (@suits_worked resolving known runId m hknown)
      exact hexecute.post fun _ _ hkept => List.Subset.trans hbase hkept

theorem safe_routeRequest (hrun : context.runId = runId)
    (hmode : ∀ m ∈ context.executionMode, (runId, m) ∈ known) {safety : SafetyRoute}
    {risk : RiskAssessment} :
    Safe trusting (fun known {_} o => o.Informed resolving known)
      (fun r known' => known ⊆ known' ∧ ∀ routed, r = .ok routed → routed.outcome = .execute →
        ∀ m ∈ routed.executionMode, (runId, m) ∈ known')
      (routeRequest π settings job context safety risk) known := by
  have hrelease : ∀ route, Quiet (job.recordRelease route) := fun _ => uses_recordRelease_of job trivial
  have herror : ∀ (e : Exc) (known' : List (Uuid × ExecutionMode)), known ⊆ known' → known ⊆ known' ∧
      ∀ routed, (.error e : Except Exc RouteDecision) = .ok routed → routed.outcome = .execute →
        ∀ m ∈ routed.executionMode, (runId, m) ∈ known' :=
    fun _ _ h => ⟨h, fun _ h => absurd h (by simp)⟩
  unfold routeRequest
  refine (safe_ite _ _ _ _).mpr ⟨fun _ => ?_, fun _ => (safe_ite _ _ _ _).mpr ⟨fun _ => ?_, fun _ => ?_⟩⟩
  · refine Quiet.seq (hrelease _) (List.Subset.refl known) (fun _ known' hkept => ⟨hkept, ?_⟩) herror
    intro routed hr houtcome
    obtain rfl := Except.ok.inj hr
    exact absurd houtcome (by simp [safetyDecision])
  · rw [safe_bind, safe_ofExcept]
    cases hcontinued : context.continuation π with
    | error e => exact herror _ _ (List.Subset.refl known)
    | ok routed =>
      -- A continuation is routed as the checkpoint says, whose mode is known.
      have hpinned : routed.executionMode = context.executionMode := by
        unfold RunContext.continuation RouteDecision.validate at hcontinued
        dsimp only at hcontinued
        split at hcontinued
        · exact congrArg RouteDecision.executionMode (Except.ok.inj hcontinued).symm
        · exact absurd hcontinued (by simp)
      refine Quiet.seq (hrelease _) (List.Subset.refl known) (fun _ known' hkept => ⟨hkept, ?_⟩) herror
      intro routed' hr _ m hm
      obtain rfl := Except.ok.inj hr
      exact hkept (hmode m (hpinned ▸ hm))
  · unfold classifyRequest
    refine Quiet.seq (moves_observe _ _ _) (List.Subset.refl known) (fun _ known₁ h₁ => ?_) herror
    refine (safe_ite _ _ _ _).mpr ⟨fun _ => herror _ _ h₁, fun _ => ?_⟩
    have hclassify : Quiet (Prog.perform (.world (.classify job.content
        ((intentRouteRules settings.enableRoutingV2 settings.enableConversationalFallback).map
          IntentRouteRule.intent))) : Act IntentClassification) := .perform trivial
    refine Quiet.seq hclassify h₁ (fun classified known₂ h₂ => ?_) herror
    refine Quiet.seq (moves_observe _ _ _) h₂ (fun _ known₃ h₃ => ?_) herror
    have hdecided : Safe trusting (fun known {_} o => o.Informed resolving known)
        (fun r known' => known ⊆ known' ∧ Returns (fun routed _ => routed.Complete) r known')
        (decideRoute settings job (classified.withHints risk)) known₃ := by
      refine (Yields.keeps (J := fun known' => known ⊆ known') complete_decideRoute ?_ h₃).mono ?_
        fun _ _ h => h
      · rintro known' β o r _ hkept _ ⟨rfl, _⟩
        exact learn_subset hkept _
      · intro known' β o ⟨hkept, ho⟩
        exact ho.informed hkept (by simp) (by simp [Suits])
    rw [safe_bind]
    refine hdecided.post ?_
    rintro (e | routed) known₄ ⟨h₄, hcomplete⟩
    · exact herror e _ h₄
    refine select_seq hcomplete (fun known₅ h₅ hknown => ?_)
      (fun e known₅ h₅ => herror e _ (List.Subset.trans h₄ h₅))
    refine ⟨List.Subset.trans h₄ h₅, fun routed' hr houtcome m hm => ?_⟩
    obtain rfl := Except.ok.inj hr
    exact hrun ▸ hknown houtcome m hm

theorem safe_runMessage (hrun : context.runId = runId)
    (hmode : ∀ m ∈ context.executionMode, (runId, m) ∈ base) (hbase : base ⊆ known) :
    Safe trusting (fun known {_} o => o.Informed resolving known) (fun _ known => base ⊆ known)
      (runMessage π settings job context) known := by
  unfold runMessage
  refine Quiet.seq moves_safetyBoundary hbase (fun outcome known₁ h₁ => ?_) fun _ _ h => h
  obtain ⟨safety, risk⟩ := outcome
  rw [safe_bind]
  refine (safe_routeRequest hrun fun m hm => h₁ (hmode m hm)).post ?_
  rintro (e | routed) known₂ ⟨h₂, hrouted⟩
  · exact List.Subset.trans h₁ h₂
  · exact safe_runRoute hrun hmode (List.Subset.trans h₁ h₂) fun houtcome m hm =>
      hrouted routed rfl houtcome m hm

attribute [local irreducible] pauseForHuman runMessage markFailed

theorem safe_classifierUnavailable (hrun : context.runId = runId)
    (hmode : ∀ m ∈ context.executionMode, (runId, m) ∈ base) (hbase : base ⊆ known) :
    Safe trusting (fun known {_} o => o.Informed resolving known) (fun _ known => base ⊆ known)
      (classifierUnavailable π job context) known := by
  unfold classifierUnavailable
  refine select_seq (handoffDecision_complete _) (fun known₁ h₁ _ => ?_)
    fun _ _ h₁ => List.Subset.trans hbase h₁
  have hrest : Uses (Op.Moves runId context.executionMode [.waitingHuman]) (do
      let ticketId ← Prog.perform (.tickets (.create (job.ticket "CLASSIFIER_UNAVAILABLE" none
        [("message", .str "请求需要人工处理"), ("route_reason", .str "CLASSIFIER_UNAVAILABLE")])))
      pauseForHuman π context (context.state.set "handoff_ticket_id" (.str ticketId)) ticketId
        "CLASSIFIER_UNAVAILABLE" "当前请求需要人工审核，请查看右侧的人工处理窗口并选择审核结果。"
      job.observe .modelRequestFailed "route_intent_risk"
        [("error_code", .str "CLASSIFIER_UNAVAILABLE")] : Act Unit) :=
    .bind (.perform trivial) fun _ => .bind (moves_pauseForHuman ⟨hrun, rfl⟩) fun _ => moves_observe _ _ _
  exact safe_moves hrest (List.Subset.trans hbase h₁) hmode (suits_unpinned (by decide))

/-- A loaded checkpoint tells what its run is pinned to. -/
theorem load_seq {tenantId : String} {f : Option RunContext → Act α}
    {Q : Except Exc α → List (Uuid × ExecutionMode) → Prop}
    (hf : ∀ found known', known ⊆ known' → (∀ context, found = some context → context.runId = runId ∧
        ∀ m ∈ context.executionMode, (runId, m) ∈ known') →
      Safe trusting (fun known {_} o => o.Informed resolving known) Q (f found) known')
    (herror : ∀ e known', Q (.error e) known') :
    Safe trusting (fun known {_} o => o.Informed resolving known) Q
      (Prog.perform (.runs (.loadLatestCheckpoint runId tenantId)) >>= f) known := by
  rw [safe_bind, safe_perform]
  refine ⟨trivial, ?_⟩
  rintro r known' ⟨rfl, htrusted⟩
  cases r with
  | error e => exact herror _ _
  | ok found =>
    refine hf found _ (learn_subset (List.Subset.refl known) _) fun context hfound => ?_
    subst hfound
    exact ⟨htrusted, fun m hm => List.mem_append_left _ (List.mem_map_of_mem (Option.mem_toList.mpr hm))⟩

theorem safe_markFailed {observe : EventType → String → Dict → Act Unit} {context : RunContext}
    {reason : String} (hobserve : ∀ eventType step payload, Quiet (observe eventType step payload)) :
    Safe trusting (fun known {_} o => o.Informed resolving known) (fun _ _ => True)
      (markFailed π observe context reason) known := by
  have hquiet : Quiet (markFailed π observe context reason) :=
    uses_markFailed_of trivial (fun _ ho => ho.moves) hobserve
  exact (safe_moves hquiet (List.Subset.refl known) (by simp) (by simp [Suits])).post
    fun _ _ _ => trivial

/-- The last resort of a dispatch: the run is loaded again and marked, and a failure of that is swallowed. -/
theorem safe_recovery (job : Dispatch) (known : List (Uuid × ExecutionMode)) :
    Safe trusting (fun known {_} o => o.Informed resolving known) (fun _ _ => True)
      (do
        let persisted ← Prog.perform (.runs (.loadLatestCheckpoint job.runId job.tenantId))
        (markFailed π (fun _ _ _ => pure ()) (job.recovery persisted)
          "UNEXPECTED_EXECUTION_ERROR").handle fun _ => pure () : Act Unit) known := by
  refine load_seq (fun found known' _ _ => ?_) fun _ _ => trivial
  rw [safe_handle]
  refine (safe_markFailed fun _ _ _ => .pure _).post ?_
  rintro (e | u) _ _ <;> trivial

/-- The context of a dispatch has no mode but one that its row is known to have. -/
theorem context_grounded {found : Option RunContext} {context : RunContext}
    (hcontext : job.context found = .ok context)
    (hfound : ∀ c, found = some c → c.runId = job.runId ∧ ∀ m ∈ c.executionMode, (job.runId, m) ∈ known) :
    context.runId = job.runId ∧ ∀ m ∈ context.executionMode, (job.runId, m) ∈ known := by
  cases found with
  | none =>
    obtain rfl := Except.ok.inj hcontext
    exact ⟨rfl, fun m hm => absurd hm (by simp [Dispatch.entering])⟩
  | some persisted =>
    obtain ⟨c, hc, hresumed⟩ := Except.bind_eq_ok.mp hcontext
    obtain ⟨rfl, _⟩ := RunContext.modelValidate_eq_ok.mp hc
    obtain ⟨hrun, hmode⟩ := hfound c rfl
    obtain rfl := Except.ok.inj hresumed
    split
    · exact ⟨hrun, hmode⟩
    · exact ⟨hrun, hmode⟩

theorem safe_executeMessageRun :
    Safe trusting (fun known {_} o => o.Informed resolving known) (fun _ _ => True)
      (executeMessageRun π settings job) known := by
  have hstarted : Quiet ((Prog.perform (.runs (.markDispatchStarted job.runId job.tenantId)) :
      Act Unit).handle fun _ => pure ()) := .handle (.perform trivial) fun _ => .pure _
  have hrecover := @safe_recovery resolving π job
  unfold executeMessageRun executeMessage
  rw [safe_handle]
  refine Quiet.seq hstarted (List.Subset.refl known) (fun _ known₁ _ => ?_) fun _ known' _ => hrecover known'
  refine load_seq (fun found known₂ _ hfound => ?_) fun _ known' => hrecover known'
  rw [safe_bind, safe_ofExcept]
  cases hcontext : job.context found with
  | error e => exact hrecover known₂
  | ok context =>
    have hgrounded := context_grounded hcontext hfound
    rw [thenSafe_ok, safe_handle]
    refine (safe_runMessage hgrounded.1 hgrounded.2 (List.Subset.refl known₂)).post ?_
    rintro (e | u) known₃ h₃
    · have hfailed : Safe trusting (fun known {_} o => o.Informed resolving known)
          (exceptSafe trusting (fun known {_} o => o.Informed resolving known) (fun _ _ => True) fun _ => do
            let persisted ← Prog.perform (.runs (.loadLatestCheckpoint job.runId job.tenantId))
            (markFailed π (fun _ _ _ => pure ()) (job.recovery persisted)
              "UNEXPECTED_EXECUTION_ERROR").handle fun _ => pure ())
          (markFailed π job.observe context "UNEXPECTED_EXECUTION_ERROR") known₃ := by
        refine (safe_markFailed moves_observe).post ?_
        rintro (e | u) known' _
        · exact hrecover known'
        · trivial
      -- A classifier that is down asks for a human; every other error fails the run.
      cases e with
      | modelGateway =>
        refine (safe_classifierUnavailable hgrounded.1 hgrounded.2 h₃).post ?_
        rintro (e | u) known' _
        · exact hrecover known'
        · trivial
      | _ => exact hfailed
    · trivial

end Worker

/-- What acts on runs: the requests of the API, the workers and the sweep at startup. -/
inductive RunRequest where
  | send (conversationId : Uuid) (actorId : String) (payload : MessageCreateRequest)
  | work (settings : Settings) (job : Dispatch)
  | confirm (runId : Uuid) (actorId : String) (payload : ConfirmationRequest)
  | refresh (runId : Uuid) (actorId : String)
  | cancel (runId : Uuid) (actorId : String)
  | resolve (ticketId : Uuid) (actorId : String) (payload : HandoffResolveRequest)
  | expire

def RunRequest.program (π : Platform) : RunRequest → Act Unit
  | .send conversationId actorId payload => do
    let _ ← sendMessage π conversationId actorId payload
    pure ()
  | .work settings job => executeMessageRun π settings job
  | .confirm runId actorId payload => do
    let _ ← confirmRun π runId actorId payload
    pure ()
  | .refresh runId actorId => do
    let _ ← refreshConfirmation π runId actorId
    pure ()
  | .cancel runId actorId => cancelRun π runId actorId
  | .resolve ticketId actorId payload => do
    let _ ← resolveHandoff π ticketId actorId payload
    pure ()
  | .expire => do
    let _ ← Prog.perform (.runs (.expireOverdueRuns DEMO_TENANT_ID))
    pure ()

/-- A resolution that completes its run. -/
def RunRequest.completes : RunRequest → Bool
  | .resolve _ _ payload => payload.outcome = .verifiedSuccess
  | _ => false

section Requests

variable {α : Type} {resolving : Bool} {known base : List (Uuid × ExecutionMode)} {runId : Uuid}
  {π : Platform} {actorId : String}

section Send

variable {conversationId : Uuid} {payload : MessageCreateRequest}

theorem quiet_appendUser {content clientMessageId : String} :
    Quiet (appendUser π conversationId actorId content clientMessageId runId) := by
  unfold appendUser
  exact .ite (.raise _) (.ite (.raise _) (.perform trivial))

theorem quiet_repeatedResponse {message : MessageRecord} : Quiet (repeatedResponse actorId message) := by
  unfold repeatedResponse
  split
  · exact .raise _
  · exact .bind (.perform trivial) fun _ => .pure _

theorem quiet_createRunOrConflict {context : RunContext} {currentStep : String} {deadlineAt : ℕ}
    {parentRunId : Option Uuid} :
    Quiet (createRunOrConflict context currentStep deadlineAt parentRunId) := by
  unfold createRunOrConflict
  refine .ite (.raise _) (.ite (.raise _) (.bind (.perform trivial) fun now => .ite (.raise _) ?_))
  refine .bind (.handle (.perform trivial) fun e => ?_) fun created => .ite (.raise _) (.pure _)
  cases e with
  | integrity =>
    refine .bind (.perform trivial) fun snapshot => ?_
    cases snapshot <;> exact .raise _
  | _ => exact .raise _

attribute [local irreducible] appendUser repeatedResponse createRunOrConflict

theorem quiet_continueRun {active : AgentRun} :
    Quiet (continueRun π conversationId actorId payload active) := by
  unfold continueRun
  refine .bind (.handle quiet_appendUser fun e => ?_) fun appended => ?_
  · cases e <;> exact .raise _
  · exact .bind (.perform trivial) fun _ => .pure _

theorem quiet_startRun : Quiet (startRun π conversationId actorId payload runId) := by
  have hattach : Quiet (attachMessage π conversationId actorId payload runId) := by
    unfold attachMessage
    refine .handle quiet_appendUser fun e => ?_
    cases e with
    | messageConflict => exact .bind (.perform trivial) fun _ => .raise _
    | _ => exact .raise _
  unfold startRun
  refine .bind (.perform trivial) fun now => ?_
  refine .bind (.handle quiet_createRunOrConflict fun _ => .raise _) fun _ => ?_
  refine .bind hattach fun attached => .ite ?_ quiet_repeatedResponse
  exact .bind (.perform trivial) fun _ => .pure _

attribute [local irreducible] continueRun startRun

theorem quiet_sendMessage : Quiet (sendMessage π conversationId actorId payload) := by
  unfold sendMessage
  refine .bind (.perform trivial) fun runId => .bind (.perform trivial) fun found => ?_
  cases found with
  | some message => exact quiet_repeatedResponse
  | none =>
    refine .bind (.perform trivial) fun owned => .ite (.raise _) (.bind (.perform trivial) fun active => ?_)
    cases active.filter fun run => run.status = .waitingUser with
    | some run => exact quiet_continueRun
    | none => exact quiet_startRun

end Send

theorem checkpointContext_seq {f : RunContext → Act α}
    (hf : ∀ context known', known ⊆ known' → context.runId = runId →
      (∀ m ∈ context.executionMode, (runId, m) ∈ known') →
      Safe trusting (fun known {_} o => o.Informed resolving known) (fun _ _ => True) (f context) known') :
    Safe trusting (fun known {_} o => o.Informed resolving known) (fun _ _ => True)
      (checkpointContext runId actorId >>= f) known := by
  unfold checkpointContext
  rw [Prog.bind_assoc]
  refine load_seq (fun found known' hkept hfound => ?_) fun _ _ => trivial
  cases found with
  | none => trivial
  | some state =>
    cases hvalid : state.modelValidate with
    | error e =>
      simp only [hvalid]
      trivial
    | ok context =>
      obtain ⟨rfl, _⟩ := RunContext.modelValidate_eq_ok.mp hvalid
      obtain ⟨hrun, hmode⟩ := hfound context rfl
      simp only [hvalid]
      rw [safe_bind]
      exact (safe_ite _ _ _ _).mpr ⟨fun _ => trivial, fun _ => hf context known' hkept hrun hmode⟩

/-- A row that waits for a confirmation is pinned to a workflow. -/
theorem waitingContext_seq {f : RunContext → Act α}
    (hf : ∀ context known', context.runId = runId → (runId, .workflow) ∈ known' →
      (∀ m ∈ context.executionMode, (runId, m) ∈ known') →
      Safe trusting (fun known {_} o => o.Informed resolving known) (fun _ _ => True) (f context) known') :
    Safe trusting (fun known {_} o => o.Informed resolving known) (fun _ _ => True)
      (waitingContext runId actorId >>= f) known := by
  unfold waitingContext requireRun
  rw [Prog.bind_assoc, Prog.bind_assoc, safe_bind, safe_perform]
  refine ⟨trivial, ?_⟩
  rintro r known' ⟨rfl, htrusted⟩
  rcases r with e | _ | run
  · trivial
  · trivial
  · have hchecked : run.Checked := htrusted
    by_cases hwaiting : run.status = .waitingConfirmation
    · have hmode : run.executionMode = some .workflow := hchecked.workflowStates (by simp [hwaiting])
      have htold : (runId, ExecutionMode.workflow) ∈ learn known
          ⟨.runs (.loadRun runId DEMO_TENANT_ID (some actorId)), .ok (some run)⟩ := by
        refine List.mem_append_left _ ?_
        simp [Event.teaches, hmode]
      change Safe _ _ _ ((if run.status ≠ .waitingConfirmation then _ else _) >>= f) _
      rw [if_neg (not_not.mpr hwaiting)]
      exact checkpointContext_seq fun context known' hkept hrun hm => hf context known' hrun (hkept htold) hm
    · change Safe _ _ _ ((if run.status ≠ .waitingConfirmation then _ else _) >>= f) _
      rw [if_pos hwaiting]
      trivial

theorem suits_workflow {allowed : List RunStatus} (hm : (runId, ExecutionMode.workflow) ∈ base)
    (hfits : ∀ status ∈ allowed, status.Fits .workflow) : Suits resolving base runId allowed :=
  fun status hstatus => .inr (.inl ⟨_, hm, hfits status hstatus⟩)

/-- The rest of a request, once its context is known. -/
theorem safe_writes {mode : Option ExecutionMode} {p : Act α} (allowed : List RunStatus)
    (hmode : ∀ m ∈ mode, (runId, m) ∈ known) (hsuits : Suits resolving known runId allowed)
    (hp : Uses (Op.Moves runId mode allowed) p) :
    Safe trusting (fun known {_} o => o.Informed resolving known) (fun _ _ => True) p known :=
  (safe_moves hp (List.Subset.refl known) hmode hsuits).post fun _ _ _ => trivial

theorem quiet_requireRun : Quiet (requireRun runId actorId) := by
  unfold requireRun
  refine .bind (.perform trivial) fun snapshot => ?_
  cases snapshot with
  | none => exact .raise _
  | some run => exact .pure _

attribute [local irreducible] confirmMutation rejectMutation refreshMutationToken executeMessageRun
  sendMessage publishTerminalResponse checkpoint requireRun waitingContext checkpointContext

theorem safe_confirmRun {payload : ConfirmationRequest} :
    Safe trusting (fun known {_} o => o.Informed resolving known) (fun _ _ => True)
      (confirmRun π runId actorId payload) known := by
  unfold confirmRun
  refine waitingContext_seq fun context known' hrun hworkflow hmode => ?_
  have hdecision : Uses (Op.Moves runId context.executionMode (.cancelled :: CONFIRMED))
      (applyDecision π context payload) := by
    unfold applyDecision
    cases payload.decision with
    | reject =>
      have hreject : Uses (Op.Moves runId context.executionMode (.cancelled :: CONFIRMED))
          (rejectMutation context (hashSecret π payload.confirmationToken)) :=
        (moves_rejectMutation ⟨hrun, rfl⟩).mono fun _ ho => ho.widen (by decide)
      exact .bind hreject fun updated => .pure _
    | confirm =>
      have hconfirm : Uses (Op.Moves runId context.executionMode (.cancelled :: CONFIRMED))
          (confirmMutation π ⟨true, true⟩ context payload.confirmationToken payload.idempotencyKey) :=
        (moves_confirmMutation ⟨hrun, rfl⟩).mono fun _ ho => ho.widen (by decide)
      exact .bind hconfirm fun updated => .pure _
  refine safe_writes (.cancelled :: CONFIRMED) hmode (suits_workflow hworkflow (by decide)) ?_
  refine .bind (.handle hdecision fun e => .raise _) fun applied => ?_
  exact .bind (moves_publish _) fun _ => .pure _

theorem safe_refreshConfirmation :
    Safe trusting (fun known {_} o => o.Informed resolving known) (fun _ _ => True)
      (refreshConfirmation π runId actorId) known := by
  unfold refreshConfirmation
  refine waitingContext_seq fun context known' hrun hworkflow hmode => ?_
  refine safe_writes [.waitingConfirmation] hmode (suits_workflow hworkflow (by decide)) ?_
  refine .handle (moves_refreshMutationToken ⟨hrun, rfl⟩) fun e => ?_
  cases e <;> exact .raise _

theorem safe_cancelRun :
    Safe trusting (fun known {_} o => o.Informed resolving known) (fun _ _ => True)
      (cancelRun π runId actorId) known := by
  unfold cancelRun
  refine Quiet.seq quiet_requireRun (List.Subset.refl known) (fun _ known₁ _ => ?_) fun _ _ _ => trivial
  refine checkpointContext_seq fun context known₂ _ hrun hmode => ?_
  refine (safe_ite _ _ _ _).mpr ⟨fun _ => trivial, fun _ => ?_⟩
  have hinvalidate : ∀ state, Uses (Op.Moves runId context.executionMode [.cancelled])
      (invalidateForCancel runId actorId state) := by
    intro state
    unfold invalidateForCancel
    split
    · exact .handle (.perform trivial) fun _ => .pure _
    · exact .pure _
  refine safe_writes [.cancelled] hmode (suits_unpinned (by decide)) ?_
  refine .bind (hinvalidate _) fun _ => .bind (moves_checkpoint ⟨hrun, rfl⟩ (by simp)) fun _ => ?_
  refine .bind (.perform trivial) fun _ => .bind (moves_publish _) fun _ => ?_
  exact .bind (.perform trivial) fun _ => .pure _

theorem safe_resolveHandoff {ticketId : Uuid} {payload : HandoffResolveRequest}
    (hresolving : payload.outcome = .verifiedSuccess → resolving = true) :
    Safe trusting (fun known {_} o => o.Informed resolving known) (fun _ _ => True)
      (resolveHandoff π ticketId actorId payload) known := by
  have hfind : Quiet (Prog.perform (.tickets (.getForActor ticketId DEMO_TENANT_ID actorId)) :
      Act (Option HandoffTicket)) := .perform trivial
  unfold resolveHandoff
  refine Quiet.seq hfind (List.Subset.refl known) (fun found known₁ _ => ?_) fun _ _ _ => trivial
  cases found with
  | none => trivial
  | some ticket =>
    refine (safe_ite _ _ _ _).mpr ⟨fun _ => trivial, fun _ => ?_⟩
    refine Quiet.seq quiet_requireRun (List.Subset.refl known₁) (fun _ known₂ _ => ?_) fun _ _ _ => trivial
    refine checkpointContext_seq fun context known₃ _ hrun hmode => ?_
    refine (safe_ite _ _ _ _).mpr ⟨fun _ => trivial, fun _ => ?_⟩
    refine safe_writes [payload.outcome.target] hmode ?_ ?_
    · intro status hstatus
      obtain rfl := List.mem_singleton.mp hstatus
      cases houtcome : payload.outcome with
      | verifiedSuccess => exact .inr (.inr ⟨hresolving houtcome, rfl⟩)
      | verifiedFailure => exact .inl (by decide)
    · unfold resolveTo
      refine .bind (moves_checkpoint ⟨hrun, rfl⟩ (by simp)) fun _ => .bind (.perform trivial) fun resolved => ?_
      cases resolved with
      | none => exact .raise _
      | some resolved => exact .bind (moves_publish _) fun _ => .bind (.perform trivial) fun _ => .pure _

theorem safe_program (request : RunRequest) :
    Safe trusting (fun known {_} o => o.Informed request.completes known) (fun _ _ => True)
      (request.program π) [] := by
  have hdone : ∀ {β : Type} {p : Act β}, Safe trusting (fun known {_} o => o.Informed request.completes known)
      (fun _ _ => True) p [] → Safe trusting (fun known {_} o => o.Informed request.completes known)
      (fun _ _ => True) (p >>= fun _ => pure ()) [] := by
    intro β p hp
    rw [safe_bind]
    refine hp.post ?_
    rintro (e | a) _ _ <;> trivial
  cases request with
  | send conversationId actorId payload =>
    exact hdone ((safe_moves quiet_sendMessage (List.Subset.refl []) (by simp) (by simp [Suits])).post
      fun _ _ _ => trivial)
  | work settings job => exact safe_executeMessageRun
  | confirm runId actorId payload => exact hdone safe_confirmRun
  | refresh runId actorId => exact hdone safe_refreshConfirmation
  | cancel runId actorId => exact safe_cancelRun
  | resolve ticketId actorId payload =>
    exact hdone (safe_resolveHandoff fun houtcome => by simp [RunRequest.completes, houtcome])
  | expire => exact hdone ((safe_perform _ _).mpr ⟨trivial, fun _ _ _ => trivial⟩)

end Requests

end CommerceAgent
