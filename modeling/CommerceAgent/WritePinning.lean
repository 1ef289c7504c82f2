import CommerceAgent.ReleaseAssignments
import CommerceAgent.RunKnowledge

/-! What a release may change about the route of a message, and which version a write is recorded with. -/
namespace CommerceAgent.Delivery

open Json Programs Tables Texts

section Model

variable (sha256 : ByteArray → List UInt8) (π : Platform) (settings : Settings)

/-- What the message comes to without a release. -/
structure CurrentRoute where
  routed : RouteDecision
  shadow : Option RouteDecision
  risk : RiskAssessment

/-- The decision of the safety boundary, of the pinned route, or of the current rules on the candidate. -/
def currentRoute (context : RunContext) (content : String) (classified : IntentClassification) :
    Except Exc CurrentRoute := do
  let safety ← SafetyRouter.route π settings.enableSafetyRouterV2 none content
  let risk := effectiveRisk π safety content
  if safety.effectiveDisposition = .handoff then return ⟨safetyDecision risk, none, risk⟩
  else if context.Pinned then return ⟨← context.continuation π, none, risk⟩
  else
    let candidate := classified.withHints risk
    let rules := intentRouteRules settings.enableRoutingV2 settings.enableConversationalFallback
    return ⟨IntentRouter.decide rules candidate, some (IntentRouter.decide (intentRouteRules true true) candidate),
      risk⟩

/-- The route that is executed under the assignment. -/
def chosenRoute (assignment : Option TrafficAssignment) (routed : RouteDecision)
    (shadow : Option RouteDecision) : RouteDecision :=
  match assignment, shadow with
  | some a, some shadow =>
    if a.mode = "canary" ∧ a.candidateExecutionAllowed = true ∧ shadow.outcome = .execute then shadow else routed
  | _, _ => routed

/-- The recording of a message. -/
def CurrentRoute.recording (current : CurrentRoute) (context : RunContext) : Recording where
  tenantId := context.tenantId
  actorId := context.actorId
  runId := context.runId
  conversationId := context.conversationId
  routed := current.routed
  candidateRouted := current.shadow
  riskLevel := current.risk.riskLevel

/-- `_execute_message_run` up to the branch on its route: the tables after it, and the route. -/
def routeMessage (board : Board) (context : RunContext) (content : String)
    (classified : IntentClassification) : Except Exc (Board × RouteDecision) := do
  let current ← currentRoute π settings context content classified
  let (board, assignment) := recordReleaseAssignment sha256 π board (current.recording context)
  return (board, chosenRoute assignment current.routed current.shadow)

/-- What the executor's program comes to, for some answer of the recording. -/
theorem decideRoute_chooses (job : Dispatch) (candidate : IntentClassification) :
    Yields (fun _ => True) (fun routed => ∃ assignment, routed = chosenRoute assignment
      (IntentRouter.decide (intentRouteRules settings.enableRoutingV2 settings.enableConversationalFallback)
        candidate) (some (IntentRouter.decide (intentRouteRules true true) candidate)))
      (decideRoute settings job candidate) := by
  unfold decideRoute
  refine .bind (R := fun _ => True) (Uses.all _) fun _ _ => ?_
  refine .bind (R := fun _ => True) (Uses.all _) fun canary _ => ?_
  refine .pure ?_
  by_cases hcanary : canary = true
  · refine ⟨some ⟨"", "", "", "canary", 0, 0, "", true⟩, ?_⟩
    simp [chosenRoute, hcanary]
  · refine ⟨none, ?_⟩
    simp [chosenRoute, hcanary]

end Model

section Rules

variable {candidate : IntentClassification} {routed shadow : RouteDecision}

theorem decide_append (rules more : List IntentRouteRule) (candidate : IntentClassification) :
    IntentRouter.decide (rules ++ more) candidate = IntentRouter.decide rules candidate ∨
      (rules.find? fun rule => rule.intent = candidate.intent) = none ∧
        IntentRouter.decide rules candidate = handoffDecision "UNKNOWN_INTENT" ∧
        IntentRouter.decide (rules ++ more) candidate = IntentRouter.decide more candidate := by
  unfold IntentRouter.decide
  rw [List.find?_append]
  cases hfind : rules.find? fun rule => rule.intent = candidate.intent with
  | some rule => exact .inl rfl
  | none => exact .inr ⟨rfl, rfl, rfl⟩

/-- A decision that executes has the policy of its rule, and a readonly rule is executed readonly. -/
theorem decide_execute {rules : List IntentRouteRule} (h : (IntentRouter.decide rules candidate).outcome = .execute) :
    ∃ rule ∈ rules, (IntentRouter.decide rules candidate).responsePolicy = rule.responsePolicy ∧
      (rule.executionMode = .readonlyLoop →
        (IntentRouter.decide rules candidate).executionMode = some .readonlyLoop) := by
  unfold IntentRouter.decide at h ⊢
  cases hfind : rules.find? fun rule => rule.intent = candidate.intent with
  | none =>
    rw [hfind] at h
    cases h
  | some rule =>
    rw [hfind] at h
    refine ⟨rule, List.mem_of_find?_eq_some hfind, ?_⟩
    dsimp only at h ⊢
    split at h
    · cases h
    rename_i hforce
    rw [if_neg hforce]
    split at h
    · cases h
    rename_i hconfidence
    rw [if_neg hconfidence]
    cases hrefusal : conversationalRefusal rule candidate with
    | some decision =>
      rw [hrefusal] at h
      exact absurd h (conversationalRefusal_outcome hrefusal)
    | none =>
      rw [hrefusal] at h
      dsimp only at h ⊢
      split at h
      · cases h
      rename_i hconflict
      rw [if_neg hconflict]
      refine ⟨rfl, fun hreadonly => ?_⟩
      have hhint : candidate.riskHint ≠ .write := fun hwrite => hconflict ⟨hwrite, hreadonly⟩
      rw [if_neg hhint, hreadonly]

theorem conversational_rules : ∀ rule ∈ CONVERSATIONAL_RULES,
    rule.executionMode = .readonlyLoop ∧ policyIsConversational rule.responsePolicy = true := by
  simp [CONVERSATIONAL_RULES, conversationalRule, policyIsConversational]

/-- What the two rule sets can decide differently: the current one hands over, and the other one answers in
conversation. -/
theorem shadow_cases (routingV2 conversationalFallback : Bool) (candidate : IntentClassification) :
    IntentRouter.decide (intentRouteRules true true) candidate =
        IntentRouter.decide (intentRouteRules routingV2 conversationalFallback) candidate ∨
      IntentRouter.decide (intentRouteRules routingV2 conversationalFallback) candidate =
        handoffDecision "UNKNOWN_INTENT" ∧
      ((IntentRouter.decide (intentRouteRules true true) candidate).outcome = .execute →
        policyIsConversational (IntentRouter.decide (intentRouteRules true true) candidate).responsePolicy = true ∧
        (IntentRouter.decide (intentRouteRules true true) candidate).executionMode = some .readonlyLoop) := by
  by_cases hflags : routingV2 = true ∧ conversationalFallback = true
  · obtain ⟨rfl, rfl⟩ := hflags
    exact .inl rfl
  · have hcurrent : intentRouteRules routingV2 conversationalFallback = DEFAULT_INTENT_ROUTE_RULES := by
      unfold intentRouteRules
      cases routingV2 <;> cases conversationalFallback <;> simp_all
    have hshadow : intentRouteRules true true = DEFAULT_INTENT_ROUTE_RULES ++ CONVERSATIONAL_RULES := rfl
    rw [hcurrent, hshadow]
    obtain hsame | ⟨_, hunknown, hmore⟩ := decide_append DEFAULT_INTENT_ROUTE_RULES CONVERSATIONAL_RULES candidate
    · exact .inl hsame
    · refine .inr ⟨hunknown, fun hexecute => ?_⟩
      rw [hmore] at hexecute ⊢
      obtain ⟨rule, hrule, hpolicy, hmode⟩ := decide_execute hexecute
      obtain ⟨hreadonly, hconversational⟩ := conversational_rules rule hrule
      exact ⟨hpolicy ▸ hconversational, hmode hreadonly⟩

end Rules

section Routes

variable {sha256 : ByteArray → List UInt8} {π : Platform} {settings : Settings} {board board' : Board}
  {context : RunContext} {content : String} {classified : IntentClassification} {current : CurrentRoute}
  {executed : RouteDecision} {r : Release} {row : AssignmentRow}

/-- The candidate is the current route, or answers in conversation what the current rules hand over. -/
def CurrentRoute.Shadowed (current : CurrentRoute) : Prop :=
  ∀ shadow ∈ current.shadow, shadow = current.routed ∨
    current.routed = handoffDecision "UNKNOWN_INTENT" ∧ (shadow.outcome = .execute →
      policyIsConversational shadow.responsePolicy = true ∧ shadow.executionMode = some .readonlyLoop)

theorem shadow_of_current (h : currentRoute π settings context content classified = .ok current) :
    current.Shadowed := by
  unfold currentRoute at h
  obtain ⟨safety, _, h⟩ := Except.bind_eq_ok.mp h
  intro shadow hshadow
  dsimp only at h
  split at h
  -- A request that the safety boundary hands over has no candidate, and a pinned one neither.
  · obtain rfl := Except.ok.inj h
    cases hshadow
  · split at h
    · obtain ⟨routed, _, h⟩ := Except.bind_eq_ok.mp h
      obtain rfl := Except.ok.inj h
      cases hshadow
    · obtain rfl := Except.ok.inj h
      obtain rfl := Option.some.inj hshadow
      exact shadow_cases _ _ _

/-- The row of the run in the release that its tenant has under way. -/
def Recorded (board : Board) (context : RunContext) (row : AssignmentRow) : Prop :=
  ∃ r, board.db.latestActive context.tenantId = some r ∧ board.row r.releaseId context.runId = some row

/-- The release changes the route at most to a conversation, for a request that the current rules do not
execute and in a run that is recorded as a canary; and a workflow is recorded with the current version. -/
structure Harmless (board' : Board) (context : RunContext) (current : CurrentRoute)
    (executed : RouteDecision) : Prop where
  route : executed ≠ current.routed → (∃ row, Recorded board' context row ∧ row.assignment.mode = "canary") ∧
    current.routed.outcome ≠ .execute ∧ policyIsConversational executed.responsePolicy = true
  writes : executed.executionMode = some .workflow → ∀ row, Recorded board' context row →
    row.assignment.selectedVersion = row.assignment.currentVersion

/-- The message's own assignment would execute a candidate that is not the current route. -/
def Substitutes (sha256 : ByteArray → List UInt8) (board : Board) (context : RunContext)
    (current : CurrentRoute) (r : Release) : Prop :=
  ((current.recording context).assigned sha256 board.db r).candidateExecutionAllowed = true ∧
    ∃ shadow ∈ current.shadow, shadow.outcome = .execute ∧ shadow ≠ current.routed

/-- The release does not serve its candidate to the request. -/
def Spared (sha256 : ByteArray → List UInt8) (q : TrafficRequest) (r : Release) : Prop :=
  Pinned q r ∨ r.candidateVersion = "" ∨ canaryPercent r.stage ≤ q.bucket sha256 ∨
    r.candidateVersion = r.currentVersion

theorem serves_current_iff (q : TrafficRequest) (r : Release) :
    r.serves sha256 q = r.currentVersion ↔ Spared sha256 q r := by
  unfold Spared
  by_cases hpinned : Pinned q r
  · exact ⟨fun _ => .inl hpinned, fun _ => serves_pinned sha256 hpinned⟩
  · rw [serves_canary sha256 hpinned]
    split
    · rename_i hserved
      obtain ⟨hversion, hbucket⟩ := hserved
      constructor
      · exact fun h => .inr (.inr (.inr h))
      · rintro (h | h | h | h)
        · exact absurd h hpinned
        · exact absurd h hversion
        · exact absurd hbucket (Nat.not_lt.mpr h)
        · exact h
    · rename_i hkept
      refine ⟨fun _ => .inr ?_, fun _ => rfl⟩
      by_cases hversion : r.candidateVersion = ""
      · exact .inl hversion
      · exact .inr (.inl (Nat.le_of_not_lt fun hbucket => hkept ⟨hversion, hbucket⟩))

theorem assigned_currentVersion (q : Recording) (db : DB) (r : Release) :
    (q.assigned sha256 db r).currentVersion = r.currentVersion := by
  unfold Recording.assigned assignTraffic currentAssignment
  dsimp only
  split_ifs <;> rfl

/-- Before the message: a row that the run already has agrees with it, and a run without one that executes a
workflow is spared. -/
structure Steady (sha256 : ByteArray → List UInt8) (board : Board) (context : RunContext)
    (current : CurrentRoute) : Prop where
  canary : ∀ r row, (current.recording context).Hits board r r.releaseId context.runId →
    board.row r.releaseId context.runId = some row → Substitutes sha256 board context current r →
      row.assignment.mode = "canary"
  kept : current.routed.executionMode = some .workflow → ∀ row, Recorded board context row →
    row.assignment.selectedVersion = row.assignment.currentVersion
  fresh : current.routed.executionMode = some .workflow → ∀ r,
    (current.recording context).Hits board r r.releaseId context.runId →
      board.row r.releaseId context.runId = none →
        Spared sha256 ((current.recording context).request board.db r) r

/-- The assignment that the recording of a message returns. -/
theorem recorded_hits (h : (current.recording context).Hits board r r.releaseId context.runId) :
    ∃ board', recordReleaseAssignment sha256 π board (current.recording context) =
      (board', some ((current.recording context).assigned sha256 board.db r)) := by
  unfold recordReleaseAssignment
  rw [h.latest]
  obtain ⟨board', hrecord⟩ :=
    (@recordAssignment_ok_iff board ((current.recording context).row sha256 π board.db r)).mpr h.owned
  dsimp only
  rw [hrecord]
  exact ⟨board', rfl⟩

theorem recorded_misses (h : ∀ r, ¬ (current.recording context).Hits board r r.releaseId context.runId) :
    recordReleaseAssignment sha256 π board (current.recording context) = (board, none) := by
  unfold recordReleaseAssignment
  cases hlatest : board.db.latestActive (current.recording context).tenantId with
  | none => rfl
  | some r =>
    dsimp only
    cases hrecord : recordAssignment board ((current.recording context).row sha256 π board.db r) with
    | error e => rfl
    | ok board' =>
      have howned := recordAssignment_ok_iff.mp ⟨board', hrecord⟩
      exact absurd ⟨hlatest, howned, rfl, rfl⟩ (h r)

/-- The route changes exactly if the assignment substitutes it. -/
theorem chosenRoute_cases (hshadow : current.Shadowed) :
    (chosenRoute (some ((current.recording context).assigned sha256 board.db r)) current.routed current.shadow =
        current.routed ∧ ¬ Substitutes sha256 board context current r) ∨
      Substitutes sha256 board context current r ∧ current.routed = handoffDecision "UNKNOWN_INTENT" ∧
        policyIsConversational (chosenRoute (some ((current.recording context).assigned sha256 board.db r))
          current.routed current.shadow).responsePolicy = true ∧
        (chosenRoute (some ((current.recording context).assigned sha256 board.db r)) current.routed
          current.shadow).executionMode = some .readonlyLoop := by
  unfold Substitutes
  cases hs : current.shadow with
  | none => exact .inl ⟨rfl, fun h => by simp at h⟩
  | some shadow =>
    -- The branch of the source tests the mode and the flag, and the flag says the mode.
    have hflag : ((current.recording context).assigned sha256 board.db r).candidateExecutionAllowed = true ↔
        ((current.recording context).assigned sha256 board.db r).mode = "canary" := candidateExecutionAllowed_iff
    unfold chosenRoute
    dsimp only
    by_cases hcanary : ((current.recording context).assigned sha256 board.db r).candidateExecutionAllowed = true ∧
        shadow.outcome = .execute
    · rw [if_pos ⟨hflag.mp hcanary.1, hcanary⟩]
      by_cases hsame : shadow = current.routed
      · refine .inl ⟨hsame, ?_⟩
        rintro ⟨_, other, hother, _, hne⟩
        exact hne (Option.some.inj hother ▸ hsame)
      · obtain h | ⟨hunknown, hexecute⟩ := hshadow shadow hs
        · exact absurd h hsame
        · exact .inr ⟨⟨hcanary.1, shadow, rfl, hcanary.2, hsame⟩, hunknown, hexecute hcanary.2⟩
    · rw [if_neg fun h => hcanary h.2]
      refine .inl ⟨rfl, ?_⟩
      rintro ⟨hallowed, other, hother, hexecute, _⟩
      obtain rfl := Option.some.inj hother
      exact hcanary ⟨hallowed, hexecute⟩

/-- A substitution reads what was handed over, so a workflow is never substituted and never results from one. -/
theorem chosenRoute_workflow (hshadow : current.Shadowed) :
    (chosenRoute (some ((current.recording context).assigned sha256 board.db r)) current.routed
      current.shadow).executionMode = some .workflow ↔ current.routed.executionMode = some .workflow := by
  obtain ⟨hsame, _⟩ | ⟨_, hunknown, _, hreadonly⟩ := @chosenRoute_cases sha256 board context current r hshadow
  · rw [hsame]
  · rw [hreadonly, hunknown]
    simp [handoffDecision]

theorem recorded_iff (hlatest : board.db.latestActive context.tenantId = some r) :
    Recorded board context row ↔ board.row r.releaseId context.runId = some row := by
  constructor
  · rintro ⟨r', hlatest', hrow⟩
    obtain rfl := Option.some.inj (hlatest.symm.trans hlatest')
    exact hrow
  · exact fun hrow => ⟨r, hlatest, hrow⟩

/-- After a recording, harmlessness is about the one row that the run then has. -/
theorem harmless_recorded_iff (hshadow : current.Shadowed)
    (hrecorded : ∀ other, Recorded board' context other ↔ other = row) :
    Harmless board' context current (chosenRoute (some ((current.recording context).assigned sha256 board.db r))
        current.routed current.shadow) ↔
      (Substitutes sha256 board context current r → row.assignment.mode = "canary") ∧
        (current.routed.executionMode = some .workflow →
          row.assignment.selectedVersion = row.assignment.currentVersion) := by
  have hcases := @chosenRoute_cases sha256 board context current r hshadow
  have hworkflow := @chosenRoute_workflow sha256 board context current r hshadow
  constructor
  · intro hharmless
    refine ⟨fun hsubstitutes => ?_, fun hmode => hharmless.writes (hworkflow.mpr hmode) row ((hrecorded row).mpr rfl)⟩
    obtain ⟨_, hnot⟩ | ⟨_, hunknown, _, hreadonly⟩ := hcases
    · exact absurd hsubstitutes hnot
    -- The substituted route is read and the current one handed over: they differ.
    · have hne : chosenRoute (some ((current.recording context).assigned sha256 board.db r))
          current.routed current.shadow ≠ current.routed := by
        intro hsame
        rw [hsame, hunknown] at hreadonly
        cases hreadonly
      obtain ⟨other, hother, hcanary⟩ := (hharmless.route hne).1
      obtain rfl := (hrecorded other).mp hother
      exact hcanary
  · rintro ⟨hcanary, hwrites⟩
    refine ⟨fun hne => ?_, fun hmode other hother => ?_⟩
    · obtain ⟨hsame, _⟩ | ⟨hsubstitutes, hunknown, hpolicy, _⟩ := hcases
      · exact absurd hsame hne
      · refine ⟨⟨row, (hrecorded row).mpr rfl, hcanary hsubstitutes⟩, ?_, hpolicy⟩
        rw [hunknown]
        decide
    · obtain rfl := (hrecorded other).mp hother
      exact hwrites (hworkflow.mp hmode)

theorem Recording.Hits.unique {r' : Release} (h : (current.recording context).Hits board r r.releaseId context.runId)
    (h' : (current.recording context).Hits board r' r'.releaseId context.runId) : r' = r :=
  Option.some.inj (h'.latest.symm.trans h.latest)

theorem steady_fresh_iff (h : (current.recording context).Hits board r r.releaseId context.runId)
    (hnone : board.row r.releaseId context.runId = none) :
    Steady sha256 board context current ↔ (current.routed.executionMode = some .workflow →
      Spared sha256 ((current.recording context).request board.db r) r) := by
  constructor
  · exact fun hsteady hworkflow => hsteady.fresh hworkflow r h hnone
  · intro hspared
    refine ⟨fun r' row h' hrow => ?_, fun _ row hrow => ?_, fun hworkflow r' h' _ => ?_⟩
    · rw [h.unique h', hnone] at hrow
      cases hrow
    · rw [recorded_iff h.latest, hnone] at hrow
      cases hrow
    · rw [h.unique h']
      exact hspared hworkflow

theorem steady_again_iff (h : (current.recording context).Hits board r r.releaseId context.runId)
    (hrow : board.row r.releaseId context.runId = some row) :
    Steady sha256 board context current ↔
      (Substitutes sha256 board context current r → row.assignment.mode = "canary") ∧
        (current.routed.executionMode = some .workflow →
          row.assignment.selectedVersion = row.assignment.currentVersion) := by
  constructor
  · exact fun hsteady => ⟨hsteady.canary r row h hrow,
      fun hworkflow => hsteady.kept hworkflow row ((recorded_iff h.latest).mpr hrow)⟩
  · rintro ⟨hcanary, hkept⟩
    refine ⟨fun r' row' h' hrow' hsubstitutes => ?_, fun hworkflow row' hrow' => ?_, fun _ r' h' hnone => ?_⟩
    · rw [h.unique h'] at hrow' hsubstitutes
      obtain rfl := Option.some.inj (hrow.symm.trans hrow')
      exact hcanary hsubstitutes
    · obtain rfl := Option.some.inj (hrow.symm.trans ((recorded_iff h.latest).mp hrow'))
      exact hkept hworkflow
    · rw [h.unique h', hrow] at hnone
      cases hnone

theorem routeMessage_eq (h : currentRoute π settings context content classified = .ok current) :
    routeMessage sha256 π settings board context content classified =
      .ok ((recordReleaseAssignment sha256 π board (current.recording context)).1,
        chosenRoute (recordReleaseAssignment sha256 π board (current.recording context)).2 current.routed
          current.shadow) := by
  unfold routeMessage
  rw [h]
  rfl

/-- A message is harmless to the route and to the record of its writes exactly if the run's own row agrees
with the new assignment, and a workflow without a row is spared. -/
theorem release_harmless_iff (hcurrent : currentRoute π settings context content classified = .ok current)
    (h : routeMessage sha256 π settings board context content classified = .ok (board', executed)) :
    Harmless board' context current executed ↔ Steady sha256 board context current := by
  rw [routeMessage_eq hcurrent] at h
  have hshadow := shadow_of_current hcurrent
  by_cases hhits : ∃ r, (current.recording context).Hits board r r.releaseId context.runId
  · obtain ⟨r, hhits⟩ := hhits
    obtain ⟨after, hrecord⟩ := @recorded_hits sha256 π _ _ _ _ hhits
    rw [hrecord] at h
    obtain ⟨rfl, rfl⟩ := Prod.mk.inj (Except.ok.inj h)
    have hdb : after.db = board.db := by
      have hsame := (@db_recorded sha256 π board (current.recording context)).1
      rw [hrecord] at hsame
      exact hsame
    have hrow := @row_recorded sha256 π _ _ _ _ _ hhits
    rw [hrecord] at hrow
    have hlatest : after.db.latestActive context.tenantId = some r := by
      rw [hdb]
      exact hhits.latest
    have hrecorded : ∀ row, Recorded after context row ↔ some row = after.row r.releaseId context.runId :=
      fun row => (recorded_iff hlatest).trans eq_comm
    cases hold : board.row r.releaseId context.runId with
    -- The first row of the run takes the new assignment whole.
    | none =>
      rw [hold] at hrow
      rw [steady_fresh_iff hhits hold,
        harmless_recorded_iff hshadow fun row => (hrecorded row).trans (by rw [hrow]; exact Option.some_inj)]
      have hspared := @serves_current_iff sha256 ((current.recording context).request board.db r) r
      have hversion := @assigned_currentVersion sha256 (current.recording context) board.db r
      constructor
      · exact fun ⟨_, hwrites⟩ hworkflow => hspared.mp ((hwrites hworkflow).trans hversion)
      · intro hfresh
        refine ⟨fun hsubstitutes => candidateExecutionAllowed_iff.mp hsubstitutes.1, fun hworkflow => ?_⟩
        exact (hspared.mpr (hfresh hworkflow)).trans hversion.symm
    -- A second recording changes nothing but the comparison: the assignment stays the one of the old row.
    | some old =>
      rw [hold] at hrow
      rw [steady_again_iff hhits hold,
        harmless_recorded_iff hshadow fun row => (hrecorded row).trans (by rw [hrow]; exact Option.some_inj)]
      rfl
  -- Nothing is recorded: the tables and the route stay as they are.
  · have hmisses := @recorded_misses sha256 π board context current fun r hr => hhits ⟨r, hr⟩
    rw [hmisses] at h
    obtain ⟨rfl, rfl⟩ := Prod.mk.inj (Except.ok.inj h)
    have hsame : chosenRoute none current.routed current.shadow = current.routed := by
      unfold chosenRoute
      rfl
    rw [hsame]
    constructor
    · exact fun hharmless => ⟨fun r _ hr => absurd ⟨r, hr⟩ hhits, hharmless.writes,
        fun _ r hr => absurd ⟨r, hr⟩ hhits⟩
    · exact fun hsteady => ⟨fun hne => absurd rfl hne, hsteady.kept⟩

end Routes

section Demo

/-- A full rollout, before its last evaluation, and a run of its tenant. -/
def demoBoard : Board where
  db := Histories.run after {} demoRollout
  runs := [("run", "demo-shop")]

def demoContext : RunContext where
  runId := "run"
  conversationId := "conv"
  tenantId := "demo-shop"
  actorId := "demo-user-001"
  status := .created

def demoClassified (intent : String) (riskHint : RiskHint) : IntentClassification where
  intent := intent
  riskHint := riskHint
  confidence := 95 / 100

def demoCurrent (content intent : String) (riskHint : RiskHint) : Except Exc CurrentRoute :=
  currentRoute demoPlatform {} demoContext content (demoClassified intent riskHint)

def demoRouted (content intent : String) (riskHint : RiskHint) : Except Exc (Board × RouteDecision) :=
  routeMessage demoHash demoPlatform {} demoBoard demoContext content (demoClassified intent riskHint)

instance demo_current : Fact (((demoCurrent "你好，我的订单到哪了" "track_order" .readOnly).toOption.map (·.routed.executionMode)) =
      some (some .readonlyLoop) ∧
    ((demoCurrent "你好，帮我开发票" "request_invoice" .write).toOption.map (·.routed.executionMode)) =
      some (some .workflow) ∧
    (demoRouted "你好，我的订单到哪了" "track_order" .readOnly).isOk = true) :=
  ⟨by decide +kernel⟩

instance demo_invoice : Fact (((demoRouted "你好，帮我开发票" "request_invoice" .write).toOption.bind fun result =>
      (result.1.row "release-1" "run").map fun row => (result.2.executionMode, row.assignment.selectedVersion,
        row.assignment.currentVersion, (result.1.db.latestActive "demo-shop").map (·.releaseId))) =
    some (some .workflow, "v2", "v1", some "release-1")) :=
  ⟨by decide +kernel⟩

/-- An order query in the canary bucket. -/
theorem release_harmless_query : ∃ (current : CurrentRoute) (board' : Board) (executed : RouteDecision),
    demoRouted "你好，我的订单到哪了" "track_order" .readOnly = .ok (board', executed) ∧
      Harmless board' demoContext current executed := by
  obtain ⟨hmode, _, hok⟩ := demo_current.out
  cases hcurrent : demoCurrent "你好，我的订单到哪了" "track_order" .readOnly with
  | error e =>
    rw [hcurrent] at hmode
    cases hmode
  | ok current =>
    cases hrouted : demoRouted "你好，我的订单到哪了" "track_order" .readOnly with
    | error e =>
      rw [hrouted] at hok
      cases hok
    | ok result =>
      rw [hcurrent] at hmode
      have hmode : current.routed.executionMode = some .readonlyLoop := Option.some.inj hmode
      refine ⟨current, result.1, result.2, rfl, (release_harmless_iff hcurrent hrouted).mpr ⟨?_, ?_, ?_⟩⟩
      · intro r row _ hrow
        cases hrow
      · intro hworkflow
        rw [hmode] at hworkflow
        cases hworkflow
      · intro hworkflow
        rw [hmode] at hworkflow
        cases hworkflow

/-- A friendly request for an invoice is executed as a workflow and recorded with the candidate version. -/
theorem invoice_recorded_as_canary : ¬ ∀ (sha256 : ByteArray → List UInt8) (π : Platform) (settings : Settings)
    (board board' : Board) (context : RunContext) (content : String) (classified : IntentClassification)
    (current : CurrentRoute) (executed : RouteDecision),
    currentRoute π settings context content classified = .ok current →
    routeMessage sha256 π settings board context content classified = .ok (board', executed) →
    Harmless board' context current executed := by
  intro hclaim
  obtain ⟨_, hmode, _⟩ := demo_current.out
  obtain ⟨result, hresult, hrow⟩ := Option.bind_eq_some_iff.mp demo_invoice.out
  obtain ⟨row, hrow, hfacts⟩ := Option.map_eq_some_iff.mp hrow
  simp only [Prod.mk.injEq] at hfacts
  obtain ⟨hworkflow, hselected, hversion, hlatest⟩ := hfacts
  obtain ⟨r, hlatest, hid⟩ := Option.map_eq_some_iff.mp hlatest
  cases hcurrent : demoCurrent "你好，帮我开发票" "request_invoice" .write with
  | error e =>
    rw [hcurrent] at hmode
    cases hmode
  | ok current =>
    cases hrouted : demoRouted "你好，帮我开发票" "request_invoice" .write with
    | error e =>
      rw [hrouted] at hresult
      cases hresult
    | ok found =>
      rw [hrouted] at hresult
      obtain rfl : found = result := Option.some.inj hresult
      have hharmless := hclaim _ _ _ _ _ _ _ _ _ _ hcurrent hrouted
      have hrecorded : Recorded found.1 demoContext row := ⟨r, hlatest, hid ▸ hrow⟩
      have hsame := hharmless.writes hworkflow row hrecorded
      rw [hselected, hversion] at hsame
      exact absurd hsame (by decide)

end Demo

end CommerceAgent.Delivery
