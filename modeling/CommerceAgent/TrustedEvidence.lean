import CommerceAgent.AgentLoop

/-! Which evidence the steps of a run may cite: what the reduction of a step persists, the boundary
that the next one builds from it, and what its prompt lists. -/
namespace CommerceAgent.Agent

open Json Programs

/-- The strings of a list. -/
def strings (l : List Value) : List String := l.filterMap Value.asStr?

/-- The `evidence_ids` of `ApiPromptBuilder.build`: the strings among what iterating over the entry
gives. -/
def promptEvidenceIds (state : Dict) : Except Failure (List String) :=
  match state.get? "evidence_ids" with
  | none => .ok []
  | some (.arr ids) => .ok (strings ids)
  | some (.str s) => .ok (s.toList.map String.singleton)
  | some (.obj d) => .ok (d.map Prod.fst)
  | some _ => .error .format

/-- The data of a tool that succeeded. -/
def StepResult.data? (result : StepResult) : Option Dict :=
  (result.execution.filter fun execution => execution.error.isNone).bind ToolExecution.data

/-- The evidence that the data of the step contains. -/
def StepResult.observed (result : StepResult) : List String :=
  match result.data?.bind fun data => data.get? "evidence_ids" with
  | some (.arr ids) => strings ids
  | _ => []

/-- The list that the reduction of the step puts in the place of the one before. -/
def StepResult.recorded (result : StepResult) : Option (List Value) := result.data?.bind evidenceIds

section Reduction

variable {agent : Composition} {context context' : RunContext} {result : StepResult}

theorem observe_evidence (execution : ToolExecution) (state : Dict) :
    (execution.observe state).get? "evidence_ids" =
      match execution.error, execution.data.bind evidenceIds with
      | none, some ids => some (.arr ids)
      | _, _ => state.get? "evidence_ids" := by
  unfold ToolExecution.observe
  cases execution.error with
  | some e => simp
  | none =>
    cases execution.data with
    | none => simp
    | some data => cases h : evidenceIds data <;> simp [h]

theorem reduce_evidence (agent : Composition) (context : RunContext) (result : StepResult) :
    (reduceState context (result.loopResult agent)).get? "evidence_ids" =
      (result.recorded.map Value.arr).or (context.state.get? "evidence_ids") := by
  have hstatus : (((context.state.set "last_step_status" (.str result.status.value)).pop
      "last_step_reason").get? "evidence_ids") = context.state.get? "evidence_ids" := by
    rw [Dict.get?_pop _ (by decide), Dict.get?_set_of_ne _ _ (by decide)]
  have hreason : ∀ reason : String, (((context.state.set "last_step_status" (.str result.status.value)).pop
      "last_step_reason").set "last_step_reason" (.str reason)).get? "evidence_ids" =
        context.state.get? "evidence_ids" := by
    intro reason
    rw [Dict.get?_set_of_ne _ _ (by decide), hstatus]
  unfold reduceState StepResult.recorded StepResult.data?
  dsimp only [StepResult.loopResult]
  cases result.execution with
  | none =>
    cases result.reason with
    | none => exact hstatus
    | some reason => exact hreason reason
  | some execution =>
    dsimp only
    rw [observe_evidence]
    cases herror : execution.error <;> cases hdata : execution.data.bind evidenceIds <;>
      cases result.reason <;> simp [Option.filter, herror, hdata, hstatus, hreason]

/-- What is recorded is what was observed. -/
theorem observed_of_recorded {ids : List Value} (h : result.recorded = some ids) :
    result.observed = strings ids := by
  obtain ⟨data, hdata, hids⟩ := Option.bind_eq_some_iff.mp h
  have hentry : data.get? "evidence_ids" = some (.arr ids) := by
    unfold evidenceIds at hids
    split at hids
    · rename_i ids' hentry
      split at hids
      · rw [hentry, Option.some.inj hids]
      · exact absurd hids (by simp)
    · exact absurd hids (by simp)
  unfold StepResult.observed
  rw [hdata, Option.bind_some, hentry]

end Reduction

section Validation

variable {decision : Decision} {boundary : DecisionBoundary} {spec : Option ToolSpec}

theorem validate_evidence (h : validate decision boundary spec = .ok ()) :
    ∀ id ∈ decision.evidenceIds, id ∈ boundary.trustedEvidenceIds := by
  unfold validate at h
  have hcited : ¬ (decision.evidenceIds.any (· ∉ boundary.trustedEvidenceIds)) = true := by
    intro hcited
    rw [if_pos hcited] at h
    split at h
    · exact absurd h (by simp)
    · split at h <;> exact absurd h (by simp)
  intro id hid
  by_contra huntrusted
  exact hcited (List.any_eq_true.mpr ⟨id, hid, by simpa using huntrusted⟩)

theorem validateArguments_error {arguments schema : Dict} {message : String}
    (h : validateArguments arguments schema = .error message) :
    message ≠ "decision references untrusted evidence" := by
  unfold validateArguments at h
  split at h
  · obtain rfl := Except.error.inj h
    decide
  · split_ifs at h <;> cases h <;> decide

/-- Evidence within the boundary is no reason to refuse a decision. -/
theorem validate_cites (hcited : ∀ id ∈ decision.evidenceIds, id ∈ boundary.trustedEvidenceIds) :
    validate decision boundary spec ≠ .error "decision references untrusted evidence" := by
  have hany : ¬ (decision.evidenceIds.any (· ∉ boundary.trustedEvidenceIds)) = true := by
    intro hany
    obtain ⟨id, hid, huntrusted⟩ := List.any_eq_true.mp hany
    exact of_decide_eq_true huntrusted (hcited id hid)
  unfold validate
  rw [if_neg hany]
  intro h
  split_ifs at h with htype hroute hsystem hcall htool hdata
  · exact absurd (Except.error.inj h) (by decide)
  · exact absurd (Except.error.inj h) (by decide)
  · exact absurd (Except.error.inj h) (by decide)
  · split at h
    · exact absurd (Except.error.inj h) (by decide)
    · split at h
      · exact absurd (Except.error.inj h) (by decide)
      · exact validateArguments_error h rfl
  · exact absurd (Except.error.inj h) (by decide)
  · exact absurd (Except.error.inj h) (by decide)

end Validation

section Trust

variable {agent : Composition} {context c c' : RunContext} {result : StepResult}
  {results : List StepResult} {state state' : Dict} {id : String}

/-- The next step may cite `id`: the validator does not refuse it, since it is in the boundary that
`advance` builds, and the prompt lists it. -/
structure Trusted (agent : Composition) (state : Dict) (id : String) : Prop where
  accepted : ∀ decision spec, decision.evidenceIds = [id] →
    validate decision (agent.boundary.withEvidence state) spec ≠
      .error "decision references untrusted evidence"
  boundary : id ∈ (agent.boundary.withEvidence state).trustedEvidenceIds
  prompt : ∃ ids, promptEvidenceIds state = .ok ids ∧ id ∈ ids

theorem withEvidence_congr (boundary : DecisionBoundary)
    (h : state'.get? "evidence_ids" = state.get? "evidence_ids") :
    boundary.withEvidence state' = boundary.withEvidence state := by
  unfold DecisionBoundary.withEvidence
  rw [h]

theorem Trusted.congr (htrusted : Trusted agent state id)
    (h : state'.get? "evidence_ids" = state.get? "evidence_ids") : Trusted agent state' id := by
  obtain ⟨haccepted, hboundary, hprompt⟩ := htrusted
  have hprompts : promptEvidenceIds state' = promptEvidenceIds state := by
    unfold promptEvidenceIds
    rw [h]
  rw [← withEvidence_congr _ h] at haccepted hboundary
  exact ⟨haccepted, hboundary, hprompts ▸ hprompt⟩

theorem withEvidence_recorded {ids : List Value} (boundary : DecisionBoundary)
    (h : state.get? "evidence_ids" = some (.arr ids)) :
    (boundary.withEvidence state).trustedEvidenceIds = boundary.trustedEvidenceIds ++ strings ids := by
  unfold DecisionBoundary.withEvidence
  rw [h]
  rfl

/-- After a list has been recorded, the prompt lists its strings, and nothing else. -/
theorem trusted_recorded {ids : List Value} (h : state.get? "evidence_ids" = some (.arr ids)) :
    Trusted agent state id ↔ id ∈ strings ids := by
  have hprompts : promptEvidenceIds state = .ok (strings ids) := by
    unfold promptEvidenceIds
    rw [h]
  constructor
  · intro htrusted
    obtain ⟨ids', hids', hid⟩ := htrusted.prompt
    obtain rfl := Except.ok.inj (hprompts.symm.trans hids')
    exact hid
  · intro hid
    have hboundary : id ∈ (agent.boundary.withEvidence state).trustedEvidenceIds := by
      rw [withEvidence_recorded _ h]
      exact List.mem_append_right _ hid
    refine ⟨fun decision spec hcites => validate_cites ?_, hboundary, ⟨_, hprompts, hid⟩⟩
    intro id' hid'
    rw [hcites, List.mem_singleton] at hid'
    exact hid' ▸ hboundary

end Trust

section Runs

variable {agent : Composition} {context c c' : RunContext} {result : StepResult}
  {results earlier : List StepResult} {id : String}

/-- A step of the pipeline that has come to its checkpoint. -/
def Advances (agent : Composition) (context : RunContext) (result : StepResult) (context' : RunContext) : Prop :=
  ∃ toolContext tokenBudget t,
    Exec .any (advance agent context toolContext tokenBudget) () t (.ret (context', result)) ()

/-- A run from its first context: the results of its steps, and the context that they lead to. What
else happens to the run between its steps does not concern the recorded evidence. -/
inductive Steps (agent : Composition) (context : RunContext) : List StepResult → RunContext → Prop
  | start : Steps agent context [] context
  | advance {results : List StepResult} {result : StepResult} {c c' : RunContext} :
      Steps agent context results c → Advances agent c result c' →
        Steps agent context (results ++ [result]) c'
  | between {results : List StepResult} {c c' : RunContext} :
      Steps agent context results c → c'.state.get? "evidence_ids" = c.state.get? "evidence_ids" →
        Steps agent context results c'

/-- What a step records repeats the evidence of the steps before it, and what it does not record is
trusted already. -/
def Accumulates (agent : Composition) (earlier : List StepResult) (c : RunContext) (result : StepResult) : Prop :=
  match result.recorded with
  | some ids => ∀ r ∈ earlier, ∀ id ∈ r.observed, id ∈ strings ids
  | none => ∀ id ∈ result.observed, Trusted agent c.state id

theorem uses_all {α : Type} (p : Act α) : Uses (fun _ => True) p := by
  induction p with
  | ret a => trivial
  | raise e => trivial
  | call o k ih => exact ⟨trivial, fun r _ _ => ih r⟩

theorem advance_state (agent : Composition) (context : RunContext) (toolContext : ToolContext)
    (tokenBudget : Option ℕ) :
    Yields (fun _ => True) (fun a => a.1.state = reduceState context (a.2.loopResult agent))
      (advance agent context toolContext tokenBudget) := by
  unfold advance
  refine .bind (uses_all _) fun prompt _ => .bind (uses_all _) fun _ _ => .bind (uses_all _) fun result _ => ?_
  refine .bind (uses_all _) fun _ _ => .ite (fun _ => .raise _) fun _ => ?_
  exact .bind (uses_all _) fun version _ => .pure rfl

/-- The entry after a step: what it records, or else the one before. -/
theorem Advances.evidence (h : Advances agent c result c') : c'.state.get? "evidence_ids" =
    (result.recorded.map Value.arr).or (c.state.get? "evidence_ids") := by
  obtain ⟨toolContext, tokenBudget, t, he⟩ := h
  have hstate : c'.state = reduceState c (result.loopResult agent) :=
    ((advance_state agent c toolContext tokenBudget).exec he).2
  rw [hstate, reduce_evidence]

theorem Steps.before (h : Steps agent context results c) (hbegin : earlier <+: results) :
    ∃ c', Steps agent context earlier c' := by
  induction h with
  | start =>
    obtain rfl := List.prefix_nil.mp hbegin
    exact ⟨_, .start⟩
  | advance hsteps hadvances ih =>
    rcases List.prefix_concat_iff.mp hbegin with rfl | hbegin
    · exact ⟨_, hsteps.advance hadvances⟩
    · exact ih hbegin
  | between _ _ ih => exact ih hbegin

/-- Two runs with the same results have the same entry. -/
theorem Steps.evidence (h : Steps agent context results c) : c.state.get? "evidence_ids" =
    results.foldl (fun entry r => (r.recorded.map Value.arr).or entry) (context.state.get? "evidence_ids") := by
  induction h with
  | start => rfl
  | advance _ hadvances ih =>
    rw [List.foldl_append, ← ih]
    exact hadvances.evidence
  | between _ hsame ih => rw [hsame, ih]

/-- What a run trusts it has observed, or it trusted it from the beginning. -/
theorem Steps.known (h : Steps agent context results c) :
    ∀ id ∈ (agent.boundary.withEvidence c.state).trustedEvidenceIds,
      id ∈ (agent.boundary.withEvidence context.state).trustedEvidenceIds ∨ ∃ r ∈ results, id ∈ r.observed := by
  induction h with
  | start => exact fun id hid => .inl hid
  | @advance results result c c' _ hadvances ih =>
    have hentry := hadvances.evidence
    intro id hid
    cases hrecorded : result.recorded with
    | none =>
      have hsame : c'.state.get? "evidence_ids" = c.state.get? "evidence_ids" := by simpa [hrecorded] using hentry
      rw [withEvidence_congr _ hsame] at hid
      rcases ih id hid with hinitial | ⟨r, hr, hobserved⟩
      · exact .inl hinitial
      · exact .inr ⟨r, List.mem_append_left _ hr, hobserved⟩
    | some ids =>
      have hnew : c'.state.get? "evidence_ids" = some (.arr ids) := by simpa [hrecorded] using hentry
      rw [withEvidence_recorded _ hnew] at hid
      rcases List.mem_append.mp hid with hboundary | hid
      · left
        unfold DecisionBoundary.withEvidence
        split
        · exact List.mem_append_left _ hboundary
        · exact hboundary
      · right
        refine ⟨result, by simp, ?_⟩
        rw [observed_of_recorded hrecorded]
        exact hid
  | between _ hsame ih =>
    intro id hid
    rw [withEvidence_congr _ hsame] at hid
    exact ih id hid

/-- Everything observed so far is trusted, if every step accumulates. -/
theorem Steps.trusted (h : Steps agent context results c)
    (haccumulates : ∀ earlier result c, earlier ++ [result] <+: results → Steps agent context earlier c →
      Accumulates agent earlier c result) :
    ∀ r ∈ results, ∀ id ∈ r.observed, Trusted agent c.state id := by
  induction h with
  | start => exact fun r hr => absurd hr List.not_mem_nil
  | @advance results result c c' hsteps hadvances ih =>
    have hbefore := ih fun earlier r c hbegin => haccumulates earlier r c (hbegin.trans (List.prefix_append _ _))
    have hlast := haccumulates results result c (List.prefix_refl _) hsteps
    have hentry := hadvances.evidence
    unfold Accumulates at hlast
    intro r hr id hid
    cases hrecorded : result.recorded with
    | none =>
      have hsame : c'.state.get? "evidence_ids" = c.state.get? "evidence_ids" := by simpa [hrecorded] using hentry
      simp only [hrecorded] at hlast
      rcases List.mem_append.mp hr with hr | hr
      · exact (hbefore r hr id hid).congr hsame
      · rw [List.mem_singleton.mp hr] at hid
        exact (hlast id hid).congr hsame
    | some ids =>
      have hnew : c'.state.get? "evidence_ids" = some (.arr ids) := by simpa [hrecorded] using hentry
      simp only [hrecorded] at hlast
      apply (trusted_recorded hnew).mpr
      rcases List.mem_append.mp hr with hr | hr
      · exact hlast r hr id hid
      · rwa [List.mem_singleton.mp hr, observed_of_recorded hrecorded] at hid
  | between _ hsame ih =>
    exact fun r hr id hid => (ih haccumulates r hr id hid).congr hsame

/-- In a run whose observed evidence stays trusted, a step accumulates. -/
theorem Steps.accumulates (hsteps : Steps agent context earlier c)
    (hafter : Steps agent context (earlier ++ [result]) c')
    (htrusted : ∀ r ∈ earlier ++ [result], ∀ id ∈ r.observed, Trusted agent c'.state id) :
    Accumulates agent earlier c result := by
  have hentry := hafter.evidence
  rw [List.foldl_append, ← hsteps.evidence] at hentry
  unfold Accumulates
  cases hrecorded : result.recorded with
  | none =>
    have hsame : c.state.get? "evidence_ids" = c'.state.get? "evidence_ids" := by
      simpa [hrecorded] using hentry.symm
    intro id hid
    exact (htrusted result (by simp) id hid).congr hsame
  | some ids =>
    have hnew : c'.state.get? "evidence_ids" = some (.arr ids) := by simpa [hrecorded] using hentry
    intro r hr id hid
    exact (trusted_recorded hnew).mp (htrusted r (List.mem_append_left _ hr) id hid)

/-- The evidence of every step stays trusted, and no other comes to be, if and only if every step
records the evidence of those before it again. -/
theorem evidence_trusted_iff (hsteps : Steps agent context results c') :
    (∀ earlier c, earlier <+: results → Steps agent context earlier c →
      (∀ r ∈ earlier, ∀ id ∈ r.observed, Trusted agent c.state id) ∧
      ∀ decision spec, validate decision (agent.boundary.withEvidence c.state) spec = .ok () →
        ∀ id ∈ decision.evidenceIds, id ∈ (agent.boundary.withEvidence context.state).trustedEvidenceIds ∨
          ∃ r ∈ earlier, id ∈ r.observed) ↔
    ∀ earlier result c, earlier ++ [result] <+: results → Steps agent context earlier c →
      Accumulates agent earlier c result := by
  constructor
  · intro htrusted earlier result c hbegin hearlier
    obtain ⟨c₁, hafter⟩ := hsteps.before hbegin
    exact hearlier.accumulates hafter (htrusted _ c₁ hbegin hafter).1
  · intro haccumulates earlier c hbegin hearlier
    constructor
    · exact hearlier.trusted fun earlier' r c hbegin' => haccumulates earlier' r c (hbegin'.trans hbegin)
    · intro decision spec hvalid id hid
      exact hearlier.known id (validate_evidence hvalid id hid)

end Runs

section Demo

/-- The answers of before, with a tool that finds this evidence. -/
def demoFinds (ids : List String) : {β : Type} → AgentOp β → Except Failure β
  | _, .adapter _ _ => .ok (.returned {
      toolName := "list_my_orders", toolVersion := "1"
      data := some [("evidence_ids", .arr (ids.map Value.str))] })
  | _, .checkpoint context _ _ _ _ => .ok (context.checkpointVersion + 1)
  | _, o => demoAnswers demoCall o

/-- What a step leaves whose tool finds this evidence. -/
def demoRetrieval (ids : List String) (context : RunContext) :
    List (Happened AgentOp Failure Unit) × Act (RunContext × StepResult) × Unit :=
  drive (fun _ s {_} o => (demoFinds ids o, s)) (List.replicate 40 ())
    (advance demoAgent context demoToolContext none) ()

/-- The context and the result after the step. -/
def demoRetrieved (ids : List String) (context : RunContext) : RunContext × StepResult :=
  match (demoRetrieval ids context).2.1 with
  | .ret a => a
  | _ => (context, .stopped "" [])

def demoFirst : RunContext × StepResult := demoRetrieved ["policy-1"] (demoContext .runningReadonly)

theorem exec_any {α : Type} {M : Machine AgentOp Failure Unit} {p q : Act α} {s s' : Unit}
    {t : List (Happened AgentOp Failure Unit)} (h : Exec M p s t q s') : Exec .any p s t q s' := by
  induction h with
  | stop p s => exact .stop p s
  | step _ _ ih => exact .step trivial ih

theorem demo_advances {ids : List String} {context : RunContext}
    (h : (demoRetrieval ids context).2.1.outcome?.any (fun r => r.isOk) = true) :
    Advances demoAgent context (demoRetrieved ids context).2 (demoRetrieved ids context).1 := by
  have he : Exec .any (advance demoAgent context demoToolContext none) () (demoRetrieval ids context).1
      (demoRetrieval ids context).2.1 (demoRetrieval ids context).2.2 :=
    exec_any (drive_exec (fun _ s {_} o => (demoFinds ids o, s)) _ _ _)
  refine ⟨demoToolContext, none, (demoRetrieval ids context).1, ?_⟩
  unfold demoRetrieved
  revert he h
  generalize demoRetrieval ids context = d
  intro h he
  obtain ⟨t, q, u⟩ := d
  cases q with
  | ret a => exact he
  | raise e => exact absurd h (by simp [Prog.outcome?, Except.isOk, Except.toBool])
  | call o k => exact absurd h (by simp [Prog.outcome?])

instance demoFirst_facts : Fact ((demoRetrieval ["policy-1"] (demoContext .runningReadonly)).2.1.outcome?.any
    (fun r => r.isOk) = true ∧ demoFirst.2.recorded.isSome = true ∧ "policy-1" ∈ demoFirst.2.observed) :=
  ⟨by decide +kernel⟩

/-- A run with two retrievals, the second of which finds this evidence. -/
theorem demo_steps (ids : List String)
    (h : (demoRetrieval ids demoFirst.1).2.1.outcome?.any (fun r => r.isOk) = true) :
    Steps demoAgent (demoContext .runningReadonly) [demoFirst.2, (demoRetrieved ids demoFirst.1).2]
      (demoRetrieved ids demoFirst.1).1 := by
  have hfirst : Steps demoAgent (demoContext .runningReadonly) ([] ++ [demoFirst.2]) demoFirst.1 :=
    Steps.start.advance (demo_advances demoFirst_facts.out.1)
  exact hfirst.advance (demo_advances h)

end Demo

instance demoSecond_facts : Fact (((demoRetrieval ["policy-1", "policy-2"] demoFirst.1).2.1.outcome?.any
    fun r => r.isOk) = true ∧
    ((demoRetrieved ["policy-1", "policy-2"] demoFirst.1).2.recorded.any fun ids =>
      decide (∀ id ∈ demoFirst.2.observed, id ∈ strings ids)) = true) := ⟨by decide +kernel⟩

theorem evidence_trusted_demo :
    Trusted demoAgent (demoRetrieved ["policy-1", "policy-2"] demoFirst.1).1.state "policy-1" := by
  obtain ⟨-, hfirst⟩ := demoFirst_facts.out
  obtain ⟨hadvanced, hsecond⟩ := demoSecond_facts.out
  have hsteps := demo_steps ["policy-1", "policy-2"] hadvanced
  refine ((evidence_trusted_iff hsteps).mpr ?_ _ _ (List.prefix_refl _) hsteps).1 demoFirst.2 (by simp) _ hfirst.2
  intro earlier result c hbegin _
  obtain ⟨later, hlater⟩ := hbegin
  rcases earlier with _ | ⟨r, _ | ⟨r', rest⟩⟩
  · have hresult : result = demoFirst.2 := (List.cons.inj hlater).1
    obtain ⟨ids, hids⟩ := Option.isSome_iff_exists.mp hfirst.1
    simp [Accumulates, hresult, hids]
  · have hr : r = demoFirst.2 := (List.cons.inj hlater).1
    have hresult : result = (demoRetrieved ["policy-1", "policy-2"] demoFirst.1).2 :=
      (List.cons.inj (List.cons.inj hlater).2).1
    obtain ⟨ids, hids, hkept⟩ := (Option.any_eq_true _ _).mp hsecond
    simpa [Accumulates, hr, hresult, hids] using of_decide_eq_true hkept
  · have hlength := congrArg List.length hlater
    simp at hlength

instance demoReplaced_facts : Fact (((demoRetrieval ["policy-2"] demoFirst.1).2.1.outcome?.any
    fun r => r.isOk) = true ∧
    "policy-1" ∉ (demoAgent.boundary.withEvidence
      (demoRetrieved ["policy-2"] demoFirst.1).1.state).trustedEvidenceIds ∧
    validate { type := .respond, route := "order_status", evidenceIds := ["policy-1"] }
      (demoAgent.boundary.withEvidence (demoRetrieved ["policy-2"] demoFirst.1).1.state) none =
        .error "decision references untrusted evidence") := ⟨by decide +kernel⟩

/-- A second retrieval takes the place of the first: what that one found is refused from then on. -/
theorem retrieval_replaced :
    Steps demoAgent (demoContext .runningReadonly)
      [demoFirst.2, (demoRetrieved ["policy-2"] demoFirst.1).2] (demoRetrieved ["policy-2"] demoFirst.1).1 ∧
    "policy-1" ∈ demoFirst.2.observed ∧
    ¬ Trusted demoAgent (demoRetrieved ["policy-2"] demoFirst.1).1.state "policy-1" ∧
    validate { type := .respond, route := "order_status", evidenceIds := ["policy-1"] }
      (demoAgent.boundary.withEvidence (demoRetrieved ["policy-2"] demoFirst.1).1.state) none =
        .error "decision references untrusted evidence" := by
  obtain ⟨hadvanced, hboundary, hrefused⟩ := demoReplaced_facts.out
  refine ⟨demo_steps _ hadvanced, demoFirst_facts.out.2.2, ?_, hrefused⟩
  exact fun htrusted => hboundary htrusted.boundary

end CommerceAgent.Agent
