import CommerceAgent.ToolDiscipline

/-! Which exceptions leave a tool execution: those of a policy that compares what cannot be compared. -/
namespace CommerceAgent.Tools

open Json Agent Operators Policies

variable {V : Type} [Comparable V]

section Execution

variable (π : Platform) (x : ToolExecutor V) (q : Request V) (env : Surroundings)

/-- The execution comes to evaluate an engine on facts. -/
structure Consults (engine : PolicyEngine V) (facts : Facts V) : Prop where
  admitted : preDenial x q env = none
  policy : x.policy = some engine
  facts : q.policyFacts = some facts
  version : q.policyVersion = some engine.version

/-- An outcome is returned, and it denies where the policy cannot be evaluated. -/
structure FailsClosed (run : Run) : Prop where
  returns : ∃ execution, run.result = .ok execution
  denies : ∀ engine facts e, Consults x q env engine facts →
    engine.evaluate π q.spec.name facts = .error e →
      run.result = .ok (toolError q.spec "POLICY_DENIED" false 0)

/-- The facts that an engine allows can be encoded, and compared by every condition that is reached,
with no other exception than a `ValueError`. -/
structure Answerable (engine : PolicyEngine V) (action : String) (facts : Facts V) : Prop where
  encodes : ∀ e, Comparable.dumps facts = .error e → e = .valueError
  compares : (∃ encoded, Comparable.dumps facts = .ok encoded) → engine.Informed action facts →
    ∀ condition, Reached facts (engine.candidates action) condition →
      ∀ e, condition.holds facts = .error e → e = .valueError

theorem answerable_iff {engine : PolicyEngine V} {action : String} {facts : Facts V}
    (hallowed : ∀ fact ∈ facts, fact.1 ∈ engine.allowedFacts) :
    Answerable engine action facts ↔
      ∀ e, engine.evaluate π action facts = .error e → e = .valueError := by
  constructor
  · rintro ⟨hencodes, hcompares⟩ e he
    rcases (evaluate_eq_error π hallowed).mp he with hdumps | ⟨hencoded, hinformed, c, hreached, hraised⟩
    · exact hencodes e hdumps
    · exact hcompares hencoded hinformed c hreached e hraised
  · intro h
    refine ⟨fun e he => h e ?_, fun hencoded hinformed c hreached e hraised => h e ?_⟩
    · exact (evaluate_eq_error π hallowed).mpr (.inl he)
    · exact (evaluate_eq_error π hallowed).mpr (.inr ⟨hencoded, hinformed, c, hreached, hraised⟩)

variable {π x q env}

/-- A policy that is consulted decides by its evaluation. -/
theorem policyAllows_of_consults {engine : PolicyEngine V} {facts : Facts V}
    (h : Consults x q env engine facts) : policyAllows x q π =
      match engine.evaluate π q.spec.name facts with
      | .ok decision => .ok (decision.effect = .allow)
      | .error .valueError => .ok false
      | .error e => .error e := by
  unfold policyAllows
  rw [h.policy, h.facts]
  exact if_neg (not_not.mpr h.version)

/-- An exception of the policy check is one of an evaluation, and no `ValueError`. -/
theorem consults_of_error {e : Raised} (hadmitted : preDenial x q env = none)
    (h : policyAllows x q π = .error e) : ∃ engine facts, Consults x q env engine facts ∧
      engine.evaluate π q.spec.name facts = .error e ∧ e ≠ .valueError := by
  unfold policyAllows at h
  split at h
  · exact nomatch h
  · exact nomatch h
  rename_i engine facts hpolicy hfacts
  split at h
  · exact nomatch h
  rename_i hversion
  refine ⟨engine, facts, ⟨hadmitted, hpolicy, hfacts, not_not.mp hversion⟩, ?_⟩
  split at h
  · exact nomatch h
  · exact nomatch h
  · rename_i e' hother heval
    obtain rfl := Except.error.inj h
    exact ⟨heval, fun hvalue => hother (hvalue ▸ rfl)⟩

variable (π x q env)

/-- An execution fails closed unless an evaluation raises something else than a `ValueError`. -/
theorem failsClosed_of_evaluation (h : ∀ engine facts e, Consults x q env engine facts →
    engine.evaluate π q.spec.name facts = .error e → e = .valueError) :
    FailsClosed π x q env (x.execute π q env) := by
  have hdenied : ∀ engine facts e, Consults x q env engine facts →
      engine.evaluate π q.spec.name facts = .error e → policyAllows x q π = .ok false := by
    intro engine facts e hconsults heval
    rw [policyAllows_of_consults hconsults, heval, h engine facts e hconsults heval]
  have hexecution := execute_execution π x q env
  generalize x.execute π q env = run at hexecution ⊢
  cases hexecution with
  | denied hcode => exact ⟨⟨_, rfl⟩, fun _ _ _ hconsults => absurd hcode (by simp [hconsults.admitted])⟩
  | raised hadmitted hpolicy =>
    obtain ⟨engine, facts, hconsults, heval, hne⟩ := consults_of_error hadmitted hpolicy
    exact absurd (h engine facts _ hconsults heval) hne
  | policyDenied _ _ => exact ⟨⟨_, rfl⟩, fun _ _ _ _ _ => rfl⟩
  | unregistered _ hpolicy _ =>
    refine ⟨⟨_, rfl⟩, fun engine facts e hconsults heval => ?_⟩
    exact nomatch hpolicy.symm.trans (hdenied engine facts e hconsults heval)
  | attempted _ hpolicy _ =>
    obtain ⟨execution, hresult, _⟩ := (attempts_attempted q env (q.maxAttempts - 1) 0).disciplined.1
    refine ⟨⟨execution, hresult⟩, fun engine facts e hconsults heval => ?_⟩
    exact nomatch hpolicy.symm.trans (hdenied engine facts e hconsults heval)

/-- Such an exception escapes. -/
theorem escapes {engine : PolicyEngine V} {facts : Facts V} {e : Raised}
    (hconsults : Consults x q env engine facts) (heval : engine.evaluate π q.spec.name facts = .error e)
    (hne : e ≠ .valueError) : (x.execute π q env).result = .error e := by
  have hpolicy : policyAllows x q π = .error e := by
    rw [policyAllows_of_consults hconsults, heval]
    cases e with
    | valueError => exact absurd rfl hne
    | typeError => rfl
    | other => rfl
  unfold ToolExecutor.execute
  rw [hconsults.admitted, hpolicy]

/-- For every tool, request, policy and facts: the execution fails closed if and only if an engine that
is consulted on facts it allows can encode them, and compare them by each condition that is reached. -/
theorem fails_closed_iff : FailsClosed π x q env (x.execute π q env) ↔
    ∀ engine facts, Consults x q env engine facts → (∀ fact ∈ facts, fact.1 ∈ engine.allowedFacts) →
      Answerable engine q.spec.name facts := by
  constructor
  · intro hclosed engine facts hconsults hallowed
    rw [answerable_iff π hallowed]
    intro e heval
    by_contra hne
    obtain ⟨execution, hresult⟩ := hclosed.returns
    rw [escapes π x q env hconsults heval hne] at hresult
    exact nomatch hresult
  · refine fun h => failsClosed_of_evaluation π x q env fun engine facts e hconsults heval => ?_
    by_cases hallowed : ∀ fact ∈ facts, fact.1 ∈ engine.allowedFacts
    · exact (answerable_iff π hallowed).mp (h engine facts hconsults hallowed) e heval
    · have hunknown : facts.any (·.1 ∉ engine.allowedFacts) = true := by simpa using hallowed
      rw [PolicyEngine.evaluate, if_pos hunknown] at heval
      exact (Except.error.inj heval).symm

end Execution

section Json

/-- What can be looked for in a value. -/
def containable : Value → Value → Bool
  | .arr _, .obj _ => false
  | .obj _, .obj _ => false
  | _, .obj _ => true
  | _, .arr _ => true
  | .str _, .str _ => true
  | _, _ => false

/-- The operands that an operator can be applied to. -/
def applicable (op : String) (actual expected : Value) : Bool :=
  match op with
  | "eq" => true
  | "ne" => true
  | "lt" => Operators.Ordered actual expected
  | "lte" => Operators.Ordered actual expected
  | "gt" => Operators.Ordered actual expected
  | "gte" => Operators.Ordered actual expected
  | _ => containable actual expected

theorem memberOf_eq_error {actual expected : Value} {e : Raised} :
    memberOf actual expected = .error e ↔ e = .typeError ∧ containable actual expected = false := by
  cases expected <;> cases actual <;> simp [memberOf, containable, eq_comm]

/-- On JSON values a condition raises a `TypeError`, and exactly where its operator cannot be applied. -/
theorem matches_eq_error {condition : FactCondition Value} {actual : Value} {e : Raised} :
    condition.matches actual = .error e ↔
      e = .typeError ∧ applicable condition.op actual condition.value = false := by
  obtain ⟨fact, op, expected⟩ := condition
  have hin := @memberOf_eq_error actual expected e
  unfold FactCondition.matches applicable
  dsimp only
  split
  · simp [Comparable.eq]
  · simp [Comparable.ne]
  · exact compareValues_eq_error _ _ _ _
  · exact compareValues_eq_error _ _ _ _
  · exact compareValues_eq_error _ _ _ _
  · exact compareValues_eq_error _ _ _ _
  · exact hin
  · have hnot : Except.map not (memberOf actual expected) = .error e ↔ memberOf actual expected = .error e := by
      cases memberOf actual expected <;> simp [Except.map]
    refine hnot.trans (hin.trans ?_)
    split <;> simp_all

/-- JSON facts can always be encoded, and what decides is whether the operators of the conditions that
are reached can be applied to them. -/
theorem answerable_json_iff {engine : PolicyEngine Value} {action : String} {facts : Facts Value} :
    Answerable engine action facts ↔ (engine.Informed action facts →
      ∀ condition, Reached facts (engine.candidates action) condition →
        ∀ actual, facts.lookup condition.fact = some actual →
          applicable condition.op actual condition.value = true) := by
  constructor
  · rintro ⟨_, hcompares⟩ hinformed c hreached actual hactual
    by_contra hnot
    have hraised : c.holds facts = .error .typeError := by
      rw [FactCondition.holds, hactual]
      exact matches_eq_error.mpr ⟨rfl, Bool.eq_false_iff.mpr hnot⟩
    exact nomatch hcompares ⟨_, rfl⟩ hinformed c hreached _ hraised
  · intro h
    refine ⟨fun e he => (nomatch he), fun _ hinformed c hreached e hraised => ?_⟩
    obtain ⟨before, rule, after, hrules, _, first, last, hconditions, _⟩ := hreached
    have hsome := hinformed rule (by simp [hrules]) c (by simp [hconditions])
    obtain ⟨actual, hactual⟩ := Option.isSome_iff_exists.mp hsome
    rw [FactCondition.holds, hactual] at hraised
    have hfalse := (matches_eq_error.mp hraised).2
    rw [h hinformed c ⟨before, rule, after, hrules, ‹_›, first, last, hconditions, ‹_›⟩ actual hactual] at hfalse
    exact nomatch hfalse

end Json

section Demo

/-- Refunds of at most 200 are allowed. -/
def demoPolicy : PolicyEngine Value where
  version := "v1"
  allowedFacts := ["refund.amount"]
  rules := [⟨"small", "commit_refund", 1, [⟨"refund.amount", "lte", .int 200⟩], .allow, "SMALL_REFUND"⟩]
  versioned := by decide
  ids := by decide
  conditions := by decide

def demoGuarded : ToolExecutor Value := { demoExecutor with policy := some demoPolicy }

/-- The amount of the refund as a text. -/
def demoFacts : Facts Value := [("refund.amount", .str "199")]

def demoGuardedRequest : Request Value :=
  { demoRequest demoWrite demoWrite_contract none with
    policyVersion := some "v1"
    policyFacts := some demoFacts }

/-- An allowed fact of a type that the rule cannot compare: the exception escapes. -/
theorem incomparable_fact_raises :
    (demoGuarded.execute demoPlatform demoGuardedRequest (demoSurroundings 0 .raised)).result =
        .error .typeError ∧
      ¬ FailsClosed demoPlatform demoGuarded demoGuardedRequest (demoSurroundings 0 .raised)
        (demoGuarded.execute demoPlatform demoGuardedRequest (demoSurroundings 0 .raised)) := by
  have hconsults : Consults demoGuarded demoGuardedRequest (demoSurroundings 0 .raised) demoPolicy demoFacts :=
    ⟨by decide +kernel, rfl, rfl, rfl⟩
  have heval : demoPolicy.evaluate demoPlatform "commit_refund" demoFacts = .error .typeError := rfl
  have hraised := escapes demoPlatform _ _ _ hconsults heval (by decide)
  refine ⟨hraised, fun hclosed => ?_⟩
  obtain ⟨execution, hresult⟩ := hclosed.returns
  exact nomatch hraised.symm.trans hresult

end Demo

end CommerceAgent.Tools
