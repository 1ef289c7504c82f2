import CommerceAgent.ToolExecutor
import CommerceAgent.MutationWorkflow

/-! What a tool execution leaves: how often the adapter is called, which outcome is returned, and
what the events of the step say about it. -/
namespace CommerceAgent.Tools

open Json Agent Operators Policies

variable {V : Type} [Comparable V]

section Results

variable {spec : ToolSpec} {result : Agent.ToolResult} {n : ℕ}

/-- A result that the executor accepts from an adapter. -/
structure WellFormed (spec : ToolSpec) (result : Agent.ToolResult) : Prop where
  name : result.toolName = spec.name
  version : result.toolVersion = spec.version
  one : result.data.isNone ≠ result.error.isNone
  valid : result.error = none → validObject result.data spec.outputSchema = true

/-- A failure after which the executor tries again. -/
def Retryable (result : Agent.ToolResult) : Prop := ∃ code, result.error = some (code, true) ∧ code ≠ "STATUS_UNKNOWN"

/-- The result as it is reported: a write that timed out upstream has an unknown status. -/
def reported (spec : ToolSpec) (result : Agent.ToolResult) : Agent.ToolResult :=
  if spec.risk ≠ .readOnly ∧ result.error.any (·.1 = "UPSTREAM_TIMEOUT") then
    spec.errorResult "STATUS_UNKNOWN" false
  else result

theorem wellFormed_errorResult (spec : ToolSpec) (code : String) (retryable : Bool) :
    WellFormed spec (spec.errorResult code retryable) :=
  ⟨rfl, rfl, by simp [ToolSpec.errorResult], fun h => by simp [ToolSpec.errorResult] at h⟩

theorem wellFormed_timeoutResult (spec : ToolSpec) : WellFormed spec spec.timeoutResult :=
  wellFormed_errorResult _ _ _

theorem wellFormed_iff : WellFormed spec result ↔
    ¬ (result.toolName ≠ spec.name ∨ result.toolVersion ≠ spec.version) ∧
      result.data.isNone ≠ result.error.isNone ∧
      ¬ (result.error.isNone ∧ ¬ validObject result.data spec.outputSchema) := by
  constructor
  · rintro ⟨hname, hversion, hone, hvalid⟩
    exact ⟨by simp [hname, hversion], hone, fun h => h.2 (hvalid (by simpa using h.1))⟩
  · rintro ⟨hidentity, hone, hvalid⟩
    rw [not_or, not_not, not_not] at hidentity
    refine ⟨hidentity.1, hidentity.2, hone, fun h => ?_⟩
    by_contra hinvalid
    exact hvalid ⟨by simp [h], hinvalid⟩

theorem retryable_iff : Retryable result ↔
    ¬ result.error.all fun error => ¬ error.2 ∨ error.1 = "STATUS_UNKNOWN" := by
  unfold Retryable
  rcases result.error with _ | ⟨code, _ | _⟩ <;> simp

theorem WellFormed.reported (h : WellFormed spec result) : WellFormed spec (reported spec result) := by
  unfold Tools.reported
  split
  · exact wellFormed_errorResult _ _ _
  · exact h

/-- What is retried is the result itself. -/
theorem Retryable.of_reported (h : Retryable (reported spec result)) :
    Retryable result ∧ reported spec result = result := by
  unfold Tools.reported at h ⊢
  split
  · rename_i hwrite
    rw [if_pos hwrite] at h
    obtain ⟨code, herror, _⟩ := h
    simp [ToolSpec.errorResult] at herror
  · rename_i hread
    rw [if_neg hread] at h
    exact ⟨h, rfl⟩

theorem settle_malformed (h : ¬ WellFormed spec result) :
    settleAttempt spec result n = .inl (toolError spec "INTERNAL_ERROR" false n) := by
  rw [wellFormed_iff] at h
  unfold settleAttempt
  split
  · rfl
  · rename_i hidentity
    split
    · rfl
    · rename_i hone
      split
      · rfl
      · rename_i hvalid
        exact absurd ⟨hidentity, hone, hvalid⟩ h

theorem settle_eq (h : WellFormed spec result) : settleAttempt spec result n =
    if (reported spec result).error.all (fun error => ¬ error.2 ∨ error.1 = "STATUS_UNKNOWN") then
      .inl ((reported spec result).execution n) else .inr (reported spec result) := by
  obtain ⟨hidentity, hone, hvalid⟩ := wellFormed_iff.mp h
  unfold settleAttempt
  rw [if_neg hidentity, if_neg hone, if_neg hvalid]
  rfl

theorem settle_final (h : WellFormed spec result) (hfinal : ¬ Retryable (reported spec result)) :
    settleAttempt spec result n = .inl ((reported spec result).execution n) := by
  rw [settle_eq h, if_pos (not_not.mp (mt retryable_iff.mpr hfinal))]

theorem settle_retryable (h : WellFormed spec result) (hretry : Retryable (reported spec result)) :
    settleAttempt spec result n = .inr result := by
  rw [settle_eq h, if_neg (retryable_iff.mp hretry), hretry.of_reported.2]

/-- An outcome that keeps the promises of the executor. -/
structure Disciplined (spec : ToolSpec) (execution : ToolExecution) : Prop where
  name : execution.toolName = spec.name
  version : execution.toolVersion = spec.version
  one : execution.data.isNone ≠ execution.error.isNone
  valid : execution.error = none → validObject execution.data spec.outputSchema = true

theorem disciplined_toolError (spec : ToolSpec) (code : String) (retryable : Bool) (n : ℕ) :
    Disciplined spec (toolError spec code retryable n) :=
  ⟨rfl, rfl, by simp [toolError], fun h => by simp [toolError] at h⟩

theorem WellFormed.disciplined (h : WellFormed spec result) (n : ℕ) :
    Disciplined spec (result.execution n) :=
  ⟨h.name, h.version, h.one, h.valid⟩

end Results

section Loop

omit [Comparable V]

variable (q : Request V) (env : Surroundings)

/-- An attempt that ended in a failure after which the executor tries again. -/
def Attempt.FailedRetryably (a : Attempt) : Prop :=
  ∃ result, a.result? q.spec (callTimeout q a.calledAt) = some result ∧ Retryable result

/-- The attempt in which the adapter is called, if there is time left for it. -/
def Request.calling (a : Attempt) : List Attempt := if callTimeout q a.calledAt ≤ 0 then [] else [a]

/-- What the loop leaves, iteration after iteration. -/
inductive Attempted : ℕ → ℕ → Run → Prop
  | expired {left made : ℕ} (h : q.expired (env.attempt made).checkedAt = true) :
    Attempted left made ⟨.ok (toolError q.spec "UPSTREAM_TIMEOUT" false made), []⟩
  | refused {left made : ℕ} (h : q.expired (env.attempt made).checkedAt = false)
    (hresult : ∀ result,
      (env.attempt made).result? q.spec (callTimeout q (env.attempt made).calledAt) = some result →
        ¬ WellFormed q.spec result) :
    Attempted left made
      ⟨.ok (toolError q.spec "INTERNAL_ERROR" false (made + 1)), q.calling (env.attempt made)⟩
  | ended {left made : ℕ} {result : Agent.ToolResult} (h : q.expired (env.attempt made).checkedAt = false)
    (hresult : (env.attempt made).result? q.spec (callTimeout q (env.attempt made).calledAt) = some result)
    (hwell : WellFormed q.spec result) (hlast : Retryable (reported q.spec result) → left = 0) :
    Attempted left made
      ⟨.ok ((reported q.spec result).execution (made + 1)), q.calling (env.attempt made)⟩
  | again {left made : ℕ} {rest : Run} (h : q.expired (env.attempt made).checkedAt = false)
    (hfailed : (env.attempt made).FailedRetryably q) (hrest : Attempted left (made + 1) rest) :
    Attempted (left + 1) made ⟨rest.result, q.calling (env.attempt made) ++ rest.calls⟩

/-- One iteration, given what the later ones leave. -/
theorem attempted_step {left made : ℕ}
    (hlater : ∀ k, left = k + 1 → Attempted q env k (made + 1) (attempts q env k (made + 1))) :
    Attempted q env left made (attempts q env left made) := by
  have hcalls : (if callTimeout q (env.attempt made).calledAt ≤ 0 then []
      else [env.attempt made]) = q.calling (env.attempt made) := rfl
  rw [attempts.eq_def]
  dsimp only
  split
  · rename_i hexpired
    exact .expired hexpired
  rename_i hopen
  rw [Bool.not_eq_true] at hopen
  rw [hcalls]
  split
  · rename_i hnone
    exact .refused hopen fun result hresult => by simp [hnone] at hresult
  rename_i result hresult
  by_cases hwell : WellFormed q.spec result
  · by_cases hretry : Retryable (reported q.spec result)
    · rw [settle_retryable hwell hretry]
      cases left with
      | zero =>
        have hsame := hretry.of_reported.2
        have hended := Attempted.ended hopen hresult hwell fun _ => rfl
        rwa [hsame] at hended
      | succ left => exact .again hopen ⟨result, hresult, hretry.of_reported.1⟩ (hlater left rfl)
    · rw [settle_final hwell hretry]
      exact .ended hopen hresult hwell fun h => absurd h hretry
  · rw [settle_malformed hwell]
    refine .refused hopen fun result' hresult' => ?_
    obtain rfl := Option.some.inj (hresult.symm.trans hresult')
    exact hwell

theorem attempts_attempted (left made : ℕ) : Attempted q env left made (attempts q env left made) := by
  induction left generalizing made with
  | zero => exact attempted_step q env fun k hk => absurd hk (Nat.succ_ne_zero k).symm
  | succ left ih =>
    refine attempted_step q env fun k hk => ?_
    obtain rfl := Nat.succ.inj hk
    exact ih _

theorem length_calling_le (a : Attempt) : (q.calling a).length ≤ 1 := by
  unfold Request.calling
  split <;> simp

theorem mem_calling {q : Request V} {a b : Attempt} (h : b ∈ q.calling a) : b = a := by
  unfold Request.calling at h
  split at h
  · exact absurd h List.not_mem_nil
  · exact List.mem_singleton.mp h

theorem dropLast_calling (a : Attempt) : (q.calling a).dropLast = [] := by
  unfold Request.calling
  split <;> rfl

variable {q env}

/-- Whatever the readings of the clocks and the answers of the adapter: the loop ends with an outcome
in order, calls the adapter once an attempt at most, and goes on only after a retryable failure. -/
theorem Attempted.disciplined {left made : ℕ} {run : Run} (h : Attempted q env left made run) :
    (∃ execution, run.result = .ok execution ∧ Disciplined q.spec execution) ∧
      run.calls.length ≤ left + 1 ∧ ∀ a ∈ run.calls.dropLast, a.FailedRetryably q := by
  have hcall : ∀ a : Attempt, ∀ b ∈ (q.calling a).dropLast, b.FailedRetryably q := by
    intro a b hb
    rw [dropLast_calling] at hb
    exact absurd hb List.not_mem_nil
  have hone := length_calling_le q
  induction h with
  | expired h => exact ⟨⟨_, rfl, disciplined_toolError _ _ _ _⟩, by simp, by simp⟩
  | refused h hresult =>
    exact ⟨⟨_, rfl, disciplined_toolError _ _ _ _⟩, (hone _).trans (by omega), hcall _⟩
  | ended h hresult hwell hlast =>
    exact ⟨⟨_, rfl, hwell.reported.disciplined _⟩, (hone _).trans (by omega), hcall _⟩
  | @again left made rest h hfailed hrest ih =>
    obtain ⟨hended, hlength, hretried⟩ := ih
    refine ⟨hended, ?_, fun a ha => ?_⟩
    · have hfirst := hone (env.attempt made)
      rw [List.length_append]
      omega
    · by_cases hnil : rest.calls = []
      · rw [hnil, List.append_nil] at ha
        exact hcall _ a ha
      · rw [List.dropLast_append_of_ne_nil hnil] at ha
        rcases List.mem_append.mp ha with ha | ha
        · obtain rfl := mem_calling ha
          exact hfailed
        · exact hretried a ha

end Loop

section Execution

variable (π : Platform) (x : ToolExecutor V) (q : Request V) (env : Surroundings)

/-- The ways in which a call of `execute` can go. -/
inductive Execution : Run → Prop
  | denied {code : String} (h : preDenial x q env = some code) :
    Execution ⟨.ok (toolError q.spec code false 0), []⟩
  | raised {e : Raised} (h : preDenial x q env = none) (hpolicy : policyAllows x q π = .error e) :
    Execution ⟨.error e, []⟩
  | policyDenied (h : preDenial x q env = none) (hpolicy : policyAllows x q π = .ok false) :
    Execution ⟨.ok (toolError q.spec "POLICY_DENIED" false 0), []⟩
  | unregistered (h : preDenial x q env = none) (hpolicy : policyAllows x q π = .ok true)
    (hadapter : q.spec.name ∉ x.adapters) : Execution ⟨.ok (toolError q.spec "INTERNAL_ERROR" false 0), []⟩
  | attempted (h : preDenial x q env = none) (hpolicy : policyAllows x q π = .ok true)
    (hadapter : q.spec.name ∈ x.adapters) : Execution (attempts q env (q.maxAttempts - 1) 0)

theorem execute_execution : Execution π x q env (x.execute π q env) := by
  unfold ToolExecutor.execute
  split
  · rename_i code hcode
    exact .denied hcode
  rename_i hcode
  split
  · rename_i e hpolicy
    exact .raised hcode hpolicy
  · rename_i hpolicy
    exact .policyDenied hcode hpolicy
  · rename_i hpolicy
    split
    · rename_i hadapter
      exact .unregistered hcode hpolicy hadapter
    · rename_i hadapter
      exact .attempted hcode hpolicy (not_not.mp hadapter)

/-- For every tool, request, policy, clock and adapter: a tool that is not read-only is called once at
most, a read-only one as often as its retry policy allows; each call but the last failed retryably and
not with an unknown status; and what is returned carries the name and the version of the tool, has
either data or an error, and data that is valid for the output schema. -/
theorem execution_disciplined :
    (q.spec.risk ≠ .readOnly → (x.execute π q env).calls.length ≤ 1) ∧
      (q.spec.risk = .readOnly → (x.execute π q env).calls.length ≤ q.spec.maxAttempts) ∧
      (∀ a ∈ (x.execute π q env).calls.dropLast, a.FailedRetryably q) ∧
      ∀ execution, (x.execute π q env).result = .ok execution → Disciplined q.spec execution := by
  have hdenied : ∀ code, ∀ execution, (.ok (toolError q.spec code false 0) : Except Raised ToolExecution) =
      .ok execution → Disciplined q.spec execution := by
    rintro code execution hexecution
    obtain rfl := Except.ok.inj hexecution
    exact disciplined_toolError _ _ _ _
  have hexecution := execute_execution π x q env
  generalize x.execute π q env = run at hexecution ⊢
  cases hexecution with
  | denied h => exact ⟨by simp, by simp, by simp, hdenied _⟩
  | raised h hpolicy => exact ⟨by simp, by simp, by simp, fun _ h => nomatch h⟩
  | policyDenied h hpolicy => exact ⟨by simp, by simp, by simp, hdenied _⟩
  | unregistered h hpolicy hadapter => exact ⟨by simp, by simp, by simp, hdenied _⟩
  | attempted h hpolicy hadapter =>
    obtain ⟨⟨execution, hresult, hdisciplined⟩, hlength, hretried⟩ :=
      (attempts_attempted q env (q.maxAttempts - 1) 0).disciplined
    refine ⟨fun hrisk => ?_, fun hrisk => ?_, hretried, fun execution' hresult' => ?_⟩
    · rw [Request.maxAttempts, if_neg hrisk] at hlength ⊢
      exact hlength
    · rw [Request.maxAttempts, if_pos hrisk] at hlength ⊢
      have hattempts := q.contract.attempts.1
      omega
    · obtain rfl := Except.ok.inj (hresult.symm.trans hresult')
      exact hdisciplined

end Execution

section Writes

variable (π : Platform) (x : ToolExecutor V) (q : Request V) (env : Surroundings)

/-- The checks pass, and a first attempt begins. -/
structure Begins : Prop where
  admitted : preDenial x q env = none
  allowed : policyAllows x q π = .ok true
  registered : q.spec.name ∈ x.adapters
  inTime : q.expired (env.attempt 0).checkedAt = false

/-- There is time left for the call of the first attempt. -/
structure CallsAdapter : Prop extends Begins π x q env where
  timeLeft : 0 < callTimeout q (env.attempt 0).calledAt

/-- An answer of the adapter that leaves no doubt: a result in order, or none in time. -/
structure Attempt.Unambiguous (spec : ToolSpec) (a : Attempt) : Prop where
  result : a.answer ≠ .other
  wellFormed : ∀ result, a.answer = .returned result → ¬ a.overran spec → WellFormed spec result

/-- Once the adapter was called, what is returned is a result of the adapter in order, or has an
unknown status. -/
def ReportsUnknown (spec : ToolSpec) (run : Run) : Prop :=
  run.calls ≠ [] → ∃ execution, run.result = .ok execution ∧
    (execution.error.map Prod.fst = some "STATUS_UNKNOWN" ∨
      ∃ a ∈ run.calls, ∃ result, a.answer = .returned result ∧ WellFormed spec result ∧
        execution = result.execution execution.attempts)

variable {q}

omit [Comparable V] in
/-- The result of an attempt in which the adapter is called. -/
theorem result?_of_called {a : Attempt} (htime : 0 < callTimeout q a.calledAt) :
    a.result? q.spec (callTimeout q a.calledAt) =
      if a.overran q.spec then (answerResult q.spec a.answer).map fun _ => q.spec.timeoutResult
      else answerResult q.spec a.answer := by
  unfold Attempt.result?
  rw [invokeWithTimeout, if_neg (not_le.mpr htime)]
  split
  · rfl
  · exact Option.map_id'

omit [Comparable V] in
/-- The result of a call, if its answer leaves no doubt. -/
theorem result_of_unambiguous {a : Attempt} (htime : 0 < callTimeout q a.calledAt)
    (h : a.Unambiguous q.spec) :
    ∃ result, a.result? q.spec (callTimeout q a.calledAt) = some result ∧ WellFormed q.spec result := by
  rw [result?_of_called htime]
  by_cases hoverran : a.overran q.spec
  · rw [if_pos hoverran]
    cases hkind : a.answer with
    | other => exact absurd hkind h.result
    | _ => exact ⟨_, rfl, wellFormed_timeoutResult _⟩
  · rw [if_neg hoverran]
    cases hkind : a.answer with
    | timedOut => exact ⟨_, rfl, wellFormed_timeoutResult _⟩
    | raised => exact ⟨_, rfl, wellFormed_errorResult _ _ _⟩
    | returned result => exact ⟨_, rfl, h.wellFormed result hkind hoverran⟩
    | other => exact absurd hkind h.result

omit [Comparable V] in
/-- A well-formed result of a call of a write is one that the adapter returned in time, or has an
unknown status. -/
theorem unambiguous_of_result (hrisk : q.spec.risk ≠ .readOnly) {a : Attempt} {result : Agent.ToolResult}
    (htime : 0 < callTimeout q a.calledAt)
    (hresult : a.result? q.spec (callTimeout q a.calledAt) = some result) (hwell : WellFormed q.spec result) :
    a.Unambiguous q.spec ∧ (result = q.spec.errorResult "STATUS_UNKNOWN" false ∨ a.answer = .returned result) := by
  have htimeout : q.spec.timeoutResult = q.spec.errorResult "STATUS_UNKNOWN" false := by
    simp [ToolSpec.timeoutResult, hrisk]
  rw [result?_of_called htime] at hresult
  by_cases hoverran : a.overran q.spec
  · rw [if_pos hoverran] at hresult
    obtain ⟨result', hanswered, rfl⟩ := Option.map_eq_some_iff.mp hresult
    refine ⟨⟨fun hother => ?_, fun _ _ h => absurd hoverran h⟩, .inl htimeout⟩
    rw [hother] at hanswered
    exact nomatch hanswered
  · rw [if_neg hoverran] at hresult
    cases hkind : a.answer with
    | timedOut =>
      rw [hkind] at hresult
      exact ⟨⟨by simp [hkind], fun _ h => by simp [hkind] at h⟩,
        .inl ((Option.some.inj hresult).symm.trans htimeout)⟩
    | raised =>
      rw [hkind, answerResult, if_neg hrisk] at hresult
      exact ⟨⟨by simp [hkind], fun _ h => by simp [hkind] at h⟩, .inl (Option.some.inj hresult).symm⟩
    | returned returned =>
      rw [hkind] at hresult
      obtain rfl := Option.some.inj hresult
      refine ⟨⟨by simp [hkind], fun result' h _ => ?_⟩, .inr rfl⟩
      obtain rfl := AdapterAnswer.returned.inj (hkind.symm.trans h)
      exact hwell
    | other =>
      rw [hkind] at hresult
      exact nomatch hresult

omit [Comparable V] in
/-- A write is attempted once. -/
theorem attempted_once (hrisk : q.spec.risk ≠ .readOnly) : q.maxAttempts - 1 = 0 := by
  rw [Request.maxAttempts, if_neg hrisk]

theorem execute_of_begins (h : Begins π x q env) :
    x.execute π q env = attempts q env (q.maxAttempts - 1) 0 := by
  rw [ToolExecutor.execute, h.admitted, h.allowed]
  exact if_neg (not_not.mpr h.registered)

omit [Comparable V] in
theorem calling_of_time {a : Attempt} (htime : 0 < callTimeout q a.calledAt) : q.calling a = [a] :=
  if_neg (not_le.mpr htime)

/-- A write whose call is reported in doubt, or as the adapter answered, had an answer without doubt. -/
theorem unambiguous_of_reports (hrisk : q.spec.risk ≠ .readOnly) (hcalls : CallsAdapter π x q env)
    (hreports : ReportsUnknown q.spec (x.execute π q env)) : (env.attempt 0).Unambiguous q.spec := by
  rw [execute_of_begins π x env hcalls.toBegins, attempted_once hrisk] at hreports
  have hattempted := attempts_attempted q env 0 0
  generalize attempts q env 0 0 = run at hattempted hreports
  cases hattempted with
  | expired hexpired => exact absurd hexpired (by simp [hcalls.inTime])
  | ended hopen hresult hwell hlast =>
    exact (unambiguous_of_result hrisk hcalls.timeLeft hresult hwell).1
  | refused hopen hresult =>
    rw [calling_of_time hcalls.timeLeft] at hreports
    obtain ⟨execution, hexecution, hreport⟩ := hreports (List.cons_ne_nil _ _)
    obtain rfl := Except.ok.inj hexecution
    -- What is reported is an internal error, so it was the adapter that returned it.
    rcases hreport with hunknown | ⟨a, ha, result, hreturned, hwell, _⟩
    · simp [toolError] at hunknown
    · obtain rfl := List.mem_singleton.mp ha
      refine ⟨by simp [hreturned], fun result' hresult' hinTime => ?_⟩
      refine absurd hwell (hresult result ?_)
      rw [result?_of_called hcalls.timeLeft, if_neg hinTime, hreturned]
      rfl

theorem reports_of_unambiguous (hrisk : q.spec.risk ≠ .readOnly)
    (h : CallsAdapter π x q env → (env.attempt 0).Unambiguous q.spec) :
    ReportsUnknown q.spec (x.execute π q env) := by
  have hnone : ∀ {run : Run}, run.calls = [] → ReportsUnknown q.spec run :=
    fun hcalls hne => absurd hcalls hne
  have hexecution := execute_execution π x q env
  generalize x.execute π q env = run at hexecution ⊢
  cases hexecution with
  | denied hdenied => exact hnone rfl
  | raised hadmitted hpolicy => exact hnone rfl
  | policyDenied hadmitted hpolicy => exact hnone rfl
  | unregistered hadmitted hpolicy hadapter => exact hnone rfl
  | attempted hadmitted hpolicy hadapter =>
    rw [attempted_once hrisk]
    have hattempted := attempts_attempted q env 0 0
    generalize attempts q env 0 0 = run at hattempted ⊢
    -- Whether the adapter is called is whether there is time left.
    by_cases htime : 0 < callTimeout q (env.attempt 0).calledAt
    · cases hattempted with
      | expired hexpired => exact hnone rfl
      | refused hopen hresult =>
        obtain ⟨result, hsome, hwell⟩ :=
          result_of_unambiguous htime (h ⟨⟨hadmitted, hpolicy, hadapter, hopen⟩, htime⟩)
        exact absurd hwell (hresult result hsome)
      | ended hopen hresult hwell hlast =>
        rw [calling_of_time htime]
        refine fun _ => ⟨_, rfl, ?_⟩
        unfold reported
        split
        · exact .inl rfl
        · rcases (unambiguous_of_result hrisk htime hresult hwell).2 with rfl | hreturned
          · exact .inl rfl
          · exact .inr ⟨_, List.mem_singleton_self _, _, hreturned, hwell, rfl⟩
    · have hcalling : q.calling (env.attempt 0) = [] := if_pos (not_lt.mp htime)
      cases hattempted with
      | expired hexpired => exact hnone rfl
      | refused hopen hresult => exact hnone hcalling
      | ended hopen hresult hwell hlast => exact hnone hcalling

/-- For every write, request, policy, clock and adapter: what is reported after a call of the adapter
is its own result in order or an unknown status if and only if the adapter, where it is called, gives
no answer in time, raises, or returns a result in order. -/
theorem write_reported_iff (hrisk : q.spec.risk ≠ .readOnly) :
    ReportsUnknown q.spec (x.execute π q env) ↔
      (CallsAdapter π x q env → (env.attempt 0).Unambiguous q.spec) :=
  ⟨fun hreports hcalls => unambiguous_of_reports π x env hrisk hcalls hreports,
    reports_of_unambiguous π x env hrisk⟩

end Writes

section Calls

omit [Comparable V]

variable (q : Request V) (env : Surroundings)

theorem callTimeout_pos_iff (a : Attempt) :
    0 < callTimeout q a.calledAt ↔ q.expired a.calledAt = false := by
  have htool : (0 : ℚ) < q.spec.timeoutMs / 1000 := by
    have htimeout : (0 : ℚ) < q.spec.timeoutMs := by exact_mod_cast q.contract.timeout.1
    positivity
  unfold callTimeout Request.expired
  cases q.deadlineAt with
  | none => simpa using htool
  | some deadline =>
    have hleft : (0 : ℚ) < ((deadline - a.calledAt : ℤ) : ℚ) / 1000000 ↔ a.calledAt < deadline := by
      rw [div_pos_iff_of_pos_right (by norm_num), Int.cast_pos, sub_pos]
    simp only [Option.any_some, lt_min_iff, htool, lt_max_iff, lt_irrefl, false_or, true_and, hleft,
      decide_eq_false_iff_not, not_le]

/-- From the attempts made on, one begins in time and has time left to call the adapter. -/
def Request.Reaches (left made : ℕ) : Prop :=
  ∃ i ≤ left, (∀ j ≤ i, q.expired (env.attempt (made + j)).checkedAt = false) ∧
    q.expired (env.attempt (made + i)).calledAt = false

/-- An attempt without time left reads no answer: it ends like one that ran out of time. -/
theorem result?_of_late {a : Attempt} (h : q.expired a.calledAt = true) :
    a.result? q.spec (callTimeout q a.calledAt) = some q.spec.timeoutResult := by
  have hlate : callTimeout q a.calledAt ≤ 0 := by
    rw [← not_lt, callTimeout_pos_iff, h]
    simp
  unfold Attempt.result?
  rw [invokeWithTimeout, if_pos hlate]
  exact congrArg some (ite_self _)

theorem calling_eq_nil {a : Attempt} : q.calling a = [] ↔ q.expired a.calledAt = true := by
  rw [← Bool.not_eq_false, ← callTimeout_pos_iff, not_lt, Request.calling]
  split <;> simp_all

theorem reaches_succ {left made : ℕ} (hopen : q.expired (env.attempt made).checkedAt = false)
    (hlate : q.expired (env.attempt made).calledAt = true) :
    q.Reaches env (left + 1) made ↔ q.Reaches env left (made + 1) := by
  constructor
  · rintro ⟨i, hi, hchecked, hcalled⟩
    cases i with
    | zero => exact absurd hcalled (by simp [hlate])
    | succ i =>
      refine ⟨i, by omega, fun j hj => ?_, by rwa [Nat.add_right_comm] ⟩
      have h := hchecked (j + 1) (by omega)
      rwa [← Nat.add_assoc, Nat.add_right_comm] at h
  · rintro ⟨i, hi, hchecked, hcalled⟩
    refine ⟨i + 1, by omega, fun j hj => ?_, by rwa [← Nat.add_assoc, Nat.add_right_comm]⟩
    cases j with
    | zero => exact hopen
    | succ j =>
      have h := hchecked j (by omega)
      rwa [Nat.add_right_comm] at h

/-- An attempt with time left calls the adapter. -/
theorem reaches_of_time {left made : ℕ} (hopen : q.expired (env.attempt made).checkedAt = false)
    (htime : q.expired (env.attempt made).calledAt = false) : q.Reaches env left made := by
  refine ⟨0, Nat.zero_le _, fun j hj => ?_, htime⟩
  rwa [Nat.le_zero.mp hj]

theorem not_reaches_zero {made : ℕ} (hlate : q.expired (env.attempt made).calledAt = true) :
    ¬ q.Reaches env 0 made := by
  rintro ⟨i, hi, _, hcalled⟩
  obtain rfl := Nat.le_zero.mp hi
  exact absurd hcalled (by simp [hlate])

theorem retryable_timeout (hrisk : q.spec.risk = .readOnly) :
    Retryable (reported q.spec q.spec.timeoutResult) := by
  refine ⟨"UPSTREAM_TIMEOUT", ?_, by decide⟩
  simp [reported, hrisk, ToolSpec.timeoutResult, ToolSpec.errorResult]

variable {q env}

/-- The loop calls the adapter if and only if one of its attempts has time left for it. -/
theorem Attempted.calls_iff {left made : ℕ} {run : Run} (h : Attempted q env left made run)
    (hleft : q.spec.risk = .readOnly ∨ left = 0) : run.calls ≠ [] ↔ q.Reaches env left made := by
  -- An attempt with time left calls the adapter, and one without leaves it to the later ones.
  have htime : ∀ {left made : ℕ}, q.expired (env.attempt made).checkedAt = false →
      q.expired (env.attempt made).calledAt = false →
      (q.calling (env.attempt made) ≠ [] ↔ q.Reaches env left made) := by
    intro left made hopen htime
    refine iff_of_true (fun hnil => ?_) (reaches_of_time q env hopen htime)
    rw [calling_eq_nil, htime] at hnil
    exact absurd hnil (by simp)
  induction h with
  | expired h =>
    refine ⟨fun hne => absurd rfl hne, ?_⟩
    rintro ⟨i, _, hchecked, _⟩
    exact absurd (hchecked 0 (Nat.zero_le _)) (by simp [h])
  | @refused left made hopen hresult =>
    cases hcalled : q.expired (env.attempt made).calledAt with
    | false => exact htime hopen hcalled
    | true => exact absurd (wellFormed_timeoutResult _) (hresult _ (result?_of_late q hcalled))
  | @ended left made result hopen hresult hwell hlast =>
    cases hcalled : q.expired (env.attempt made).calledAt with
    | false => exact htime hopen hcalled
    | true =>
      obtain rfl := Option.some.inj ((result?_of_late q hcalled).symm.trans hresult)
      obtain rfl : left = 0 := hleft.elim (fun hrisk => hlast (retryable_timeout q hrisk)) id
      exact iff_of_false (fun hne => hne ((calling_eq_nil q).mpr hcalled))
        (not_reaches_zero q env hcalled)
  | @again left made rest hopen hfailed hrest ih =>
    cases hcalled : q.expired (env.attempt made).calledAt with
    | false =>
      have hcalls := (@htime (left + 1) made hopen hcalled).mpr (reaches_of_time q env hopen hcalled)
      exact iff_of_true (List.append_ne_nil_of_left_ne_nil hcalls _) (reaches_of_time q env hopen hcalled)
    | true =>
      rw [(calling_eq_nil q).mpr hcalled, List.nil_append, reaches_succ q env hopen hcalled]
      exact ih (hleft.imp_right fun h => absurd h (Nat.succ_ne_zero _))

/-- The attempts that an outcome counts: those made before, and one more if one began. -/
theorem Attempted.counted {left made : ℕ} {run : Run} (h : Attempted q env left made run)
    {execution : ToolExecution} (hresult : run.result = .ok execution) :
    made ≤ execution.attempts ∧
      (made < execution.attempts ↔ q.expired (env.attempt made).checkedAt = false) := by
  induction h with
  | expired hexpired =>
    obtain rfl := Except.ok.inj hresult
    exact ⟨le_rfl, by simp [toolError, hexpired]⟩
  | refused hopen _ =>
    obtain rfl := Except.ok.inj hresult
    exact ⟨Nat.le_succ _, iff_of_true (Nat.lt_succ_self _) hopen⟩
  | ended hopen _ _ _ =>
    obtain rfl := Except.ok.inj hresult
    exact ⟨Nat.le_succ _, iff_of_true (Nat.lt_succ_self _) hopen⟩
  | again hopen _ _ ih =>
    have hmore := (ih hresult).1
    exact ⟨by omega, iff_of_true (by omega) hopen⟩

end Calls

section Events

/-- The events of a tool call, with a payload of the observation left open. -/
theorem events_eq (execution : ToolExecution) : ∃ called observed, execution.events =
    (if 0 < execution.attempts then [⟨.toolCalled, called⟩] else []) ++ [⟨.toolObserved, observed⟩,
      ⟨.stepCompleted, [("tool_called", .bool (decide (0 < execution.attempts)))]⟩] := ⟨_, _, rfl⟩

theorem toolCalled_iff (execution : ToolExecution) :
    (∃ event ∈ execution.events, event.eventType = .toolCalled) ↔ 0 < execution.attempts := by
  obtain ⟨called, observed, hevents⟩ := events_eq execution
  by_cases h : 0 < execution.attempts <;> simp [hevents, h]

theorem stepCalled_iff (execution : ToolExecution) :
    (∃ event ∈ execution.events, event.eventType = .stepCompleted ∧
      event.payload.get? "tool_called" = some (.bool true)) ↔ 0 < execution.attempts := by
  obtain ⟨called, observed, hevents⟩ := events_eq execution
  by_cases h : 0 < execution.attempts <;> simp [hevents, h]

/-- What an outcome and the events of its step say about the adapter is what happened. -/
structure Honest (run : Run) (execution : ToolExecution) : Prop where
  attempts : 0 < execution.attempts ↔ run.calls ≠ []
  called : ∀ result : LoopResult, result.execution = some execution →
    ((∃ event ∈ eventsFor result, event.eventType = .toolCalled) ↔ run.calls ≠ [])
  completed : ∀ result : LoopResult, result.execution = some execution →
    ((∃ event ∈ eventsFor result, event.eventType = .stepCompleted ∧
      event.payload.get? "tool_called" = some (.bool true)) ↔ run.calls ≠ [])

theorem honest_iff (run : Run) (execution : ToolExecution) :
    Honest run execution ↔ (0 < execution.attempts ↔ run.calls ≠ []) := by
  refine ⟨Honest.attempts, fun h => ⟨h, fun result hresult => ?_, fun result hresult => ?_⟩⟩
  · rw [← h, ← toolCalled_iff, eventsFor, hresult]
  · rw [← h, ← stepCalled_iff, eventsFor, hresult]

variable (π : Platform) (x : ToolExecutor V) (q : Request V) (env : Surroundings)

omit [Comparable V] in
theorem readOnly_or_once : q.spec.risk = .readOnly ∨ q.maxAttempts - 1 = 0 := by
  by_cases hrisk : q.spec.risk = .readOnly
  · exact .inl hrisk
  · exact .inr (attempted_once hrisk)

/-- For every tool, request, policy, clock and adapter: the outcome and the events of its step tell
truly whether the adapter was called, if and only if an attempt that begins finds the deadline still
ahead when its remaining time is computed, or none begins. -/
theorem tool_called_iff :
    (∀ execution, (x.execute π q env).result = .ok execution → Honest (x.execute π q env) execution) ↔
      (Begins π x q env → q.Reaches env (q.maxAttempts - 1) 0) := by
  have huntouched : ∀ {code : String}, ¬ Begins π x q env →
      ((∀ execution, (⟨.ok (toolError q.spec code false 0), []⟩ : Run).result = .ok execution →
        Honest ⟨.ok (toolError q.spec code false 0), []⟩ execution) ↔
        (Begins π x q env → q.Reaches env (q.maxAttempts - 1) 0)) := by
    intro code hnot
    refine iff_of_true (fun execution hexecution => ?_) (fun h => absurd h hnot)
    obtain rfl := Except.ok.inj hexecution
    exact (honest_iff _ _).mpr (by simp [toolError])
  have hexecution := execute_execution π x q env
  generalize x.execute π q env = run at hexecution ⊢
  cases hexecution with
  | denied h => exact huntouched fun hbegins => by simp [hbegins.admitted] at h
  | raised h hpolicy =>
    refine iff_of_true (fun _ h => nomatch h) fun hbegins => ?_
    rw [hbegins.allowed] at hpolicy
    exact nomatch hpolicy
  | policyDenied h hpolicy => exact huntouched fun hbegins => by simp [hbegins.allowed] at hpolicy
  | unregistered h hpolicy hadapter => exact huntouched fun hbegins => hadapter hbegins.registered
  | attempted h hpolicy hadapter =>
    have hattempted := attempts_attempted q env (q.maxAttempts - 1) 0
    have hcalls := hattempted.calls_iff (readOnly_or_once q)
    obtain ⟨execution, hresult, _⟩ := hattempted.disciplined.1
    have hcounted := (hattempted.counted hresult).2
    have hhonest : (∀ e, (attempts q env (q.maxAttempts - 1) 0).result = .ok e →
        Honest (attempts q env (q.maxAttempts - 1) 0) e) ↔
        (0 < execution.attempts ↔ q.Reaches env (q.maxAttempts - 1) 0) := by
      rw [← hcalls, ← honest_iff]
      refine ⟨fun hall => hall execution hresult, fun hone e he => ?_⟩
      obtain rfl := Except.ok.inj (hresult.symm.trans he)
      exact hone
    rw [hhonest, hcounted]
    cases hopen : q.expired (env.attempt 0).checkedAt with
    | false =>
      have hbegins : Begins π x q env := ⟨h, hpolicy, hadapter, hopen⟩
      simp [hbegins]
    | true =>
      have hnot : ¬ Begins π x q env := fun hbegins => by simp [hbegins.inTime] at hopen
      have hunreached : ¬ q.Reaches env (q.maxAttempts - 1) 0 := by
        rintro ⟨i, _, hchecked, _⟩
        exact absurd (hchecked 0 (Nat.zero_le _)) (by simp [hopen])
      simp [hnot, hunreached]

end Events

section Demo

/-- A refund that is committed. -/
def demoWrite : ToolSpec where
  name := "commit_refund"
  version := "1"
  inputSchema := []
  outputSchema := [("required", .arr [.str "status"]),
    ("properties", .obj [("status", .obj [("type", .str "string")])])]
  risk := .write
  requiredScopes := []
  timeoutMs := 1000
  maxAttempts := 1
  modelVisible := false

def demoRequest (spec : ToolSpec) (contract : Contract spec) (deadlineAt : Option ℤ) : Request Value where
  spec := spec
  contract := contract
  context := ⟨"run", "conversation", "tenant", "actor", [], none, none, none⟩
  arguments := [("order_id", .str "ORD-DEMO-002")]
  deadlineAt := deadlineAt

theorem demoWrite_contract : Contract demoWrite := ⟨by decide, by decide⟩

/-- Every attempt reads the same. -/
def demoSurroundings (calledAt : ℤ) (answer : AdapterAnswer) : Surroundings where
  enteredAt := 0
  authorize _ _ _ := true
  attempt _ := ⟨0, 0, calledAt, answer, 1 / 10⟩

def demoExecutor : ToolExecutor Value where
  adapters := ["commit_refund", "get_order_status"]

theorem write_reported_raised :
    ReportsUnknown demoWrite (demoExecutor.execute demoPlatform
        (demoRequest demoWrite demoWrite_contract none) (demoSurroundings 0 .raised)) ↔
      (CallsAdapter demoPlatform demoExecutor (demoRequest demoWrite demoWrite_contract none)
        (demoSurroundings 0 .raised) → ((demoSurroundings 0 .raised).attempt 0).Unambiguous demoWrite) :=
  write_reported_iff demoPlatform demoExecutor (q := demoRequest demoWrite demoWrite_contract none)
    (demoSurroundings 0 .raised) (by decide)

/-- A committed refund whose adapter answers with another version. -/
def demoMisversioned : AdapterAnswer :=
  .returned ⟨"commit_refund", "2", some [("status", .str "accepted")], none⟩

/-- The refund may have happened, and a definite failure is reported. -/
theorem misversioned_write_denied : ¬ ReportsUnknown demoWrite (demoExecutor.execute demoPlatform
    (demoRequest demoWrite demoWrite_contract none) (demoSurroundings 0 demoMisversioned)) := by
  intro hreports
  have hcalls : CallsAdapter demoPlatform demoExecutor (demoRequest demoWrite demoWrite_contract none)
      (demoSurroundings 0 demoMisversioned) := by
    refine ⟨⟨?_, ?_, ?_, ?_⟩, ?_⟩
    all_goals decide +kernel
  have hanswer := unambiguous_of_reports demoPlatform demoExecutor _ (by decide) hcalls hreports
  exact absurd (hanswer.wellFormed _ rfl (by decide +kernel)).version (by decide)

/-- The deadline passes between the check of the loop and the computation of the time that is left:
the refund is never called, and its step says that it was. -/
theorem uncalled_write_announced : ∃ execution, (demoExecutor.execute demoPlatform
      (demoRequest demoWrite demoWrite_contract (some 10)) (demoSurroundings 10 .raised)).result =
        .ok execution ∧
    ¬ Honest (demoExecutor.execute demoPlatform (demoRequest demoWrite demoWrite_contract (some 10))
      (demoSurroundings 10 .raised)) execution := by
  have hbegins : Begins demoPlatform demoExecutor (demoRequest demoWrite demoWrite_contract (some 10))
      (demoSurroundings 10 .raised) := by
    refine ⟨?_, ?_, ?_, ?_⟩
    all_goals decide +kernel
  rw [execute_of_begins _ _ _ hbegins]
  have hattempted := attempts_attempted (demoRequest demoWrite demoWrite_contract (some 10))
    (demoSurroundings 10 .raised) 0 0
  obtain ⟨execution, hresult, _⟩ := hattempted.disciplined.1
  have hcounted := (hattempted.counted hresult).2.mpr hbegins.inTime
  refine ⟨execution, hresult, fun hhonest => ?_⟩
  have hreached := (hattempted.calls_iff (.inr rfl)).mp (hhonest.attempts.mp hcounted)
  exact not_reaches_zero _ _ (by decide +kernel) hreached

end Demo

end CommerceAgent.Tools
