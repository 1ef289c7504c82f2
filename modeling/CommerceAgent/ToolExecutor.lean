import CommerceAgent.AgentStep
import CommerceAgent.Policies
import Mathlib.Algebra.Order.Field.Rat

/-! The trusted execution boundary of `tools/executor.py` in full: its checks, the policy, and the
attempts with their deadlines. Clocks and adapters answer as they like. -/
namespace CommerceAgent.Tools

open Json Agent Operators Policies

/-- The bounds of the `ToolSpec` and `RetryPolicy` contracts that the executor relies on. -/
structure Contract (spec : ToolSpec) : Prop where
  timeout : 1 ≤ spec.timeoutMs ∧ spec.timeoutMs ≤ 30000
  attempts : 1 ≤ spec.maxAttempts ∧ spec.maxAttempts ≤ 2

/-- The arguments of `execute`. -/
structure Request (V : Type) where
  spec : ToolSpec
  contract : Contract spec
  context : ToolContext
  policyVersion : Option String := none
  arguments : Dict
  policyFacts : Option (Facts V) := none
  /-- In microseconds, as `datetime.now` counts them. -/
  deadlineAt : Option ℤ := none

structure ToolExecutor (V : Type) [Comparable V] where
  adapters : List String
  policy : Option (PolicyEngine V) := none
  hasAuthorizer : Bool := false

/-- What one attempt reads from its surroundings, in this order. -/
structure Attempt where
  /-- `datetime.now` at the head of the loop. -/
  checkedAt : ℤ
  /-- The clock, in seconds. -/
  startedAt : ℚ
  /-- `datetime.now` when the remaining time is computed. -/
  calledAt : ℤ
  /-- What an adapter that is called answers before its timeout. -/
  answer : AdapterAnswer
  endedAt : ℚ

structure Surroundings where
  enteredAt : ℤ
  /-- Whether the authorizer returns `True`; an exception counts as no. -/
  authorize : String → Value → ToolContext → Bool
  attempt : ℕ → Attempt

/-- What became of a call of `execute`, and the attempts in which the adapter was called. -/
structure Run where
  result : Except Raised ToolExecution
  calls : List Attempt

variable {V : Type} [Comparable V]

section Checks

variable (x : ToolExecutor V) (q : Request V) (env : Surroundings)

/-- Whether the deadline has passed at a reading of `datetime.now`. -/
def Request.expired (now : ℤ) : Bool := q.deadlineAt.any (· ≤ now)

/-- `_valid_runtime_binding`. -/
def validRuntimeBinding (spec : ToolSpec) (context : ToolContext) : Bool :=
  !(decide (spec.allowedWorkflows ≠ []) && context.workflow.all (· ∉ spec.allowedWorkflows)) &&
    (decide (spec.allowedSteps = []) || context.currentStep.any (· ∈ spec.allowedSteps))

/-- The ownership check of a bound resource. -/
def ownsResource : Bool :=
  match q.spec.resourceBinding with
  | none => true
  | some binding =>
    match q.arguments.get? binding.argument with
    | none => false
    | some .null => false
    | some resourceId => x.hasAuthorizer && env.authorize binding.ownerCheck resourceId q.context

/-- The error code of the first check before the policy that denies. -/
def preDenial : Option String :=
  if ¬ validObject (some q.arguments) q.spec.inputSchema then some "INVALID_ARGUMENT"
  else if q.arguments.any (·.1 ∈ SYSTEM_ARGUMENT_FIELDS) then some "INVALID_ARGUMENT"
  else if ¬ validRuntimeBinding q.spec q.context then some "PERMISSION_DENIED"
  else if q.expired env.enteredAt then some "UPSTREAM_TIMEOUT"
  else if q.spec.requiredScopes.any (· ∉ q.context.scopes) then some "PERMISSION_DENIED"
  else if ¬ ownsResource x q env then some "RESOURCE_NOT_FOUND"
  else none

variable (π : Platform)

/-- Whether the policy allows the tool. Of the exceptions only a `ValueError` is caught. -/
def policyAllows : Except Raised Bool :=
  match x.policy, q.policyFacts with
  | none, _ => .ok true
  | some _, none => .ok false
  | some engine, some facts =>
    if q.policyVersion ≠ some engine.version then .ok false
    else match engine.evaluate π q.spec.name facts with
      | .ok decision => .ok (decision.effect = .allow)
      | .error .valueError => .ok false
      | .error e => .error e

end Checks

section Attempts

variable (q : Request V) (env : Surroundings)

/-- `call_timeout`, in seconds. -/
def callTimeout (calledAt : ℤ) : ℚ :=
  match q.deadlineAt with
  | none => q.spec.timeoutMs / 1000
  | some deadline => min (q.spec.timeoutMs / 1000) (max 0 ((deadline - calledAt : ℤ) / 1000000))

/-- `_invoke_with_timeout`: without time left the adapter is not called. -/
def invokeWithTimeout (timeout : ℚ) (answer : AdapterAnswer) : AdapterAnswer :=
  if timeout ≤ 0 then .timedOut else answer

/-- The result that an answer stands for, if it stands for one. -/
def answerResult (spec : ToolSpec) : AdapterAnswer → Option Agent.ToolResult
  | .timedOut => some spec.timeoutResult
  | .raised => some (spec.errorResult
      (if spec.risk = .readOnly then "INTERNAL_ERROR" else "STATUS_UNKNOWN") false)
  | .returned result => some result
  | .other => none

/-- Whether an attempt took longer than the tool may take. -/
def Attempt.overran (spec : ToolSpec) (a : Attempt) : Prop :=
  (spec.timeoutMs : ℚ) < (a.endedAt - a.startedAt) * 1000

instance (spec : ToolSpec) (a : Attempt) : Decidable (a.overran spec) :=
  inferInstanceAs (Decidable (_ < _))

/-- The result of an attempt before it is checked. -/
def Attempt.result? (spec : ToolSpec) (timeout : ℚ) (a : Attempt) : Option Agent.ToolResult :=
  (answerResult spec (invokeWithTimeout timeout a.answer)).map fun result =>
    if a.overran spec then spec.timeoutResult else result

/-- The loop of `execute`, with `made` attempts behind it and at most `left + 1` to go. -/
def attempts : ℕ → ℕ → Run
  | left, made =>
    let a := env.attempt made
    if q.expired a.checkedAt then ⟨.ok (toolError q.spec "UPSTREAM_TIMEOUT" false made), []⟩
    else
      let timeout := callTimeout q a.calledAt
      let called := if timeout ≤ 0 then [] else [a]
      match a.result? q.spec timeout with
      | none => ⟨.ok (toolError q.spec "INTERNAL_ERROR" false (made + 1)), called⟩
      | some result =>
        match settleAttempt q.spec result (made + 1) with
        | .inl execution => ⟨.ok execution, called⟩
        | .inr result =>
          match left with
          | 0 => ⟨.ok (result.execution (made + 1)), called⟩
          | left + 1 =>
            let rest := attempts left (made + 1)
            ⟨rest.result, called ++ rest.calls⟩

/-- `max_attempts`. -/
def Request.maxAttempts : ℕ := if q.spec.risk = .readOnly then q.spec.maxAttempts else 1

end Attempts

/-- `ToolExecutor.execute`; the observation that `_record` appends cannot change the outcome. -/
def ToolExecutor.execute (π : Platform) (x : ToolExecutor V) (q : Request V) (env : Surroundings) : Run :=
  match preDenial x q env with
  | some code => ⟨.ok (toolError q.spec code false 0), []⟩
  | none =>
    match policyAllows x q π with
    | .error e => ⟨.error e, []⟩
    | .ok false => ⟨.ok (toolError q.spec "POLICY_DENIED" false 0), []⟩
    | .ok true =>
      if q.spec.name ∉ x.adapters then ⟨.ok (toolError q.spec "INTERNAL_ERROR" false 0), []⟩
      else attempts q env (q.maxAttempts - 1) 0

end CommerceAgent.Tools
