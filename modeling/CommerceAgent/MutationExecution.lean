import CommerceAgent.Repositories

/-! The crash-safe boundary around an externally visible mutation adapter. -/
namespace CommerceAgent

open Json Programs

structure MutationExecutionOutcome where
  status : MutationExecutionStatus
  businessReference : Option String
  responseRedacted : Dict
  reused : Bool

/-- `_unknown`. -/
def unknownOutcome (reused : Bool) : MutationExecutionOutcome where
  status := .unknown
  businessReference := none
  responseRedacted := []
  reused := reused

/-- `_replay`. -/
def replay (stored : StoredMutationExecution) : Option MutationExecutionOutcome :=
  match stored.status with
  | .reserved => none
  | .inProgress => some (unknownOutcome true)
  | status => some ⟨status, stored.businessReference, stored.responseRedacted.getD [], true⟩

def MutationAdapterStatus.outcome : MutationAdapterStatus → MutationExecutionStatus
  | succeeded => .succeeded
  | rejected => .failed
  | unknown => .unknown

/-- `_completion`. -/
def completion (intent : MutationExecutionIntent) (result : MutationAdapterResult) :
    MutationCompletion where
  recordId := intent.recordId
  requestFingerprint := intent.requestFingerprint
  status := result.status.outcome
  businessReference := result.businessReference
  responseRedacted := result.responseRedacted

/-- `_require_intent`. -/
def requireIntent (intent : MutationExecutionIntent) : Act StoredMutationExecution := do
  let stored ← Prog.perform (.records (.load intent))
  match stored with
  | none => .raise (.mutationExecution "durable mutation intent is unavailable")
  | some stored => pure stored

/-- What `execute` does once its claim was acquired, with what the checkpoint left behind. -/
def invokeAdapter {γ : Type} (intent : MutationExecutionIntent)
    (adapter : String → Act MutationAdapterResult) (checkpoint : MutationCompletion → Act γ)
    (afterAdapter : Act Unit) : Act (MutationExecutionOutcome × Option γ) := do
  let adapterResult ← (adapter intent.recordId).handle fun _ => pure ⟨.unknown, none, []⟩
  afterAdapter
  let completion := completion intent adapterResult
  let left ← checkpoint completion
  pure (⟨completion.status, completion.businessReference, completion.responseRedacted, false⟩,
    some left)

/-- `DurableMutationBoundary.execute`. The checkpoint is a closure that writes variables of its
caller: the result holds what it left there, if it ran. -/
def execute {γ : Type} (intent : MutationExecutionIntent)
    (adapter : String → Act MutationAdapterResult) (checkpoint : MutationCompletion → Act γ)
    (afterAdapter : Act Unit := pure ()) : Act (MutationExecutionOutcome × Option γ) := do
  let current ← requireIntent intent
  match replay current with
  | some outcome => pure (outcome, none)
  | none =>
    let claim ← claim intent
    if claim.acquired = false then
      match replay claim.execution with
      | some outcome => pure (outcome, none)
      | none => pure (unknownOutcome true, none)
    else if claim.execution.status ≠ .inProgress then
      .raise (.mutationExecution "claimed mutation did not enter in_progress")
    else invokeAdapter intent adapter checkpoint afterAdapter

/-- `DurableMutationBoundary.recover`. -/
def recover (intent : MutationExecutionIntent) (checkpoint : MutationCompletion → Act Unit) :
    Act MutationExecutionOutcome := do
  let current ← requireIntent intent
  if current.status = .reserved then pure (unknownOutcome true)
  else if current.status ≠ .inProgress then
    match replay current with
    | none => .raise (.mutationExecution "invalid durable mutation state")
    | some outcome => pure outcome
  else do
    checkpoint ⟨intent.recordId, intent.requestFingerprint, .unknown, none, []⟩
    pure (unknownOutcome true)

section Uses

variable {P : {β : Type} → Op β → Prop} (hP : ∀ {β : Type} (t : RecordTx β), P (.records t))

include hP

theorem uses_requireIntent (intent : MutationExecutionIntent) : Uses P (requireIntent intent) := by
  refine .bind (.perform (hP _)) fun stored => ?_
  cases stored with
  | none => exact .raise _
  | some stored => exact .pure _

/-- The calls of the boundary around an adapter and a checkpoint, and what the checkpoint left. -/
theorem yields_execute {γ : Type} {R : γ → Prop} {intent : MutationExecutionIntent}
    {adapter : String → Act MutationAdapterResult} {checkpoint : MutationCompletion → Act γ}
    (hadapter : ∀ key, Uses P (adapter key))
    (hcheckpoint : ∀ completion, Yields P R (checkpoint completion)) :
    Yields P (fun executed => ∀ left, executed.2 = some left → R left)
      (execute intent adapter checkpoint) := by
  have hnone : ∀ outcome : MutationExecutionOutcome, Yields P
      (fun executed => ∀ left, executed.2 = some left → R left)
      (pure (outcome, none) : Act (MutationExecutionOutcome × Option γ)) :=
    fun outcome => .pure fun left hleft => absurd hleft (by simp)
  refine Yields.bind (uses_requireIntent hP intent) fun current _ => ?_
  cases replay current with
  | some outcome => exact hnone outcome
  | none =>
    refine Yields.bind (uses_claim hP intent) fun claimed _ => ?_
    refine .ite (fun _ => ?_) fun _ => .ite (fun _ => .raise _) fun _ => ?_
    · cases replay claimed.execution with
      | some outcome => exact hnone outcome
      | none => exact hnone _
    · refine Yields.bind (Uses.handle (hadapter _) fun _ => .pure _) fun result _ => ?_
      refine Yields.bind (Uses.pure ()) fun _ _ => ?_
      refine Yields.bind (hcheckpoint _) fun left hleft => .pure ?_
      intro left' heq
      obtain rfl := Option.some.inj heq
      exact hleft

end Uses

end CommerceAgent
