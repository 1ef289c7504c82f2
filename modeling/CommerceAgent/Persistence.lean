import CommerceAgent.Repositories

/-! The checkpoint boundary over the run repository. -/
namespace CommerceAgent

open Json Programs

/-- The context that `_commit` dumps; `model_copy` does not validate. -/
def RunContext.next (context : RunContext) (status : RunStatus) (state : Dict) : RunContext :=
  { context with
    status := status
    state := state
    stepCount := context.stepCount + 1
    checkpointVersion := context.checkpointVersion + 1 }

/-- The arguments of `commit_step` for one reduced state. -/
def checkpointStep (context : RunContext) (status : RunStatus) (nextStep : String)
    (state : Dict) (events : List DomainEvent) (completion : Option MutationCompletion) :
    CommitStep where
  runId := context.runId
  tenantId := context.tenantId
  expectedVersion := context.checkpointVersion
  nextStatus := status
  nextStep := nextStep
  checkpoint := context.next status state
  events := events
  mutationCompletion := completion

/-- `RepositoryCheckpointStore._commit`; the version comes from the row read afterwards. -/
def commitCheckpoint (context : RunContext) (status : RunStatus) (nextStep : String)
    (state : Dict) (events : List DomainEvent) (completion : Option MutationCompletion) :
    Act ℕ :=
  if completion.isSome ∧ events.isEmpty then
    .raise (.valueError "a mutation checkpoint requires an event")
  else do
    let result ← commitStep (checkpointStep context status nextStep state events completion)
    pure result.rowVersion

def checkpoint (context : RunContext) (status : RunStatus) (nextStep : String) (state : Dict)
    (events : List DomainEvent) : Act ℕ :=
  commitCheckpoint context status nextStep state events none

def checkpointMutation (context : RunContext) (status : RunStatus) (nextStep : String)
    (state : Dict) (events : List DomainEvent) (completion : MutationCompletion) : Act ℕ :=
  commitCheckpoint context status nextStep state events (some completion)

/-- The calls of a checkpoint: the commit, if its completion is an observation, and a read. -/
theorem uses_commitCheckpoint_of {P : {β : Type} → Op β → Prop} {context : RunContext}
    {status : RunStatus} {nextStep : String} {state : Dict} {events : List DomainEvent}
    {c : Option MutationCompletion}
    (hcommit : (∀ c' ∈ c, c'.status.IsFinal) →
      P (.runs (.commitStep (checkpointStep context status nextStep state events c))))
    (hload : P (.runs (.loadRun context.runId context.tenantId none))) :
    Uses P (commitCheckpoint context status nextStep state events c) := by
  unfold commitCheckpoint commitStep
  refine .ite (.raise _) (.bind (.ite (.raise _) ?_) fun _ => .pure _)
  by_cases hfinal : c.any fun c => ¬ c.status.IsFinal
  · simp only [checkpointStep, hfinal, if_true]
    exact .raise _
  · have hall : ∀ c' ∈ c, c'.status.IsFinal := by
      intro c' hc'
      simpa [Option.mem_def.mp hc'] using hfinal
    simp only [checkpointStep, hfinal, Bool.false_eq_true, if_false]
    refine .bind (.perform (hcommit hall)) fun _ => .bind (.perform hload) fun snapshot => ?_
    cases snapshot with
    | none => exact .raise _
    | some run => exact .pure _

/-- The context of the latest checkpoint; before the first one, the one that entered. -/
def RunContext.current (entering : RunContext) (db : DB) : RunContext :=
  ((db.latestCheckpoint entering.runId).map RunCheckpoint.stateJson).getD entering

/-- `RepositoryCheckpointStore.resume`. -/
def resume (runId : Uuid) (tenantId : String) : Act (Option RunContext) := do
  let state ← Prog.perform (.runs (.loadLatestCheckpoint runId tenantId))
  match state with
  | none => pure none
  | some state => do
    let context ← Prog.ofExcept state.modelValidate
    pure (some context)

end CommerceAgent
