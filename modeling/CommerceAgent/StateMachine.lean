import CommerceAgent.Protocols

/-! The legal lifecycle transitions of a run. -/
namespace CommerceAgent

open RunStatus

def TERMINAL : List RunStatus := [completed, failed, cancelled, expired]

def TRANSITIONS : RunStatus → List RunStatus
  | created => [routing, cancelled, failed]
  | routing => [runningReadonly, runningWorkflow, waitingHuman, failed, cancelled]
  | runningReadonly =>
    [runningReadonly, waitingUser, waitingHuman, completed, failed, cancelled, expired]
  | runningWorkflow =>
    [waitingUser, waitingConfirmation, committing, waitingHuman, failed, cancelled, expired]
  | waitingUser => [runningReadonly, runningWorkflow, waitingHuman, cancelled, expired]
  | waitingConfirmation => [waitingConfirmation, committing, runningWorkflow, cancelled, expired]
  | committing => [verifying, waitingHuman, failed]
  | verifying => [completed, waitingHuman, failed]
  | waitingHuman => [completed, failed, cancelled]
  | _ => []

abbrev RunStatus.IsTerminal (status : RunStatus) : Prop := status ∈ TERMINAL

def requireTransition (current target : RunStatus) : Except Exc Unit :=
  if current.IsTerminal ∨ target ∉ TRANSITIONS current then .error (.stateTransition current target)
  else .ok ()

theorem transitions_of_terminal {status : RunStatus} (h : status.IsTerminal) :
    TRANSITIONS status = [] := by
  cases status <;> revert h <;> decide

end CommerceAgent
