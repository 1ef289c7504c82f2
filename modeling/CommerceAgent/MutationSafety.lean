import CommerceAgent.Protocols

/-! The durable states around one externally visible mutation. -/
namespace CommerceAgent

open Json

inductive MutationExecutionStatus where
  | reserved
  | inProgress
  | succeeded
  | failed
  | unknown
  deriving DecidableEq, Repr

def MutationExecutionStatus.value : MutationExecutionStatus → String
  | reserved => "reserved"
  | inProgress => "in_progress"
  | succeeded => "succeeded"
  | failed => "failed"
  | unknown => "unknown"

/-- The outcomes that no statement of the code overwrites. -/
def MutationExecutionStatus.IsFinal : MutationExecutionStatus → Prop
  | succeeded | failed | unknown => True
  | reserved | inProgress => False

instance : DecidablePred MutationExecutionStatus.IsFinal := fun s => by
  cases s <;> unfold MutationExecutionStatus.IsFinal <;> infer_instance

theorem MutationExecutionStatus.IsFinal.eq_failed {s : MutationExecutionStatus} (h : s.IsFinal)
    (hsucc : s ≠ .succeeded) (hunknown : s ≠ .unknown) : s = .failed := by
  cases s with
  | reserved => exact False.elim h
  | inProgress => exact False.elim h
  | succeeded => exact absurd rfl hsucc
  | failed => rfl
  | unknown => exact absurd rfl hunknown

inductive MutationAdapterStatus where
  | succeeded
  | rejected
  | unknown
  deriving DecidableEq, Repr

structure MutationExecutionIntent where
  recordId : Uuid
  tenantId : String
  operation : String
  requestFingerprint : String
  deriving DecidableEq, Repr

structure StoredMutationExecution where
  intent : MutationExecutionIntent
  status : MutationExecutionStatus
  businessReference : Option String := none
  responseRedacted : Option Dict := none

structure MutationExecutionClaim where
  execution : StoredMutationExecution
  acquired : Bool

structure MutationAdapterResult where
  status : MutationAdapterStatus
  businessReference : Option String := none
  responseRedacted : Dict := []

structure MutationCompletion where
  recordId : Uuid
  requestFingerprint : String
  status : MutationExecutionStatus
  businessReference : Option String := none
  responseRedacted : Dict := []

end CommerceAgent
