import CommerceAgent.ControlPlane
import CommerceAgent.MutationWorkflow

/-! The action of an administrator on a Skill: a claim in the idempotency table, and the mutation, its
audit and its completion under it, any of which may fail before or after it has taken effect. -/
namespace CommerceAgent.Skills

open Json ControlPlane Programs

inductive SkillAction where
  | submit
  | approve
  | reject
  | canary
  | rollback
  deriving DecidableEq, Repr

def SkillAction.value : SkillAction → String
  | submit => "submit"
  | approve => "approve"
  | reject => "reject"
  | canary => "canary"
  | rollback => "rollback"

/-- An exception of a call: a `SkillTransitionError`, or any other. -/
inductive Raised where
  | skillTransition (message : String)
  | other (message : String)

/-- What a call to the database does: it returns, and has taken effect; or it raises, and may have
taken effect nevertheless. -/
inductive Behaviour (α : Type) where
  | returns (a : α)
  | raises (e : Raised) (committed : Bool)

/-- Whether the behaviour of a call has taken effect. -/
def Behaviour.committed {α : Type} : Behaviour α → Bool
  | returns _ => true
  | raises _ committed => committed

def Behaviour.result {α : Type} : Behaviour α → Except Raised α
  | returns a => .ok a
  | raises e _ => .error e

/-- How the calls of an action behave. -/
structure Calls where
  recordId : String
  repository : SkillAction → Behaviour Dict
  audit : Behaviour Unit
  complete : Behaviour Unit := .returns ()
  abandon : Behaviour Unit := .returns ()

structure ActionRequest where
  skillId : String
  action : SkillAction
  reason : String
  confirmation : String
  idempotencyKey : String

inductive Exit where
  | responds (response : Dict)
  | http (statusCode : ℕ) (detail : String)
  | raises (e : Raised)

section Records

/-- `claim`, with nobody else at the record: what it answers, and the record that it leaves. -/
def claimRecord (slot : Slot) (recordId fingerprint : String) (row : Option Record) :
    Except Failure Claim × Option Record :=
  if ¬ (8 ≤ slot.idempotencyKey.length ∧ slot.idempotencyKey.length ≤ 128) then
    (.error (.valueError "invalid_idempotency_key"), row)
  else if ¬ (1 ≤ slot.operation.length ∧ slot.operation.length ≤ 80) ∨ fingerprint = "" then
    (.error (.valueError "invalid_idempotency_request"), row)
  else
    let row' := row.getD ⟨recordId, fingerprint, .reserved, none⟩
    if row'.requestFingerprint ≠ fingerprint then (.error .conflict, row)
    else match row'.status, row'.response with
    | .completed, none => (.error (.runtimeError "completed_idempotency_response_invalid"), row)
    | .completed, some response => (.ok ⟨row'.recordId, false, some response⟩, row)
    | .inProgress, _ => (.error .inProgress, row)
    | .reserved, _ => (.ok ⟨row'.recordId, true, none⟩, some { row' with status := .inProgress })

/-- The record after `complete`. -/
def completed (recordId : String) (response : Dict) (row : Option Record) : Option Record :=
  row.map fun row => if row.recordId = recordId ∧ row.status = .inProgress then
    { row with status := .completed, response := some response } else row

/-- The record after `abandon`. -/
def abandoned (recordId : String) (row : Option Record) : Option Record :=
  row.filter fun row => ¬ (row.recordId = recordId ∧ row.status = .inProgress)

/-- Whether `complete` changes one row. -/
def completes (recordId : String) (row : Option Record) : Bool :=
  row.any fun row => row.recordId = recordId ∧ row.status = .inProgress

end Records

section Alone

variable {κ : Type} [DecidableEq κ]

/-- What a worker that has the database to itself is answered, and the record that it leaves. -/
def alone {α : Type} (recordId : String) (p : ControlPlane.Act κ α) (row : Option Record) :
    Option (Except Failure α) × Option Record :=
  let d := drive (fun choice s {_} o => ControlPlane.answer choice s o)
    (List.replicate 6 ⟨false, false, recordId⟩) p { row := row }
  (d.2.1.outcome?, d.2.2.row)

theorem claim_alone (slot : Slot) (c : κ) (recordId fingerprint : String) (row : Option Record) :
    alone recordId (ControlPlane.claim slot c fingerprint) row =
      (some (claimRecord slot recordId fingerprint row).1, (claimRecord slot recordId fingerprint row).2) := by
  unfold alone ControlPlane.claim claimRecord
  split
  · rfl
  split
  · rfl
  cases row with
  | none =>
    simp [transaction, drive, Prog.bind, Prog.handle, ControlPlane.answer, Shared.execute, Shared.change,
      Shared.visible, Shared.free, Shared.committed, Shared.changed, Prog.outcome?, Prog.perform, Bind.bind,
      Prog.ofExcept, List.replicate, Pure.pure]
  | some row =>
    obtain ⟨id, other, status, response⟩ := row
    by_cases hsame : other = fingerprint
    · cases status <;> cases response <;>
        simp [hsame, transaction, drive, Prog.bind, Prog.handle, ControlPlane.answer, Shared.execute,
          Shared.change, Shared.visible, Shared.free, Shared.committed, Shared.changed, Shared.dropped,
          Prog.outcome?, Prog.perform, Bind.bind, Prog.ofExcept, List.replicate, Pure.pure]
    · simp [hsame, transaction, drive, Prog.bind, Prog.handle, ControlPlane.answer, Shared.execute,
        Shared.visible, Shared.free, Shared.dropped, Prog.outcome?, Prog.perform, Bind.bind,
        Prog.ofExcept, List.replicate, Pure.pure]

theorem complete_alone (c : κ) (fresh recordId : String) (response : Dict) (row : Option Record) :
    alone fresh (ControlPlane.complete c recordId response) row =
      (some (if completes recordId row then .ok () else
        .error (.runtimeError "idempotency_completion_failed")), completed recordId response row) := by
  cases row with
  | none => rfl
  | some row =>
    by_cases hopen : row.recordId = recordId ∧ row.status = .inProgress <;>
      simp [alone, ControlPlane.complete, transaction, drive, Prog.bind, Prog.handle, ControlPlane.answer,
        Shared.execute, Shared.change, Shared.visible, Shared.free, hopen, completes, completed,
        Shared.committed, Shared.changed, Prog.outcome?, Prog.perform, Bind.bind, Prog.ofExcept,
        List.replicate, Pure.pure]

theorem abandoned_some (recordId : String) (row : Record) : abandoned recordId (some row) =
    if row.recordId = recordId ∧ row.status = .inProgress then none else some row := by
  unfold abandoned Option.filter
  by_cases hopen : row.recordId = recordId ∧ row.status = .inProgress <;> simp [hopen]

theorem abandon_alone (c : κ) (fresh recordId : String) (row : Option Record) :
    alone fresh (ControlPlane.abandon c recordId) row = (some (.ok ()), abandoned recordId row) := by
  cases row with
  | none => rfl
  | some row =>
    by_cases hopen : row.recordId = recordId ∧ row.status = .inProgress <;>
      simp [alone, ControlPlane.abandon, transaction, drive, Prog.bind, Prog.handle, ControlPlane.answer,
        Shared.execute, Shared.change, Shared.visible, Shared.free, hopen, abandoned_some,
        Shared.committed, Shared.changed, Prog.outcome?, Prog.perform, Bind.bind, Prog.ofExcept,
        List.replicate, Pure.pure]

end Alone

/-- How an action has gone: its exit, the claim that it acquired, whether a mutation was committed
under it and what it answered, and the record. -/
structure Outcome where
  exit : Exit
  acquired : Option String := none
  mutated : Bool := false
  answer : Option Dict := none
  row : Option Record

variable (π : Platform)

/-- `_require_action_confirmation`; `compare_digest` takes no other texts than ASCII ones. -/
def requireActionConfirmation (action : SkillAction) (skillId confirmation : String) : Except Exit Unit :=
  let expected := "CONFIRM " ++ π.upper action.value ++ " " ++ skillId
  if ¬ (Texts.strip confirmation).toList.all (fun c => c.toNat < 128) then .error (.raises (.other "TypeError"))
  else if Texts.strip confirmation ≠ expected then .error (.http 400 "confirmation_required")
  else .ok ()

/-- What the action does with a claim that it has acquired. -/
def underClaim (action : SkillAction) (calls : Calls) (recordId : String) (row : Option Record) : Outcome :=
  match calls.repository action with
  | .raises (.skillTransition message) committed =>
    { exit := match calls.abandon.result with
        | .ok () => .http 409 message
        | .error e => .raises e
      acquired := some recordId
      mutated := committed
      row := if calls.abandon.committed then abandoned recordId row else row }
  | .raises e committed => { exit := .raises e, acquired := some recordId, mutated := committed, row := row }
  | .returns result =>
    match calls.audit with
    | .raises e _ =>
      { exit := .raises e, acquired := some recordId, mutated := true, answer := some result, row := row }
    | .returns () =>
      { exit := match calls.complete.result with
          | .error e => .raises e
          | .ok () =>
            if completes recordId row then .responds result
            else .raises (.other "idempotency_completion_failed")
        acquired := some recordId
        mutated := true
        answer := some result
        row := if calls.complete.committed then completed recordId result row else row }

/-- `_skill_action`. -/
def skillAction (request : ActionRequest) (calls : Calls) (row : Option Record) : Outcome :=
  match requireActionConfirmation π request.action request.skillId request.confirmation with
  | .error exit => { exit := exit, row := row }
  | .ok () =>
    if Texts.strip request.reason = "" then { exit := .http 400 "reason_required", row := row }
    else
      let slot : Slot := ⟨"demo-tenant", "skill_" ++ request.action.value, request.idempotencyKey⟩
      let fingerprint := hashSecret π
        ("skill:" ++ request.skillId ++ ":" ++ request.action.value ++ ":" ++ hashSecret π request.reason)
      match claimRecord slot calls.recordId fingerprint row with
      | (.error .conflict, row) => { exit := .http 409 "idempotency_fingerprint_conflict", row := row }
      | (.error .inProgress, row) => { exit := .http 409 "idempotency_request_in_progress", row := row }
      | (.error (.valueError message), row) => { exit := .raises (.other message), row := row }
      | (.error (.runtimeError message), row) => { exit := .raises (.other message), row := row }
      | (.error _, row) => { exit := .raises (.other "database"), row := row }
      | (.ok claim, row) =>
        if claim.acquired then underClaim request.action calls claim.recordId row
        else { exit := .responds (claim.response.getD []), row := row }

section Settled

variable {π} {request : ActionRequest} {calls : Calls} {row : Option Record}

/-- The claim is no longer open: a committed mutation is completed with its answer, and what was not
committed is released. -/
def Outcome.Settled (o : Outcome) : Prop :=
  (o.mutated = true ∧ ∃ row answer, o.row = some row ∧ row.status = .completed ∧
    o.answer = some answer ∧ row.response = some answer) ∨
  (o.mutated = false ∧ o.row = none)

/-- The mutation took effect, was audited and its completion took effect; or it was refused before it
took effect, and the release did. -/
def Calls.Clean (calls : Calls) (action : SkillAction) : Prop :=
  (∃ result, calls.repository action = .returns result ∧ calls.audit = .returns () ∧
    calls.complete.committed = true) ∨
  ∃ message, calls.repository action = .raises (.skillTransition message) false ∧ calls.abandon.committed = true

theorem claimRecord_acquired {slot : Slot} {recordId fingerprint : String} {claim : Claim} {row' : Option Record}
    (h : claimRecord slot recordId fingerprint row = (.ok claim, row')) (hacquired : claim.acquired = true) :
    ∃ record, row' = some record ∧ record.recordId = claim.recordId ∧ record.status = .inProgress := by
  unfold claimRecord at h
  split at h
  · exact absurd (Prod.mk.inj h).1 (by simp)
  split at h
  · exact absurd (Prod.mk.inj h).1 (by simp)
  dsimp only at h
  split at h
  · exact absurd (Prod.mk.inj h).1 (by simp)
  split at h
  · exact absurd (Prod.mk.inj h).1 (by simp)
  · obtain rfl := Except.ok.inj (Prod.mk.inj h).1
    exact absurd hacquired (by simp)
  · exact absurd (Prod.mk.inj h).1 (by simp)
  · obtain ⟨hclaim, rfl⟩ := Prod.mk.inj h
    obtain rfl := Except.ok.inj hclaim
    exact ⟨_, rfl, rfl, rfl⟩

/-- Under a claim on a record in progress. -/
theorem underClaim_settled_iff {action : SkillAction} {recordId : String} {record : Record}
    (hid : record.recordId = recordId) (hstatus : record.status = .inProgress) :
    (underClaim action calls recordId (some record)).Settled ↔ calls.Clean action := by
  unfold underClaim Calls.Clean
  cases hrepository : calls.repository action with
  | returns result =>
    cases haudit : calls.audit with
    | returns =>
      cases hcomplete : calls.complete.committed <;>
        simp [Outcome.Settled, hstatus, hid, completed]
    | raises e committed => simp [Outcome.Settled, hstatus]
  | raises e committed =>
    cases e with
    | other message => simp [Outcome.Settled]
    | skillTransition message =>
      cases habandon : calls.abandon.committed <;> cases committed <;>
        simp [Outcome.Settled, hstatus, hid, abandoned_some]

/-- An action that has acquired a claim leaves it settled if and only if its mutation was carried
through, or was refused by the repository and the claim released. -/
theorem claim_settled_iff (hacquired : (skillAction π request calls row).acquired.isSome = true) :
    (skillAction π request calls row).Settled ↔ calls.Clean request.action := by
  unfold skillAction at hacquired ⊢
  split
  · rename_i exit hrefused
    simp [hrefused] at hacquired
  rename_i hconfirmed
  simp only [hconfirmed] at hacquired
  split
  · rename_i hreason
    simp [hreason] at hacquired
  rename_i hreason
  simp only [hreason, if_false] at hacquired
  dsimp only at hacquired ⊢
  split
  case h_6 claim row' hclaim =>
    simp only [hclaim] at hacquired
    split
    · rename_i hopen
      obtain ⟨record, rfl, hid, hstatus⟩ := claimRecord_acquired hclaim hopen
      exact underClaim_settled_iff hid hstatus
    · rename_i hclosed
      simp [hclosed] at hacquired
  all_goals
    rename_i hclaim
    simp [hclaim] at hacquired

end Settled

section Demo

def demoAction (action : SkillAction) : ActionRequest where
  skillId := "skill-1"
  action := action
  reason := "reviewed"
  confirmation := "CONFIRM " ++ demoPlatform.upper action.value ++ " skill-1"
  idempotencyKey := "skill-key-1"

/-- The calls of an action whose repository behaves so. -/
def demoCalls (behaviour : Behaviour Dict) : Calls where
  recordId := "record-1"
  repository := fun _ => behaviour
  audit := .returns ()

def demoApproved : Outcome :=
  skillAction demoPlatform (demoAction .approve) (demoCalls (.returns [("status", .str "APPROVED")])) none

/-- A Skill goes to the canary stage where its scope has one already: the unique index refuses it. -/
def demoRefused : Outcome :=
  skillAction demoPlatform (demoAction .canary) (demoCalls (.raises (.other "IntegrityError") false)) none

end Demo

instance demoApproved_facts : Fact (demoApproved.acquired.isSome = true) := ⟨by decide +kernel⟩

theorem claim_settled_demo : demoApproved.Settled := by
  exact (claim_settled_iff demoApproved_facts.out).mpr (.inl ⟨_, rfl, rfl, rfl⟩)

instance demoRefused_facts : Fact (demoRefused.acquired.isSome = true ∧ demoRefused.mutated = false ∧
    demoRefused.row.any (fun row => decide (row.status = .inProgress)) = true ∧
    (skillAction demoPlatform (demoAction .canary) (demoCalls (.returns [])) demoRefused.row).exit matches
      .http 409 "idempotency_request_in_progress") := ⟨by decide +kernel⟩

/-- The claim of an action that failed for any other reason stays open, and its key is refused ever
after. -/
theorem claim_left_open : demoRefused.acquired.isSome = true ∧ demoRefused.mutated = false ∧
    demoRefused.row.any (fun row => decide (row.status = .inProgress)) = true ∧ ¬ demoRefused.Settled ∧
    (skillAction demoPlatform (demoAction .canary) (demoCalls (.returns [])) demoRefused.row).exit matches
      .http 409 "idempotency_request_in_progress" := by
  obtain ⟨hacquired, hmutates, hopen, hretry⟩ := demoRefused_facts.out
  refine ⟨hacquired, hmutates, hopen, ?_, hretry⟩
  rintro (⟨hmutated, _⟩ | ⟨_, hreleased⟩)
  · simp [hmutates] at hmutated
  · exact absurd hopen (by simp [hreleased])

end CommerceAgent.Skills
