import CommerceAgent.ConfirmationRepository

/-! The transactions of `MutationExecutionRepository`, and what happens to a record. -/
namespace CommerceAgent

open Json Tables

def IdempotencyRecord.storedExecution (record : IdempotencyRecord) :
    StoredMutationExecution where
  intent := ⟨record.recordId, record.tenantId, record.operation, record.requestFingerprint⟩
  status := record.status
  businessReference := record.businessReference
  responseRedacted := record.responseRedacted

/-- The INSERT of `reserve`, which does nothing on a conflict. -/
def reserveTx (intent : MutationExecutionIntent) (keyHash : String) (expiresAt : Option ℕ) :
    Tx Unit := fun _ db =>
  let record : IdempotencyRecord := {
    recordId := intent.recordId
    tenantId := intent.tenantId
    operation := intent.operation
    idempotencyKeyHash := keyHash
    requestFingerprint := intent.requestFingerprint
    status := .reserved
    expiresAt := expiresAt }
  match db.records.insert? record with
  | none => .ok ((), db)
  | some records => .ok ((), { db with records := records })

/-- `MutationExecutionRepository.load`. -/
def loadExecution (intent : MutationExecutionIntent) : Tx (Option StoredMutationExecution) :=
  fun _ db =>
    match (db.record intent.recordId).filter fun r => r.tenantId = intent.tenantId with
    | none => .ok (none, db)
    | some record =>
      if intent = record.storedExecution.intent then .ok (some record.storedExecution, db)
      else .error .idempotencyConflict

/-- Whether the record is the reserved intent that `claim` may take. -/
def IdempotencyRecord.claimable (intent : MutationExecutionIntent)
    (record : IdempotencyRecord) : Bool :=
  record.recordId = intent.recordId ∧ record.tenantId = intent.tenantId ∧
    record.operation = intent.operation ∧
    record.requestFingerprint = intent.requestFingerprint ∧ record.status = .reserved

def IdempotencyRecord.claimed (record : IdempotencyRecord) : IdempotencyRecord :=
  { record with status := .inProgress, rowVersion := record.rowVersion + 1 }

theorem IdempotencyRecord.neutral_claimed :
    Table.Neutral IdempotencyRecord.clash claimed := fun _ _ => ⟨id, id⟩

/-- The UPDATE of `claim`, with the row it returns. -/
def claimTx (intent : MutationExecutionIntent) : Tx (Option StoredMutationExecution) :=
  fun _ db =>
    let p := IdempotencyRecord.claimable intent
    let claimed := (db.records.rows.find? p).map fun r => r.claimed.storedExecution
    .ok (claimed,
      { db with records := db.records.update p _ IdempotencyRecord.neutral_claimed })

inductive RecordTx : Type → Type
  | reserve (intent : MutationExecutionIntent) (keyHash : String) (expiresAt : Option ℕ)
      : RecordTx Unit
  | load (intent : MutationExecutionIntent) : RecordTx (Option StoredMutationExecution)
  | claim (intent : MutationExecutionIntent) : RecordTx (Option StoredMutationExecution)

namespace RecordTx

def exec : {α : Type} → RecordTx α → Tx α
  | _, .reserve intent keyHash expiresAt => reserveTx intent keyHash expiresAt
  | _, .load intent => loadExecution intent
  | _, .claim intent => claimTx intent

end RecordTx

/-- How the row of an intent may change: it is claimed, and a claimed one is completed. -/
inductive IdempotencyRecord.Advances : IdempotencyRecord → IdempotencyRecord → Prop
  | stays (r : IdempotencyRecord) : Advances r r
  | claimed (r : IdempotencyRecord) (hr : r.status = .reserved) : Advances r r.claimed
  | completed (r : IdempotencyRecord) (hr : r.status = .inProgress)
      (status : MutationExecutionStatus) (hs : status.IsFinal) (reference : Option String)
      (response : Dict) :
      Advances r { r with
        status := status
        businessReference := reference
        responseRedacted := some response
        rowVersion := r.rowVersion + 1 }

/-- The row with an id after a step: new ones are reserved, old ones advance. -/
def RecordAfter (old new : Option IdempotencyRecord) : Prop :=
  match old with
  | none => ∀ r, new = some r → r.status = .reserved
  | some r => ∃ r', new = some r' ∧ r.Advances r'

theorem RecordAfter.refl (old : Option IdempotencyRecord) : RecordAfter old old := by
  cases old with
  | none => exact fun r hr => absurd hr (by simp)
  | some r => exact ⟨r, rfl, .stays r⟩

theorem RecordAfter.of_rows_append {db db' : DB} {r : IdempotencyRecord}
    (h : db'.records.rows = db.records.rows ++ [r]) (hr : r.status = .reserved)
    (recordId : Uuid) : RecordAfter (db.record recordId) (db'.record recordId) := by
  have hfind : db'.record recordId =
      (db.record recordId).or (if r.recordId = recordId then some r else none) := by
    unfold DB.record Table.lookup
    rw [h, List.find?_append]
    by_cases hid : r.recordId = recordId <;> simp [hid]
  rw [hfind]
  cases ho : db.record recordId with
  | none =>
    intro r' hr'
    by_cases hid : r.recordId = recordId
    · rw [if_pos hid] at hr'
      obtain rfl := Option.some.inj hr'
      exact hr
    · rw [if_neg hid] at hr'
      exact absurd hr' (by simp)
  | some r' => exact ⟨r', by simp, .stays r'⟩

theorem RecordAfter.of_update {db db' : DB} {p : IdempotencyRecord → Bool}
    (f : IdempotencyRecord → IdempotencyRecord)
    (h : db'.records.rows = db.records.rows.map (Table.changed p f)) (hkey : ∀ r, (f r).recordId = r.recordId)
    (hp : ∀ r, p r = true → r.Advances (f r)) (recordId : Uuid) :
    RecordAfter (db.record recordId) (db'.record recordId) := by
  have hfind : db'.record recordId = (db.record recordId).map (Table.changed p f) := by
    unfold DB.record Table.lookup
    rw [h]
    exact Table.lookup_changed hkey db.records.rows recordId
  rw [hfind]
  cases ho : db.record recordId with
  | none => exact fun r hr => absurd hr (by simp)
  | some r =>
    refine ⟨_, rfl, ?_⟩
    unfold Table.changed
    split
    · rename_i hpr
      exact hp r hpr
    · exact .stays r

namespace RecordTx

theorem recordAfter {α : Type} {t : RecordTx α} {env : Env} {db db' : DB} {a : α}
    (h : t.exec env db = .ok (a, db')) (recordId : Uuid) :
    RecordAfter (db.record recordId) (db'.record recordId) := by
  cases t with
  | reserve intent keyHash expiresAt =>
    simp only [exec, reserveTx] at h
    split at h
    · obtain rfl : db = db' := congrArg Prod.snd (Except.ok.inj h)
      exact .refl _
    · rename_i records hr
      obtain rfl := congrArg Prod.snd (Except.ok.inj h)
      exact .of_rows_append (Table.insert?_eq_some.mp hr).2 rfl recordId
  | load intent =>
    simp only [exec, loadExecution] at h
    split at h
    · obtain rfl : db = db' := congrArg Prod.snd (Except.ok.inj h)
      exact .refl _
    · split at h
      · obtain rfl : db = db' := congrArg Prod.snd (Except.ok.inj h)
        exact .refl _
      · exact absurd h (by simp)
  | claim intent =>
    obtain rfl := congrArg Prod.snd (Except.ok.inj h)
    have hadv : ∀ r : IdempotencyRecord, r.claimable intent = true → r.Advances r.claimed := by
      intro r hp
      simp only [IdempotencyRecord.claimable, decide_eq_true_eq] at hp
      exact .claimed r hp.2.2.2.2
    exact .of_update IdempotencyRecord.claimed rfl (fun _ => rfl) hadv recordId

/-- Record transactions write records only. -/
theorem frame {α : Type} {t : RecordTx α} {env : Env} {db db' : DB} {a : α}
    (h : t.exec env db = .ok (a, db')) : ∃ records, db' = { db with records := records } := by
  cases t with
  | reserve intent keyHash expiresAt =>
    simp only [exec, reserveTx] at h
    split at h
    · obtain rfl : db = db' := congrArg Prod.snd (Except.ok.inj h)
      exact ⟨_, rfl⟩
    · obtain rfl := congrArg Prod.snd (Except.ok.inj h)
      exact ⟨_, rfl⟩
  | load intent =>
    simp only [exec, loadExecution] at h
    split at h
    · obtain rfl : db = db' := congrArg Prod.snd (Except.ok.inj h)
      exact ⟨_, rfl⟩
    · split at h
      · obtain rfl : db = db' := congrArg Prod.snd (Except.ok.inj h)
        exact ⟨_, rfl⟩
      · exact absurd h (by simp)
  | claim intent =>
    obtain rfl := congrArg Prod.snd (Except.ok.inj h)
    exact ⟨_, rfl⟩

end RecordTx

/-- A claim that returned a row took it from `reserved` to `in_progress`. -/
theorem claimTx_acquired {intent : MutationExecutionIntent} {env : Env} {db db' : DB}
    {execution : StoredMutationExecution}
    (h : claimTx intent env db = .ok (some execution, db')) :
    ∃ r, db.record intent.recordId = some r ∧ r.status = .reserved ∧
      db'.record intent.recordId = some r.claimed ∧ execution = r.claimed.storedExecution := by
  obtain ⟨hrow, hdb'⟩ := Prod.mk.inj (Except.ok.inj h)
  obtain ⟨r, hr, rfl⟩ := Option.map_eq_some_iff.mp hrow
  have hmem := List.mem_of_find?_eq_some hr
  have hp := List.find?_some hr
  have hclaim : r.claimable intent = true := hp
  simp only [IdempotencyRecord.claimable, decide_eq_true_eq] at hp
  have hrec : db.record intent.recordId = some r := hp.1 ▸ DB.record_of_mem hmem
  refine ⟨r, hrec, hp.2.2.2.2, ?_, rfl⟩
  have hfind : db'.record intent.recordId = (db.record intent.recordId).map
      (Table.changed (IdempotencyRecord.claimable intent) IdempotencyRecord.claimed) := by
    rw [← hdb']
    exact Table.lookup_update IdempotencyRecord.neutral_claimed
      (fun r => (rfl : r.claimed.recordId = r.recordId)) intent.recordId
  rw [hfind, hrec]
  simp [Table.changed, hclaim]

end CommerceAgent
