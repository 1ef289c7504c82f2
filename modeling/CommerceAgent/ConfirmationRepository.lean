import CommerceAgent.Schema

/-! The transactions of `ConfirmationRepository`. -/
namespace CommerceAgent

open Json Tables

structure ConfirmationTokenInput where
  tokenHash : String
  runId : Uuid
  tenantId : String
  actorRef : String
  mutationType : String
  resourceRef : String
  previewHash : String
  argumentsHash : String
  policyVersion : String
  workflowVersion : String
  expiresAt : ℕ

structure IdempotencyReservation where
  recordId : Uuid
  status : MutationExecutionStatus
  reused : Bool
  deriving DecidableEq, Repr

/-- `SET status = ..., row_version = row_version + 1`. -/
def ConfirmationToken.setStatus (status : TokenStatus) (token : ConfirmationToken) :
    ConfirmationToken :=
  { token with status := status, rowVersion := token.rowVersion + 1 }

def ConfirmationToken.consume (now : ℕ) (token : ConfirmationToken) : ConfirmationToken :=
  { token.setStatus .consumed with consumedAt := some now }

theorem ConfirmationToken.neutral_setStatus (status : TokenStatus) :
    Table.Neutral ConfirmationToken.clash (setStatus status) := fun _ _ => ⟨id, id⟩

theorem ConfirmationToken.neutral_consume (now : ℕ) :
    Table.Neutral ConfirmationToken.clash (consume now) := fun _ _ => ⟨id, id⟩

def DB.setTokens (db : DB) (p : ConfirmationToken → Bool) (status : TokenStatus) : DB :=
  { db with tokens := db.tokens.update p _ (ConfirmationToken.neutral_setStatus status) }

def ConfirmationTokenInput.row (token : ConfirmationTokenInput) (tokenId : Uuid) (now : ℕ) :
    ConfirmationToken where
  tokenId := tokenId
  tokenHash := token.tokenHash
  runId := token.runId
  tenantId := token.tenantId
  actorRef := token.actorRef
  mutationType := token.mutationType
  resourceRef := token.resourceRef
  previewHash := token.previewHash
  argumentsHash := token.argumentsHash
  policyVersion := token.policyVersion
  workflowVersion := token.workflowVersion
  status := .waiting
  expiresAt := token.expiresAt
  createdAt := now

/-- `INSERT INTO runtime.confirmation_tokens`, whose `run_id` is a foreign key. -/
def DB.insertToken (db : DB) (token : ConfirmationTokenInput) (env : Env) : Except Exc DB :=
  if (db.run token.runId).isNone then .error .integrity
  else match db.tokens.insert? (token.row env.uuid env.now) with
    | none => .error .integrity
    | some tokens => .ok { db with tokens := tokens }

def issue (token : ConfirmationTokenInput) : Tx Uuid := fun env db => do
  let db ← db.insertToken token env
  .ok (env.uuid, db)

def loadForRun (runId : Uuid) (tenantId actorRef : String) (tokenHash : Option String) :
    Tx (Option ConfirmationToken) := fun env db =>
  .ok (latestBy ConfirmationToken.createdAt (fun token => env.tieBreak token.tokenId)
    (db.tokens.select fun token => token.runId = runId ∧ token.tenantId = tenantId ∧
      token.actorRef = actorRef ∧ ∀ h ∈ tokenHash, token.tokenHash = h), db)

/-- The waiting tokens of a run for one preview. -/
def ConfirmationToken.waitingFor (runId : Uuid) (tenantId actorRef previewHash : String)
    (token : ConfirmationToken) : Bool :=
  token.runId = runId ∧ token.tenantId = tenantId ∧ token.actorRef = actorRef ∧
    token.previewHash = previewHash ∧ token.status = .waiting

def invalidateWaiting (runId : Uuid) (tenantId actorRef expectedPreviewHash : String) :
    Tx Unit := fun _ db =>
  .ok ((), db.setTokens
    (ConfirmationToken.waitingFor runId tenantId actorRef expectedPreviewHash) .invalidated)

def rotateWaiting (runId : Uuid) (tenantId actorRef expectedPreviewHash : String)
    (token : ConfirmationTokenInput) : Tx Uuid := fun env db => do
  let p : ConfirmationToken → Bool := fun t =>
    t.waitingFor runId tenantId actorRef expectedPreviewHash ∧ env.now < t.expiresAt
  if db.tokens.count p = 1 then
    let db ← (db.setTokens p .invalidated).insertToken token env
    .ok (env.uuid, db)
  else .error .confirmationUnavailable

/-- The token that a statement with a `token_hash` and an expected version may move. -/
def ConfirmationToken.presented (tokenHash tenantId actorRef : String) (expectedVersion now : ℕ)
    (token : ConfirmationToken) : Bool :=
  token.tokenHash = tokenHash ∧ token.tenantId = tenantId ∧ token.actorRef = actorRef ∧
    token.status = .waiting ∧ now < token.expiresAt ∧ token.rowVersion = expectedVersion

/-- The transaction of `reject`, with its row count. -/
def rejectTx (tokenHash tenantId actorRef : String) (expectedVersion : ℕ) : Tx ℕ :=
  fun env db =>
    let p := ConfirmationToken.presented tokenHash tenantId actorRef expectedVersion env.now
    .ok (db.tokens.count p, db.setTokens p .rejected)

/-- The token ids of the subquery of `expire_waiting`; ties are broken by the database. -/
def DB.expirable (db : DB) (limit : ℕ) (env : Env) : List Uuid :=
  (((db.tokens.select fun t => t.status = .waiting ∧ t.expiresAt ≤ env.now).mergeSort
    fun a b => a.expiresAt < b.expiresAt ∨
      (a.expiresAt = b.expiresAt ∧ env.tieBreak a.tokenId ≤ env.tieBreak b.tokenId)).take
    limit).map ConfirmationToken.tokenId

def expireWaitingTx (limit : ℕ) : Tx ℕ := fun env db =>
  let ids := db.expirable limit env
  let p : ConfirmationToken → Bool := fun t => t.tokenId ∈ ids
  .ok (db.tokens.count p, db.setTokens p .expired)

structure ConsumeParams where
  tokenHash : String
  tenantId : String
  actorRef : String
  expectedTokenVersion : ℕ
  operation : String
  idempotencyKeyHash : String
  requestFingerprint : String
  expiresAt : Option ℕ := none

def ConsumeParams.record (params : ConsumeParams) (recordId : Uuid) : IdempotencyRecord where
  recordId := recordId
  tenantId := params.tenantId
  operation := params.operation
  idempotencyKeyHash := params.idempotencyKeyHash
  requestFingerprint := params.requestFingerprint
  status := .reserved
  expiresAt := params.expiresAt

/-- The rows that the UPDATE of `_consume_and_insert` matches. -/
def ConsumeParams.matched (params : ConsumeParams) (now : ℕ) : ConfirmationToken → Bool :=
  ConfirmationToken.presented params.tokenHash params.tenantId params.actorRef
    params.expectedTokenVersion now

def consumeAndInsert (params : ConsumeParams) : Tx IdempotencyReservation := fun env db =>
  if db.tokens.count (params.matched env.now) = 0 then .error .confirmationUnavailable
  else match db.records.insert? (params.record env.uuid) with
    | none => .error .integrity
    | some records =>
      let tokens := db.tokens.update (params.matched env.now) _
        (ConfirmationToken.neutral_consume env.now)
      .ok (⟨env.uuid, .reserved, false⟩, { db with tokens := tokens, records := records })

def loadIdempotency (tenantId operation keyHash : String) :
    Tx (Option (Uuid × String × MutationExecutionStatus)) := fun _ db =>
  .ok ((db.records.rows.find? fun r =>
      r.tenantId = tenantId ∧ r.operation = operation ∧ r.idempotencyKeyHash = keyHash).map
    fun r => (r.recordId, r.requestFingerprint, r.status), db)

inductive TokenTx : Type → Type
  | issue (token : ConfirmationTokenInput) : TokenTx Uuid
  | loadForRun (runId : Uuid) (tenantId actorRef : String) (tokenHash : Option String)
      : TokenTx (Option ConfirmationToken)
  | invalidateWaiting (runId : Uuid) (tenantId actorRef expectedPreviewHash : String)
      : TokenTx Unit
  | rotateWaiting (runId : Uuid) (tenantId actorRef expectedPreviewHash : String)
      (token : ConfirmationTokenInput) : TokenTx Uuid
  | reject (tokenHash tenantId actorRef : String) (expectedVersion : ℕ) : TokenTx ℕ
  | expireWaiting (limit : ℕ) : TokenTx ℕ
  | consumeAndInsert (params : ConsumeParams) : TokenTx IdempotencyReservation
  | loadIdempotency (tenantId operation keyHash : String)
      : TokenTx (Option (Uuid × String × MutationExecutionStatus))

namespace TokenTx

def exec : {α : Type} → TokenTx α → Tx α
  | _, .issue token => CommerceAgent.issue token
  | _, .loadForRun runId tenantId actorRef tokenHash =>
    CommerceAgent.loadForRun runId tenantId actorRef tokenHash
  | _, .invalidateWaiting runId tenantId actorRef expectedPreviewHash =>
    CommerceAgent.invalidateWaiting runId tenantId actorRef expectedPreviewHash
  | _, .rotateWaiting runId tenantId actorRef expectedPreviewHash token =>
    CommerceAgent.rotateWaiting runId tenantId actorRef expectedPreviewHash token
  | _, .reject tokenHash tenantId actorRef expectedVersion =>
    rejectTx tokenHash tenantId actorRef expectedVersion
  | _, .expireWaiting limit => expireWaitingTx limit
  | _, .consumeAndInsert params => CommerceAgent.consumeAndInsert params
  | _, .loadIdempotency tenantId operation keyHash =>
    CommerceAgent.loadIdempotency tenantId operation keyHash

end TokenTx

/-- The arguments of a consumption, the one transaction that writes records. -/
def TokenTx.consume? : {α : Type} → TokenTx α → Option ConsumeParams
  | _, .consumeAndInsert params => some params
  | _, _ => none

theorem TokenTx.exec_of_consume? {α : Type} {t : TokenTx α} {params : ConsumeParams}
    (ht : t.consume? = some params) {env : Env} {db db' : DB} {a : α}
    (h : t.exec env db = .ok (a, db')) :
    ∃ reservation, CommerceAgent.consumeAndInsert params env db = .ok (reservation, db') := by
  cases t with
  | consumeAndInsert params' =>
    obtain rfl := Option.some.inj ht
    exact ⟨a, h⟩
  | _ => exact absurd ht (by simp [consume?])

/-- What a committed consumption found, and what it left. -/
structure ConsumeParams.Consumed (params : ConsumeParams) (env : Env) (token : ConfirmationToken)
    (db db' : DB) : Prop where
  found : token ∈ db.tokens.rows
  matched : params.matched env.now token = true
  only : ∀ t ∈ db.tokens.rows, params.matched env.now t = true → t = token
  fresh : ∀ r ∈ db.records.rows, ¬ IdempotencyRecord.clash r (params.record env.uuid)
  tokens : db'.tokens.rows = db.tokens.rows.map
    (Table.changed (params.matched env.now) (ConfirmationToken.consume env.now))
  records : db'.records.rows = db.records.rows ++ [params.record env.uuid]
  others : ∃ tokens records, db' = { db with tokens := tokens, records := records }

theorem consumeAndInsert_consumed {params : ConsumeParams} {env : Env} {db db' : DB}
    {reservation : IdempotencyReservation}
    (h : consumeAndInsert params env db = .ok (reservation, db')) :
    reservation = ⟨env.uuid, .reserved, false⟩ ∧ ∃ token, params.Consumed env token db db' := by
  unfold consumeAndInsert at h
  split at h
  · exact absurd h (by simp)
  · rename_i hcount
    split at h
    · exact absurd h (by simp)
    · rename_i records hr
      obtain ⟨hres, rfl⟩ := Prod.mk.inj (Except.ok.inj h)
      obtain ⟨token, htoken, hp⟩ := List.countP_pos_iff.mp (Nat.pos_of_ne_zero hcount)
      obtain ⟨hfresh, hrows⟩ := Table.insert?_eq_some.mp hr
      refine ⟨hres.symm, token, htoken, hp, ?_, hfresh, rfl, hrows, _, _, rfl⟩
      intro t ht hpt
      simp only [ConsumeParams.matched, ConfirmationToken.presented, decide_eq_true_eq] at hp hpt
      exact Table.Keyed.eq ConfirmationToken.clash_of_tokenHash db.tokens.distinct ht htoken
        (hpt.1.trans hp.1.symm)

/-- A token leaves `waiting` for good; nothing else about it changes but its version. It is
consumed by a consumption only. -/
inductive ConfirmationToken.Moves (consuming : Bool) : ConfirmationToken → ConfirmationToken → Prop
  | stays (t : ConfirmationToken) : Moves consuming t t
  | leaves (t : ConfirmationToken) (hw : t.status = .waiting) (status : TokenStatus)
      (hs : status ≠ .waiting) (hc : status = .consumed → consuming = true)
      (consumedAt : Option ℕ) : Moves consuming t
        { t with status := status, consumedAt := consumedAt, rowVersion := t.rowVersion + 1 }

/-- The tokens after a transaction: each old one has moved, and new ones wait. -/
def TokensAfter (consuming : Bool) (old new : List ConfirmationToken) : Prop :=
  ∃ g fresh, new = old.map g ++ fresh ∧ (∀ t ∈ old, t.Moves consuming (g t)) ∧
    ∀ t ∈ fresh, t.status = .waiting

variable {consuming : Bool}

theorem TokensAfter.refl (old : List ConfirmationToken) : TokensAfter consuming old old :=
  ⟨id, [], by simp, fun t _ => .stays t, by simp⟩

/-- An update of waiting tokens to another status. -/
theorem TokensAfter.changed {old : List ConfirmationToken} {p : ConfirmationToken → Bool}
    {f : ConfirmationToken → ConfirmationToken}
    (hp : ∀ t ∈ old, p t = true → t.status = .waiting ∧ t.Moves consuming (f t)) :
    TokensAfter consuming old (old.map (Table.changed p f)) := by
  refine ⟨Table.changed p f, [], by simp, ?_, by simp⟩
  intro t ht
  unfold Table.changed
  split
  · rename_i hpt
    exact (hp t ht hpt).2
  · exact .stays t

theorem TokensAfter.append {old new : List ConfirmationToken} {t : ConfirmationToken}
    (h : TokensAfter consuming old new) (ht : t.status = .waiting) :
    TokensAfter consuming old (new ++ [t]) := by
  obtain ⟨g, fresh, rfl, hg, hfresh⟩ := h
  refine ⟨g, fresh ++ [t], by simp, hg, ?_⟩
  intro t' ht'
  rcases List.mem_append.mp ht' with hm | hm
  · exact hfresh t' hm
  · obtain rfl := List.mem_singleton.mp hm
    exact ht

theorem ConfirmationToken.moves_setStatus {t : ConfirmationToken} {status : TokenStatus}
    (hw : t.status = .waiting) (hs : status ≠ .waiting ∧ status ≠ .consumed) :
    t.Moves consuming (t.setStatus status) :=
  .leaves t hw status hs.1 (fun hc => absurd hc hs.2) t.consumedAt

theorem ConfirmationToken.moves_consume {t : ConfirmationToken} (now : ℕ)
    (hw : t.status = .waiting) : t.Moves true (t.consume now) :=
  .leaves t hw .consumed (by decide) (fun _ => rfl) (some now)

@[simp] theorem ConfirmationToken.Moves.tokenId {t t' : ConfirmationToken}
    (h : t.Moves consuming t') : t'.tokenId = t.tokenId := by
  cases h <;> rfl

/-- The token with an id after a step: new ones wait, old ones have moved. -/
def TokenAfter (consuming : Bool) (old new : Option ConfirmationToken) : Prop :=
  match old with
  | none => ∀ t, new = some t → t.status = .waiting
  | some t => ∃ t', new = some t' ∧ t.Moves consuming t'

theorem TokenAfter.refl (old : Option ConfirmationToken) : TokenAfter consuming old old := by
  cases old with
  | none => exact fun t ht => absurd ht (by simp)
  | some t => exact ⟨t, rfl, .stays t⟩

theorem TokensAfter.token {db db' : DB}
    (h : TokensAfter consuming db.tokens.rows db'.tokens.rows) (tokenId : Uuid) :
    TokenAfter consuming (db.token tokenId) (db'.token tokenId) := by
  obtain ⟨g, fresh, hrows, hg, hfresh⟩ := h
  cases ho : db.token tokenId with
  | none =>
    intro t ht
    obtain ⟨hmem, hid⟩ := Table.lookup_mem ht
    rw [hrows] at hmem
    rcases List.mem_append.mp hmem with hold | hnew
    · obtain ⟨t', ht', rfl⟩ := List.mem_map.mp hold
      exact absurd ((hg t' ht').tokenId.symm.trans hid) (Table.lookup_eq_none.mp ho t' ht')
    · exact hfresh t hnew
  | some t =>
    obtain ⟨hmem, hid⟩ := Table.lookup_mem ho
    refine ⟨g t, ?_, hg t hmem⟩
    have hmem' : g t ∈ db'.tokens.rows := by
      rw [hrows]
      exact List.mem_append_left _ (List.mem_map_of_mem hmem)
    rw [← hid, ← (hg t hmem).tokenId]
    exact DB.token_of_mem hmem'

theorem DB.insertToken_eq_ok {db db' : DB} {token : ConfirmationTokenInput} {env : Env}
    (h : db.insertToken token env = .ok db') :
    ∃ tokens, tokens.rows = db.tokens.rows ++ [token.row env.uuid env.now] ∧
      db' = { db with tokens := tokens } := by
  unfold DB.insertToken at h
  split at h
  · exact absurd h (by simp)
  · split at h
    · exact absurd h (by simp)
    · rename_i tokens ht
      exact ⟨tokens, (Table.insert?_eq_some.mp ht).2, (Except.ok.inj h).symm⟩

theorem DB.expirable_waiting {db : DB} {limit : ℕ} {env : Env} {t : ConfirmationToken}
    (ht : t ∈ db.tokens.rows) (hid : t.tokenId ∈ db.expirable limit env) :
    t.status = .waiting := by
  obtain ⟨t', ht', hkey⟩ := List.mem_map.mp hid
  have hsel := List.mem_mergeSort.mp (List.mem_of_mem_take ht')
  obtain ⟨hrow, hcond⟩ := List.mem_filter.mp hsel
  have heq : t' = t := Table.Keyed.eq (fun _ _ hk => .inl hk) db.tokens.distinct hrow ht hkey
  rw [← heq]
  simp only [decide_eq_true_eq] at hcond
  exact hcond.1

namespace TokenTx

/-- What a token transaction does to the tokens. -/
theorem tokensAfter {α : Type} {t : TokenTx α} {env : Env} {db db' : DB} {a : α}
    (h : t.exec env db = .ok (a, db')) :
    TokensAfter t.consume?.isSome db.tokens.rows db'.tokens.rows := by
  cases t with
  | issue token =>
    obtain ⟨db₁, hi, h⟩ := Except.bind_eq_ok.mp h
    obtain rfl : db₁ = db' := congrArg Prod.snd (Except.ok.inj h)
    obtain ⟨tokens, hrows, rfl⟩ := DB.insertToken_eq_ok hi
    simp only [hrows]
    exact (TokensAfter.refl _).append rfl
  | loadForRun =>
    obtain rfl : db = db' := congrArg Prod.snd (Except.ok.inj h)
    exact .refl _
  | invalidateWaiting runId tenantId actorRef expectedPreviewHash =>
    obtain rfl := congrArg Prod.snd (Except.ok.inj h)
    refine .changed fun t _ hp => ?_
    simp only [ConfirmationToken.waitingFor, decide_eq_true_eq] at hp
    exact ⟨hp.2.2.2.2, ConfirmationToken.moves_setStatus hp.2.2.2.2 (by decide)⟩
  | rotateWaiting runId tenantId actorRef expectedPreviewHash token =>
    simp only [exec, CommerceAgent.rotateWaiting] at h
    split at h
    · obtain ⟨db₁, hi, h⟩ := Except.bind_eq_ok.mp h
      obtain rfl : db₁ = db' := congrArg Prod.snd (Except.ok.inj h)
      obtain ⟨tokens, hrows, rfl⟩ := DB.insertToken_eq_ok hi
      simp only [hrows]
      refine TokensAfter.append (.changed fun t _ hp => ?_) rfl
      simp only [ConfirmationToken.waitingFor, decide_eq_true_eq] at hp
      exact ⟨hp.1.2.2.2.2, ConfirmationToken.moves_setStatus hp.1.2.2.2.2 (by decide)⟩
    · exact absurd h (by simp)
  | reject tokenHash tenantId actorRef expectedVersion =>
    obtain rfl := congrArg Prod.snd (Except.ok.inj h)
    refine .changed fun t _ hp => ?_
    simp only [ConfirmationToken.presented, decide_eq_true_eq] at hp
    exact ⟨hp.2.2.2.1, ConfirmationToken.moves_setStatus hp.2.2.2.1 (by decide)⟩
  | expireWaiting limit =>
    obtain rfl := congrArg Prod.snd (Except.ok.inj h)
    refine .changed fun t ht hp => ?_
    have hw := DB.expirable_waiting ht (of_decide_eq_true hp)
    exact ⟨hw, ConfirmationToken.moves_setStatus hw (by decide)⟩
  | consumeAndInsert params =>
    simp only [exec, CommerceAgent.consumeAndInsert] at h
    split at h
    · exact absurd h (by simp)
    · split at h
      · exact absurd h (by simp)
      · obtain rfl := congrArg Prod.snd (Except.ok.inj h)
        refine .changed fun t _ hp => ?_
        simp only [ConsumeParams.matched, ConfirmationToken.presented, decide_eq_true_eq] at hp
        exact ⟨hp.2.2.2.1, ConfirmationToken.moves_consume env.now hp.2.2.2.1⟩
  | loadIdempotency =>
    obtain rfl : db = db' := congrArg Prod.snd (Except.ok.inj h)
    exact .refl _

/-- Token transactions write tokens, and only a consumption writes records. -/
theorem frame {α : Type} {t : TokenTx α} {env : Env} {db db' : DB} {a : α}
    (h : t.exec env db = .ok (a, db')) :
    ∃ tokens records, db' = { db with tokens := tokens, records := records } ∧
      (t.consume? = none → records = db.records) := by
  cases t with
  | issue token =>
    obtain ⟨db₁, hi, h⟩ := Except.bind_eq_ok.mp h
    obtain rfl : db₁ = db' := congrArg Prod.snd (Except.ok.inj h)
    obtain ⟨tokens, _, rfl⟩ := DB.insertToken_eq_ok hi
    exact ⟨tokens, _, rfl, fun _ => rfl⟩
  | loadForRun =>
    obtain rfl : db = db' := congrArg Prod.snd (Except.ok.inj h)
    exact ⟨_, _, rfl, fun _ => rfl⟩
  | invalidateWaiting =>
    obtain rfl := congrArg Prod.snd (Except.ok.inj h)
    exact ⟨_, _, rfl, fun _ => rfl⟩
  | rotateWaiting =>
    simp only [exec, CommerceAgent.rotateWaiting] at h
    split at h
    · obtain ⟨db₁, hi, h⟩ := Except.bind_eq_ok.mp h
      obtain rfl : db₁ = db' := congrArg Prod.snd (Except.ok.inj h)
      obtain ⟨tokens, _, rfl⟩ := DB.insertToken_eq_ok hi
      exact ⟨tokens, _, rfl, fun _ => rfl⟩
    · exact absurd h (by simp)
  | reject =>
    obtain rfl := congrArg Prod.snd (Except.ok.inj h)
    exact ⟨_, _, rfl, fun _ => rfl⟩
  | expireWaiting =>
    obtain rfl := congrArg Prod.snd (Except.ok.inj h)
    exact ⟨_, _, rfl, fun _ => rfl⟩
  | consumeAndInsert params =>
    simp only [exec, CommerceAgent.consumeAndInsert] at h
    split at h
    · exact absurd h (by simp)
    · split at h
      · exact absurd h (by simp)
      · rename_i records _
        obtain rfl := congrArg Prod.snd (Except.ok.inj h)
        exact ⟨_, records, rfl, fun ht => absurd ht (by simp [consume?])⟩
  | loadIdempotency =>
    obtain rfl : db = db' := congrArg Prod.snd (Except.ok.inj h)
    exact ⟨_, _, rfl, fun _ => rfl⟩

end TokenTx

end CommerceAgent
