import CommerceAgent.Repositories
import Mathlib.Data.List.Count

/-! Confirmation tokens and idempotency records under any interleaving of the operations on
them. -/
namespace CommerceAgent

open Json Tables Programs

inductive TokenCall where
  | issue (token : ConfirmationTokenInput)
  | rotateWaiting (runId : Uuid) (tenantId actorRef expectedPreviewHash : String)
      (token : ConfirmationTokenInput)
  | reject (tokenHash tenantId actorRef : String) (expectedVersion : ℕ)
  | invalidateWaiting (runId : Uuid) (tenantId actorRef expectedPreviewHash : String)
  | expireWaiting (limit : ℕ)
  | consumeAndReserve (params : ConsumeParams)

/-- A call with the reservation that it returns, if it is one that reserves. -/
def TokenCall.run : TokenCall → Act (Option IdempotencyReservation)
  | .issue token => do
    let _ ← Prog.perform (.tokens (.issue token))
    pure none
  | .rotateWaiting runId tenantId actorRef expectedPreviewHash token => do
    let _ ← Prog.perform
      (.tokens (.rotateWaiting runId tenantId actorRef expectedPreviewHash token))
    pure none
  | .reject tokenHash tenantId actorRef expectedVersion => do
    let _ ← rejectToken tokenHash tenantId actorRef expectedVersion
    pure none
  | .invalidateWaiting runId tenantId actorRef expectedPreviewHash => do
    let _ ← Prog.perform
      (.tokens (.invalidateWaiting runId tenantId actorRef expectedPreviewHash))
    pure none
  | .expireWaiting limit => do
    let _ ← CommerceAgent.expireWaiting limit
    pure none
  | .consumeAndReserve params => do
    let reservation ← CommerceAgent.consumeAndReserve params
    pure (some reservation)

section Promise

/-- What a call may do next: a token transaction, and no consumption but its own. -/
def TokenCall.Allows (call : TokenCall) (_ : List Event) : {α : Type} → Op α → Prop
  | _, .tokens t => ∀ params, t.consume? = some params → call = .consumeAndReserve params
  | _, _ => False

/-- A call that raised or only read. -/
def Event.quiet : Event → Bool
  | ⟨_, .error _⟩ => true
  | ⟨.tokens (.loadIdempotency _ _ _), _⟩ => true
  | _ => false

/-- The pre-read that a reused reservation comes from. -/
def ConsumeParams.reuses (params : ConsumeParams) (reservation : IdempotencyReservation) : Event :=
  ⟨.tokens (.loadIdempotency params.tenantId params.operation params.idempotencyKeyHash),
    .ok (some (reservation.recordId, params.requestFingerprint, reservation.status))⟩

/-- A reported reservation was inserted by a consumption, or it was read and none of the calls
made wrote anything. -/
def TokenCall.Reports (call : TokenCall) (r : Except Exc (Option IdempotencyReservation))
    (made : List Event) : Prop :=
  ∀ reservation, r = .ok (some reservation) → ∃ params, call = .consumeAndReserve params ∧
    (⟨.tokens (.consumeAndInsert params), .ok reservation⟩ ∈ made ∨
      (∀ e ∈ made, Event.quiet e = true) ∧ params.reuses reservation ∈ made)

theorem reports_none {call : TokenCall} {made : List Event} : call.Reports (.ok none) made :=
  fun _ hr => absurd hr (by simp)

theorem reports_error {call : TokenCall} {e : Exc} {made : List Event} :
    call.Reports (.error e) made :=
  fun _ hr => absurd hr (by simp)

variable {params : ConsumeParams} {made : List Event}

/-- What `_match_existing` makes of the pre-read. -/
theorem safe_matchExisting {existing : Uuid × String × MutationExecutionStatus}
    (hmade : ∀ e ∈ made, Event.quiet e = true)
    (hread : (⟨.tokens (.loadIdempotency params.tenantId params.operation
      params.idempotencyKeyHash), .ok (some existing)⟩ : Event) ∈ made) :
    Safe (.ghost log) (TokenCall.consumeAndReserve params).Allows
      (fun r made => (TokenCall.consumeAndReserve params).Reports (r.map some) made)
      (matchExisting existing params.requestFingerprint) made := by
  unfold matchExisting
  split
  · exact reports_error
  · rename_i hfp
    intro reservation hr
    obtain rfl := Option.some.inj (Except.ok.inj hr)
    refine ⟨params, rfl, .inr ⟨hmade, ?_⟩⟩
    rw [ConsumeParams.reuses, ← not_ne_iff.mp hfp]
    exact hread

theorem safe_consumeAndReserve :
    Safe (.ghost log) (TokenCall.consumeAndReserve params).Allows
      (fun r made => (TokenCall.consumeAndReserve params).Reports (r.map some) made)
      (consumeAndReserve params) [] := by
  simp only [consumeAndReserve, safe_bind, safe_perform]
  refine ⟨fun _ h => absurd h (by simp [TokenTx.consume?]), ?_⟩
  rintro r _ rfl
  rcases r with e | _ | existing
  · exact reports_error
  · simp only [thenSafe_ok, safe_handle, safe_perform]
    refine ⟨fun _ h => congrArg _ (Option.some.inj h), ?_⟩
    rintro r _ rfl
    cases r with
    | ok reservation =>
      intro reservation' hr
      obtain rfl := Option.some.inj (Except.ok.inj hr)
      exact ⟨params, rfl, .inl (by simp [log])⟩
    | error e =>
      simp only [exceptSafe_error]
      cases e with
      | integrity =>
        simp only [safe_bind, safe_perform]
        refine ⟨fun _ h => absurd h (by simp [TokenTx.consume?]), ?_⟩
        rintro r _ rfl
        rcases r with e | _ | existing
        · exact reports_error
        · exact reports_error
        · exact safe_matchExisting (by simp [log, Event.quiet]) (by simp [log])
      | _ => exact reports_error
  · exact safe_matchExisting (by simp [log, Event.quiet]) (by simp [log])

/-- The calls that make one transaction and report nothing. -/
theorem safe_tokenTx {call : TokenCall} {α : Type} {t : TokenTx α} (ht : t.consume? = none)
    {p : α → Act (Option IdempotencyReservation)}
    (hp : ∀ a made, Safe (.ghost log) call.Allows call.Reports (p a) made) :
    Safe (.ghost log) call.Allows call.Reports (do let a ← Prog.perform (.tokens t); p a) made := by
  simp only [safe_bind, safe_perform]
  refine ⟨fun _ h => absurd (ht.symm.trans h) (by simp), ?_⟩
  rintro r made' _
  cases r with
  | error e => exact reports_error
  | ok a => exact hp a made'

theorem TokenCall.keeps_promise (call : TokenCall) :
    Safe (.ghost log) call.Allows call.Reports call.run [] := by
  cases call with
  | issue => exact safe_tokenTx rfl fun _ _ => reports_none
  | rotateWaiting => exact safe_tokenTx rfl fun _ _ => reports_none
  | invalidateWaiting => exact safe_tokenTx rfl fun _ _ => reports_none
  | reject =>
    simp only [TokenCall.run, rejectToken, bind_assoc]
    refine safe_tokenTx rfl fun rowcount made => ?_
    by_cases hone : rowcount = 1
    · simp only [if_pos hone, pure_bind]
      exact reports_none
    · simp only [if_neg hone]
      exact reports_error
  | expireWaiting limit =>
    simp only [TokenCall.run, CommerceAgent.expireWaiting]
    by_cases hlimit : 1 ≤ limit ∧ limit ≤ 5000
    · simp only [if_pos hlimit]
      exact safe_tokenTx rfl fun _ _ => reports_none
    · simp only [if_neg hlimit]
      exact reports_error
  | consumeAndReserve params =>
    simp only [TokenCall.run, safe_bind]
    refine safe_consumeAndReserve.post ?_
    intro r made hr
    cases r with
    | error e => exact reports_error
    | ok reservation => exact hr

end Promise

section Steps

/-- The token with the id is waiting before the step and not after it. -/
def leavesWaiting (tokenId : Uuid) (e : Happened Op Exc DB) : Bool :=
  (e.before.token tokenId).any (fun t => t.status = .waiting) &&
    !(e.after.token tokenId).any (fun t => t.status = .waiting)

/-- The waiting tokens that the step consumed. -/
def consumedIn (e : Happened Op Exc DB) : List ConfirmationToken :=
  e.before.tokens.rows.filter fun t =>
    t.status = .waiting ∧ (e.after.token t.tokenId).any fun t' => t'.status = .consumed

/-- The records that the step inserted. -/
def insertedIn (e : Happened Op Exc DB) : List IdempotencyRecord :=
  e.after.records.rows.filter fun r => (e.before.record r.recordId).isNone

variable {α : Type} {o : Op α} {r : Except Exc α} {db db' : DB}

theorem consumedIn_eq_nil (h : TokensAfter false db.tokens.rows db'.tokens.rows) :
    consumedIn ⟨⟨o, r⟩, db, db'⟩ = [] := by
  refine List.filter_eq_nil_iff.mpr ?_
  intro t ht hcons
  simp only [decide_eq_true_eq] at hcons
  obtain ⟨hw, hany⟩ := hcons
  have hafter := h.token t.tokenId
  rw [DB.token_of_mem ht] at hafter
  obtain ⟨t', ht', hmoves⟩ := hafter
  rw [ht'] at hany
  have hst : t'.status = .consumed := by simpa using hany
  cases hmoves with
  | stays => exact absurd (hw.symm.trans hst) (by simp)
  | leaves _ status _ hc => exact absurd (hc hst) (by simp)

theorem insertedIn_eq_nil (h : db'.records = db.records) :
    insertedIn ⟨⟨o, r⟩, db, db'⟩ = [] := by
  refine List.filter_eq_nil_iff.mpr ?_
  intro row hrow hnone
  rw [h] at hrow
  rw [DB.record_of_mem hrow] at hnone
  exact absurd hnone (by simp)

variable {params : ConsumeParams} {env : Env} {token : ConfirmationToken}

theorem insertedIn_consumed (h : params.Consumed env token db db') :
    insertedIn ⟨⟨o, r⟩, db, db'⟩ = [params.record env.uuid] := by
  have hold : db.records.rows.filter (fun r => (db.record r.recordId).isNone) = [] :=
    insertedIn_eq_nil (o := o) (r := r) rfl
  have hnew : db.record (params.record env.uuid).recordId = none :=
    Table.lookup_eq_none.mpr fun row hrow hid => h.fresh row hrow (.inl hid)
  unfold insertedIn
  rw [h.records, List.filter_append, hold]
  simp [hnew]

theorem ConsumeParams.Consumed.token_after (h : params.Consumed env token db db')
    {t : ConfirmationToken} (ht : t ∈ db.tokens.rows) :
    db'.token t.tokenId = some (Table.changed (params.matched env.now)
      (ConfirmationToken.consume env.now) t) := by
  have hlookup : db'.token t.tokenId = (db.token t.tokenId).map
      (Table.changed (params.matched env.now) (ConfirmationToken.consume env.now)) := by
    unfold DB.token Table.lookup
    rw [h.tokens]
    exact Table.lookup_changed (fun t => (rfl : (t.consume env.now).tokenId = t.tokenId))
      db.tokens.rows t.tokenId
  rw [hlookup, DB.token_of_mem ht]
  rfl

/-- The update of a consumption reaches one token. -/
theorem ConsumeParams.Consumed.matched_eq (h : params.Consumed env token db db') :
    db.tokens.rows.filter (params.matched env.now) = [token] := by
  have hhash : ∀ t, params.matched env.now t = true → t.tokenHash = params.tokenHash := by
    intro t hp
    simp only [ConsumeParams.matched, ConfirmationToken.presented, decide_eq_true_eq] at hp
    exact hp.1
  have hone := Table.count_le_one ConfirmationToken.clash_of_tokenHash db.tokens hhash
  rw [Table.count, List.countP_eq_length_filter] at hone
  have hmem := List.mem_filter.mpr ⟨h.found, h.matched⟩
  rcases hl : db.tokens.rows.filter (params.matched env.now) with _ | ⟨a, _ | ⟨b, l⟩⟩
  · rw [hl] at hmem
    exact absurd hmem (by simp)
  · rw [hl] at hmem
    rw [List.mem_singleton.mp hmem]
  · rw [hl] at hone
    exact absurd hone (by simp)

theorem consumedIn_consumed (h : params.Consumed env token db db') :
    consumedIn ⟨⟨o, r⟩, db, db'⟩ = [token] := by
  rw [← h.matched_eq]
  refine List.filter_congr ?_
  intro t ht
  simp only [h.token_after ht, Option.any_some, Table.changed]
  cases hp : params.matched env.now t with
  | false =>
    simp only [Bool.false_eq_true, if_false, decide_eq_true_eq, decide_eq_false_iff_not]
    rintro ⟨hw, hc⟩
    exact absurd (hw.symm.trans hc) (by simp)
  | true =>
    simp only [ConsumeParams.matched, ConfirmationToken.presented, decide_eq_true_eq] at hp
    simp [hp.2.2.2.1, ConfirmationToken.consume, ConfirmationToken.setStatus]

end Steps

section Interleaved

variable {ι : Type} [DecidableEq ι] {calls : ι → TokenCall} {h : History ι Op Exc DB}
  {ps : ι → Act (Option IdempotencyReservation)} {db₀ db : DB}

/-- Each step of a call leaves both tables alone, or consumes one token and inserts one
record. -/
theorem TokenCall.step_pairs {call : TokenCall} {made : List Event} {α : Type} {o : Op α}
    {r : Except Exc α} {db db' : DB} (hallow : call.Allows made o) (h : o.Effect db r db') :
    (insertedIn ⟨⟨o, r⟩, db, db'⟩ = [] ∧ consumedIn ⟨⟨o, r⟩, db, db'⟩ = []) ∨
      ∃ params env token, call = .consumeAndReserve params ∧
        params.Consumed env token db db' := by
  cases o with
  | tokens t =>
    cases ht : t.consume? with
    | none =>
      have htok := h.tokensAfter
      simp only [Op.consume?, ht, Option.isSome_none] at htok
      refine .inl ⟨insertedIn_eq_nil ?_, consumedIn_eq_nil htok⟩
      rcases h with ⟨_, _, rfl⟩ | ⟨env, a, _, hx⟩
      · rfl
      · obtain ⟨tokens, records, rfl, hrec⟩ := TokenTx.frame hx
        exact hrec ht
    | some params =>
      rcases h with ⟨_, _, rfl⟩ | ⟨env, a, _, hx⟩
      · exact .inl ⟨insertedIn_eq_nil rfl, consumedIn_eq_nil (.refl _)⟩
      · obtain ⟨_, hconsume⟩ := TokenTx.exec_of_consume? ht hx
        obtain ⟨_, token, hconsumed⟩ := consumeAndInsert_consumed hconsume
        exact .inr ⟨params, env, token, hallow params ht, hconsumed⟩
  | _ => exact False.elim hallow

/-- A token that left `waiting` is there and does not wait again. -/
theorem leaves_once (run : Run store (fun i => (calls i).run) db₀ h ps db) (tokenId : Uuid) :
    h.countP (fun e => leavesWaiting tokenId e.2) ≤ 1 ∧
      (h.countP (fun e => leavesWaiting tokenId e.2) ≠ 0 →
        ∃ t, db.token tokenId = some t ∧ t.status ≠ .waiting) := by
  refine run.invariant (fun h db => h.countP (fun e => leavesWaiting tokenId e.2) ≤ 1 ∧
    (h.countP (fun e => leavesWaiting tokenId e.2) ≠ 0 →
      ∃ t, db.token tokenId = some t ∧ t.status ≠ .waiting))
    (fun i => (calls i).keeps_promise) (by simp) ?_
  intro h db i _ o r db' hJ _ hm
  obtain ⟨hle, hgone⟩ := hJ
  have hafter := (store_effect hm).tokensAfter.token tokenId
  rw [List.countP_append, List.countP_singleton]
  split
  · rename_i hleaves
    simp only [leavesWaiting, Bool.and_eq_true, Bool.not_eq_true'] at hleaves
    obtain ⟨t, ht, hw⟩ := Option.any_eq_true _ _ |>.mp hleaves.1
    rw [ht] at hafter
    obtain ⟨t', ht', _⟩ := hafter
    have hzero : h.countP (fun e => leavesWaiting tokenId e.2) = 0 := by
      by_contra hne
      obtain ⟨t₀, ht₀, hst⟩ := hgone hne
      obtain rfl := Option.some.inj (ht.symm.trans ht₀)
      exact hst (of_decide_eq_true hw)
    refine ⟨by rw [hzero], fun _ => ⟨t', ht', ?_⟩⟩
    simpa [ht'] using hleaves.2
  · refine ⟨hle, fun hne => ?_⟩
    obtain ⟨t, ht, hst⟩ := hgone hne
    rw [ht] at hafter
    obtain ⟨t', ht', hmoves⟩ := hafter
    refine ⟨t', ht', ?_⟩
    cases hmoves with
    | stays => exact hst
    | leaves hw => exact absurd hw hst

/-- What the two tables owe each other in a history that ends with the processes `ps` and `db`. -/
structure TokensAtomic (calls : ι → TokenCall) (h : History ι Op Exc DB)
    (ps : ι → Act (Option IdempotencyReservation)) (db : DB) : Prop where
  leavesOnce : ∀ tokenId, h.countP (fun e => leavesWaiting tokenId e.2) ≤ 1
  insertsIff : ∀ i e, (i, e) ∈ h → (insertedIn e ≠ [] ↔ ∃ t, consumedIn e = [t])
  /-- The inserted record is that of the call, which presented an unexpired token of its own
  tenant and actor. -/
  paired : ∀ i e, (i, e) ∈ h → insertedIn e ≠ [] → ∃ params recordId t now,
    calls i = .consumeAndReserve params ∧ insertedIn e = [params.record recordId] ∧
    consumedIn e = [t] ∧ t.tokenHash = params.tokenHash ∧ t.tenantId = params.tenantId ∧
    t.actorRef = params.actorRef ∧ now < t.expiresAt ∧
    e.after.token t.tokenId = some (t.consume now)
  oneRecord : ∀ r ∈ db.records.rows, ∀ r' ∈ db.records.rows, r.tenantId = r'.tenantId →
    r.operation = r'.operation → r.idempotencyKeyHash = r'.idempotencyKeyHash → r = r'
  reused : ∀ i params reservation, calls i = .consumeAndReserve params →
    ps i = .ret (some reservation) → reservation.reused = true →
    (∀ e, (i, e) ∈ h → e.after.tokens = e.before.tokens) ∧
    ∃ e r, (i, e) ∈ h ∧ r ∈ e.before.records.rows ∧ r.tenantId = params.tenantId ∧
      r.operation = params.operation ∧ r.idempotencyKeyHash = params.idempotencyKeyHash ∧
      r.requestFingerprint = params.requestFingerprint ∧ r.recordId = reservation.recordId ∧
      r.status = reservation.status

/-- An entry of the history is a step that its call allows. -/
theorem token_entry (run : Run store (fun i => (calls i).run) db₀ h ps db) {i : ι}
    {e : Happened Op Exc DB} (he : (i, e) ∈ h) :
    (∃ made, (calls i).Allows made e.op) ∧ e.op.Effect e.before e.answer e.after := by
  obtain ⟨h₁, h₂, rfl⟩ := List.append_of_mem he
  obtain ⟨_, _, _, hm, _, _⟩ := run.entry
  exact ⟨⟨_, run.promised (calls i).keeps_promise⟩, store_effect hm⟩

theorem loadIdempotency_found {tenantId operation keyHash fingerprint : String} {env : Env}
    {db db' : DB} {recordId : Uuid} {status : MutationExecutionStatus}
    (h : loadIdempotency tenantId operation keyHash env db =
      .ok (some (recordId, fingerprint, status), db')) :
    ∃ r ∈ db.records.rows, r.tenantId = tenantId ∧ r.operation = operation ∧
      r.idempotencyKeyHash = keyHash ∧ r.requestFingerprint = fingerprint ∧
      r.recordId = recordId ∧ r.status = status := by
  obtain ⟨hfound, _⟩ := Prod.mk.inj (Except.ok.inj h)
  obtain ⟨r, hr, heq⟩ := Option.map_eq_some_iff.mp hfound
  simp only [Prod.mk.injEq] at heq
  obtain ⟨rfl, rfl, rfl⟩ := heq
  have hp := List.find?_some hr
  simp only [decide_eq_true_eq] at hp
  exact ⟨r, List.mem_of_find?_eq_some hr, hp.1, hp.2.1, hp.2.2, rfl, rfl, rfl⟩

theorem tokens_of_quiet {e : Happened Op Exc DB} (heff : e.op.Effect e.before e.answer e.after)
    (hq : Event.quiet e.toCall = true) : e.after.tokens = e.before.tokens := by
  obtain ⟨⟨o, r⟩, db, db'⟩ := e
  unfold Event.quiet at hq
  split at hq
  · rename_i hcall
    cases hcall
    rw [heff.error]
  · rename_i hcall
    cases hcall
    rcases heff with ⟨_, _, hdb⟩ | ⟨env, a, _, hx⟩
    · rw [hdb]
    · have hdb : db = db' := congrArg Prod.snd (Except.ok.inj hx)
      exact congrArg DB.tokens hdb.symm
  · exact absurd hq (by simp)

theorem reservation_fresh {params : ConsumeParams} {reservation : IdempotencyReservation}
    {e : Happened Op Exc DB}
    (he : e.toCall = ⟨.tokens (.consumeAndInsert params), .ok reservation⟩)
    (heff : e.op.Effect e.before e.answer e.after) : reservation.reused = false := by
  obtain ⟨c, db, db'⟩ := e
  obtain rfl : c = _ := he
  rcases heff with ⟨_, hr, _⟩ | ⟨env, a, hr, hx⟩
  · exact absurd hr (by simp)
  · obtain rfl := Except.ok.inj hr
    obtain ⟨rfl, _⟩ := consumeAndInsert_consumed hx
    rfl

section Sample

def sampleInput (tokenHash : String) : ConfirmationTokenInput where
  tokenHash := tokenHash
  runId := "run"
  tenantId := "demo"
  actorRef := "buyer"
  mutationType := "refund"
  resourceRef := "ORD-1001"
  previewHash := "sha256:p"
  argumentsHash := "sha256:a"
  policyVersion := "1.0.0"
  workflowVersion := "1.0.0"
  expiresAt := 900

/-- Two tokens wait for the same preview. -/
def twoTokens : DB where
  tokens := ⟨[(sampleInput "sha256:s").row "t1" 0, (sampleInput "sha256:t").row "t2" 0],
    by decide⟩

def sampleParams (tokenHash : String) : ConsumeParams where
  tokenHash := tokenHash
  tenantId := "demo"
  actorRef := "buyer"
  expectedTokenVersion := 0
  operation := "refund"
  idempotencyKeyHash := "sha256:k"
  requestFingerprint := "sha256:f"

def twoConsumers (i : Fin 2) : TokenCall :=
  .consumeAndReserve (sampleParams (if i = 0 then "sha256:s" else "sha256:t"))

/-- Both calls read before either inserts. -/
def consumerRace : History (Fin 2) Op Exc DB ×
    (Fin 2 → Act (Option IdempotencyReservation)) × DB :=
  play respond ([0, 1, 0, 1, 1].map fun i => (i, ⟨⟨10, "fresh", fun _ => 0⟩, false,
    fun _ => .error .adapter⟩)) (fun i => (twoConsumers i).run) twoTokens

end Sample

theorem tokens_stay_atomic (run : Run store (fun i => (calls i).run) db₀ h ps db) :
    TokensAtomic calls h ps db where
  leavesOnce tokenId := (leaves_once run tokenId).1
  insertsIff i e he := by
    obtain ⟨⟨made, hallow⟩, heff⟩ := token_entry run he
    rcases TokenCall.step_pairs hallow heff with ⟨hins, hcons⟩ | ⟨params, env, token, _, hc⟩
    · simp [hins, hcons]
    · simp [insertedIn_consumed hc, consumedIn_consumed hc]
  paired i e he hne := by
    obtain ⟨⟨made, hallow⟩, heff⟩ := token_entry run he
    rcases TokenCall.step_pairs hallow heff with ⟨hins, _⟩ | ⟨params, env, token, hcall, hc⟩
    · exact absurd hins hne
    · have hp := hc.matched
      simp only [ConsumeParams.matched, ConfirmationToken.presented, decide_eq_true_eq] at hp
      refine ⟨params, env.uuid, token, env.now, hcall, insertedIn_consumed hc,
        consumedIn_consumed hc, hp.1, hp.2.1, hp.2.2.1, hp.2.2.2.2.1, ?_⟩
      rw [hc.token_after hc.found, Table.changed, if_pos hc.matched]
  oneRecord r hr r' hr' ht ho hk :=
    Table.Keyed.eq IdempotencyRecord.clash_of_key db.records.distinct hr hr'
      (Prod.ext ht (Prod.ext ho hk))
  reused i params reservation hcall hret hreused := by
    have hend := run.local_safe (calls i).keeps_promise
    rw [hret, view_log] at hend
    obtain ⟨params', hcall', hmade⟩ := hend reservation rfl
    obtain rfl : params = params' := by simpa [hcall] using hcall'
    rcases hmade with hins | ⟨hquiet, hread⟩
    · obtain ⟨e, he, hcons⟩ := mem_own.mp hins
      obtain ⟨_, heff⟩ := token_entry run he
      exact absurd hreused (by simp [reservation_fresh hcons heff])
    · refine ⟨fun e he => ?_, ?_⟩
      · obtain ⟨_, heff⟩ := token_entry run he
        exact tokens_of_quiet heff (hquiet _ (mem_own.mpr ⟨e, he, rfl⟩))
      · obtain ⟨⟨c, before, after⟩, he, rfl⟩ := mem_own.mp hread
        obtain ⟨_, heff⟩ := token_entry run he
        rcases heff with ⟨_, hr, _⟩ | ⟨env, a, hr, hx⟩
        · exact absurd hr (by simp [ConsumeParams.reuses])
        · obtain rfl := Except.ok.inj hr
          have hload : loadIdempotency params.tenantId params.operation
              params.idempotencyKeyHash env before = .ok (some (reservation.recordId,
                params.requestFingerprint, reservation.status), after) := hx
          obtain ⟨r, hr, ht, ho, hk, hf, hid, hst⟩ := loadIdempotency_found hload
          exact ⟨_, r, he, hr, ht, ho, hk, hf, hid, hst⟩

/-- The second call loses the race for the key, keeps its token and reports the reuse. -/
theorem tokens_stay_atomic_race :
    (consumerRace.2.1 1).outcome? = some (.ok (some ⟨"fresh", .reserved, true⟩)) ∧
    (consumerRace.2.2.token "t1").map ConfirmationToken.status = some .consumed ∧
    (consumerRace.2.2.token "t2").map ConfirmationToken.status = some .waiting ∧
    TokensAtomic twoConsumers consumerRace.1 consumerRace.2.1 consumerRace.2.2 :=
  ⟨by decide +kernel, by decide +kernel, by decide +kernel, tokens_stay_atomic (play_run _ _ _ _)⟩

end Interleaved

end CommerceAgent
