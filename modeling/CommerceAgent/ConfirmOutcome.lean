import CommerceAgent.ConfirmAtomicity
import CommerceAgent.ExecuteOnce

/-! What a confirmation reports, and what is stored under the key that was presented. -/
namespace CommerceAgent

open Json Tables Programs

/-- The business system answered `b` when it was asked for the committed change. -/
def Event.verifies (b : Bool) : Event → Bool
  | ⟨.world (.verify _ _ _), .ok b'⟩ => b' = b
  | _ => false

/-- How a reported status goes with a stored outcome. -/
inductive Agrees (t : List (Happened Op Exc DB)) : MutationExecutionStatus → RunStatus → Prop
  | verified (h : saw (Event.verifies true) t = true) : Agrees t .succeeded .completed
  | mismatched (h : saw (Event.verifies false) t = true) : Agrees t .succeeded .waitingHuman
  | unknown : Agrees t .unknown .waitingHuman
  | failed : Agrees t .failed .failed

/-- A ticket of the run's actor is open. -/
def DB.HasOpenTicket (db : DB) (context : RunContext) : Prop :=
  ∃ ticket ∈ db.tickets.rows,
    ticket.openFor context.runId context.tenantId context.actorId = true

/-- There is such a ticket if a repository was given for it. -/
def Ticketed (options : ConfirmOptions) (context : RunContext) (db : DB) : Prop :=
  options.handoffs = true → db.HasOpenTicket context

/-- What was reported agrees with the stored outcome, and a handover left a ticket. -/
structure Settled (options : ConfirmOptions) (context : RunContext) (operation keyHash : String)
    (updated : RunContext) (s : Recorded) : Prop where
  stored : ∃ status, s.1.keyStatus context.tenantId operation keyHash = some status ∧
    Agrees s.2 status updated.status
  ticket : updated.status = .waitingHuman → Ticketed options context s.1

/-- Every call is fine: only what is left at the end matters. -/
def Unguarded (_ : Recorded) {α : Type} (_ : Op α) : Prop := True

theorem safe_unguarded {α : Type} {s : Recorded} (p : Act α) :
    Safe store.recording Unguarded (Returns fun _ _ => True) p s := by
  refine (Safe.of_stable (J := fun _ => True) (fun _ _ _ _ _ _ _ => trivial) trivial p).mono
    (fun _ _ _ _ => trivial) ?_
  rintro (e | a) s _ <;> trivial

section Records

/-- The unique key of an idempotency record. -/
def IdempotencyRecord.key (r : IdempotencyRecord) : String × String × String :=
  (r.tenantId, r.operation, r.idempotencyKeyHash)

/-- The row of an intent, under its key. -/
def Keyed (recordId : Uuid) (key : String × String × String) (db : DB) : Prop :=
  ∃ row, db.record recordId = some row ∧ row.key = key

/-- The row of an intent, under its key, once its outcome is known. -/
def Concluded (recordId : Uuid) (key : String × String × String)
    (status : MutationExecutionStatus) (db : DB) : Prop :=
  status.IsFinal ∧ ∃ row, db.record recordId = some row ∧ row.key = key ∧ row.status = status

variable {recordId : Uuid} {key : String × String × String} {status : MutationExecutionStatus}
  {db db' : DB}

theorem Keyed.after (h : Keyed recordId key db)
    (ha : RecordAfter (db.record recordId) (db'.record recordId)) : Keyed recordId key db' := by
  obtain ⟨row, hrow, hkey⟩ := h
  rw [hrow] at ha
  obtain ⟨row', hrow', hadv⟩ := ha
  refine ⟨row', hrow', ?_⟩
  cases hadv <;> exact hkey

theorem Concluded.after (h : Concluded recordId key status db)
    (ha : RecordAfter (db.record recordId) (db'.record recordId)) :
    Concluded recordId key status db' := by
  obtain ⟨hfinal, row, hrow, hkey, hstatus⟩ := h
  have hfin : row.status.IsFinal := by
    rw [hstatus]
    exact hfinal
  exact ⟨hfinal, row, final_after ha hrow hfin, hkey, hstatus⟩

theorem Concluded.keyStatus {tenantId operation keyHash : String}
    (h : Concluded recordId (tenantId, operation, keyHash) status db) :
    db.keyStatus tenantId operation keyHash = some status := by
  obtain ⟨_, row, hrow, hkey, hstatus⟩ := h
  have hmem := (Table.lookup_mem hrow).1
  have hlookup := (Table.lookup_eq_some IdempotencyRecord.clash_of_key).mpr ⟨hmem, hkey⟩
  rw [DB.keyStatus, hlookup, Option.map_some, hstatus]

/-- The checkpoint of a completion writes the outcome to the claimed row. -/
theorem CommitStep.Committed.completes {p : CommitStep} {c : MutationCompletion} {now : ℕ}
    {run : AgentRun} (h : p.Committed now run db db') (hc : p.mutationCompletion = some c) :
    ∃ row, db.record c.recordId = some row ∧
      db'.record c.recordId = some (row.complete c) := by
  have hrec := h.records
  rw [hc] at hrec
  obtain ⟨hone, hnew⟩ := hrec
  obtain ⟨row, hmem, hdone⟩ := List.countP_pos_iff.mp (Nat.lt_of_lt_of_eq Nat.zero_lt_one hone.symm)
  have hid : row.recordId = c.recordId := by
    simp only [IdempotencyRecord.completedBy, decide_eq_true_eq] at hdone
    exact hdone.1
  have hrow : db.record c.recordId = some row := hid ▸ DB.record_of_mem hmem
  refine ⟨row, hrow, ?_⟩
  have hfind : db'.record c.recordId = (db.record c.recordId).map
      (Table.changed (IdempotencyRecord.completedBy p.tenantId c) (IdempotencyRecord.complete c)) := by
    rw [DB.record, hnew]
    exact Table.lookup_update (IdempotencyRecord.neutral_complete c)
      (fun r => (rfl : (r.complete c).recordId = r.recordId)) c.recordId
  rw [hfind, hrow, Option.map_some, Table.changed, if_pos hdone]

theorem Keyed.concluded {p : CommitStep} {c : MutationCompletion} {now : ℕ} {run : AgentRun}
    (h : Keyed c.recordId key db) (hp : p.Committed now run db db')
    (hc : p.mutationCompletion = some c) (hfinal : c.status.IsFinal) :
    Concluded c.recordId key c.status db' := by
  obtain ⟨row, hrow, hrow'⟩ := hp.completes hc
  obtain ⟨row₀, hrow₀, hkey⟩ := h
  obtain rfl := Option.some.inj (hrow.symm.trans hrow₀)
  exact ⟨hfinal, _, hrow', hkey, rfl⟩

theorem Keyed.of_consumed {params : ConsumeParams} {env : Env} {token : ConfirmationToken}
    (h : params.Consumed env token db db') :
    Keyed env.uuid (params.tenantId, params.operation, params.idempotencyKeyHash) db' := by
  have hmem : params.record env.uuid ∈ db'.records.rows := by
    rw [h.records]
    exact List.mem_append_right _ (List.mem_singleton_self _)
  exact ⟨_, DB.record_of_mem hmem, rfl⟩

end Records

section Kept

variable {α : Type} {p : Act α} {s : Recorded} {recordId : Uuid}
  {key : String × String × String} {status : MutationExecutionStatus} {context : RunContext}

theorem Keyed.keeps (h : Keyed recordId key s.1) (hp : Uses Op.Observes p) :
    Safe store.recording Unguarded (fun _ s' => Keyed recordId key s'.1) p s := by
  refine safe_retains hp (J := fun s => Keyed recordId key s.1) ?_ (fun _ _ _ _ => trivial) h
  intro db db' t β o r hs ho heff
  exact hs.after (heff.recordAfter ho recordId)

theorem Concluded.keeps (h : Concluded recordId key status s.1) (hp : Uses Op.Observes p) :
    Safe store.recording Unguarded (fun _ s' => Concluded recordId key status s'.1) p s := by
  refine safe_retains hp (J := fun s => Concluded recordId key status s.1) ?_
    (fun _ _ _ _ => trivial) h
  intro db db' t β o r hs ho heff
  exact hs.after (heff.recordAfter ho recordId)

theorem Ticketed.keeps {options : ConfirmOptions} (h : Ticketed options context s.1)
    (hp : Uses Op.SparesTickets p) :
    Safe store.recording Unguarded (fun _ s' => Ticketed options context s'.1) p s := by
  refine safe_retains hp (J := fun s => Ticketed options context s.1) ?_
    (fun _ _ _ _ => trivial) h
  intro db db' t β o r hs ho heff hgiven
  obtain ⟨ticket, hmem, hopen⟩ := hs hgiven
  refine ⟨ticket, ?_, hopen⟩
  rw [heff.tickets_eq ho]
  exact hmem

/-- What was seen stays seen. -/
theorem saw_keeps {f : Event → Bool} (h : saw f s.2 = true) (p : Act α) :
    Safe store.recording Unguarded (fun _ s' => saw f s'.2 = true) p s := by
  refine (Safe.of_stable (M := store.recording) (J := fun s => saw f s.2 = true) ?_ h p).mono
    (fun _ _ _ _ => trivial) fun _ _ hs => hs
  rintro ⟨db, t⟩ β o r ⟨db', t'⟩ hs ⟨_, ht'⟩
  obtain rfl : t' = t ++ [⟨⟨o, r⟩, db, db'⟩] := ht'
  rw [saw_snoc, hs]
  rfl

/-- The calls of a checkpoint. -/
theorem uses_commitCheckpoint {P : {β : Type} → Op β → Prop} {context : RunContext}
    {status : RunStatus} {nextStep : String} {state : Dict} {events : List DomainEvent}
    {c : Option MutationCompletion}
    (hcommit : ∀ p : CommitStep, (∀ c ∈ p.mutationCompletion, c.status.IsFinal) →
      P (.runs (.commitStep p)))
    (hload : ∀ runId tenantId actorId, P (.runs (.loadRun runId tenantId actorId))) :
    Uses P (commitCheckpoint context status nextStep state events c) :=
  uses_commitCheckpoint_of
    (fun hfinal => hcommit (checkpointStep context status nextStep state events c) hfinal)
    (hload _ _ _)

theorem uses_checkpoint_observes {context : RunContext} {status : RunStatus} {nextStep : String}
    {state : Dict} {events : List DomainEvent} :
    Uses Op.Observes (checkpoint context status nextStep state events) :=
  uses_commitCheckpoint (fun _ hp => hp) fun _ _ _ _ hc => absurd hc (by simp [Op.completion?, Op.commit?, RunTx.commit?])

theorem uses_checkpoint_tickets {context : RunContext} {status : RunStatus} {nextStep : String}
    {state : Dict} {events : List DomainEvent} :
    Uses Op.SparesTickets (checkpoint context status nextStep state events) :=
  uses_commitCheckpoint (fun _ _ => trivial) fun _ _ _ => trivial

end Kept

section Exits

variable (π : Platform) {options : ConfirmOptions} {c : Confirmation} {s : Recorded}
  {key : String × String × String}

theorem uses_adapter (c : Confirmation) (key : String) : Uses Op.Observes (c.adapter π key) := by
  unfold Confirmation.adapter
  split
  · exact .raise _
  · exact .perform fun _ hc => absurd hc (by simp [Op.completion?, Op.commit?])

/-- The checkpoint of a completion returns only after the outcome is stored. -/
theorem safe_checkpointCompletion (c : Confirmation) (completion : MutationCompletion)
    (h : Keyed completion.recordId key s.1) :
    Safe store.recording Unguarded
      (Returns fun _ s' => Concluded completion.recordId key completion.status s'.1)
      (c.checkpointCompletion completion) s := by
  obtain ⟨db, t⟩ := s
  simp only [Confirmation.checkpointCompletion, checkpointMutation, commitCheckpoint, commitStep,
    checkpointStep, Option.isSome_some, List.isEmpty_cons, Bool.false_eq_true, and_false, if_false,
    Option.any_some, safe_bind]
  refine (safe_ite _ _ _ _).mpr ⟨fun _ => trivial, fun hfinal => ?_⟩
  have hfin : completion.status.IsFinal := by simpa using hfinal
  rw [safe_bind]
  refine safe_tx rfl trivial (fun e => trivial) ?_
  intro env a db' hx
  obtain ⟨run, hc⟩ := commitStepTx_committed hx
  have hdone := h.concluded hc rfl hfin
  simp only [thenSafe_ok, safe_bind]
  refine safe_tx rfl trivial (fun e => trivial) ?_
  intro env snapshot db'' hx
  obtain rfl : db' = db'' := congrArg Prod.snd (Except.ok.inj hx)
  cases snapshot with
  | none => trivial
  | some run => exact hdone

/-- An outcome that was checkpointed by this call is the stored one. -/
def Executed (recordId : Uuid) (key : String × String × String)
    (executed : MutationExecutionOutcome × Option (ℕ × Dict)) (s : Recorded) : Prop :=
  executed.2.isSome = true → Concluded recordId key executed.1.status s.1

theorem safe_execute_outcome (h : Keyed c.recordId key s.1) :
    Safe store.recording Unguarded (Returns (Executed c.recordId key))
      (execute c.intent (c.adapter π) c.checkpointCompletion) s := by
  have hnone : ∀ {s'} (outcome : MutationExecutionOutcome),
      Executed c.recordId key (outcome, none) s' := fun outcome hsome => absurd hsome (by simp)
  have hrequire := h.keeps (uses_requireIntent (fun _ => Op.SparesRuns.observes trivial) c.intent)
  refine (hrequire.returns).seq fun current s hs => ?_
  cases replay current with
  | some outcome => exact hnone outcome
  | none =>
    have hclaim := hs.keeps (uses_claim (fun _ => Op.SparesRuns.observes trivial) c.intent)
    refine (hclaim.returns).seq fun claimed s hs => ?_
    rw [safe_ite]
    refine ⟨fun _ => ?_, fun _ => (safe_ite _ _ _ _).mpr ⟨fun _ => trivial, fun _ => ?_⟩⟩
    · cases replay claimed.execution with
      | some outcome => exact hnone outcome
      | none => exact hnone _
    · -- The adapter touches no row, whether it answers or raises.
      have hadapter := hs.keeps (p := (c.adapter π c.intent.recordId).handle fun _ =>
        pure ⟨.unknown, none, []⟩) (.handle (uses_adapter π c _) fun _ => .pure _)
      refine (hadapter.returns).seq fun result s hs => ?_
      rw [pure_bind]
      have hcheckpoint := safe_checkpointCompletion c (completion c.intent result) hs
      exact hcheckpoint.seq fun left s hdone _ => hdone

theorem safe_createTicket {ticket : TicketInput} {context : RunContext}
    (hrun : ticket.runId = context.runId) (htenant : ticket.tenantId = context.tenantId)
    (hactor : ticket.actorRef = context.actorId) :
    Safe store.recording Unguarded (Returns fun _ s' => Ticketed options context s'.1)
      (options.createTicket ticket) s := by
  obtain ⟨db, t⟩ := s
  simp only [ConfirmOptions.createTicket, safe_ite]
  refine ⟨fun _ => ?_, fun hnone hgiven => absurd hgiven hnone⟩
  rw [safe_bind]
  refine safe_tx rfl trivial (fun e => trivial) ?_
  intro env a db' hx
  obtain ⟨db₁, hinsert, hx⟩ := Except.bind_eq_ok.mp hx
  obtain rfl : db₁ = db' := congrArg Prod.snd (Except.ok.inj hx)
  obtain ⟨tickets, hrows, rfl⟩ := DB.insertTicket_eq_ok hinsert
  intro _
  refine ⟨ticket.row env, ?_, ?_⟩
  · simp [hrows]
  · simp [HandoffTicket.openFor, TicketInput.row, hrun, htenant, hactor]

/-- A handover leaves an open ticket. -/
theorem safe_createHandoff {context : RunContext} {operation reasonCode : String} {details : Dict} :
    Safe store.recording Unguarded (Returns fun _ s' => Ticketed options context s'.1)
      (createHandoff options context operation reasonCode details) s := by
  refine (safe_createTicket rfl rfl rfl).seq fun ticketId s hticket => ?_
  have haudit : Uses Op.SparesTickets (options.appendAudit context) := by
    unfold ConfirmOptions.appendAudit
    exact .ite (.perform trivial) (.pure _)
  exact ((hticket.keeps haudit).returns).seq fun _ s hs => hs

/-- An unsuccessful outcome is reported as what it is, and only if it was checkpointed here. -/
theorem safe_settleUnsuccessful {outcome : MutationExecutionOutcome} {left : Option (ℕ × Dict)} :
    Safe store.recording Unguarded
      (Returns fun updated s' => left.isSome = true ∧
        (outcome.status = .unknown ∧ updated.status = .waitingHuman ∧
            Ticketed options c.context s'.1 ∨
          outcome.status ≠ .unknown ∧ updated.status = .failed))
      (c.settleUnsuccessful options outcome left) s := by
  refine (safe_unguarded (c.readback outcome)).seq fun readback s _ => ?_
  have hover : Safe store.recording Unguarded
      (Returns fun _ s' => outcome.status = .unknown → Ticketed options c.context s'.1)
      (c.handOver options outcome readback) s := by
    simp only [Confirmation.handOver, safe_ite]
    refine ⟨fun _ => ?_, fun hknown hunknown => absurd hunknown hknown⟩
    refine safe_createHandoff.post ?_
    rintro (e | ticketId) s' hs
    · trivial
    · exact fun _ => hs
  refine hover.seq fun ticketId s hticket => ?_
  cases left with
  | none => trivial
  | some left =>
    rw [requireOutcomeVersion, pure_bind]
    by_cases hunknown : outcome.status = .unknown
    · refine Safe.seq ((hticket hunknown).keeps uses_checkpoint_tickets).returns ?_
      exact fun version s hs => ⟨rfl, .inl ⟨hunknown, if_pos hunknown, hs⟩⟩
    · exact (safe_unguarded _).seq fun version s _ => ⟨rfl, .inr ⟨hunknown, if_neg hunknown⟩⟩

/-- A success is completed if the business system confirms it, and handed over if not. -/
theorem safe_settleSucceeded {left : Option (ℕ × Dict)} :
    Safe store.recording Unguarded
      (Returns fun updated s' => left.isSome = true ∧ Agrees s'.2 .succeeded updated.status ∧
        (updated.status = .waitingHuman → Ticketed options c.context s'.1))
      (c.settleSucceeded π options left) s := by
  obtain ⟨db, t⟩ := s
  cases left with
  | none => trivial
  | some left =>
    rw [Confirmation.settleSucceeded, requireOutcomeVersion, pure_bind]
    have hverify : ∀ w : WorldOp Bool, (∃ actorId key reference, w = .verify actorId key reference) →
        Safe store.recording Unguarded
          (Returns fun verified s' => saw (Event.verifies verified) s'.2 = true)
          (.perform (.world w)) (db, t) := by
      rintro _ ⟨actorId, key, reference, rfl⟩
      refine safe_world trivial fun r => ?_
      cases r with
      | error e => trivial
      | ok verified =>
        rw [returns_ok, saw_snoc]
        simp [Event.verifies]
    refine (hverify _ ⟨_, _, _, rfl⟩).seq fun verified s hsaw => ?_
    cases verified with
    | false =>
      refine Safe.seq (safe_createHandoff.both (saw_keeps hsaw _).returns) ?_
      rintro ticketId s ⟨hticket, hsaw⟩
      refine Safe.seq ((hticket.keeps uses_checkpoint_tickets).returns.both
        (saw_keeps hsaw _).returns) ?_
      rintro version s ⟨hticket, hsaw⟩
      exact ⟨rfl, .mismatched hsaw, fun _ => hticket⟩
    | true =>
      refine Safe.seq (saw_keeps hsaw _).returns fun version s hs => ?_
      refine ⟨rfl, .verified hs, fun hwait => ?_⟩
      exact absurd hwait (by simp [RunContext.copy])

theorem uses_settle_observes {outcome : MutationExecutionOutcome} {left : Option (ℕ × Dict)} :
    Uses Op.Observes (if outcome.status ≠ .succeeded then c.settleUnsuccessful options outcome left
      else c.settleSucceeded π options left) := by
  have hover : ∀ (operation reasonCode : String) (details : Dict),
      Uses Op.Observes (createHandoff options c.context operation reasonCode details) :=
    fun operation reasonCode details =>
      uses_createHandoff (fun _ => Op.SparesRuns.observes trivial) (fun _ _ _ => Op.SparesRuns.observes trivial) options c.context operation reasonCode details
  have hrequire : Uses Op.Observes (requireOutcomeVersion left) := by
    cases left with
    | none => exact .raise _
    | some left => exact .pure _
  have hworld : ∀ {β : Type} (w : WorldOp β), Op.Observes (.world w) :=
    fun w _ hc => absurd hc (by simp [Op.completion?, Op.commit?])
  refine .ite ?_ ?_
  · refine .bind (.ite (.perform (hworld _)) (.pure _)) fun readback =>
      .bind (.ite (hover _ _ _) (.pure _)) fun ticketId => .bind hrequire fun left =>
      .bind uses_checkpoint_observes fun version => .pure _
  · refine .bind hrequire fun left => .bind (.perform (hworld _)) fun verified => .ite ?_ ?_
    · exact .bind (hover _ _ _) fun ticketId => .bind uses_checkpoint_observes fun version => .pure _
    · exact .bind uses_checkpoint_observes fun version => .pure _

/-- From the committing checkpoint on, a confirmation that returns is settled. -/
theorem safe_confirmation_settled {operation keyHash : String}
    (h : Keyed c.recordId (c.context.tenantId, operation, keyHash) s.1) :
    Safe store.recording Unguarded
      (Returns fun updated s' => Settled options c.context operation keyHash updated s')
      (c.run π options) s := by
  refine (safe_execute_outcome π h).seq ?_
  rintro ⟨outcome, left⟩ s hdone
  -- What `execute` has left in the store decides: without an outcome version nothing is settled.
  cases left with
  | none =>
    refine (safe_ite _ _ _ _).mpr ⟨fun _ => ?_, fun _ => trivial⟩
    refine safe_settleUnsuccessful.post ?_
    rintro (e | updated) s' hr
    · trivial
    · exact absurd hr.1 (by simp)
  | some left =>
    have hobserves : Uses Op.Observes (if outcome.status ≠ .succeeded
        then c.settleUnsuccessful options outcome (some left)
        else c.settleSucceeded π options (some left)) := uses_settle_observes π
    have hkept := (hdone rfl).keeps hobserves
    have hexit : Safe store.recording Unguarded
        (Returns fun updated s' => Concluded c.recordId (c.context.tenantId, operation, keyHash)
          outcome.status s'.1 → Settled options c.context operation keyHash updated s')
        (if outcome.status ≠ .succeeded then c.settleUnsuccessful options outcome (some left)
          else c.settleSucceeded π options (some left)) s := by
      refine (safe_ite _ _ _ _).mpr ⟨fun hother => ?_, fun hsucc => ?_⟩
      · refine safe_settleUnsuccessful.post ?_
        rintro (e | updated) s' hr
        · trivial
        · rintro hstored
          rcases hr.2 with ⟨hunknown, hstatus, hticket⟩ | ⟨hknown, hstatus⟩
          · refine ⟨⟨_, hstored.keyStatus, ?_⟩, fun _ => hticket⟩
            rw [hunknown, hstatus]
            exact .unknown
          · refine ⟨⟨_, hstored.keyStatus, ?_⟩, fun hwait => ?_⟩
            · have hfailed : outcome.status = .failed := hstored.1.eq_failed hother hknown
              rw [hfailed, hstatus]
              exact .failed
            · exact absurd (hstatus.symm.trans hwait) (by simp)
      · refine (safe_settleSucceeded π).post ?_
        rintro (e | updated) s' hr
        · trivial
        · intro hstored
          refine ⟨⟨_, hstored.keyStatus, ?_⟩, hr.2.2⟩
          rw [not_not.mp hsucc]
          exact hr.2.1
    refine (hexit.both hkept.returns).post ?_
    rintro (e | updated) s' hr
    · trivial
    · exact hr.1 hr.2

end Exits

section Confirm

variable {π : Platform} {options : ConfirmOptions} {context updated : RunContext}
  {tokenPlaintext idempotencyKey : String} {s : Recorded} {db₀ db : DB}
  {t : List (Happened Op Exc DB)}

theorem safe_startCommitting_keyed {key : String × String × String}
    {reservation : IdempotencyReservation} (h : Keyed reservation.recordId key s.1) :
    Safe store.recording Unguarded
      (Returns fun c s' => c.context = context ∧ Keyed c.recordId key s'.1)
      (startCommitting π context idempotencyKey reservation) s :=
  (h.keeps uses_checkpoint_observes).returns.seq fun _ _ hs => ⟨rfl, hs⟩

theorem safe_confirmMutation_settled :
    Safe store.recording Unguarded
      (Returns fun updated s => saw Event.consumes s.2 = true →
        Settled options context (mutationOperation π context.state) (hashSecret π idempotencyKey)
          updated s)
      (confirmMutation π options context tokenPlaintext idempotencyKey) (db₀, []) := by
  have hstart : Untouched db₀ (db₀, []) := ⟨rfl, rfl, rfl⟩
  have hwaiting : Safe store.recording Unguarded (fun _ s' => Untouched db₀ s')
      (requireWaiting context (hashSecret π tokenPlaintext) "确认已失效或已使用") (db₀, []) :=
    safe_requireWaiting (fun _ _ _ => trivial) hstart
  refine hwaiting.returns.seq fun record s hs => ?_
  refine (safe_ite _ _ _ _).mpr ⟨fun _ => trivial, fun _ => ?_⟩
  have hreserve := safe_reserveConfirmation (G := Unguarded) (fun _ _ _ => trivial)
    (context.consumption π record (hashSecret π tokenPlaintext) idempotencyKey) hs
  rw [safe_bind]
  refine hreserve.post ?_
  rintro (e | reservation) s hs
  · trivial
  simp only [Reserved] at hs
  simp only [thenSafe_ok, safe_ite]
  refine ⟨fun hreused => ?_, fun hfresh => ?_⟩
  · rw [if_pos hreused] at hs
    intro hsaw
    exact absurd (hs.consumes.symm.trans hsaw) (by simp)
  · rw [if_neg hfresh] at hs
    obtain ⟨env, token, hconsumed, rfl⟩ := hs.consumed
    refine (safe_startCommitting_keyed (Keyed.of_consumed hconsumed)).seq ?_
    rintro c s ⟨rfl, hkeyed⟩
    refine (safe_confirmation_settled π hkeyed).post ?_
    rintro (e | updated) s' hsettled
    · trivial
    · exact fun _ => hsettled

/-- The world in which every commit succeeds and none is found again. -/
def forgetfulWorld : {α : Type} → WorldOp α → Except Exc α
  | _, .verify _ _ _ => .ok false
  | _, w => demoWorld 100 "" w

/-- A confirmation of the prepared run from its first call to its last. -/
def demoMismatch : List (Happened Op Exc DB) × Act RunContext × DB :=
  drive respond (List.replicate 15 ⟨⟨100, "record-1", fun _ => 0⟩, false, forgetfulWorld⟩)
    (confirmMutation demoPlatform ⟨true, true⟩ (preparedDB.resumed "run") "secret-1" "key-1")
    preparedDB

instance demoMismatch_facts : Fact (demoMismatch.2.1.returned (fun updated => updated.status = .waitingHuman) = true ∧
    saw Event.consumes demoMismatch.1 = true ∧
    demoMismatch.2.2.keyStatus (preparedDB.resumed "run").tenantId
      (mutationOperation demoPlatform (preparedDB.resumed "run").state)
      (hashSecret demoPlatform "key-1") = some .succeeded) :=
  ⟨by decide +kernel⟩

theorem demoMismatch_exec {updated : RunContext} (h : demoMismatch.2.1 = .ret updated) :
    Exec store (confirmMutation demoPlatform ⟨true, true⟩ (preparedDB.resumed "run") "secret-1"
      "key-1") preparedDB demoMismatch.1 (.ret updated) demoMismatch.2.2 := by
  have hexec := exec_of_drive (x := demoMismatch) rfl
  rwa [h] at hexec

/-- What a confirmation that reserved its intent reports is what is stored for its key. -/
theorem confirm_outcome_settled
    (he : Exec store (confirmMutation π options context tokenPlaintext idempotencyKey) db₀ t
      (.ret updated) db)
    (hfresh : saw Event.consumes t = true) :
    Settled options context (mutationOperation π context.state) (hashSecret π idempotencyKey)
      updated (db, t) :=
  safe_confirmMutation_settled.recorded he hfresh

/-- The success that is not found again is stored as a success and handed over. -/
theorem confirm_outcome_settled_mismatch :
    ∃ updated, updated.status = .waitingHuman ∧
      Settled ⟨true, true⟩ (preparedDB.resumed "run")
        (mutationOperation demoPlatform (preparedDB.resumed "run").state)
        (hashSecret demoPlatform "key-1") updated (demoMismatch.2.2, demoMismatch.1) := by
  obtain ⟨hret, hfresh, _⟩ := demoMismatch_facts.out
  obtain ⟨updated, hp, hstatus⟩ := Prog.eq_ret_of_returned hret
  exact ⟨updated, of_decide_eq_true hstatus,
    confirm_outcome_settled (demoMismatch_exec hp) hfresh⟩

/-- What a caller would see if every stored success were reported as completed. -/
structure ReportsStored (options : ConfirmOptions) (context : RunContext)
    (operation keyHash : String) (updated : RunContext) (s : Recorded) : Prop where
  final : updated.status ∈ [RunStatus.completed, .failed, .waitingHuman]
  stored : ∃ status, s.1.keyStatus context.tenantId operation keyHash = some status ∧
    (status = .succeeded → updated.status = .completed ∧ saw (Event.verifies true) s.2 = true) ∧
    (status = .unknown → updated.status = .waitingHuman)
  ticket : updated.status = .waitingHuman → Ticketed options context s.1

theorem ReportsStored.completed {operation keyHash : String}
    (h : ReportsStored options context operation keyHash updated (db, t))
    (hstored : db.keyStatus context.tenantId operation keyHash = some .succeeded) :
    updated.status = .completed := by
  obtain ⟨status, hkey, hsucc, _⟩ := h.stored
  obtain rfl := Option.some.inj (hkey.symm.trans hstored)
  exact (hsucc rfl).1

theorem confirm_outcome_not_as_stored :
    ¬ ∀ (π : Platform) (options : ConfirmOptions) (context updated : RunContext)
      (tokenPlaintext idempotencyKey : String) (db₀ db : DB) (t : List (Happened Op Exc DB)),
      Exec store (confirmMutation π options context tokenPlaintext idempotencyKey) db₀ t
        (.ret updated) db →
      ReportsStored options context (mutationOperation π context.state)
        (hashSecret π idempotencyKey) updated (db, t) := by
  intro h
  obtain ⟨hret, _, hstored⟩ := demoMismatch_facts.out
  obtain ⟨updated, hp, hstatus⟩ := Prog.eq_ret_of_returned hret
  have hreport := h demoPlatform ⟨true, true⟩ (preparedDB.resumed "run") updated "secret-1" "key-1"
    preparedDB demoMismatch.2.2 demoMismatch.1 (demoMismatch_exec hp)
  have hwait := of_decide_eq_true hstatus
  rw [hreport.completed hstored] at hwait
  exact absurd hwait (by decide)

end Confirm

end CommerceAgent
