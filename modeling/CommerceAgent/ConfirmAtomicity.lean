import CommerceAgent.Reservations

/-! Where a confirmation may stop before its adapter is called, and what it then leaves. -/
namespace CommerceAgent

open Json Tables Programs

def DB.runStatus (db : DB) (runId : Uuid) : Option RunStatus := (db.run runId).map AgentRun.status

def DB.tokenStatus (db : DB) (tokenHash : String) : Option TokenStatus :=
  (db.tokens.lookup ConfirmationToken.tokenHash tokenHash).map ConfirmationToken.status

/-- The status of the intent that is stored for an idempotency key. -/
def DB.keyStatus (db : DB) (tenantId operation keyHash : String) :
    Option MutationExecutionStatus :=
  (db.records.lookup (fun r => (r.tenantId, r.operation, r.idempotencyKeyHash))
    (tenantId, operation, keyHash)).map IdempotencyRecord.status

/-- The confirmation can be retried, or the run is committing; and no consumed token stands
beside a reserved intent of a run that still waits. -/
def FailureAtomic (context : RunContext) (tokenHash keyHash operation : String) (db : DB) : Prop :=
  (db.tokenStatus tokenHash = some .waiting ∨
    db.runStatus context.runId = some .committing) ∧
  ¬ (db.tokenStatus tokenHash = some .consumed ∧
    db.keyStatus context.tenantId operation keyHash = some .reserved ∧
    db.runStatus context.runId = some .waitingConfirmation)

instance (context : RunContext) (tokenHash keyHash operation : String) (db : DB) :
    Decidable (FailureAtomic context tokenHash keyHash operation db) :=
  inferInstanceAs (Decidable (_ ∧ ¬ _))

def Event.callsAdapter : Event → Bool
  | ⟨.world (.commit _ _ _ _ _ _), _⟩ => true
  | _ => false

/-- The calls stop after the token was consumed and before a checkpoint was committed. -/
def torn (t : List (Happened Op Exc DB)) : Bool :=
  saw Event.consumes t && !saw Event.commits t

def adapterCalled (t : List (Happened Op Exc DB)) : Bool := saw Event.callsAdapter t

/-- What a confirmation started from. -/
structure Presented (context : RunContext) (tokenHash : String) (db : DB) : Prop where
  run : db.runStatus context.runId = some .waitingConfirmation
  token : db.tokenStatus tokenHash = some .waiting

section Phases

variable (runId : Uuid) (tokenHash : String) (db₀ : DB)

/-- The token is consumed and the run still waits. -/
structure Taken (s : Recorded) : Prop where
  token : s.1.tokenStatus tokenHash = some .consumed
  run : s.1.runStatus runId = some .waitingConfirmation
  consumes : saw Event.consumes s.2 = true
  commits : saw Event.commits s.2 = false

/-- The committing checkpoint is there. -/
structure Committing (s : Recorded) : Prop where
  run : s.1.runStatus runId = some .committing
  commits : saw Event.commits s.2 = true

inductive Progress (s : Recorded) : Prop
  | untouched (h : Untouched db₀ s)
  | taken (h : Taken runId tokenHash s)
  | committing (h : Committing runId s)
  | invoked (h : adapterCalled s.2 = true)

end Phases

variable {runId : Uuid} {tokenHash : String} {db₀ : DB} {params : ConsumeParams}

/-- In every phase before the adapter call, the two tables agree exactly when the calls were not
torn. -/
theorem Progress.atomic_iff {context : RunContext} {keyHash operation : String} {s : Recorded}
    (h : Progress context.runId tokenHash db₀ s)
    (htoken : db₀.tokenStatus tokenHash = some .waiting) (hquiet : adapterCalled s.2 = false) :
    FailureAtomic context tokenHash keyHash operation s.1 ↔ torn s.2 = false := by
  cases h with
  | untouched h =>
    have hatomic : FailureAtomic context tokenHash keyHash operation s.1 := by
      rw [h.same]
      refine ⟨.inl htoken, ?_⟩
      rintro ⟨hconsumed, _⟩
      exact absurd (htoken.symm.trans hconsumed) (by simp)
    simp [hatomic, torn, h.consumes]
  | taken h =>
    have hbroken : ¬ FailureAtomic context tokenHash keyHash operation s.1 := by
      rintro ⟨hwait | hcommit, _⟩
      · exact absurd (h.token.symm.trans hwait) (by simp)
      · exact absurd (h.run.symm.trans hcommit) (by simp)
    simp [hbroken, torn, h.consumes, h.commits]
  | committing h =>
    have hatomic : FailureAtomic context tokenHash keyHash operation s.1 := by
      refine ⟨.inr h.run, ?_⟩
      rintro ⟨_, _, hwait⟩
      exact absurd (h.run.symm.trans hwait) (by simp)
    simp [hatomic, torn, h.commits]
  | invoked h => exact absurd (h.symm.trans hquiet) (by simp)

section Steps

variable {α : Type} {o : Op α} {r : Except Exc α} {db db' : DB} {t : List (Happened Op Exc DB)}

theorem Committing.keep (h : Committing runId (db, t)) (hruns : db'.runs = db.runs) :
    Committing runId (db', t ++ [⟨⟨o, r⟩, db, db'⟩]) := by
  refine ⟨?_, ?_⟩
  · rw [← h.run, DB.runStatus, DB.runStatus, DB.run, DB.run, hruns]
  · rw [saw_snoc, h.commits]
    rfl

/-- A consumption of the presented token, on a run that waits. -/
theorem FreshIntent.taken {reservation : IdempotencyReservation} {s : Recorded}
    (h : FreshIntent params db₀ reservation s)
    (hrun : db₀.runStatus runId = some .waitingConfirmation) :
    Taken runId params.tokenHash s := by
  obtain ⟨env, token, hc, _⟩ := h.consumed
  have hp := hc.matched
  simp only [ConsumeParams.matched, ConfirmationToken.presented, decide_eq_true_eq] at hp
  have hrow : Table.changed (params.matched env.now) (ConfirmationToken.consume env.now) token ∈
      s.1.tokens.rows := by
    rw [hc.tokens]
    exact List.mem_map_of_mem hc.found
  rw [Table.changed, if_pos hc.matched] at hrow
  refine ⟨?_, ?_, h.consumes, h.commits⟩
  · have hlookup := (Table.lookup_eq_some ConfirmationToken.clash_of_tokenHash).mpr
      ⟨hrow, hp.1⟩
    rw [DB.tokenStatus, hlookup]
    rfl
  · obtain ⟨tokens, records, heq⟩ := hc.others
    rw [← hrun, heq]
    rfl

/-- The committing checkpoint, after the token was consumed. -/
theorem Taken.commit {p : CommitStep} {now : ℕ} {run : AgentRun} (hc : p.Committed now run db db')
    (hid : p.runId = runId) (hstatus : p.nextStatus = .committing) :
    Committing runId (db', t ++ [⟨⟨.runs (.commitStep p), .ok ()⟩, db, db'⟩]) := by
  refine ⟨?_, ?_⟩
  · rw [DB.runStatus, hc.runs, if_pos hid.symm]
    simp [AgentRun.advance, hstatus]
  · rw [saw_snoc]
    exact Bool.or_true _

theorem Taken.fail {e : Exc} (h : Taken runId tokenHash (db, t)) :
    Taken runId tokenHash (db, t ++ [⟨⟨o, .error e⟩, db, db⟩]) := by
  refine ⟨h.token, h.run, ?_, ?_⟩
  · rw [saw_snoc, h.consumes]
    rfl
  · have hev : Event.commits (⟨o, .error e⟩ : Event) = false := by
      unfold Event.commits
      split
      · rename_i heq
        cases heq
      · rfl
    rw [saw_snoc, h.commits, hev]
    rfl

end Steps

section Phases

variable (π : Platform) {options : ConfirmOptions} {context : RunContext} {s : Recorded}

/-- The guard of every call: one of the phases holds. -/
abbrev InPhase (runId : Uuid) (tokenHash : String) (db₀ : DB) (s : Recorded) {α : Type}
    (_ : Op α) : Prop :=
  Progress runId tokenHash db₀ s

theorem get?_committingState (state : Dict) (recordId keyHash : String) :
    (committingState state recordId keyHash).get? "mutation_args" =
      state.get? "mutation_args" := by
  simp [committingState]

theorem safe_startCommitting {idempotencyKey : String} {reservation : IdempotencyReservation}
    (h : Taken context.runId tokenHash s) :
    Safe store.recording (InPhase context.runId tokenHash db₀)
      (fun r s' => match r with
        | .ok c => Committing context.runId s' ∧
          c.committing.state.get? "mutation_args" = context.state.get? "mutation_args"
        | .error _ => Progress context.runId tokenHash db₀ s')
      (startCommitting π context idempotencyKey reservation) s := by
  obtain ⟨db, t⟩ := s
  simp only [startCommitting, checkpoint, commitCheckpoint, commitStep, checkpointStep,
    Option.isSome_none, Bool.false_eq_true, false_and, if_false, List.isEmpty_cons, Option.any_none,
    safe_bind]
  refine safe_tx rfl (.taken h) (fun e => .taken h.fail) ?_
  intro env a db' hx
  obtain ⟨run, hc⟩ := commitStepTx_committed hx
  have hcommitting := Taken.commit (t := t) hc rfl rfl
  simp only [thenSafe_ok, safe_bind]
  refine safe_tx rfl (.committing hcommitting) (fun e => .committing (hcommitting.keep rfl)) ?_
  intro env snapshot db'' hx
  obtain rfl : db' = db'' := congrArg Prod.snd (Except.ok.inj hx)
  cases snapshot with
  | none => exact .committing (hcommitting.keep rfl)
  | some run => exact ⟨hcommitting.keep rfl, get?_committingState _ _ _⟩

/-- Programs that spare the runs keep the committing run. -/
theorem Committing.keeps {α : Type} {p : Act α} (hp : Uses Op.SparesRuns p)
    (h : Committing runId s) :
    Safe store.recording (InPhase runId tokenHash db₀) (fun _ s' => Committing runId s') p s := by
  refine safe_retains hp ?_ (fun _ _ _ hs => .committing hs) h
  intro db db' t β o r hs ho heff
  exact hs.keep (heff.runs_eq ho).1

/-- After the adapter call nothing more is promised. -/
theorem safe_invoked {α : Type} (h : adapterCalled s.2 = true) (p : Act α) :
    Safe store.recording (InPhase runId tokenHash db₀)
      (fun _ s' => adapterCalled s'.2 = true) p s := by
  have hstable := Safe.of_stable (M := store.recording) (J := fun s => adapterCalled s.2 = true)
    ?_ h p
  · exact hstable.mono (fun _ _ _ hs => .invoked hs) fun _ _ hs => hs
  · rintro ⟨db, t⟩ β o r ⟨db', t'⟩ hs ⟨_, ht'⟩
    obtain rfl : t' = t ++ [⟨⟨o, r⟩, db, db'⟩] := ht'
    change saw _ _ = true
    rw [saw_snoc, show saw Event.callsAdapter t = true from hs]
    rfl

/-- Without an adapter call there is no outcome version: the exits raise before they write. -/
theorem uses_settleUnsuccessful (c : Confirmation) (outcome : MutationExecutionOutcome) :
    Uses Op.SparesRuns (c.settleUnsuccessful options outcome none) := by
  unfold Confirmation.settleUnsuccessful Confirmation.readback Confirmation.handOver
  refine .bind ?_ fun readback => .bind ?_ fun ticketId => .raise _
  · split
    · exact .perform trivial
    · exact .pure _
  · split
    · exact uses_createHandoff (fun _ => trivial) (fun _ _ _ => trivial) _ _ _ _ _
    · exact .pure _

theorem uses_settleSucceeded (c : Confirmation) :
    Uses Op.SparesRuns (c.settleSucceeded π options none) :=
  Uses.raise _

/-- What the state of a prepared run holds for the adapter. -/
abbrev HoldsArguments (state : Dict) : Prop :=
  ((state.get? "mutation_args").all fun v => v.asObj?.isSome) = true

/-- `execute` calls the adapter, or it keeps the committing run and leaves no outcome
version. -/
theorem safe_execute_phase {c : Confirmation} (hargs : HoldsArguments c.committing.state)
    (h : Committing runId s) :
    Safe store.recording (InPhase runId tokenHash db₀)
      (fun r s' => adapterCalled s'.2 = true ∨
        Committing runId s' ∧ ∀ executed, r = .ok executed → executed.2 = none)
      (execute c.intent (c.adapter π) c.checkpointCompletion) s := by
  have hquiet : ∀ {s'} (outcome : MutationExecutionOutcome), Committing runId s' →
      Safe store.recording (InPhase runId tokenHash db₀)
        (fun r s' => adapterCalled s'.2 = true ∨
          Committing runId s' ∧ ∀ executed, r = .ok executed → executed.2 = none)
        (pure (outcome, none) : Act (MutationExecutionOutcome × Option (ℕ × Dict))) s' := by
    intro s' outcome hs
    refine .inr ⟨hs, ?_⟩
    rintro _ hr
    obtain rfl := Except.ok.inj hr
    rfl
  simp only [execute, safe_bind]
  refine (h.keeps (uses_requireIntent (fun _ => trivial) c.intent)).post ?_
  intro r s' hs
  cases r with
  | error e => exact .inr ⟨hs, fun _ hr => absurd hr (by simp)⟩
  | ok current =>
    simp only [thenSafe_ok]
    cases replay current with
    | some outcome => exact hquiet outcome hs
    | none =>
      simp only [safe_bind]
      refine (hs.keeps (uses_claim (fun _ => trivial) c.intent)).post ?_
      intro r s' hs
      cases r with
      | error e => exact .inr ⟨hs, fun _ hr => absurd hr (by simp)⟩
      | ok claimed =>
        simp only [thenSafe_ok, safe_ite]
        refine ⟨fun _ => ?_, fun _ => ⟨fun _ => ?_, fun _ => ?_⟩⟩
        · cases replay claimed.execution with
          | some outcome => exact hquiet outcome hs
          | none => exact hquiet _ hs
        · exact .inr ⟨hs, fun _ hr => absurd hr (by simp)⟩
        -- The claim is taken: with arguments in the state nothing stops the call of the adapter.
        · obtain ⟨arguments, hsome⟩ : ∃ arguments, ((c.committing.state.get?
              "mutation_args").getD (.obj [])).asObj? = some arguments := by
            unfold HoldsArguments at hargs
            cases hv : c.committing.state.get? "mutation_args" with
            | none => exact ⟨[], rfl⟩
            | some v =>
              rw [hv] at hargs
              exact Option.isSome_iff_exists.mp hargs
          simp only [invokeAdapter, Confirmation.adapter, hsome]
          refine ⟨.committing hs, ?_⟩
          rintro r ⟨db, t⟩ ⟨_, ht⟩
          refine (safe_invoked ?_ _).post fun _ _ hi => .inl hi
          rw [adapterCalled, ht, saw_snoc]
          exact Bool.or_true _

theorem safe_confirmation_phase {c : Confirmation}
    (hargs : HoldsArguments c.committing.state) (h : Committing runId s) :
    Safe store.recording (InPhase runId tokenHash db₀)
      (fun _ s' => Progress runId tokenHash db₀ s') (c.run π options) s := by
  simp only [Confirmation.run, safe_bind]
  refine (safe_execute_phase π hargs h).post ?_
  rintro r s' (hinvoked | ⟨hs, hleft⟩)
  · cases r with
    | error e => exact .invoked hinvoked
    | ok executed => exact (safe_invoked hinvoked _).post fun _ _ hi => .invoked hi
  · cases r with
    | error e => exact .committing hs
    | ok executed =>
      obtain ⟨outcome, left⟩ := executed
      obtain rfl : left = none := hleft _ rfl
      simp only [thenSafe_ok, safe_ite]
      refine ⟨fun _ => ?_, fun _ => ?_⟩
      · exact (hs.keeps (uses_settleUnsuccessful c outcome)).post fun _ _ hc => .committing hc
      · exact (hs.keeps (uses_settleSucceeded π c)).post fun _ _ hc => .committing hc

end Phases

section Confirm

variable {π : Platform} {options : ConfirmOptions} {context : RunContext}
  {tokenPlaintext idempotencyKey : String}

/-- Wherever a confirmation stops, it is in one of the phases. -/
theorem safe_confirmMutation_phase
    (h : Presented context (hashSecret π tokenPlaintext) db₀)
    (hargs : HoldsArguments context.state) :
    Safe store.recording (InPhase context.runId (hashSecret π tokenPlaintext) db₀)
      (fun _ s => Progress context.runId (hashSecret π tokenPlaintext) db₀ s)
      (confirmMutation π options context tokenPlaintext idempotencyKey) (db₀, []) := by
  have hstart : Untouched db₀ (db₀, []) := ⟨rfl, rfl, rfl⟩
  simp only [confirmMutation, safe_bind]
  refine (safe_requireWaiting (fun h _ _ => .untouched h) hstart).post ?_
  intro r s hs
  cases r with
  | error e => exact .untouched hs
  | ok record =>
    simp only [thenSafe_ok, safe_ite]
    refine ⟨fun _ => .untouched hs, fun _ => ?_⟩
    simp only [safe_bind]
    refine (safe_reserveConfirmation (fun h _ _ => .untouched h)
      (context.consumption π record _ idempotencyKey) hs).post ?_
    intro r s hs
    cases r with
    | error e => exact .untouched hs
    | ok reservation =>
      simp only [Reserved] at hs
      simp only [thenSafe_ok, safe_ite]
      refine ⟨fun hr => ?_, fun hr => ?_⟩
      · rw [if_pos hr] at hs
        exact .untouched hs
      · rw [if_neg hr] at hs
        simp only [safe_bind]
        refine (safe_startCommitting π (hs.taken h.run)).post ?_
        intro r s hs
        cases r with
        | error e => exact hs
        | ok c =>
          have hargs' : HoldsArguments c.committing.state := by
            rw [HoldsArguments, hs.2]
            exact hargs
          exact safe_confirmation_phase π hargs' hs.1

/-- The first calls of a confirmation of the prepared run; the last of them fails if `fault`. -/
def demoConfirm (calls : ℕ) (fault : Bool) : List (Happened Op Exc DB) × Act RunContext × DB :=
  drive respond (List.replicate calls (demoChoice "record-1" "" false) ++
    [demoChoice "record-1" "" fault])
    (confirmMutation demoPlatform ⟨true, true⟩ (preparedDB.resumed "run") "secret-1" "key-1")
    preparedDB

theorem demoConfirm_exec (calls : ℕ) (fault : Bool) :
    Exec store (confirmMutation demoPlatform ⟨true, true⟩ (preparedDB.resumed "run") "secret-1"
      "key-1") preparedDB (demoConfirm calls fault).1 (demoConfirm calls fault).2.1
      (demoConfirm calls fault).2.2 :=
  exec_of_drive rfl

/-- A crash right after the consumption, and a failure of the database at the committing
checkpoint. -/
instance demoConfirm_facts : Fact ((preparedDB.runStatus (preparedDB.resumed "run").runId = some .waitingConfirmation ∧
      preparedDB.tokenStatus (hashSecret demoPlatform "secret-1") = some .waiting ∧
      HoldsArguments (preparedDB.resumed "run").state) ∧
    (adapterCalled (demoConfirm 2 false).1 = false ∧
      ¬ FailureAtomic (preparedDB.resumed "run") (hashSecret demoPlatform "secret-1")
        (hashSecret demoPlatform "key-1")
        (mutationOperation demoPlatform (preparedDB.resumed "run").state)
        (demoConfirm 2 false).2.2) ∧
    adapterCalled (demoConfirm 3 true).1 = false ∧ torn (demoConfirm 3 true).1 = true) :=
  ⟨by decide +kernel⟩

/-- A confirmation that raises or crashes before its adapter call is atomic exactly when it does
not stop between its consumption and its committing checkpoint. -/
theorem confirm_failure_atomic_iff {t : List (Happened Op Exc DB)} {q : Act RunContext} {db : DB}
    (h : Presented context (hashSecret π tokenPlaintext) db₀)
    (hargs : HoldsArguments context.state)
    (he : Exec store (confirmMutation π options context tokenPlaintext idempotencyKey) db₀ t q db)
    (hquiet : adapterCalled t = false) :
    FailureAtomic context (hashSecret π tokenPlaintext) (hashSecret π idempotencyKey)
      (mutationOperation π context.state) db ↔ torn t = false := by
  have hphase := ((safe_confirmMutation_phase h hargs).recorded he).everywhere
  exact hphase.atomic_iff h.token hquiet

theorem confirm_failure_atomic_iff_fault :
    torn (demoConfirm 3 true).1 = true ∧
    (FailureAtomic (preparedDB.resumed "run") (hashSecret demoPlatform "secret-1")
      (hashSecret demoPlatform "key-1")
      (mutationOperation demoPlatform (preparedDB.resumed "run").state) (demoConfirm 3 true).2.2 ↔
      torn (demoConfirm 3 true).1 = false) := by
  obtain ⟨⟨hrun, htoken, hargs⟩, _, hquiet, htorn⟩ := demoConfirm_facts.out
  exact ⟨htorn, confirm_failure_atomic_iff ⟨hrun, htoken⟩ hargs (demoConfirm_exec 3 true) hquiet⟩

/-- After the crash the token is gone and the run waits for it. -/
theorem confirm_not_failure_atomic :
    ¬ ∀ (π : Platform) (options : ConfirmOptions) (context : RunContext)
      (tokenPlaintext idempotencyKey : String) (db₀ db : DB) (t : List (Happened Op Exc DB))
      (q : Act RunContext), Presented context (hashSecret π tokenPlaintext) db₀ →
      HoldsArguments context.state →
      Exec store (confirmMutation π options context tokenPlaintext idempotencyKey) db₀ t q db →
      adapterCalled t = false →
      FailureAtomic context (hashSecret π tokenPlaintext) (hashSecret π idempotencyKey)
        (mutationOperation π context.state) db := by
  intro h
  obtain ⟨⟨hrun, htoken, hargs⟩, ⟨hquiet, hbroken⟩, _⟩ := demoConfirm_facts.out
  exact hbroken (h demoPlatform ⟨true, true⟩ (preparedDB.resumed "run") "secret-1" "key-1"
    preparedDB _ _ _ ⟨hrun, htoken⟩ hargs (demoConfirm_exec 2 false) hquiet)

end Confirm

end CommerceAgent
