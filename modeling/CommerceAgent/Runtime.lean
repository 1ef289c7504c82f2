import CommerceAgent.Interleaving
import CommerceAgent.RunRepository
import CommerceAgent.MutationRepository
import CommerceAgent.HandoffRepository
import CommerceAgent.MessageRepository

/-! The interface of the runtime: database transactions, and what the program asks of the world
outside the database. A transaction may fail and roll back; the world may answer anything. -/
namespace CommerceAgent

open Json Programs

/-- The two business systems behind the mutation boundary. -/
inductive BusinessSystem where
  | mutation
  | lowRisk
  deriving DecidableEq, Repr

inductive WorldOp : Type → Type
  | now : WorldOp ℕ
  | tokenUrlsafe : WorldOp String
  | commit (system : BusinessSystem) (operation actorId resourceRef : String) (arguments : Dict)
      (idempotencyKey : String) : WorldOp MutationAdapterResult
  | verify (actorId idempotencyKey businessReference : String) : WorldOp Bool
  | readback (actorId idempotencyKey : String) : WorldOp (Option Dict)
  | auditAppend (tenantId actorRef eventType : String) : WorldOp Unit
  | uuid4 : WorldOp Uuid
  /-- Hands a run to the background worker. -/
  | submit (conversationId : Uuid) (content actorId : String) (runId : Uuid) : WorldOp Unit
  /-- The classifier call of the router. -/
  | classify (content : String) (allowedIntents : List String) : WorldOp IntentClassification
  /-- The release assignment of a request: whether a canary candidate may execute. -/
  | assignRelease (runId : Uuid) (route : Option String) : WorldOp Bool
  /-- The experience skill that the registry matches, as the state entries it adds. -/
  | matchSkill (content route : String) : WorldOp (Option Dict)
  /-- The model and tool part of one readonly step. -/
  | agentStep (context : RunContext) : WorldOp LoopResult
  /-- The token charge of a step whose usage is unknown. -/
  | tokenCharge : WorldOp ℕ

inductive Op (α : Type) where
  | runs (t : RunTx α)
  | tokens (t : TokenTx α)
  | records (t : RecordTx α)
  | tickets (t : TicketTx α)
  | messages (t : MessageTx α)
  | world (w : WorldOp α)

abbrev Act (α : Type) : Type 1 := Prog Op Exc α

abbrev Event : Type 1 := Call Op Exc

/-- What is open when an operation is performed: the surroundings of the transaction, whether it
fails, and the answers of the world. -/
structure Choice where
  env : Env
  fault : Bool
  world : {α : Type} → WorldOp α → Except Exc α

def settle {α : Type} (fault : Bool) (db : DB) (outcome : Except Exc (α × DB)) :
    Except Exc α × DB :=
  if fault then (.error .database, db)
  else match outcome with
    | .ok (a, db') => (.ok a, db')
    | .error e => (.error e, db)

def respond (c : Choice) (db : DB) : {α : Type} → Op α → Except Exc α × DB
  | _, .runs t => settle c.fault db (t.exec c.env db)
  | _, .tokens t => settle c.fault db (t.exec c.env db)
  | _, .records t => settle c.fault db (t.exec c.env db)
  | _, .tickets t => settle c.fault db (t.exec c.env db)
  | _, .messages t => settle c.fault db (t.exec c.env db)
  | _, .world w => (c.world w, db)

/-- The database with the world around it. -/
def store : Machine Op Exc DB := .of respond

/-- The calls of a program under given choices, with what they lead to. -/
theorem exec_of_drive {α : Type} {cs : List Choice} {p : Act α} {db : DB}
    {x : List (Happened Op Exc DB) × Act α × DB} (h : drive respond cs p db = x) :
    Exec store p db x.1 x.2.1 x.2.2 := by
  subst h
  exact drive_exec _ _ _ _

/-- An operation either raises and leaves the state as it was, or commits its transaction, or
asks the world. -/
def Op.Effect {α : Type} : Op α → DB → Except Exc α → DB → Prop
  | .runs t, db, r, db' =>
    (∃ e, r = .error e ∧ db' = db) ∨ ∃ env a, r = .ok a ∧ t.exec env db = .ok (a, db')
  | .tokens t, db, r, db' =>
    (∃ e, r = .error e ∧ db' = db) ∨ ∃ env a, r = .ok a ∧ t.exec env db = .ok (a, db')
  | .records t, db, r, db' =>
    (∃ e, r = .error e ∧ db' = db) ∨ ∃ env a, r = .ok a ∧ t.exec env db = .ok (a, db')
  | .tickets t, db, r, db' =>
    (∃ e, r = .error e ∧ db' = db) ∨ ∃ env a, r = .ok a ∧ t.exec env db = .ok (a, db')
  | .messages t, db, r, db' =>
    (∃ e, r = .error e ∧ db' = db) ∨ ∃ env a, r = .ok a ∧ t.exec env db = .ok (a, db')
  | .world _, db, _, db' => db' = db

theorem settle_cases {α : Type} {fault : Bool} {db db' : DB} {outcome : Except Exc (α × DB)}
    {r : Except Exc α} (h : settle fault db outcome = (r, db')) :
    (∃ e, r = .error e ∧ db' = db) ∨ ∃ a, r = .ok a ∧ outcome = .ok (a, db') := by
  unfold settle at h
  split at h
  · obtain ⟨rfl, rfl⟩ := Prod.mk.inj h
    exact .inl ⟨_, rfl, rfl⟩
  · split at h
    · obtain ⟨rfl, rfl⟩ := Prod.mk.inj h
      exact .inr ⟨_, rfl, rfl⟩
    · obtain ⟨rfl, rfl⟩ := Prod.mk.inj h
      exact .inl ⟨_, rfl, rfl⟩

theorem store_effect {α : Type} {db db' : DB} {o : Op α} {r : Except Exc α}
    (h : store db o r db') :
    o.Effect db r db' := by
  obtain ⟨c, hc⟩ := h
  cases o with
  | world w => exact ((Prod.mk.inj hc).2).symm
  | runs t =>
    rcases settle_cases hc with hr | ⟨a, rfl, hx⟩
    · exact .inl hr
    · exact .inr ⟨c.env, a, rfl, hx⟩
  | tokens t =>
    rcases settle_cases hc with hr | ⟨a, rfl, hx⟩
    · exact .inl hr
    · exact .inr ⟨c.env, a, rfl, hx⟩
  | records t =>
    rcases settle_cases hc with hr | ⟨a, rfl, hx⟩
    · exact .inl hr
    · exact .inr ⟨c.env, a, rfl, hx⟩
  | tickets t =>
    rcases settle_cases hc with hr | ⟨a, rfl, hx⟩
    · exact .inl hr
    · exact .inr ⟨c.env, a, rfl, hx⟩
  | messages t =>
    rcases settle_cases hc with hr | ⟨a, rfl, hx⟩
    · exact .inl hr
    · exact .inr ⟨c.env, a, rfl, hx⟩

/-- The transaction that an operation is. -/
def Op.tx? {α : Type} : Op α → Option (Tx α)
  | .runs t => some t.exec
  | .tokens t => some t.exec
  | .records t => some t.exec
  | .tickets t => some t.exec
  | .messages t => some t.exec
  | .world _ => none

theorem Op.Effect.of_tx {α : Type} {o : Op α} {tx : Tx α} {db db' : DB} {r : Except Exc α}
    (h : o.Effect db r db') (ht : o.tx? = some tx) :
    (∃ e, r = .error e ∧ db' = db) ∨ ∃ env a, r = .ok a ∧ tx env db = .ok (a, db') := by
  cases o with
  | world w => exact absurd ht (by simp [Op.tx?])
  | _ =>
    obtain rfl := Option.some.inj ht
    exact h

/-- The database with what happened to it. -/
abbrev Recorded : Type 1 := DB × List (Happened Op Exc DB)

section Steps

variable {α : Type} {G : Recorded → {β : Type} → Op β → Prop} {Q : Except Exc α → Recorded → Prop}
  {db : DB} {t : List (Happened Op Exc DB)}

/-- A transaction fails and changes nothing, or commits. -/
theorem safe_tx {o : Op α} {tx : Tx α} (ht : o.tx? = some tx) (hG : G (db, t) o)
    (herror : ∀ e, Q (.error e) (db, t ++ [⟨⟨o, .error e⟩, db, db⟩]))
    (hok : ∀ env a db', tx env db = .ok (a, db') →
      Q (.ok a) (db', t ++ [⟨⟨o, .ok a⟩, db, db'⟩])) :
    Safe store.recording G Q (.perform o) (db, t) := by
  rw [safe_perform]
  refine ⟨hG, ?_⟩
  rintro r ⟨db', t'⟩ ⟨hm, ht'⟩
  obtain rfl : t' = t ++ [⟨⟨o, r⟩, db, db'⟩] := ht'
  have heff : o.Effect db r db' := store_effect hm
  rcases heff.of_tx ht with ⟨e, rfl, rfl⟩ | ⟨env, a, rfl, hx⟩
  · exact herror e
  · exact hok env a db' hx

theorem safe_world {w : WorldOp α} (hG : G (db, t) (.world w))
    (hQ : ∀ r, Q r (db, t ++ [⟨⟨.world w, r⟩, db, db⟩])) :
    Safe store.recording G Q (.perform (.world w)) (db, t) := by
  rw [safe_perform]
  refine ⟨hG, ?_⟩
  rintro r ⟨db', t'⟩ ⟨hm, ht'⟩
  obtain rfl : t' = t ++ [⟨⟨.world w, r⟩, db, db'⟩] := ht'
  obtain rfl : db' = db := store_effect hm
  exact hQ r

/-- What each operation of a program keeps, the program keeps. -/
theorem safe_retains {P : {β : Type} → Op β → Prop} {J : Recorded → Prop} {p : Act α}
    {s : Recorded} (hp : Uses P p)
    (hstep : ∀ {db db' t} {β : Type} (o : Op β) (r : Except Exc β), J (db, t) → P o →
      o.Effect db r db' → J (db', t ++ [⟨⟨o, r⟩, db, db'⟩]))
    (hG : ∀ s {β : Type} (o : Op β), J s → G s o) (hJ : J s) :
    Safe store.recording G (fun _ s' => J s') p s := by
  refine (hp.keeps ?_ hJ).mono (fun _ _ o hs => hG _ o hs) fun _ _ hs => hs
  rintro ⟨db, t⟩ β o r ⟨db', t'⟩ hs ho ⟨hm, ht'⟩
  obtain rfl : t' = t ++ [⟨⟨o, r⟩, db, db'⟩] := ht'
  have heff : o.Effect db r db' := store_effect hm
  exact hstep o r hs ho heff

end Steps

/-- An operation that raised left the database as it was. -/
theorem Op.Effect.error {α : Type} {o : Op α} {db db' : DB} {e : Exc}
    (h : o.Effect db (.error e) db') : db' = db := by
  have hfail : ∀ {P : Env → α → Prop},
      ((∃ e', (.error e : Except Exc α) = .error e' ∧ db' = db) ∨
        ∃ env a, (.error e : Except Exc α) = .ok a ∧ P env a) → db' = db := by
    rintro P (⟨_, _, hdb⟩ | ⟨_, _, hr, _⟩)
    · exact hdb
    · exact absurd hr (by simp)
  cases o with
  | world w => exact h
  | _ => exact hfail h

/-- The operations that are not transactions on runs. -/
def Op.SparesRuns {α : Type} : Op α → Prop
  | .runs _ => False
  | _ => True

def Op.SparesTokens {α : Type} : Op α → Prop
  | .tokens _ => False
  | _ => True

def Op.SparesTickets {α : Type} : Op α → Prop
  | .tickets _ => False
  | _ => True

def Op.SparesMessages {α : Type} : Op α → Prop
  | .messages _ => False
  | _ => True

/-- The arguments of a `commit_step`. -/
def Op.commit? {α : Type} : Op α → Option CommitStep
  | .runs t => t.commit?
  | _ => none

/-- What an operation that commits writes to the event log of a run. -/
def Op.written? {α : Type} : Op α → Option (Uuid × String × List DomainEvent)
  | .runs t => t.written?
  | _ => none

/-- The consumption that an operation carries. -/
def Op.consume? {α : Type} : Op α → Option ConsumeParams
  | .tokens t => t.consume?
  | _ => none

/-- The mutation completion that an operation carries. -/
def Op.completion? {α : Type} (o : Op α) : Option MutationCompletion :=
  o.commit?.bind CommitStep.mutationCompletion

/-- Completions are observations: `commit_step` is called with no others. -/
def Op.Observes {α : Type} (o : Op α) : Prop := ∀ c ∈ o.completion?, c.status.IsFinal

theorem Op.SparesRuns.observes {α : Type} {o : Op α} (ho : o.SparesRuns) : o.Observes := by
  intro c hc
  cases o with
  | runs t => exact False.elim ho
  | _ => exact absurd hc (by simp [Op.completion?, Op.commit?])

theorem RunTx.exec_of_commit? {α : Type} {t : RunTx α} {p : CommitStep} (ht : t.commit? = some p)
    {env : Env} {db db' : DB} {a : α} (h : t.exec env db = .ok (a, db')) :
    commitStepTx p env db = .ok ((), db') := by
  cases t with
  | commitStep p' =>
    obtain rfl := Option.some.inj ht
    exact h
  | _ => exact absurd ht (by simp [RunTx.commit?])

/-- What an operation writes: the tables of one repository, apart from the two transactions that
write across repositories. -/
inductive Op.Writes {α : Type} (o : Op α) (db db' : DB) : Prop
  | nothing (h : db' = db)
  | runs (ho : ¬ o.SparesRuns) (h : ∃ runs events, db' = { db with runs := runs, events := events })
  | commit (ho : ¬ o.SparesRuns) {p : CommitStep} {now : ℕ} {run : AgentRun}
      (hp : o.commit? = some p) (h : p.Committed now run db db')
  | tokens (ho : ¬ o.SparesTokens) (h : ∃ tokens, db' = { db with tokens := tokens })
  | consume (ho : ¬ o.SparesTokens) {params : ConsumeParams} {env : Env}
      {token : ConfirmationToken} (hp : o.consume? = some params)
      (h : params.Consumed env token db db')
  | records (h : ∃ records, db' = { db with records := records })
      (hafter : ∀ recordId, RecordAfter (db.record recordId) (db'.record recordId))
  | tickets (ho : ¬ o.SparesTickets) (h : ∃ tickets, db' = { db with tickets := tickets })
  | messages (ho : ¬ o.SparesMessages) (h : ∃ messages, db' = { db with messages := messages })

theorem Op.Effect.writes {α : Type} {o : Op α} {db db' : DB} {r : Except Exc α}
    (h : o.Effect db r db') : o.Writes db db' := by
  cases o with
  | world w => exact .nothing h
  | runs t =>
    rcases h with ⟨_, _, hdb⟩ | ⟨env, a, _, hx⟩
    · exact .nothing hdb
    · cases ht : t.commit? with
      | none => exact .runs id (RunTx.frame hx ht)
      | some p =>
        obtain ⟨run, hcommit⟩ := commitStepTx_committed (RunTx.exec_of_commit? ht hx)
        exact .commit id ht hcommit
  | tokens t =>
    rcases h with ⟨_, _, hdb⟩ | ⟨env, a, _, hx⟩
    · exact .nothing hdb
    · cases ht : t.consume? with
      | none =>
        obtain ⟨tokens, records, hdb, hrec⟩ := TokenTx.frame hx
        obtain rfl := hrec ht
        exact .tokens id ⟨tokens, hdb⟩
      | some params =>
        obtain ⟨_, hconsume⟩ := TokenTx.exec_of_consume? ht hx
        obtain ⟨_, _, hconsumed⟩ := consumeAndInsert_consumed hconsume
        exact .consume id ht hconsumed
  | records t =>
    rcases h with ⟨_, _, hdb⟩ | ⟨env, a, _, hx⟩
    · exact .nothing hdb
    · exact .records (RecordTx.frame hx) (RecordTx.recordAfter hx)
  | tickets t =>
    rcases h with ⟨_, _, hdb⟩ | ⟨env, a, _, hx⟩
    · exact .nothing hdb
    · exact .tickets id (TicketTx.frame hx)
  | messages t =>
    rcases h with ⟨_, _, hdb⟩ | ⟨env, a, _, hx⟩
    · exact .nothing hdb
    · exact .messages id (MessageTx.frame hx)

section Frames

variable {α : Type} {o : Op α} {db db' : DB} {r : Except Exc α}

theorem Op.Effect.runs_eq (h : o.Effect db r db') (ho : o.SparesRuns) :
    db'.runs = db.runs ∧ db'.checkpoints = db.checkpoints ∧ db'.events = db.events := by
  cases h.writes with
  | runs hruns => exact absurd ho hruns
  | commit hruns => exact absurd ho hruns
  | consume _ _ h =>
    obtain ⟨tokens, records, rfl⟩ := h.others
    exact ⟨rfl, rfl, rfl⟩
  | nothing h =>
    subst h
    exact ⟨rfl, rfl, rfl⟩
  | tokens _ h | records h | tickets _ h | messages _ h =>
    obtain ⟨_, rfl⟩ := h
    exact ⟨rfl, rfl, rfl⟩

theorem Op.Effect.tokens_eq (h : o.Effect db r db') (ho : o.SparesTokens) :
    db'.tokens = db.tokens := by
  cases h.writes with
  | tokens htokens => exact absurd ho htokens
  | consume htokens => exact absurd ho htokens
  | commit _ _ h => exact h.others.1
  | runs _ h =>
    obtain ⟨_, _, rfl⟩ := h
    rfl
  | nothing h =>
    subst h
    rfl
  | records h | tickets _ h | messages _ h =>
    obtain ⟨_, rfl⟩ := h
    rfl

theorem Op.Effect.tickets_eq (h : o.Effect db r db') (ho : o.SparesTickets) :
    db'.tickets = db.tickets := by
  cases h.writes with
  | tickets htickets => exact absurd ho htickets
  | commit _ _ h => exact h.others.2.1
  | consume _ _ h =>
    obtain ⟨_, _, rfl⟩ := h.others
    rfl
  | runs _ h =>
    obtain ⟨_, _, rfl⟩ := h
    rfl
  | nothing h =>
    subst h
    rfl
  | tokens _ h | records h | messages _ h =>
    obtain ⟨_, rfl⟩ := h
    rfl

theorem Op.Effect.messages_eq (h : o.Effect db r db') (ho : o.SparesMessages) :
    db'.messages = db.messages := by
  cases h.writes with
  | messages hmessages => exact absurd ho hmessages
  | commit _ _ h => exact h.others.2.2.1
  | consume _ _ h =>
    obtain ⟨_, _, rfl⟩ := h.others
    rfl
  | runs _ h =>
    obtain ⟨_, _, rfl⟩ := h
    rfl
  | nothing h =>
    subst h
    rfl
  | tokens _ h | records h | tickets _ h =>
    obtain ⟨_, rfl⟩ := h
    rfl

end Frames

theorem CommitStep.Committed.recordAfter {p : CommitStep} {now : ℕ} {run : AgentRun} {db db' : DB}
    (h : p.Committed now run db db') (hfinal : ∀ c ∈ p.mutationCompletion, c.status.IsFinal)
    (recordId : Uuid) : RecordAfter (db.record recordId) (db'.record recordId) := by
  have hrec := h.records
  cases hc : p.mutationCompletion with
  | none =>
    rw [hc] at hrec
    have heq : db'.record recordId = db.record recordId :=
      congrArg (fun t => Tables.Table.lookup t IdempotencyRecord.recordId recordId) hrec
    rw [heq]
    exact .refl _
  | some c =>
    rw [hc] at hrec
    refine .of_update (IdempotencyRecord.complete c) (congrArg Tables.Table.rows hrec.2)
      (fun _ => rfl) ?_ recordId
    intro r hr
    simp only [IdempotencyRecord.completedBy, decide_eq_true_eq] at hr
    exact .completed r hr.2.2.2 c.status (hfinal c hc) c.businessReference c.responseRedacted

/-- Whatever operation is performed, the row of an intent only advances. -/
theorem Op.Effect.recordAfter {α : Type} {o : Op α} {db db' : DB} {r : Except Exc α}
    (h : o.Effect db r db') (hfinal : o.Observes) (recordId : Uuid) :
    RecordAfter (db.record recordId) (db'.record recordId) := by
  cases h.writes with
  | commit _ hp h =>
    refine h.recordAfter ?_ recordId
    intro c hc
    refine hfinal c ?_
    rw [Op.completion?, hp]
    exact hc
  | consume _ _ h => exact .of_rows_append h.records rfl recordId
  | records _ hafter => exact hafter recordId
  | nothing h =>
    subst h
    exact .refl _
  | runs _ h =>
    obtain ⟨_, _, rfl⟩ := h
    exact .refl _
  | tokens _ h | tickets _ h | messages _ h =>
    obtain ⟨_, rfl⟩ := h
    exact .refl _

/-- Whatever operation is performed, a token only leaves `waiting`. -/
theorem Op.Effect.tokensAfter {α : Type} {o : Op α} {db db' : DB} {r : Except Exc α}
    (h : o.Effect db r db') :
    TokensAfter o.consume?.isSome db.tokens.rows db'.tokens.rows := by
  by_cases ho : o.SparesTokens
  · rw [h.tokens_eq ho]
    exact .refl _
  · cases o with
    | tokens t =>
      rcases h with ⟨_, _, rfl⟩ | ⟨env, a, _, hx⟩
      · exact .refl _
      · exact TokenTx.tokensAfter hx
    | _ => exact absurd trivial ho

end CommerceAgent
