import CommerceAgent.Schema

/-! The transactions of `MessageRepository`. -/
namespace CommerceAgent

open Json Tables

def DB.ownsConversation (db : DB) (conversationId : Uuid) (tenantId actorId : String) : Bool :=
  db.conversations.rows.any fun c =>
    c.id = conversationId ∧ c.tenantId = tenantId ∧ c.actorId = actorId

def DB.conversationMessages (db : DB) (conversationId : Uuid) : List MessageRecord :=
  db.messages.select fun m => m.conversationId = conversationId

/-- `COALESCE(MAX(sequence_no), 0) + 1`. -/
def DB.nextSequence (db : DB) (conversationId : Uuid) : ℕ :=
  ((db.conversationMessages conversationId).map MessageRecord.sequenceNo).foldl max 0 + 1

def DB.insertMessage (db : DB) (message : MessageRecord) : Except Exc DB :=
  match db.messages.insert? message with
  | none => .error .integrity
  | some messages => .ok { db with messages := messages }

theorem DB.insertMessage_eq_ok {db db' : DB} {message : MessageRecord}
    (h : db.insertMessage message = .ok db') :
    (∀ m ∈ db.messages.rows, ¬ m.clash message) ∧ ∃ messages,
      messages.rows = db.messages.rows ++ [message] ∧ db' = { db with messages := messages } := by
  unfold DB.insertMessage at h
  split at h
  · exact absurd h (by simp)
  · rename_i messages hm
    obtain ⟨hclash, hrows⟩ := Table.insert?_eq_some.mp hm
    exact ⟨hclash, messages, hrows, (Except.ok.inj h).symm⟩

/-- The assistant messages of a run that are marked as its final answer. -/
def DB.terminalMessages (db : DB) (runId : Uuid) : List MessageRecord :=
  db.messages.select fun m => m.runId = some runId ∧ m.role = "assistant" ∧ m.isTerminal

structure UserMessageInput where
  conversationId : Uuid
  tenantId : String
  actorId : String
  clientMessageId : String
  runId : Option Uuid
  contentRedacted : String
  contentHash : String

/-- `append_user`: the message and whether it was created. -/
def appendUserTx (input : UserMessageInput) : Tx (MessageRecord × Bool) := fun env db =>
  let owned := db.ownsConversation input.conversationId input.tenantId input.actorId
  let existing := (db.conversationMessages input.conversationId).find? fun m =>
    m.clientMessageId = some input.clientMessageId
  match existing.filter fun _ => owned with
  | some record =>
    if record.contentHash = input.contentHash then .ok ((record, false), db)
    else .error .messageConflict
  | none =>
    if owned then do
      let message : MessageRecord := {
        messageId := env.uuid
        conversationId := input.conversationId
        runId := input.runId
        clientMessageId := some input.clientMessageId
        role := "user"
        contentRedacted := input.contentRedacted
        contentHash := input.contentHash
        sequenceNo := db.nextSequence input.conversationId
        createdAt := env.now }
      let db ← db.insertMessage message
      .ok ((message, true), db)
    else .error (.valueError "conversation is unavailable for this tenant and actor")

structure AssistantMessageInput where
  conversationId : Uuid
  tenantId : String
  actorId : String
  runId : Uuid
  contentRedacted : String
  contentHash : String

def AssistantMessageInput.row (input : AssistantMessageInput) (isTerminal : Bool) (env : Env)
    (sequence : ℕ) : MessageRecord where
  messageId := env.uuid
  conversationId := input.conversationId
  runId := some input.runId
  clientMessageId := none
  role := "assistant"
  contentRedacted := input.contentRedacted
  contentHash := input.contentHash
  sequenceNo := sequence
  createdAt := env.now
  isTerminal := isTerminal

def appendAssistantTx (input : AssistantMessageInput) : Tx MessageRecord := fun env db =>
  if db.ownsConversation input.conversationId input.tenantId input.actorId then do
    let message := input.row false env (db.nextSequence input.conversationId)
    let db ← db.insertMessage message
    .ok (message, db)
  else .error (.valueError "conversation is unavailable for this tenant and actor")

/-- The transaction of `append_assistant_once_for_run`: the message and whether it was
created. -/
def appendAssistantOnceTx (input : AssistantMessageInput) : Tx (MessageRecord × Bool) :=
  fun env db =>
    if db.ownsConversation input.conversationId input.tenantId input.actorId then
      match (db.conversationMessages input.conversationId).find? fun m =>
          m.runId = some input.runId ∧ m.role = "assistant" ∧ m.isTerminal with
      | some existing => .ok ((existing, false), db)
      | none => do
        let message := input.row true env (db.nextSequence input.conversationId)
        let db ← db.insertMessage message
        .ok ((message, true), db)
    else .error (.valueError "conversation is unavailable for this tenant and actor")

theorem appendUserTx_eq_ok {input : UserMessageInput} {env : Env} {db db' : DB}
    {a : MessageRecord × Bool} (h : appendUserTx input env db = .ok (a, db')) :
    db' = db ∨ ∃ message, message.role = "user" ∧ db.insertMessage message = .ok db' := by
  simp only [appendUserTx] at h
  split at h
  · split at h
    · exact .inl (congrArg Prod.snd (Except.ok.inj h)).symm
    · exact absurd h (by simp)
  · split at h
    · obtain ⟨db₁, hm, hb⟩ := Except.bind_eq_ok.mp h
      obtain rfl : db₁ = db' := congrArg Prod.snd (Except.ok.inj hb)
      exact .inr ⟨_, rfl, hm⟩
    · exact absurd h (by simp)

theorem appendAssistantTx_eq_ok {input : AssistantMessageInput} {env : Env} {db db' : DB}
    {message : MessageRecord} (h : appendAssistantTx input env db = .ok (message, db')) :
    message.isTerminal = false ∧ db.insertMessage message = .ok db' := by
  simp only [appendAssistantTx] at h
  split at h
  · obtain ⟨db₁, hm, hb⟩ := Except.bind_eq_ok.mp h
    obtain ⟨rfl, rfl⟩ := Prod.mk.inj (Except.ok.inj hb)
    exact ⟨rfl, hm⟩
  · exact absurd h (by simp)

/-- The answer of a run is found, or it is new and the run had none. -/
theorem appendAssistantOnceTx_eq_ok {input : AssistantMessageInput} {env : Env} {db db' : DB}
    {message : MessageRecord} {created : Bool}
    (h : appendAssistantOnceTx input env db = .ok ((message, created), db')) :
    (created = false ∧ db' = db ∧ message ∈ db.terminalMessages input.runId) ∨
      (created = true ∧ db.terminalMessages input.runId = [] ∧
        db'.terminalMessages input.runId = [message] ∧
        (∀ runId, runId ≠ input.runId → db'.terminalMessages runId = db.terminalMessages runId) ∧
        ∃ messages, db' = { db with messages := messages }) := by
  simp only [appendAssistantOnceTx] at h
  split at h
  · split at h
    · rename_i existing hfind
      obtain ⟨hr, rfl⟩ := Prod.mk.inj (Except.ok.inj h)
      obtain ⟨rfl, rfl⟩ := Prod.mk.inj hr
      have hmem := List.mem_of_find?_eq_some hfind
      exact .inl ⟨rfl, rfl, List.mem_filter.mpr
        ⟨(List.mem_filter.mp hmem).1, by simpa using List.find?_some hfind⟩⟩
    · obtain ⟨db₁, hm, hb⟩ := Except.bind_eq_ok.mp h
      obtain ⟨hr, rfl⟩ := Prod.mk.inj (Except.ok.inj hb)
      obtain ⟨rfl, rfl⟩ := Prod.mk.inj hr
      obtain ⟨hclash, messages, hrows, rfl⟩ := DB.insertMessage_eq_ok hm
      have hnone : db.terminalMessages input.runId = [] := by
        refine List.filter_eq_nil_iff.mpr fun m hmem hterminal => hclash m hmem ?_
        simp only [decide_eq_true_eq] at hterminal
        exact .inr (.inr (.inr (by simp [hterminal, AssistantMessageInput.row])))
      refine .inr ⟨rfl, hnone, ?_, ?_, messages, rfl⟩
      · rw [DB.terminalMessages, Table.select, hrows, List.filter_append]
        change db.terminalMessages input.runId ++ _ = _
        rw [hnone]
        simp [AssistantMessageInput.row]
      · intro runId hid
        rw [DB.terminalMessages, Table.select, hrows, List.filter_append]
        simp [DB.terminalMessages, Table.select, AssistantMessageInput.row, Ne.symm hid]
  · exact absurd h (by simp)

def findUserByClientMessageId (conversationId : Uuid) (tenantId actorId clientMessageId : String) :
    Tx (Option MessageRecord) := fun _ db =>
  .ok (if db.ownsConversation conversationId tenantId actorId then
    (db.conversationMessages conversationId).find? fun m =>
      m.clientMessageId = some clientMessageId
  else none, db)

def conversationExists (conversationId : Uuid) (tenantId actorId : String) : Tx Bool :=
  fun _ db => .ok (db.ownsConversation conversationId tenantId actorId, db)

def DB.messagesBySequence (db : DB) (conversationId : Uuid) : List MessageRecord :=
  (db.conversationMessages conversationId).mergeSort fun a b => a.sequenceNo ≤ b.sequenceNo

/-- `list_for_actor` with a checked cursor. -/
def listForActor (conversationId : Uuid) (tenantId actorId : String)
    (afterSequence limit : ℕ) : Tx (List MessageRecord) := fun _ db =>
  .ok (if db.ownsConversation conversationId tenantId actorId then
    ((db.messagesBySequence conversationId).filter fun m =>
      afterSequence < m.sequenceNo).take limit
  else [], db)

def latestUserForRun (runId conversationId : Uuid) (tenantId actorId : String) :
    Tx (Option MessageRecord) := fun _ db =>
  .ok (if db.ownsConversation conversationId tenantId actorId then
    ((db.messagesBySequence conversationId).filter fun m =>
      m.runId = some runId ∧ m.role = "user").getLast?
  else none, db)

inductive MessageTx : Type → Type
  | appendUser (input : UserMessageInput) : MessageTx (MessageRecord × Bool)
  | appendAssistant (input : AssistantMessageInput) : MessageTx MessageRecord
  | appendAssistantOnce (input : AssistantMessageInput) : MessageTx (MessageRecord × Bool)
  | findUserByClientMessageId (conversationId : Uuid) (tenantId actorId clientMessageId : String)
      : MessageTx (Option MessageRecord)
  | conversationExists (conversationId : Uuid) (tenantId actorId : String) : MessageTx Bool
  | listForActor (conversationId : Uuid) (tenantId actorId : String) (afterSequence limit : ℕ)
      : MessageTx (List MessageRecord)
  | latestUserForRun (runId conversationId : Uuid) (tenantId actorId : String)
      : MessageTx (Option MessageRecord)

namespace MessageTx

def exec : {α : Type} → MessageTx α → Tx α
  | _, .appendUser input => appendUserTx input
  | _, .appendAssistant input => appendAssistantTx input
  | _, .appendAssistantOnce input => appendAssistantOnceTx input
  | _, .findUserByClientMessageId conversationId tenantId actorId clientMessageId =>
    CommerceAgent.findUserByClientMessageId conversationId tenantId actorId clientMessageId
  | _, .conversationExists conversationId tenantId actorId =>
    CommerceAgent.conversationExists conversationId tenantId actorId
  | _, .listForActor conversationId tenantId actorId afterSequence limit =>
    CommerceAgent.listForActor conversationId tenantId actorId afterSequence limit
  | _, .latestUserForRun runId conversationId tenantId actorId =>
    CommerceAgent.latestUserForRun runId conversationId tenantId actorId

/-- The answer that a transaction may give to a run. -/
def once? : {α : Type} → MessageTx α → Option AssistantMessageInput
  | _, .appendAssistantOnce input => some input
  | _, _ => none

/-- Only `append_assistant_once_for_run` changes which messages are final answers. -/
theorem terminalMessages_eq {α : Type} {t : MessageTx α} {env : Env} {db db' : DB} {a : α}
    (h : t.exec env db = .ok (a, db')) (ht : t.once? = none) (runId : Uuid) :
    db'.terminalMessages runId = db.terminalMessages runId := by
  have hread : ∀ {b : α}, Except.ok (b, db) = (.ok (a, db') : Except Exc (α × DB)) →
      db'.terminalMessages runId = db.terminalMessages runId := by
    intro b hb
    obtain rfl : db = db' := congrArg Prod.snd (Except.ok.inj hb)
    rfl
  have hinsert : ∀ {message : MessageRecord}, (message.role = "user" ∨ message.isTerminal = false) →
      db.insertMessage message = .ok db' →
      db'.terminalMessages runId = db.terminalMessages runId := by
    intro message hother hm
    obtain ⟨_, messages, hrows, rfl⟩ := DB.insertMessage_eq_ok hm
    rw [DB.terminalMessages, Table.select, hrows, List.filter_append]
    rcases hother with hrole | hterminal
    · simp [DB.terminalMessages, Table.select, hrole]
    · simp [DB.terminalMessages, Table.select, hterminal]
  cases t with
  | appendUser input =>
    rcases appendUserTx_eq_ok h with rfl | ⟨message, hrole, hm⟩
    · rfl
    · exact hinsert (.inl hrole) hm
  | appendAssistant input =>
    obtain ⟨hterminal, hm⟩ := appendAssistantTx_eq_ok h
    exact hinsert (.inr hterminal) hm
  | appendAssistantOnce input => exact absurd ht (by simp [once?])
  | findUserByClientMessageId => exact hread h
  | conversationExists => exact hread h
  | listForActor => exact hread h
  | latestUserForRun => exact hread h

/-- Message transactions write messages only. -/
theorem frame {α : Type} {t : MessageTx α} {env : Env} {db db' : DB} {a : α}
    (h : t.exec env db = .ok (a, db')) : ∃ messages, db' = { db with messages := messages } := by
  have hread : ∀ {b : α}, Except.ok (b, db) = (.ok (a, db') : Except Exc (α × DB)) →
      ∃ messages, db' = { db with messages := messages } := by
    intro b hb
    obtain rfl : db = db' := congrArg Prod.snd (Except.ok.inj hb)
    exact ⟨db.messages, rfl⟩
  have hinsert : ∀ {message : MessageRecord}, db.insertMessage message = .ok db' →
      ∃ messages, db' = { db with messages := messages } := by
    intro message hm
    obtain ⟨_, messages, _, rfl⟩ := DB.insertMessage_eq_ok hm
    exact ⟨messages, rfl⟩
  cases t with
  | appendUser input =>
    rcases appendUserTx_eq_ok h with rfl | ⟨message, _, hm⟩
    · exact ⟨db'.messages, rfl⟩
    · exact hinsert hm
  | appendAssistant input => exact hinsert (appendAssistantTx_eq_ok h).2
  | appendAssistantOnce input =>
    obtain ⟨message, created⟩ := a
    rcases appendAssistantOnceTx_eq_ok h with ⟨_, rfl, _⟩ | ⟨_, _, _, _, hdb⟩
    · exact ⟨db'.messages, rfl⟩
    · exact hdb
  | findUserByClientMessageId => exact hread h
  | conversationExists => exact hread h
  | listForActor => exact hread h
  | latestUserForRun => exact hread h

end MessageTx

end CommerceAgent
