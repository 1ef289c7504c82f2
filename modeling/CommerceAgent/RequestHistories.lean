import CommerceAgent.MessageRepository
import CommerceAgent.PromptGrowth

/-! What a run is shown of its conversation: three callers read it in ascending order and by the
page, and look for the request of the user on that page. -/
namespace CommerceAgent.Requests

open Json Tables

/-- What `list_for_actor` returns from the beginning of a conversation. -/
def history (db : DB) (conversationId : Uuid) (tenantId actorId : String) (limit : ℕ) :
    List MessageRecord :=
  if db.ownsConversation conversationId tenantId actorId then
    ((db.messagesBySequence conversationId).filter fun m => 0 < m.sequenceNo).take limit
  else []

/-- `next((item for item in reversed(records) if item.role == "user"), fallback)`. -/
def requestText (records : List MessageRecord) (fallback : String) : String :=
  match records.reverse.find? fun m => m.role = "user" with
  | some m => m.contentRedacted
  | none => fallback

/-- The text that `execute_readonly_run` matches Skills with. -/
def skillRequestText (db : DB) (conversationId : Uuid) (tenantId actorId : String) : String :=
  requestText (history db conversationId tenantId actorId 100) ""

def RECOVERY_FALLBACK : String := "继续处理当前任务"

/-- The text with which `recover_active_runs` submits a run again. -/
def recoveryRequestText (db : DB) (conversationId : Uuid) (tenantId actorId : String) : String :=
  requestText (history db conversationId tenantId actorId 500) RECOVERY_FALLBACK

/-- The columns that the prompt is made of. -/
def shown (m : MessageRecord) : Prompt.MessageRecord := ⟨m.role, m.contentRedacted⟩

/-- `ApiPromptBuilder.build` with the messages that it reads. -/
def buildPrompt (builder : Prompt.ApiPromptBuilder) (db : DB) (conversationId : Uuid)
    (tenantId actorId : String) (preferences : List (String × Members)) (state : Members)
    (stepCount : ℕ) : Except Prompt.BuildError Prompt.PromptView :=
  builder.build ((history db conversationId tenantId actorId 100).map shown) preferences state
    stepCount

/-- The latest user message of a conversation, as `latest_user_for_run` reads that of a run. -/
def latestUser (db : DB) (conversationId : Uuid) (tenantId actorId : String) :
    Option MessageRecord :=
  if db.ownsConversation conversationId tenantId actorId then
    ((db.messagesBySequence conversationId).filter fun m => m.role = "user").getLast?
  else none

/-- A message of the prompt says this as the user. -/
def Shows (view : Prompt.PromptView) (content : String) : Prop :=
  ∃ message ∈ view.conversation, message.role = "user" ∧ message.content = content

/-- The databases whose messages come from the transactions of the repository. -/
inductive Written : DB → Prop
  | start {db : DB} (empty : db.messages.rows = []) : Written db
  | message {α : Type} {db db' : DB} (t : MessageTx α) (env : Env) (a : α) (before : Written db)
      (done : t.exec env db = .ok (a, db')) : Written db'
  | other {db db' : DB} (before : Written db) (same : db'.messages = db.messages) : Written db'

/-- The last user message up to this number. -/
structure IsLastUser (messages : List MessageRecord) (limit : ℕ) (m : MessageRecord) : Prop where
  mem : m ∈ messages
  user : m.role = "user"
  le : m.sequenceNo ≤ limit
  last : ∀ m' ∈ messages, m'.role = "user" → m'.sequenceNo ≤ limit → m'.sequenceNo ≤ m.sequenceNo

/-- The page ends on a user message with this text, or has none and this is the fallback. -/
def Standing (messages : List MessageRecord) (limit : ℕ) (fallback content : String) : Prop :=
  (∃ m, IsLastUser messages limit m ∧ m.contentRedacted = content) ∨
    ((∀ m ∈ messages, m.role = "user" → limit < m.sequenceNo) ∧ fallback = content)

/-- The messages of every conversation are numbered from 1 in the order of their insertion. -/
def Numbered (db : DB) : Prop := ∀ conversationId,
  (db.conversationMessages conversationId).map MessageRecord.sequenceNo =
    List.range' 1 (db.conversationMessages conversationId).length

theorem listForActor_eq (db : DB) (env : Env) (conversationId : Uuid) (tenantId actorId : String)
    (limit : ℕ) : listForActor conversationId tenantId actorId 0 limit env db =
      .ok (history db conversationId tenantId actorId limit, db) :=
  rfl

section Numbers

variable {db db' : DB}

theorem foldl_max_range' (n : ℕ) : (List.range' 1 n).foldl max 0 = n := by
  induction n with
  | zero => rfl
  | succ n ih =>
    rw [List.range'_1_concat, List.foldl_concat, ih]
    omega

theorem nextSequence_eq (h : Numbered db) (conversationId : Uuid) :
    db.nextSequence conversationId = (db.conversationMessages conversationId).length + 1 := by
  rw [DB.nextSequence, h conversationId, foldl_max_range']

/-- An insertion with the next number keeps the messages numbered. -/
theorem numbered_insert (h : Numbered db) {message : MessageRecord}
    (hnext : message.sequenceNo = db.nextSequence message.conversationId)
    (hinsert : db.insertMessage message = .ok db') : Numbered db' := by
  obtain ⟨-, messages, hrows, rfl⟩ := DB.insertMessage_eq_ok hinsert
  intro conversationId
  have hselect : ({ db with messages := messages }).conversationMessages conversationId =
      db.conversationMessages conversationId ++
        [message].filter fun m => m.conversationId = conversationId := by
    simp only [DB.conversationMessages, Table.select, hrows, List.filter_append]
  rw [hselect]
  by_cases hconversation : message.conversationId = conversationId
  · subst hconversation
    rw [List.filter_singleton, decide_eq_true rfl, List.map_append, h, List.length_append]
    have hconcat := List.range'_1_concat (s := 1)
      (n := (db.conversationMessages message.conversationId).length)
    simpa [hnext, nextSequence_eq h, Nat.add_comm] using hconcat.symm
  · rw [List.filter_singleton, decide_eq_false hconversation]
    simpa using h conversationId

/-- A transaction of the repository leaves the messages or inserts one with the next number. -/
theorem exec_appends {α : Type} {t : MessageTx α} {env : Env} {a : α}
    (h : t.exec env db = .ok (a, db')) : db' = db ∨ ∃ message,
      message.sequenceNo = db.nextSequence message.conversationId ∧
        db.insertMessage message = .ok db' := by
  cases t with
  | appendUser input =>
    simp only [MessageTx.exec, appendUserTx] at h
    split at h
    · split at h
      · exact Or.inl (congrArg Prod.snd (Except.ok.inj h)).symm
      · cases h
    · split at h
      · obtain ⟨inserted, hinsert, hdone⟩ := Except.bind_eq_ok.mp h
        obtain rfl : inserted = db' := congrArg Prod.snd (Except.ok.inj hdone)
        exact Or.inr ⟨_, rfl, hinsert⟩
      · cases h
  | appendAssistant input =>
    simp only [MessageTx.exec, appendAssistantTx] at h
    split at h
    · obtain ⟨inserted, hinsert, hdone⟩ := Except.bind_eq_ok.mp h
      obtain rfl : inserted = db' := congrArg Prod.snd (Except.ok.inj hdone)
      exact Or.inr ⟨_, rfl, hinsert⟩
    · cases h
  | appendAssistantOnce input =>
    simp only [MessageTx.exec, appendAssistantOnceTx] at h
    split at h
    · split at h
      · exact Or.inl (congrArg Prod.snd (Except.ok.inj h)).symm
      · obtain ⟨inserted, hinsert, hdone⟩ := Except.bind_eq_ok.mp h
        obtain rfl : inserted = db' := congrArg Prod.snd (Except.ok.inj hdone)
        exact Or.inr ⟨_, rfl, hinsert⟩
    · cases h
  | _ => exact Or.inl (congrArg Prod.snd (Except.ok.inj h)).symm

theorem numbered_of_written (h : Written db) : Numbered db := by
  induction h with
  | start hempty =>
    intro conversationId
    simp [DB.conversationMessages, Table.select, hempty]
  | message t env a _ hdone ih =>
    rcases exec_appends hdone with rfl | ⟨message, hnext, hinsert⟩
    · exact ih
    · exact numbered_insert ih hnext hinsert
  | other _ hsame ih =>
    intro conversationId
    have hmessages := ih conversationId
    rwa [DB.conversationMessages, ← hsame] at hmessages

end Numbers

section Pages

variable {db : DB} {conversationId : Uuid}

theorem pairwise_lt (h : Numbered db) (conversationId : Uuid) :
    (db.conversationMessages conversationId).Pairwise fun a b => a.sequenceNo < b.sequenceNo := by
  rw [← List.pairwise_map (f := MessageRecord.sequenceNo) (R := (· < ·)), h conversationId]
  exact List.pairwise_lt_range'

theorem messagesBySequence_eq (h : Numbered db) (conversationId : Uuid) :
    db.messagesBySequence conversationId = db.conversationMessages conversationId := by
  refine List.mergeSort_of_pairwise ((pairwise_lt h conversationId).imp fun hlt => ?_)
  exact decide_eq_true (Nat.le_of_lt hlt)

theorem sequenceNo_getElem (h : Numbered db) {i : ℕ}
    (hi : i < (db.conversationMessages conversationId).length) :
    ((db.conversationMessages conversationId)[i]).sequenceNo = i + 1 := by
  have hmap := congrArg (fun l => l[i]?) (h conversationId)
  simp only [List.getElem?_map, List.getElem?_eq_getElem hi, Option.map_some] at hmap
  rw [List.getElem?_range' hi] at hmap
  have heq := Option.some.inj hmap
  omega

/-- The first messages are those with the first numbers. -/
theorem mem_take (h : Numbered db) {limit : ℕ} {m : MessageRecord} :
    m ∈ (db.conversationMessages conversationId).take limit ↔
      m ∈ db.conversationMessages conversationId ∧ m.sequenceNo ≤ limit := by
  rw [List.mem_take_iff_getElem, List.mem_iff_getElem]
  constructor
  · rintro ⟨i, hi, rfl⟩
    have hlength : i < (db.conversationMessages conversationId).length := by omega
    refine ⟨⟨i, hlength, rfl⟩, ?_⟩
    rw [sequenceNo_getElem h hlength]
    omega
  · rintro ⟨⟨i, hi, rfl⟩, hle⟩
    rw [sequenceNo_getElem h hi] at hle
    exact ⟨i, by omega, rfl⟩

theorem history_eq (h : Numbered db) {tenantId actorId : String}
    (howns : db.ownsConversation conversationId tenantId actorId = true) (limit : ℕ) :
    history db conversationId tenantId actorId limit =
      (db.conversationMessages conversationId).take limit := by
  have hall : ∀ m ∈ db.conversationMessages conversationId, decide (0 < m.sequenceNo) = true := by
    intro m hm
    obtain ⟨i, hi, rfl⟩ := List.mem_iff_getElem.mp hm
    rw [sequenceNo_getElem h hi]
    exact decide_eq_true i.succ_pos
  rw [history, if_pos howns, messagesBySequence_eq h, List.filter_eq_self.mpr hall]

theorem sequenceNo_injective (h : Numbered db) {m m' : MessageRecord}
    (hm : m ∈ db.conversationMessages conversationId)
    (hm' : m' ∈ db.conversationMessages conversationId) (heq : m.sequenceNo = m'.sequenceNo) :
    m = m' := by
  obtain ⟨i, hi, rfl⟩ := List.mem_iff_getElem.mp hm
  obtain ⟨j, hj, rfl⟩ := List.mem_iff_getElem.mp hm'
  rw [sequenceNo_getElem h hi, sequenceNo_getElem h hj, Nat.succ_inj] at heq
  subst heq
  rfl

theorem IsLastUser.unique (h : Numbered db) {limit : ℕ} {m m' : MessageRecord}
    (hm : IsLastUser (db.conversationMessages conversationId) limit m)
    (hm' : IsLastUser (db.conversationMessages conversationId) limit m') : m = m' :=
  sequenceNo_injective h hm.mem hm'.mem
    (Nat.le_antisymm (hm'.last m hm.mem hm.user hm.le) (hm.last m' hm'.mem hm'.user hm'.le))

/-- The reversed search ends on the last user message of the page. -/
theorem isLastUser_of_find? (h : Numbered db) {limit : ℕ} {m : MessageRecord}
    (hfind : ((db.conversationMessages conversationId).take limit).reverse.find?
      (fun m => m.role = "user") = some m) :
    IsLastUser (db.conversationMessages conversationId) limit m := by
  obtain ⟨huser, before, after, hpage, hbefore⟩ := List.find?_eq_some_iff_append.mp hfind
  have hmem := (mem_take h).mp (List.mem_reverse.mp (List.mem_of_find?_eq_some hfind))
  refine ⟨hmem.1, of_decide_eq_true huser, hmem.2, fun m' hm' huser' hle' => ?_⟩
  have hpage' : m' ∈ before ++ m :: after := by
    rw [← hpage, List.mem_reverse]
    exact (mem_take h).mpr ⟨hm', hle'⟩
  rcases List.mem_append.mp hpage' with hin | hin
  · have hnot := hbefore m' hin
    simp [huser'] at hnot
  · rcases List.mem_cons.mp hin with rfl | hin
    · exact le_rfl
    -- What the reversed page has after a message comes before it.
    · have hsorted : ((db.conversationMessages conversationId).take limit).reverse.Pairwise
          fun a b => b.sequenceNo < a.sequenceNo :=
        List.pairwise_reverse.mpr ((pairwise_lt h conversationId).sublist (List.take_sublist _ _))
      rw [hpage] at hsorted
      have hrest := (List.pairwise_append.mp hsorted).2.1
      exact Nat.le_of_lt ((List.pairwise_cons.mp hrest).1 m' hin)

theorem requestText_eq_iff (h : Numbered db) {tenantId actorId : String}
    (howns : db.ownsConversation conversationId tenantId actorId = true)
    (limit : ℕ) (fallback content : String) :
    requestText (history db conversationId tenantId actorId limit) fallback = content ↔
      Standing (db.messagesBySequence conversationId) limit fallback content := by
  rw [history_eq h howns, messagesBySequence_eq h, requestText]
  split
  · rename_i m hfind
    have hlast := isLastUser_of_find? h hfind
    constructor
    · intro hcontent
      exact Or.inl ⟨m, hlast, hcontent⟩
    · rintro (⟨m', hlast', hcontent⟩ | ⟨hnone, -⟩)
      · rw [hlast.unique h hlast']
        exact hcontent
      · exact absurd hlast.le (Nat.not_le.mpr (hnone m hlast.mem hlast.user))
  · rename_i hfind
    have hnone : ∀ m ∈ db.conversationMessages conversationId, m.role = "user" →
        limit < m.sequenceNo := by
      intro m hm huser
      by_contra hle
      have hpage := (mem_take h).mpr ⟨hm, Nat.not_lt.mp hle⟩
      exact List.find?_eq_none.mp hfind m (List.mem_reverse.mpr hpage) (decide_eq_true huser)
    constructor
    · intro hcontent
      exact Or.inr ⟨hnone, hcontent⟩
    · rintro (⟨m, hlast, -⟩ | ⟨-, hcontent⟩)
      · exact absurd hlast.le (Nat.not_le.mpr (hnone m hlast.mem hlast.user))
      · exact hcontent

end Pages

section Prompts

open Prompt

theorem create_eq_ok {role content : String} {message : Message}
    (h : Message.create role content = .ok message) :
    message.role = role ∧ message.content = content := by
  unfold Message.create at h
  split at h
  · obtain rfl := Except.ok.inj h
    exact ⟨rfl, rfl⟩
  · cases h

/-- The rules have the role of the system and the tool results that of the assistant. -/
theorem role_of_observed {state : Members} {observed : List Message}
    (h : observationMessages state = .ok observed) :
    ∀ message ∈ observed, message.role = "assistant" := by
  unfold observationMessages at h
  split at h
  · obtain rfl := Except.ok.inj h
    simp
  · obtain ⟨message, hmessage, rfl⟩ : ∃ message,
        Message.create "assistant" (TRUSTED_TOOL_OBSERVATION ++ (observation state).dumps) =
          .ok message ∧ [message] = observed := by
      cases hmessage : Message.create "assistant"
          (TRUSTED_TOOL_OBSERVATION ++ (observation state).dumps) with
      | error e => exact nomatch hmessage ▸ h
      | ok message => exact ⟨message, rfl, Except.ok.inj (hmessage ▸ h)⟩
    intro other hother
    rw [List.mem_singleton.mp hother]
    exact (create_eq_ok hmessage).1

theorem mapM_create {records : List Prompt.MessageRecord} {stored : List Message}
    (h : records.mapM (fun record => Message.create record.role record.contentRedacted) =
      .ok stored) :
    stored.map (fun message => (message.role, message.content)) =
      records.map fun record => (record.role, record.contentRedacted) := by
  induction records generalizing stored with
  | nil =>
    obtain rfl := Except.ok.inj h
    rfl
  | cons record records ih =>
    rw [List.mapM_cons] at h
    obtain ⟨message, hmessage, hrest⟩ := Except.bind_eq_ok.mp h
    obtain ⟨messages, hmessages, hdone⟩ := Except.bind_eq_ok.mp hrest
    obtain rfl := Except.ok.inj hdone
    obtain ⟨hrole, hcontent⟩ := create_eq_ok hmessage
    rw [List.map_cons, List.map_cons, ih hmessages, hrole, hcontent]

theorem conversation_of_create {fields : PromptFields} {view : PromptView}
    (h : PromptView.create fields = .ok view) : view.conversation = fields.conversation := by
  unfold PromptView.create at h
  split at h
  · obtain rfl := Except.ok.inj h
    rfl
  · exact nomatch h

/-- What the user says in a prompt is said by the stored messages. -/
theorem shows_iff {builder : ApiPromptBuilder} {records : List Prompt.MessageRecord}
    {preferences : List (String × Members)} {state : Members} {stepCount : ℕ} {view : PromptView}
    (h : builder.build records preferences state stepCount = .ok view) (content : String) :
    Shows view content ↔
      ∃ record ∈ records, record.role = "user" ∧ record.contentRedacted = content := by
  obtain ⟨rules, hrules, hstore⟩ := Except.bind_eq_ok.mp h
  obtain ⟨stored, hstored, hobserve⟩ := Except.bind_eq_ok.mp hstore
  obtain ⟨observed, hobserved, hidentify⟩ := Except.bind_eq_ok.mp hobserve
  obtain ⟨ids, -, hview⟩ := Except.bind_eq_ok.mp hidentify
  have hrule : rules.role ≠ "user" := by
    rw [(create_eq_ok hrules).1]
    decide
  have hobservation : ∀ message ∈ observed, message.role ≠ "user" := fun message hmem heq => by
    rw [role_of_observed hobserved message hmem] at heq
    exact absurd heq (by decide)
  have hstoredUser : (∃ message ∈ stored, message.role = "user" ∧ message.content = content) ↔
      ("user", content) ∈ stored.map fun message => (message.role, message.content) := by
    simp only [List.mem_map, Prod.mk.injEq]
  have hrecordUser :
      (∃ record ∈ records, record.role = "user" ∧ record.contentRedacted = content) ↔
      ("user", content) ∈ records.map fun record => (record.role, record.contentRedacted) := by
    simp only [List.mem_map, Prod.mk.injEq]
  rw [hrecordUser, ← mapM_create hstored, ← hstoredUser, Shows, conversation_of_create hview]
  constructor
  · rintro ⟨message, hmem, huser, hcontent⟩
    rcases List.mem_append.mp hmem with hmem | hmem
    · rcases List.mem_cons.mp hmem with rfl | hmem
      · exact absurd huser hrule
      · exact ⟨message, hmem, huser, hcontent⟩
    · exact absurd huser (hobservation message hmem)
  · rintro ⟨message, hmem, huser, hcontent⟩
    exact ⟨message, List.mem_append_left _ (List.mem_cons_of_mem _ hmem), huser, hcontent⟩

end Prompts

section Requests

variable {db : DB} {env : Env} {conversationId runId : Uuid} {tenantId actorId : String}
  {m : MessageRecord}

theorem latestUserForRun_eq_some
    (h : latestUserForRun runId conversationId tenantId actorId env db = .ok (some m, db)) :
    db.ownsConversation conversationId tenantId actorId = true ∧
      ((db.messagesBySequence conversationId).filter fun m =>
        m.runId = some runId ∧ m.role = "user").getLast? = some m := by
  have hread := congrArg Prod.fst (Except.ok.inj h)
  dsimp only at hread
  split_ifs at hread with howns
  exact ⟨howns, hread⟩

theorem latestUser_owns (h : latestUser db conversationId tenantId actorId = some m) :
    db.ownsConversation conversationId tenantId actorId = true := by
  unfold latestUser at h
  split_ifs at h with howns
  exact howns

/-- A request that is on the page is the one that the page ends on. -/
theorem standing_of_le (h : Numbered db) {limit : ℕ} {fallback : String}
    (hlatest : latestUser db conversationId tenantId actorId = some m)
    (hle : m.sequenceNo ≤ limit) :
    Standing (db.messagesBySequence conversationId) limit fallback m.contentRedacted := by
  unfold latestUser at hlatest
  split_ifs at hlatest
  rw [messagesBySequence_eq h] at hlatest ⊢
  have hmem := List.mem_filter.mp (List.mem_of_getLast? hlatest)
  refine Or.inl ⟨m, ⟨hmem.1, of_decide_eq_true hmem.2, hle, fun m' hm' huser _ => ?_⟩, rfl⟩
  obtain ⟨before, hbefore⟩ := List.getLast?_eq_some_iff.mp hlatest
  have hsorted := (pairwise_lt h conversationId).filter fun m => m.role = "user"
  rw [hbefore] at hsorted
  have hin : m' ∈ before ++ [m] := by
    rw [← hbefore]
    exact List.mem_filter.mpr ⟨hm', decide_eq_true huser⟩
  rcases List.mem_append.mp hin with hin | hin
  · exact Nat.le_of_lt ((List.pairwise_append.mp hsorted).2.2 m' hin m (List.mem_singleton.mpr rfl))
  · rw [List.mem_singleton.mp hin]

end Requests

section Conversations

/-- The id with this number. -/
def tally (n : ℕ) : Uuid := String.ofList (List.replicate n 'm')

theorem tally_injective {m n : ℕ} (h : tally m = tally n) : m = n := by
  simpa using congrArg List.length (String.ofList_injective h)

/-- The message with this number, each the request of a run of its own. -/
def said (n : ℕ) (content : String) : MessageRecord where
  messageId := tally n
  conversationId := "conversation"
  runId := some (tally n)
  clientMessageId := some (tally n)
  role := "user"
  contentRedacted := content
  contentHash := tally n
  sequenceNo := n
  createdAt := n

def conversationOf (contents : List String) : List MessageRecord :=
  (contents.zipIdx 1).map fun entry => said entry.2 entry.1

theorem conversationOf_concat (contents : List String) (content : String) :
    conversationOf (contents ++ [content]) =
      conversationOf contents ++ [said (contents.length + 1) content] := by
  simp [conversationOf, List.zipIdx_append, Nat.add_comm]

theorem mem_conversationOf {contents : List String} {m : MessageRecord}
    (h : m ∈ conversationOf contents) :
    ∃ n content, m = said n content ∧ content ∈ contents ∧ n ≤ contents.length := by
  obtain ⟨⟨content, n⟩, hmem, rfl⟩ := List.mem_map.mp h
  obtain ⟨hone, hle, hget⟩ := List.mem_zipIdx hmem
  refine ⟨n, content, rfl, ?_, by omega⟩
  rw [hget]
  exact List.getElem_mem _

/-- Every conversation that one user writes is the result of transactions. -/
theorem exists_written (contents : List String) : ∃ db, Written db ∧
    db.ownsConversation "conversation" "tenant" "actor" = true ∧
    db.messages.rows = conversationOf contents := by
  induction contents using List.reverseRecOn with
  | nil =>
    refine ⟨{ conversations := .single ⟨"conversation", "tenant", "actor"⟩ }, .start rfl, ?_, rfl⟩
    decide
  | append_singleton contents content ih =>
    obtain ⟨db, hdb, howns, hrows⟩ := ih
    have hmessages : db.conversationMessages "conversation" = conversationOf contents := by
      rw [DB.conversationMessages, Table.select, hrows, List.filter_eq_self]
      intro m hm
      obtain ⟨n, _, rfl, -⟩ := mem_conversationOf hm
      rfl
    have hnext : db.nextSequence "conversation" = contents.length + 1 := by
      rw [nextSequence_eq (numbered_of_written hdb), hmessages, conversationOf, List.length_map,
        List.length_zipIdx]
    have hfresh : ∀ n other, said n other ∈ conversationOf contents →
        tally n ≠ tally (contents.length + 1) := by
      intro n other hm heq
      obtain ⟨n', other', hsaid, -, hle⟩ := mem_conversationOf hm
      have hn : n = n' := congrArg MessageRecord.sequenceNo hsaid
      have := tally_injective heq
      omega
    have hclash : ∀ m ∈ db.messages.rows, ¬m.clash (said (contents.length + 1) content) := by
      rw [hrows]
      intro m hm hclash
      obtain ⟨n, other, rfl, -, hle⟩ := mem_conversationOf hm
      have hne := hfresh n other hm
      have hnumber : n ≠ contents.length + 1 := by omega
      simp [MessageRecord.clash, said, hne, hnumber] at hclash
    have hfind : (db.conversationMessages "conversation").find? (fun m =>
        m.clientMessageId = some (tally (contents.length + 1))) = none := by
      rw [hmessages, List.find?_eq_none]
      intro m hm heq
      obtain ⟨n, other, rfl, -⟩ := mem_conversationOf hm
      exact hfresh n other hm (Option.some.inj (of_decide_eq_true heq))
    let input : UserMessageInput := {
      conversationId := "conversation"
      tenantId := "tenant"
      actorId := "actor"
      clientMessageId := tally (contents.length + 1)
      runId := some (tally (contents.length + 1))
      contentRedacted := content
      contentHash := tally (contents.length + 1) }
    let env : Env := { now := contents.length + 1, uuid := tally (contents.length + 1) }
    obtain ⟨messages, hinsert, hinserted⟩ : ∃ messages,
        db.messages.insert? (said (contents.length + 1) content) = some messages ∧
          messages.rows = db.messages.rows ++ [said (contents.length + 1) content] :=
      ⟨_, dif_pos hclash, rfl⟩
    have hexec : (MessageTx.appendUser input).exec env db = .ok
        ((said (contents.length + 1) content, true), { db with messages := messages }) := by
      have hmessage : ({
          messageId := env.uuid
          conversationId := input.conversationId
          runId := input.runId
          clientMessageId := some input.clientMessageId
          role := "user"
          contentRedacted := input.contentRedacted
          contentHash := input.contentHash
          sequenceNo := db.nextSequence input.conversationId
          createdAt := env.now } : MessageRecord) = said (contents.length + 1) content := by
        rw [show input.conversationId = "conversation" from rfl, hnext]
        rfl
      simp only [MessageTx.exec, appendUserTx, hmessage]
      simp only [input, howns, hfind, Option.filter_none, if_true, DB.insertMessage, hinsert, bind,
        Except.bind]
    refine ⟨_, .message (.appendUser input) env _ hdb hexec, howns, ?_⟩
    rw [conversationOf_concat, ← hrows, ← hinserted]

/-- A conversation and, after it, the request of a run. -/
theorem exists_request (contents : List String) (content : String) : ∃ db, Written db ∧
    db.ownsConversation "conversation" "tenant" "actor" = true ∧
    db.messagesBySequence "conversation" = conversationOf (contents ++ [content]) ∧
    (∀ env, latestUserForRun (tally (contents.length + 1)) "conversation" "tenant" "actor" env db =
      .ok (some (said (contents.length + 1) content), db)) ∧
    latestUser db "conversation" "tenant" "actor" =
      some (said (contents.length + 1) content) := by
  obtain ⟨db, hdb, howns, hrows⟩ := exists_written (contents ++ [content])
  have hmessages : db.messagesBySequence "conversation" = conversationOf (contents ++ [content]) := by
    rw [messagesBySequence_eq (numbered_of_written hdb), DB.conversationMessages, Table.select,
      hrows, List.filter_eq_self]
    intro m hm
    obtain ⟨n, _, rfl, -⟩ := mem_conversationOf hm
    rfl
  have hearlier : (conversationOf contents).filter (fun m =>
      m.runId = some (tally (contents.length + 1)) ∧ m.role = "user") = [] := by
    rw [List.filter_eq_nil_iff]
    intro m hm hrun
    obtain ⟨n, _, rfl, -, hle⟩ := mem_conversationOf hm
    have heq := tally_injective (Option.some.inj (of_decide_eq_true hrun).1)
    omega
  refine ⟨db, hdb, howns, hmessages, fun env => ?_, ?_⟩
  · have hlast : (conversationOf (contents ++ [content])).filter (fun m =>
        m.runId = some (tally (contents.length + 1)) ∧ m.role = "user") =
          [said (contents.length + 1) content] := by
      rw [conversationOf_concat, List.filter_append, hearlier]
      simp [said]
    simp only [latestUserForRun, howns, if_true, hmessages, hlast, List.getLast?_singleton]
  · rw [latestUser, if_pos howns, hmessages, conversationOf_concat, List.filter_append]
    simp [said]

/-- A text that nobody said before is only said by the last message. -/
theorem sequenceNo_of_new {contents : List String} {content : String} (hnew : content ∉ contents)
    {m : MessageRecord} (hm : m ∈ conversationOf (contents ++ [content]))
    (hcontent : m.contentRedacted = content) : m.sequenceNo = contents.length + 1 := by
  rw [conversationOf_concat] at hm
  rcases List.mem_append.mp hm with hm | hm
  · obtain ⟨n, other, rfl, hother, -⟩ := mem_conversationOf hm
    exact absurd (hcontent ▸ hother) hnew
  · rw [List.mem_singleton.mp hm]
    rfl

end Conversations

/-- The prompt shows the request of its run if and only if a user message with its text is among
the first hundred, and the text that is looked for in a page is that of the latest user message if
and only if the page ends on that text. -/
theorem request_shown_iff {db : DB} (hdb : Written db) (env : Env)
    (builder : Prompt.ApiPromptBuilder) (runId conversationId : Uuid) (tenantId actorId : String)
    (preferences : List (String × Members)) (state : Members) (stepCount : ℕ) :
    (∀ m view, latestUserForRun runId conversationId tenantId actorId env db = .ok (some m, db) →
      buildPrompt builder db conversationId tenantId actorId preferences state stepCount =
        .ok view →
      (Shows view m.contentRedacted ↔ ∃ r ∈ db.messagesBySequence conversationId,
        r.sequenceNo ≤ 100 ∧ r.role = "user" ∧ r.contentRedacted = m.contentRedacted)) ∧
    ∀ m, latestUser db conversationId tenantId actorId = some m →
      (skillRequestText db conversationId tenantId actorId = m.contentRedacted ↔
        Standing (db.messagesBySequence conversationId) 100 "" m.contentRedacted) ∧
      (recoveryRequestText db conversationId tenantId actorId = m.contentRedacted ↔
        Standing (db.messagesBySequence conversationId) 500 RECOVERY_FALLBACK
          m.contentRedacted) := by
  have hnumbered := numbered_of_written hdb
  constructor
  · intro m view hrequest hbuild
    have howns := (latestUserForRun_eq_some hrequest).1
    rw [shows_iff hbuild, history_eq hnumbered howns, messagesBySequence_eq hnumbered]
    constructor
    · rintro ⟨_, hshown, huser, hcontent⟩
      obtain ⟨r, hr, rfl⟩ := List.mem_map.mp hshown
      obtain ⟨hmem, hle⟩ := (mem_take hnumbered).mp hr
      exact ⟨r, hmem, hle, huser, hcontent⟩
    · rintro ⟨r, hmem, hle, huser, hcontent⟩
      exact ⟨shown r, List.mem_map_of_mem ((mem_take hnumbered).mpr ⟨hmem, hle⟩), huser, hcontent⟩
  · intro m hlatest
    have howns := latestUser_owns hlatest
    exact ⟨requestText_eq_iff hnumbered howns 100 "" _,
      requestText_eq_iff hnumbered howns 500 RECOVERY_FALLBACK _⟩

/-- A conversation of one message. -/
theorem request_shown_iff_short : ∃ db, Written db ∧
    latestUser db "conversation" "tenant" "actor" = some (said 1 "退款政策") ∧
    ((∀ m view, latestUserForRun (tally 1) "conversation" "tenant" "actor" ⟨0, "id", fun _ => 0⟩ db =
        .ok (some m, db) →
      buildPrompt Prompt.refundBuilder db "conversation" "tenant" "actor" [] [] 0 = .ok view →
      (Shows view m.contentRedacted ↔ ∃ r ∈ db.messagesBySequence "conversation",
        r.sequenceNo ≤ 100 ∧ r.role = "user" ∧ r.contentRedacted = m.contentRedacted)) ∧
    ∀ m, latestUser db "conversation" "tenant" "actor" = some m →
      (skillRequestText db "conversation" "tenant" "actor" = m.contentRedacted ↔
        Standing (db.messagesBySequence "conversation") 100 "" m.contentRedacted) ∧
      (recoveryRequestText db "conversation" "tenant" "actor" = m.contentRedacted ↔
        Standing (db.messagesBySequence "conversation") 500 RECOVERY_FALLBACK
          m.contentRedacted)) := by
  obtain ⟨db, hdb, -, -, -, hlatest⟩ := exists_request [] "退款政策"
  exact ⟨db, hdb, hlatest, request_shown_iff hdb _ _ _ _ _ _ _ _ _⟩

/-- After five hundred greetings the question is neither in the prompt nor the request text. -/
theorem request_out_of_sight : ∃ db, Written db ∧
    (∃ m view, latestUserForRun (tally 501) "conversation" "tenant" "actor"
        ⟨0, "id", fun _ => 0⟩ db = .ok (some m, db) ∧
      buildPrompt Prompt.refundBuilder db "conversation" "tenant" "actor" [] [] 0 = .ok view ∧
      ¬Shows view m.contentRedacted) ∧
    ∃ m, latestUser db "conversation" "tenant" "actor" = some m ∧
      skillRequestText db "conversation" "tenant" "actor" ≠ m.contentRedacted ∧
      recoveryRequestText db "conversation" "tenant" "actor" ≠ m.contentRedacted := by
  have hlength : (List.replicate 500 "你好").length = 500 := List.length_replicate
  have hnew : "退款政策" ∉ List.replicate 500 "你好" := fun hmem =>
    absurd (List.eq_of_mem_replicate hmem) (by decide)
  obtain ⟨db, hdb, howns, hmessages, hrun, hlatest⟩ :=
    exists_request (List.replicate 500 "你好") "退款政策"
  rw [hlength] at hrun hlatest
  have hnumbered := numbered_of_written hdb
  have hlate : ∀ r ∈ db.messagesBySequence "conversation", r.contentRedacted = "退款政策" →
      r.sequenceNo = 501 := fun r hr hcontent => by
    rw [hmessages] at hr
    rw [sequenceNo_of_new hnew hr hcontent, hlength]
  have hstanding : ∀ limit ≤ 500, ∀ fallback, fallback ≠ "退款政策" →
      ¬Standing (db.messagesBySequence "conversation") limit fallback "退款政策" := by
    rintro limit hlimit fallback hfallback (⟨r, hlast, hcontent⟩ | ⟨-, hcontent⟩)
    · have hnumber := hlate r hlast.mem hcontent
      have hle := hlast.le
      omega
    · exact hfallback hcontent
  have hfits : Prompt.refundBuilder.Fits
      ((history db "conversation" "tenant" "actor" 100).map shown) := by
    have huser : "user" ∈ Prompt.ROLES := by decide
    have hgreeting : 1 ≤ "你好".length ∧ "你好".length ≤ 8000 := by decide
    have hquestion : 1 ≤ "退款政策".length ∧ "退款政策".length ≤ 8000 := by decide
    refine ⟨Prompt.rulesSize_le Prompt.refundBuilder (by decide +kernel), ?_, by decide, by decide⟩
    intro record hrecord
    obtain ⟨r, hr, rfl⟩ := List.mem_map.mp hrecord
    rw [history_eq hnumbered howns, ← messagesBySequence_eq hnumbered, hmessages] at hr
    obtain ⟨n, content, rfl, hcontent, -⟩ := mem_conversationOf (List.mem_of_mem_take hr)
    rcases List.mem_append.mp hcontent with hcontent | hcontent
    · obtain rfl := List.eq_of_mem_replicate hcontent
      exact ⟨huser, hgreeting⟩
    · obtain rfl := List.mem_singleton.mp hcontent
      exact ⟨huser, hquestion⟩
  obtain ⟨view, hview⟩ := (Prompt.returns_build Prompt.refundBuilder _ [] [] 0).mpr
    ⟨hfits, Nat.zero_le _, Prompt.returns_ok _⟩
  refine ⟨db, hdb, ⟨said 501 "退款政策", view, hrun _, hview, ?_⟩, said 501 "退款政策", hlatest, ?_, ?_⟩
  · rw [shows_iff hview]
    rintro ⟨_, hshown, -, hcontent⟩
    obtain ⟨r, hr, rfl⟩ := List.mem_map.mp hshown
    rw [history_eq hnumbered howns] at hr
    obtain ⟨hmem, hle⟩ := (mem_take hnumbered).mp hr
    rw [← messagesBySequence_eq hnumbered] at hmem
    have hnumber := hlate r hmem hcontent
    omega
  · rw [skillRequestText, Ne, requestText_eq_iff hnumbered howns]
    exact hstanding 100 (by omega) "" (by decide)
  · rw [recoveryRequestText, Ne, requestText_eq_iff hnumbered howns]
    exact hstanding 500 le_rfl RECOVERY_FALLBACK (by decide)

end CommerceAgent.Requests
