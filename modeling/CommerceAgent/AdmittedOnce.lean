import CommerceAgent.Admission
import CommerceAgent.Interleaving

/-! Messages are admitted once, in any interleaving of requests and workers. -/
namespace CommerceAgent

open Json Tables Programs Texts

section Rows

variable {α : Type} {db db' : DB} {r : Except Exc α} {runId : Uuid}

/-- What every other part of the program keeps to: it creates no run, and checkpoints none as
created. -/
def RunTx.Background : {α : Type} → RunTx α → Prop
  | _, .createRun _ _ _ _ => False
  | _, .commitStep p => p.nextStatus ≠ .created
  | _, _ => True

def Op.Background {α : Type} : Op α → Prop
  | .runs t => t.Background
  | _ => True

/-- Only `create_run` adds a row. -/
theorem RunTx.run_none_after {t : RunTx α} (ht : t.Background) {env : Env} {a : α}
    (h : t.exec env db = .ok (a, db')) (hnone : db.run runId = none) : db'.run runId = none := by
  have hread : ∀ {b : α}, Except.ok (b, db) = (.ok (a, db') : Except Exc (α × DB)) →
      db'.run runId = none := by
    intro b hb
    obtain rfl : db = db' := congrArg Prod.snd (Except.ok.inj hb)
    exact hnone
  have hupdate : ∀ {p f}, db.updateRuns p f = .ok db' → (∀ run, (f run).runId = run.runId) →
      db'.run runId = none := by
    intro p f hup hf
    rw [DB.run_updateRuns hup hf, hnone]
    rfl
  cases t with
  | loadRun => exact hread h
  | activeForConversation => exact hread h
  | recoverableRuns => exact hread h
  | loadLatestCheckpoint id tenantId =>
    simp only [exec, CommerceAgent.loadLatestCheckpoint] at h
    split at h <;> exact hread h
  | markDispatchStarted => exact hupdate (of_updateRuns h) fun _ => rfl
  | markResponsePublished => exact hupdate (of_updateRuns h) fun _ => rfl
  | setTerminalReason => exact hupdate (of_updateRuns h) fun _ => rfl
  | cancelUnstartedRun => exact hupdate (of_updateRuns h) fun _ => rfl
  | markFailed => exact hupdate (of_updateRuns h) fun _ => rfl
  | expireOverdueRuns => exact hupdate (of_updateRuns h) fun _ => rfl
  | selectRoute id tenantId decision =>
    simp only [exec, selectRouteTx] at h
    obtain ⟨db₁, hup, h⟩ := Except.bind_eq_ok.mp h
    obtain rfl : db₁ = db' := congrArg Prod.snd (Except.ok.inj h)
    exact hupdate hup (select_runId decision)
  | appendEvent id tenantId eventType stepId payload =>
    obtain ⟨_, events, rfl, _⟩ := @appendEvent_eq_ok _ _ _ _ _ env _ _ _ h
    exact hnone
  | commitStep p =>
    obtain ⟨row, hcommit⟩ := commitStepTx_committed h
    rw [hcommit.runs]
    split
    · rename_i hid
      rw [hid, hcommit.found] at hnone
      exact absurd hnone (by simp)
    · exact hnone
  | createRun => exact ht.elim

/-- A row that is created was created before, with the same owner. -/
theorem RunTx.rowAfter_created {t : RunTx α} (ht : t.Background) {now : ℕ} {run : AgentRun}
    (hcreated : (t.rowAfter now run).status = .created) :
    run.status = .created ∧ (t.rowAfter now run).conversationId = run.conversationId ∧
      (t.rowAfter now run).tenantId = run.tenantId := by
  generalize hrow : t.rowAfter now run = run' at hcreated ⊢
  have hkept : run = run' → run.status = .created ∧ run'.conversationId = run.conversationId ∧
      run'.tenantId = run.tenantId := by
    rintro rfl
    exact ⟨hcreated, rfl, rfl⟩
  cases t with
  | commitStep p =>
    simp only [rowAfter] at hrow
    split at hrow
    · subst hrow
      exact absurd hcreated ht
    · exact hkept hrow
  | selectRoute id tenantId decision =>
    simp only [rowAfter, AgentRun.select] at hrow
    split at hrow
    · split at hrow <;> subst hrow
      · exact absurd hcreated (by simp)
      · exact absurd hcreated (by simp)
      · dsimp only at hcreated
        split at hcreated <;> exact absurd hcreated (by simp)
    · exact hkept hrow
  | markDispatchStarted | markResponsePublished | setTerminalReason =>
    simp only [rowAfter] at hrow
    split at hrow
    · subst hrow
      exact ⟨hcreated, rfl, rfl⟩
    · exact hkept hrow
  | cancelUnstartedRun | markFailed | expireOverdueRuns =>
    simp only [rowAfter] at hrow
    split at hrow
    · subst hrow
      exact absurd hcreated (by simp)
    · exact hkept hrow
  | createRun => exact ht.elim
  | _ => exact hkept hrow

theorem Op.Effect.created_before {o : Op α} (h : o.Effect db r db') (ho : o.Background)
    {run' : AgentRun} (hrow : db'.run runId = some run') (hcreated : run'.status = .created) :
    ∃ run, db.run runId = some run ∧ run.status = .created ∧
      run'.conversationId = run.conversationId ∧ run'.tenantId = run.tenantId := by
  have hsame : db'.runs = db.runs → ∃ run, db.run runId = some run ∧ run.status = .created ∧
      run'.conversationId = run.conversationId ∧ run'.tenantId = run.tenantId := by
    intro hruns
    refine ⟨run', ?_, hcreated, rfl, rfl⟩
    rwa [DB.run, hruns] at hrow
  cases o with
  | runs t =>
    rcases h with ⟨_, _, rfl⟩ | ⟨env, a, _, hx⟩
    · exact hsame rfl
    · cases hbefore : db.run runId with
      | none =>
        rw [t.run_none_after ho hx hbefore] at hrow
        exact absurd hrow (by simp)
      | some run =>
        obtain rfl := Option.some.inj ((RunTx.run_after hx hbefore).symm.trans hrow)
        obtain ⟨hstatus, hconversation, htenant⟩ := RunTx.rowAfter_created ho hcreated
        exact ⟨run, rfl, hstatus, hconversation, htenant⟩
  | _ => exact hsame (h.runs_eq trivial).1

/-- No message is ever removed. -/
theorem Op.Effect.messages_kept {o : Op α} (h : o.Effect db r db') {m : MessageRecord}
    (hm : m ∈ db.messages.rows) : m ∈ db'.messages.rows := by
  have hsame : db'.messages = db.messages → m ∈ db'.messages.rows := by
    intro hmessages
    rwa [hmessages]
  cases o with
  | messages t =>
    rcases h with ⟨_, _, rfl⟩ | ⟨env, a, _, hx⟩
    · exact hm
    · have hinsert : ∀ {message : MessageRecord}, db.insertMessage message = .ok db' →
          m ∈ db'.messages.rows := by
        intro message hinsert
        obtain ⟨_, messages, hrows, rfl⟩ := DB.insertMessage_eq_ok hinsert
        rw [hrows]
        exact List.mem_append_left _ hm
      cases t with
      | appendUser input =>
        rcases appendUserTx_eq_ok hx with rfl | ⟨message, _, hmessage⟩
        · exact hm
        · exact hinsert hmessage
      | appendAssistant input => exact hinsert (appendAssistantTx_eq_ok hx).2
      | appendAssistantOnce input =>
        simp only [MessageTx.exec, appendAssistantOnceTx] at hx
        split at hx
        · split at hx
          · obtain rfl : db = db' := congrArg Prod.snd (Except.ok.inj hx)
            exact hm
          · obtain ⟨db₁, hmessage, hx⟩ := Except.bind_eq_ok.mp hx
            obtain rfl : db₁ = db' := congrArg Prod.snd (Except.ok.inj hx)
            exact hinsert hmessage
        · exact absurd hx (by simp)
      | _ =>
        obtain rfl : db = db' := congrArg Prod.snd (Except.ok.inj hx)
        exact hm
  | _ => exact hsame (h.messages_eq trivial)

end Rows

/-- How far the admission of a message has come, as the calls of its request show. -/
inductive Admission where
  | looking
  | reserved (runId : Uuid)
  | admitted
  | dispatched
  | released

/-- A message was stored for the request. -/
def Admission.Stored : Admission → Prop
  | .admitted | .dispatched => True
  | _ => False

def Op.admission : {α : Type} → Op α → Except Exc α → Admission → Admission
  | _, .runs (.createRun context _ _ _), .ok n, g => if n = 1 then .reserved context.runId else g
  | _, .runs (.cancelUnstartedRun _ _ _), .ok _, _ => .released
  | _, .messages (.appendUser _), .ok (_, created), g => if created then .admitted else g
  | _, .world (.submit _ _ _ _), _, _ => .dispatched
  | _, _, _, g => g

def Admission.track (g : Admission) (c : Event) : Admission := c.op.admission c.answer g

section Requests

variable (conversationId : Uuid) (payload : MessageCreateRequest)

/-- What a request promises about each call that matters for its admission. -/
def Admission.Allows (g : Admission) : {α : Type} → Op α → Prop
  | _, .runs (.createRun context _ _ _) =>
    g = .looking ∧ context.conversationId = conversationId ∧ context.tenantId = DEMO_TENANT_ID
  | _, .runs (.cancelUnstartedRun runId tenantId _) =>
    g = .reserved runId ∧ tenantId = DEMO_TENANT_ID
  | _, .messages (.appendUser input) =>
    input.conversationId = conversationId ∧ input.clientMessageId = payload.clientMessageId ∧
      (g = .looking ∨ ∃ runId, g = .reserved runId ∧ input.runId = some runId)
  | _, .world (.submit _ _ _ _) => g = .admitted
  | _, o => o.Background

def Op.Relied (blank : Bool) : {α : Type} → Op α → Except Exc α → Prop
  | _, .runs (.createRun _ _ _ _), .ok n => n = 1 → blank = false
  | _, .runs (.cancelUnstartedRun _ _ _), r => r = .ok ()
  | _, .messages (.appendUser _), .ok (_, created) => created = true
  | _, .messages (.appendUser _), .error e => e = .messageConflict
  | _, _, _ => True

/-- What a request may rely on when a call is answered. -/
def MessageCreateRequest.Relies (c : Event) : Prop :=
  c.op.Relied (strip payload.content = "") c.answer

/-- A request ends without a reservation that has no message. -/
def Admission.Ends (g : Admission) : Prop := ∀ runId, g ≠ .reserved runId

variable {conversationId payload} {π : Platform} {actorId : String}

abbrev admissionMachine (payload : MessageCreateRequest) : Machine Op Exc Admission :=
  (Machine.ghost Admission.track).restrict payload.Relies

theorem safe_repeated {message : MessageRecord} {g : Admission} (hg : g.Ends) :
    Safe (admissionMachine payload) (fun g {_} o => Admission.Allows conversationId payload g o)
      (fun _ g => g.Ends) (repeatedResponse actorId message) g := by
  unfold repeatedResponse
  split
  · exact hg
  · refine ⟨trivial, ?_⟩
    rintro r g' ⟨rfl, _⟩
    cases r <;> exact hg

/-- The message of a request, with what the request then knows. -/
theorem safe_appendUser {runId : Uuid} {g : Admission}
    (hg : g = .looking ∨ g = .reserved runId) (hcontent : strip payload.content ≠ "" ∨ g.Ends)
    {Q : Except Exc (MessageRecord × Bool) → Admission → Prop}
    (hok : ∀ message, Q (.ok (message, true)) .admitted)
    (hconflict : Q (.error .messageConflict) g) (hinvalid : ∀ text, g.Ends → Q (.error (.valueError text)) g) :
    Safe (admissionMachine payload) (fun g {_} o => Admission.Allows conversationId payload g o) Q
      (appendUser π conversationId actorId payload.content payload.clientMessageId runId) g := by
  unfold appendUser
  generalize sanitize π payload.content = redacted, hashSecret π payload.content = contentHash
  refine (safe_ite _ _ _ _).mpr ⟨fun hbad => ?_, fun _ => (safe_ite _ _ _ _).mpr
    ⟨fun hbad => ?_, fun _ => ?_⟩⟩
  · have hlength := payload.content_bounds
    rcases hcontent with hcontent | hends
    · have hblank : strip payload.content = "" := by
        rcases hbad with hbad | hbad
        · exact hbad
        · omega
      exact absurd hblank hcontent
    · exact hinvalid _ hends
  · have hlength := payload.clientMessageId_bounds
    rcases hbad with hbad | hbad
    · rw [hbad] at hlength
      exact absurd hlength.1 (by decide)
    · omega
  · rw [safe_perform]
    constructor
    · refine ⟨rfl, rfl, ?_⟩
      rcases hg with rfl | rfl
      · exact .inl rfl
      · exact .inr ⟨runId, rfl, rfl⟩
    · rintro (e | ⟨message, created⟩) g' ⟨rfl, hrelies⟩
      · obtain rfl : e = .messageConflict := hrelies
        exact hconflict
      · obtain rfl : created = true := hrelies
        exact hok message

theorem safe_dispatch {runId : Uuid} {Q : Except Exc Unit → Admission → Prop}
    (hQ : ∀ r, Q r .dispatched) :
    Safe (admissionMachine payload) (fun g {_} o => Admission.Allows conversationId payload g o) Q
      (dispatch conversationId actorId payload runId) .admitted := by
  rw [dispatch, safe_perform]
  refine ⟨rfl, ?_⟩
  rintro r g ⟨rfl, _⟩
  exact hQ r

attribute [local irreducible] appendUser

theorem safe_continueRun {active : AgentRun} :
    Safe (admissionMachine payload) (fun g {_} o => Admission.Allows conversationId payload g o)
      (fun _ g => g.Ends) (continueRun π conversationId actorId payload active) .looking := by
  have hlooking : Admission.looking.Ends := fun _ => by simp
  have hdispatched : Admission.dispatched.Ends := fun _ => by simp
  rw [continueRun, safe_bind, safe_handle]
  apply safe_appendUser (.inl rfl) (.inr hlooking)
  · intro message
    rw [exceptSafe_ok, thenSafe_ok, safe_bind]
    apply safe_dispatch
    intro r
    cases r <;> exact hdispatched
  · exact hlooking
  · intro _ _
    exact hlooking

/-- A reservation leaves a run behind, or nothing; and only a message that is not blank gets one. -/
theorem safe_createRunOrConflict {context : RunContext} {currentStep : String} {deadlineAt : ℕ}
    {Q : Except Exc Unit → Admission → Prop} (hconversation : context.conversationId = conversationId)
    (htenant : context.tenantId = DEMO_TENANT_ID) (hfail : ∀ e, Q (.error e) .looking)
    (hok : strip payload.content ≠ "" → Q (.ok ()) (.reserved context.runId)) :
    Safe (admissionMachine payload) (fun g {_} o => Admission.Allows conversationId payload g o) Q
      (createRunOrConflict context currentStep deadlineAt none) .looking := by
  unfold createRunOrConflict
  refine (safe_ite _ _ _ _).mpr ⟨fun _ => hfail _, fun _ => (safe_ite _ _ _ _).mpr ⟨fun _ => hfail _,
    fun _ => ?_⟩⟩
  rw [safe_bind, safe_perform]
  refine ⟨trivial, ?_⟩
  rintro (e | now) g ⟨rfl, _⟩
  · exact hfail e
  · refine (safe_ite _ _ _ _).mpr ⟨fun _ => hfail _, fun _ => ?_⟩
    rw [safe_bind, safe_handle, safe_perform]
    refine ⟨⟨rfl, hconversation, htenant⟩, ?_⟩
    rintro (e | created) g ⟨rfl, hrelied⟩
    · rw [exceptSafe_error]
      cases e with
      | integrity =>
        rw [safe_bind, safe_perform]
        refine ⟨trivial, ?_⟩
        rintro (e | snapshot) g ⟨rfl, _⟩
        · exact hfail e
        · cases snapshot <;> exact hfail _
      | _ => exact hfail _
    · rw [exceptSafe_ok, thenSafe_ok]
      refine (safe_ite _ _ _ _).mpr ⟨fun hcount => ?_, fun hcount => ?_⟩
      · simp only [Admission.track, Op.admission, if_neg hcount]
        exact hfail _
      · obtain rfl : created = 1 := not_not.mp hcount
        exact hok (of_decide_eq_false (hrelied rfl))

attribute [local irreducible] createRunOrConflict

theorem safe_attachMessage {runId : Uuid} (hcontent : strip payload.content ≠ "") :
    Safe (admissionMachine payload) (fun g {_} o => Admission.Allows conversationId payload g o)
      (fun r g => match r with
        | .ok (_, created) => created = true ∧ g = .admitted
        | .error _ => g.Ends)
      (attachMessage π conversationId actorId payload runId) (.reserved runId) := by
  have hreserved : ¬ (Admission.reserved runId).Ends := fun h => h runId rfl
  rw [attachMessage, safe_handle]
  apply safe_appendUser (.inr rfl) (.inl hcontent)
  · intro message
    exact ⟨rfl, rfl⟩
  · -- The conflict: the reservation is released before the request fails.
    rw [exceptSafe_error, safe_bind, safe_perform]
    refine ⟨⟨rfl, rfl⟩, ?_⟩
    rintro r g ⟨rfl, hrelied⟩
    obtain rfl : r = .ok () := hrelied
    exact fun _ => by simp [Admission.track, Op.admission]
  · intro _ hends
    exact absurd hends hreserved

attribute [local irreducible] attachMessage

theorem safe_startRun {runId : Uuid} :
    Safe (admissionMachine payload) (fun g {_} o => Admission.Allows conversationId payload g o)
      (fun _ g => g.Ends) (startRun π conversationId actorId payload runId) .looking := by
  have hlooking : Admission.looking.Ends := fun _ => by simp
  have hdispatched : Admission.dispatched.Ends := fun _ => by simp
  rw [startRun, safe_bind, safe_perform]
  refine ⟨trivial, ?_⟩
  rintro (e | now) g ⟨rfl, _⟩
  · exact hlooking
  · rw [thenSafe_ok, safe_bind, safe_handle]
    refine safe_createRunOrConflict rfl rfl ?_ ?_
    · intro e
      exact hlooking
    · intro hcontent
      rw [exceptSafe_ok, thenSafe_ok, safe_bind]
      apply (safe_attachMessage hcontent).post
      rintro (e | ⟨message, created⟩) g h
      · exact h
      · obtain ⟨rfl, rfl⟩ := h
        rw [thenSafe_ok]
        refine (safe_ite _ _ _ _).mpr ⟨fun _ => ?_, fun hnot => absurd rfl hnot⟩
        rw [safe_bind]
        apply safe_dispatch
        intro r
        cases r <;> exact hdispatched

attribute [local irreducible] continueRun startRun

/-- What a request does for the admission of its message, whatever the others do. -/
theorem safe_sendMessage :
    Safe (admissionMachine payload) (fun g {_} o => Admission.Allows conversationId payload g o)
      (fun _ g => g.Ends) (sendMessage π conversationId actorId payload) .looking := by
  have hlooking : Admission.looking.Ends := fun _ => by simp
  rw [sendMessage, safe_bind, safe_perform]
  refine ⟨trivial, ?_⟩
  rintro (e | runId) g ⟨rfl, _⟩
  · exact hlooking
  · rw [thenSafe_ok, safe_bind, safe_perform]
    refine ⟨trivial, ?_⟩
    rintro (e | found) g ⟨rfl, _⟩
    · exact hlooking
    · cases found with
      | some message => exact safe_repeated hlooking
      | none =>
        rw [thenSafe_ok, safe_bind, safe_perform]
        refine ⟨trivial, ?_⟩
        rintro (e | owned) g ⟨rfl, _⟩
        · exact hlooking
        · refine (safe_ite _ _ _ _).mpr ⟨fun _ => hlooking, fun _ => ?_⟩
          rw [safe_bind, safe_perform]
          refine ⟨trivial, ?_⟩
          rintro (e | active) g ⟨rfl, _⟩
          · exact hlooking
          · rw [thenSafe_ok]
            split
            · apply safe_continueRun
            · apply safe_startRun

end Requests

section Appends

variable {db db' : DB} {input : UserMessageInput} {message : MessageRecord} {created : Bool} {env : Env}

/-- The message is stored already, with the same content. -/
def DB.repeats (db : DB) (input : UserMessageInput) : Bool :=
  db.messages.rows.any fun m => m.conversationId = input.conversationId ∧
    m.clientMessageId = some input.clientMessageId ∧ m.contentHash = input.contentHash

/-- A user message is attached to the run. -/
def DB.Attached (db : DB) (runId : Uuid) : Prop :=
  ∃ m ∈ db.messages.rows, m.runId = some runId ∧ m.role = "user"

/-- A message of the conversation carries the id of the client. -/
def DB.Carries (db : DB) (conversationId : Uuid) (clientMessageId : String) : Prop :=
  ∃ m ∈ db.messages.rows, m.conversationId = conversationId ∧
    m.clientMessageId = some clientMessageId

/-- An append repeats a message, or it stores the first one with its id. -/
theorem appendUserTx_created (h : appendUserTx input env db = .ok ((message, created), db')) :
    (created = false ∧ db' = db ∧ db.repeats input = true) ∨
    (created = true ∧ ¬ db.Carries input.conversationId input.clientMessageId ∧
      message ∈ db'.messages.rows ∧ message.runId = input.runId ∧ message.role = "user" ∧
      message.conversationId = input.conversationId ∧
      message.clientMessageId = some input.clientMessageId ∧ db'.runs = db.runs) := by
  simp only [appendUserTx] at h
  split at h
  · rename_i record hrecord
    obtain ⟨hfind, _⟩ := Option.filter_eq_some_iff.mp hrecord
    have hmem := List.mem_filter.mp (List.mem_of_find?_eq_some hfind)
    have hclient := List.find?_some hfind
    split at h
    · rename_i hhash
      obtain ⟨hr, rfl⟩ := Prod.mk.inj (Except.ok.inj h)
      obtain ⟨rfl, rfl⟩ := Prod.mk.inj hr
      refine .inl ⟨rfl, rfl, List.any_eq_true.mpr ⟨record, hmem.1, decide_eq_true ?_⟩⟩
      exact ⟨of_decide_eq_true hmem.2, of_decide_eq_true hclient, hhash⟩
    · exact absurd h (by simp)
  · rename_i hrecord
    split at h
    · rename_i howned
      obtain ⟨db₁, hinsert, hx⟩ := Except.bind_eq_ok.mp h
      obtain ⟨hr, rfl⟩ := Prod.mk.inj (Except.ok.inj hx)
      obtain ⟨rfl, rfl⟩ := Prod.mk.inj hr
      obtain ⟨_, messages, hrows, rfl⟩ := DB.insertMessage_eq_ok hinsert
      refine .inr ⟨rfl, ?_, ?_, rfl, rfl, rfl, rfl, rfl⟩
      · rintro ⟨m, hm, hconversation, hclient⟩
        have hselected : m ∈ db.conversationMessages input.conversationId :=
          List.mem_filter.mpr ⟨hm, decide_eq_true hconversation⟩
        rw [howned, Option.filter_eq_none_iff] at hrecord
        have hsome : ((db.conversationMessages input.conversationId).find? fun m =>
            m.clientMessageId = some input.clientMessageId).isSome :=
          List.find?_isSome.mpr ⟨m, hselected, decide_eq_true hclient⟩
        obtain ⟨found, hfound⟩ := Option.isSome_iff_exists.mp hsome
        exact hrecord found hfound rfl
      · rw [hrows]
        exact List.mem_append_right _ (List.mem_singleton_self _)
    · exact absurd h (by simp)

end Appends

section Runs

variable {ι κ : Type} [DecidableEq ι] [DecidableEq κ]

section Statements

variable (π : Platform) (conversationId : Uuid) (actors : ι → String)
  (payloads : ι → MessageCreateRequest) (others : κ → Act Unit)

/-- Requests to send a message, beside everything else that runs. -/
def admitting : ι ⊕ κ → Act Unit
  | .inl i => do
    let _ ← sendMessage π conversationId (actors i) (payloads i)
    pure ()
  | .inr k => others k

/-- A request hands a run to the worker. -/
def Op.dispatches : {α : Type} → Op α → Bool
  | _, .world (.submit _ _ _ _) => true
  | _, _ => false

/-- What was dispatched for the messages with a client id. -/
def dispatched (clientMessageId : String) (h : History (ι ⊕ κ) Op Exc DB) :
    History (ι ⊕ κ) Op Exc DB :=
  h.filter fun e => match e.1 with
    | .inl i => decide ((payloads i).clientMessageId = clientMessageId) && e.2.op.dispatches
    | .inr _ => false

/-- What keeps an admission whole, of a call, the state before it and its answer: no run is
reserved for a blank message, an append repeats no message, and no append and no release is
lost. -/
def Op.admitted (blank : Bool) (db : DB) : {α : Type} → Op α → Except Exc α → Bool
  | _, .runs (.createRun _ _ _ _), .ok n => !(n = 1 && blank)
  | _, .runs (.cancelUnstartedRun _ _ _), .error _ => false
  | _, .messages (.appendUser input), .ok _ => !db.repeats input
  | _, .messages (.appendUser input), .error e => !db.repeats input && e = .messageConflict
  | _, _, _ => true

def MessageCreateRequest.admits (payload : MessageCreateRequest) (e : Happened Op Exc DB) : Bool :=
  e.op.admitted (strip payload.content = "") e.before e.answer

def stage (i : ι) (h : History (ι ⊕ κ) Op Exc DB) : Admission :=
  view Admission.track .looking (.inl i) h

/-- What holds of the requests of a conversation at any time. -/
structure Admissions (h : History (ι ⊕ κ) Op Exc DB) (db : DB) : Prop where
  covered : ∀ runId run, db.run runId = some run → run.conversationId = conversationId →
    run.status = .created →
    db.Attached runId ∨ ∃ i, stage i h = .reserved runId ∧ run.tenantId = DEMO_TENANT_ID
  stored : ∀ i, (stage i h).Stored → db.Carries conversationId (payloads i).clientMessageId
  alone : ∀ i j, (payloads i).clientMessageId = (payloads j).clientMessageId →
    (stage i h).Stored → (stage j h).Stored → i = j
  once : ∀ c, (dispatched payloads c h).length ≤ 1
  after : ∀ c, dispatched payloads c h ≠ [] →
    ∃ i, (payloads i).clientMessageId = c ∧ stage i h = .dispatched

end Statements

variable {π : Platform} {conversationId : Uuid} {actors : ι → String}
  {payloads : ι → MessageCreateRequest} {others : κ → Act Unit}
  {h h' : History (ι ⊕ κ) Op Exc DB} {db₀ db db' : DB} {ps : ι ⊕ κ → Act Unit}

theorem stage_snoc_self (i : ι) (e : Happened Op Exc DB) :
    stage i (h ++ [(.inl i, e)]) = (stage i h).track e.toCall :=
  view_snoc_self _ _ _ _ _

theorem stage_snoc_other {i : ι} {p : ι ⊕ κ} (hp : p ≠ .inl i) (e : Happened Op Exc DB) :
    stage i (h ++ [(p, e)]) = stage i h :=
  view_snoc_other _ _ hp _ _

/-- A step that no admission sees. -/
theorem Admissions.quiet (hJ : Admissions conversationId payloads h db)
    (hstage : ∀ i, stage i h' = stage i h)
    (hdispatched : ∀ c, dispatched payloads c h' = dispatched payloads c h)
    (hrows : ∀ runId run', db'.run runId = some run' → run'.status = .created →
      ∃ run, db.run runId = some run ∧ run.status = .created ∧
        run'.conversationId = run.conversationId ∧ run'.tenantId = run.tenantId)
    (hmessages : ∀ m ∈ db.messages.rows, m ∈ db'.messages.rows) :
    Admissions conversationId payloads h' db' := by
  constructor
  · intro runId run' hrow hconversation hcreated
    obtain ⟨run, hbefore, hstatus, hsame, htenant⟩ := hrows runId run' hrow hcreated
    rcases hJ.covered runId run hbefore (hsame ▸ hconversation) hstatus with hattached | ⟨i, hi, hdemo⟩
    · obtain ⟨m, hm, hrun⟩ := hattached
      exact .inl ⟨m, hmessages m hm, hrun⟩
    · exact .inr ⟨i, (hstage i).trans hi, htenant.trans hdemo⟩
  · intro i hi
    rw [hstage] at hi
    obtain ⟨m, hm, hclient⟩ := hJ.stored i hi
    exact ⟨m, hmessages m hm, hclient⟩
  · intro i j hclient hi hj
    rw [hstage] at hi hj
    exact hJ.alone i j hclient hi hj
  · intro c
    rw [hdispatched]
    exact hJ.once c
  · intro c hc
    rw [hdispatched] at hc
    obtain ⟨i, hclient, hi⟩ := hJ.after c hc
    exact ⟨i, hclient, (hstage i).trans hi⟩

omit [DecidableEq ι] [DecidableEq κ] in
theorem dispatched_quiet {p : ι ⊕ κ} {e : Happened Op Exc DB} (he : e.op.dispatches = false)
    (c : String) : dispatched payloads c (h ++ [(p, e)]) = dispatched payloads c h := by
  rw [dispatched, List.filter_append]
  cases p <;> simp [he, dispatched]

section Steps

variable {i : ι} {e : Happened Op Exc DB}

/-- A step of one request that dispatches nothing, from what it does to the stage of the request. -/
theorem Admissions.moved (hJ : Admissions conversationId payloads h db)
    (he : e.op.dispatches = false) (hi : stage i h ≠ .dispatched)
    (hmessages : ∀ m ∈ db.messages.rows, m ∈ db'.messages.rows)
    (hcovered : ∀ runId run', db'.run runId = some run' → run'.conversationId = conversationId →
      run'.status = .created → db'.Attached runId ∨
        ((stage i h).track e.toCall = .reserved runId ∧ run'.tenantId = DEMO_TENANT_ID) ∨
        ∃ run, db.run runId = some run ∧ run.conversationId = conversationId ∧
          run.status = .created ∧ run'.tenantId = run.tenantId ∧ stage i h ≠ .reserved runId)
    (hstored : ((stage i h).track e.toCall).Stored →
      db'.Carries conversationId (payloads i).clientMessageId ∧
        ¬ db.Carries conversationId (payloads i).clientMessageId) :
    Admissions conversationId payloads (h ++ [(.inl i, e)]) db' := by
  have hself := stage_snoc_self (h := h) i e
  have hother : ∀ j, j ≠ i → stage j (h ++ [(.inl i, e)]) = stage j h :=
    fun j hj => stage_snoc_other (fun hsame => hj (Sum.inl.inj hsame).symm) e
  constructor
  · intro runId run' hrow hconversation hcreated
    rcases hcovered runId run' hrow hconversation hcreated with
      hattached | ⟨hreserved, htenant⟩ | ⟨run, hbefore, hconversation, hstatus, htenant, hstage⟩
    · exact .inl hattached
    · exact .inr ⟨i, hself.trans hreserved, htenant⟩
    · rcases hJ.covered runId run hbefore hconversation hstatus with ⟨m, hm, hrun⟩ | ⟨j, hj, hdemo⟩
      · exact .inl ⟨m, hmessages m hm, hrun⟩
      · have hji : j ≠ i := by
          rintro rfl
          exact hstage hj
        exact .inr ⟨j, (hother j hji).trans hj, htenant.trans hdemo⟩
  · intro j hj
    by_cases hji : j = i
    · subst hji
      exact (hstored (hself ▸ hj)).1
    · rw [hother j hji] at hj
      obtain ⟨m, hm, hclient⟩ := hJ.stored j hj
      exact ⟨m, hmessages m hm, hclient⟩
  · -- Whoever stored a message with the id before would have left it in the table.
    have hfirst : ∀ j, j ≠ i → (payloads j).clientMessageId = (payloads i).clientMessageId →
        ((stage i h).track e.toCall).Stored → ¬ (stage j h).Stored := by
      intro j _ hclient hi hj
      apply (hstored hi).2
      rw [← hclient]
      exact hJ.stored j hj
    intro j k hclient hj hk
    by_cases hji : j = i
    · by_cases hki : k = i
      · exact hji.trans hki.symm
      · subst hji
        rw [hself] at hj
        rw [hother k hki] at hk
        exact absurd hk (hfirst k hki hclient.symm hj)
    · by_cases hki : k = i
      · subst hki
        rw [hself] at hk
        rw [hother j hji] at hj
        exact absurd hj (hfirst j hji hclient hk)
      · rw [hother j hji] at hj
        rw [hother k hki] at hk
        exact hJ.alone j k hclient hj hk
  · intro c
    rw [dispatched_quiet he]
    exact hJ.once c
  · intro c hc
    rw [dispatched_quiet he] at hc
    obtain ⟨j, hclient, hj⟩ := hJ.after c hc
    have hji : j ≠ i := by
      rintro rfl
      exact hi hj
    exact ⟨j, hclient, (hother j hji).trans hj⟩

/-- The dispatch of a message that was stored for the request. -/
theorem Admissions.dispatch (hJ : Admissions conversationId payloads h db)
    (he : e.op.dispatches = true) (hi : stage i h = .admitted)
    (htrack : (stage i h).track e.toCall = .dispatched) :
    Admissions conversationId payloads (h ++ [(.inl i, e)]) db := by
  have hself := (stage_snoc_self (h := h) i e).trans htrack
  have hother : ∀ j, j ≠ i → stage j (h ++ [(.inl i, e)]) = stage j h :=
    fun j hj => stage_snoc_other (fun hsame => hj (Sum.inl.inj hsame).symm) e
  have hstored : ∀ j, (stage j (h ++ [(.inl i, e)])).Stored → (stage j h).Stored := by
    intro j hj
    by_cases hji : j = i
    · subst hji
      rw [hi]
      trivial
    · rwa [hother j hji] at hj
  -- Whoever has dispatched under this client id has stored its message, and that is this request.
  have hnone : dispatched payloads (payloads i).clientMessageId h = [] := by
    by_contra hsome
    obtain ⟨j, hclient, hj⟩ := hJ.after _ hsome
    have hji : j = i := hJ.alone j i hclient (hj ▸ trivial) (hi ▸ trivial)
    rw [hji, hi] at hj
    exact absurd hj (by simp)
  have hentries : ∀ c, dispatched payloads c (h ++ [(.inl i, e)]) = dispatched payloads c h ++
      if (payloads i).clientMessageId = c then [(.inl i, e)] else [] := by
    intro c
    rw [dispatched, List.filter_append]
    by_cases hc : (payloads i).clientMessageId = c <;> simp [hc, he, dispatched]
  constructor
  · intro runId run hrow hconversation hcreated
    rcases hJ.covered runId run hrow hconversation hcreated with hattached | ⟨j, hj, hdemo⟩
    · exact .inl hattached
    · have hji : j ≠ i := by
        rintro rfl
        rw [hi] at hj
        exact absurd hj (by simp)
      exact .inr ⟨j, (hother j hji).trans hj, hdemo⟩
  · exact fun j hj => hJ.stored j (hstored j hj)
  · exact fun j k hclient hj hk => hJ.alone j k hclient (hstored j hj) (hstored k hk)
  · intro c
    rw [hentries]
    split
    · rename_i hc
      rw [← hc, hnone]
      simp
    · rw [List.append_nil]
      exact hJ.once c
  · intro c hc
    rw [hentries] at hc
    by_cases hclient : (payloads i).clientMessageId = c
    · exact ⟨i, hclient, hself⟩
    · rw [if_neg hclient, List.append_nil] at hc
      obtain ⟨j, hc, hj⟩ := hJ.after c hc
      have hji : j ≠ i := by
        rintro rfl
        exact hclient hc
      exact ⟨j, hc, (hother j hji).trans hj⟩

/-- A call that is none of the four that admit a message. -/
theorem Admissions.background {p : ι ⊕ κ} {α : Type} {o : Op α} {r : Except Exc α}
    (hJ : Admissions conversationId payloads h db) (ho : o.Background) (heffect : o.Effect db r db')
    (hdispatches : (∃ k, p = .inr k) ∨ o.dispatches = false)
    (hadmission : ∀ j, p = .inl j → ∀ g, o.admission r g = g) :
    Admissions conversationId payloads (h ++ [(p, ⟨⟨o, r⟩, db, db'⟩)]) db' := by
  refine hJ.quiet ?_ ?_ (fun _ _ => heffect.created_before ho) fun _ => heffect.messages_kept
  · intro j
    by_cases hp : p = .inl j
    · subst hp
      rw [stage_snoc_self]
      exact hadmission j rfl _
    · exact stage_snoc_other hp _
  · intro c
    rcases hdispatches with ⟨k, rfl⟩ | hquiet
    · rw [dispatched, List.filter_append]
      simp [dispatched]
    · exact dispatched_quiet hquiet c

/-- A reservation. -/
theorem Admissions.create (hJ : Admissions conversationId payloads h db) {context : RunContext}
    {currentStep : String} {deadlineAt : ℕ} {parentRunId : Option Uuid} {r : Except Exc ℕ}
    (hi : stage i h = .looking) (htenant : context.tenantId = DEMO_TENANT_ID)
    (heffect : (Op.runs (.createRun context currentStep deadlineAt parentRunId)).Effect db r db') :
    Admissions conversationId payloads (h ++ [(.inl i,
      ⟨⟨.runs (.createRun context currentStep deadlineAt parentRunId), r⟩, db, db'⟩)]) db' := by
  have hcalm : ¬ (Admission.looking).Stored := id
  rcases heffect with ⟨e, rfl, rfl⟩ | ⟨env, n, rfl, hx⟩
  · refine hJ.moved rfl (by simp [hi]) (fun _ hm => hm) ?_ ?_
    · intro runId run hrow hconversation hcreated
      exact .inr (.inr ⟨run, hrow, hconversation, hcreated, rfl, by simp [hi]⟩)
    · intro hstored
      rw [hi] at hstored
      exact absurd hstored hcalm
  · simp only [RunTx.exec, createRun] at hx
    split at hx
    · split at hx
      · exact absurd hx (by simp)
      · split at hx
        · exact absurd hx (by simp)
        · rename_i runs hinsert
          obtain ⟨rfl, rfl⟩ := Prod.mk.inj (Except.ok.inj hx)
          refine hJ.moved rfl (by simp [hi]) (fun _ hm => hm) ?_ ?_
          · intro runId run hrow hconversation hcreated
            have hlookup := @Table.lookup_insert _ _ _ AgentRun.runId _ _ _ _ _ runId hinsert
            have hafter : runs.lookup AgentRun.runId runId = some run := hrow
            rw [hafter] at hlookup
            cases hbefore : db.runs.lookup AgentRun.runId runId with
            | some row =>
              rw [hbefore, Option.some_or] at hlookup
              obtain rfl := Option.some.inj hlookup
              exact .inr (.inr ⟨run, hbefore, hconversation, hcreated, rfl, by simp [hi]⟩)
            | none =>
              rw [hbefore, Option.none_or] at hlookup
              split at hlookup
              · rename_i hid
                obtain rfl := Option.some.inj hlookup
                exact .inr (.inl ⟨congrArg Admission.reserved hid, htenant⟩)
              · exact absurd hlookup (by simp)
          · intro hstored
            exact absurd hstored id
    · obtain ⟨rfl, rfl⟩ := Prod.mk.inj (Except.ok.inj hx)
      refine hJ.moved rfl (by simp [hi]) (fun _ hm => hm) ?_ ?_
      · intro runId run hrow hconversation hcreated
        exact .inr (.inr ⟨run, hrow, hconversation, hcreated, rfl, by simp [hi]⟩)
      · intro hstored
        rw [hi] at hstored
        exact absurd hstored hcalm

/-- The release of a reservation. -/
theorem Admissions.release (hJ : Admissions conversationId payloads h db) {runId : Uuid}
    {reason : String} {r : Except Exc Unit} (hi : stage i h = .reserved runId) (hr : r = .ok ())
    (heffect : (Op.runs (.cancelUnstartedRun runId DEMO_TENANT_ID reason)).Effect db r db') :
    Admissions conversationId payloads (h ++ [(.inl i,
      ⟨⟨.runs (.cancelUnstartedRun runId DEMO_TENANT_ID reason), r⟩, db, db'⟩)]) db' := by
  subst hr
  refine hJ.moved rfl (by simp [hi]) (fun _ => heffect.messages_kept) ?_ (fun hstored => ?_)
  · intro id run' hrow hconversation hcreated
    obtain ⟨run, hbefore, hstatus, hsame, htenant⟩ := heffect.created_before trivial hrow hcreated
    by_cases hid : id = runId
    · -- The row is still created, so it is not one of the tenant; a reserved one would be.
      rcases hJ.covered id run hbefore (hsame ▸ hconversation) hstatus with
        ⟨m, hm, hattached⟩ | ⟨j, hj, hdemo⟩
      · exact .inl ⟨m, heffect.messages_kept hm, hattached⟩
      · rcases heffect with ⟨_, hr, _⟩ | ⟨env, a, _, hx⟩
        · exact absurd hr (by simp)
        · have hafter := Option.some.inj ((RunTx.run_after hx hbefore).symm.trans hrow)
          have hrun := DB.run_runId hbefore
          rw [RunTx.rowAfter, if_pos ⟨hrun.trans hid, hdemo, hstatus⟩] at hafter
          subst hafter
          exact absurd hcreated (by simp)
    · refine .inr (.inr ⟨run, hbefore, hsame ▸ hconversation, hstatus, htenant, ?_⟩)
      rw [hi]
      intro hreserved
      exact hid (Admission.reserved.inj hreserved).symm
  · exact absurd hstored id

/-- The message of a request is stored. -/
theorem Admissions.append (hJ : Admissions conversationId payloads h db) {input : UserMessageInput}
    {r : Except Exc (MessageRecord × Bool)} (hconversation : input.conversationId = conversationId)
    (hclient : input.clientMessageId = (payloads i).clientMessageId)
    (hi : stage i h = .looking ∨ ∃ runId, stage i h = .reserved runId ∧ input.runId = some runId)
    (hnew : db.repeats input = false)
    (heffect : (Op.messages (.appendUser input)).Effect db r db') :
    Admissions conversationId payloads (h ++ [(.inl i,
      ⟨⟨.messages (.appendUser input), r⟩, db, db'⟩)]) db' := by
  have hidle : stage i h ≠ .dispatched ∧ ¬ (stage i h).Stored := by
    rcases hi with hi | ⟨runId, hi, _⟩ <;> rw [hi] <;> exact ⟨by simp, id⟩
  rcases heffect with ⟨e, rfl, rfl⟩ | ⟨env, ⟨message, created⟩, rfl, hx⟩
  · exact hJ.background trivial (.inl ⟨e, rfl, rfl⟩) (.inr rfl) fun _ _ _ => rfl
  · rcases appendUserTx_created hx with ⟨_, _, hrepeats⟩ |
      ⟨rfl, hfirst, hmem, hrun, hrole, hin, hcarries, hruns⟩
    · exact absurd hrepeats (by simp [hnew])
    · have hkept : ∀ m ∈ db.messages.rows, m ∈ db'.messages.rows := fun m =>
        Op.Effect.messages_kept (o := .messages (.appendUser input)) (.inr ⟨env, _, rfl, hx⟩)
      refine hJ.moved rfl hidle.1 hkept ?_ ?_
      · intro runId run hrow hconversation hcreated
        rw [DB.run, hruns] at hrow
        by_cases hreserved : stage i h = .reserved runId
        · rcases hi with hi | ⟨id, hi, hid⟩
          · rw [hi] at hreserved
            exact absurd hreserved (by simp)
          · obtain rfl := Admission.reserved.inj (hi.symm.trans hreserved)
            exact .inl ⟨message, hmem, hrun.trans hid, hrole⟩
        · exact .inr (.inr ⟨run, hrow, hconversation, hcreated, rfl, hreserved⟩)
      · intro _
        rw [← hconversation, ← hclient]
        exact ⟨⟨message, hmem, hin, hcarries⟩, hfirst⟩

end Steps

/-- A step of a request: it may be relied on, and keeps what holds of the admissions. -/
theorem Admissions.step (hJ : Admissions conversationId payloads h db) {i : ι} {α : Type} {o : Op α}
    {r : Except Exc α} (hallows : (stage i h).Allows conversationId (payloads i) o)
    (hm : store db o r db') (hadmits : (payloads i).admits ⟨⟨o, r⟩, db, db'⟩ = true) :
    (payloads i).Relies ⟨o, r⟩ ∧
      Admissions conversationId payloads (h ++ [(.inl i, ⟨⟨o, r⟩, db, db'⟩)]) db' := by
  have heffect := store_effect hm
  cases o with
  | runs t =>
    cases t with
    | createRun context currentStep deadlineAt parentRunId =>
      obtain ⟨hi, hconversation, htenant⟩ := hallows
      refine ⟨?_, hJ.create hi htenant heffect⟩
      cases r with
      | error e => exact trivial
      | ok n =>
        rintro rfl
        simpa [MessageCreateRequest.admits, Op.admitted] using hadmits
    | cancelUnstartedRun runId tenantId reason =>
      obtain ⟨hi, rfl⟩ := hallows
      have hreleased : r = .ok () := by
        cases r with
        | error e => exact absurd hadmits (by simp [MessageCreateRequest.admits, Op.admitted])
        | ok u => rfl
      exact ⟨hreleased, hJ.release hi hreleased heffect⟩
    | _ => exact ⟨trivial, hJ.background hallows heffect (.inr rfl) fun _ _ _ => rfl⟩
  | messages t =>
    cases t with
    | appendUser input =>
      obtain ⟨hconversation, hclient, hi⟩ := hallows
      cases r with
      | error e =>
        have hkept : db.repeats input = false ∧ e = .messageConflict := by
          simpa [MessageCreateRequest.admits, Op.admitted] using hadmits
        exact ⟨hkept.2, hJ.append hconversation hclient hi hkept.1 heffect⟩
      | ok result =>
        have hnew : db.repeats input = false := by
          simpa [MessageCreateRequest.admits, Op.admitted] using hadmits
        refine ⟨?_, hJ.append hconversation hclient hi hnew heffect⟩
        rcases heffect with ⟨_, hr, _⟩ | ⟨env, _, hr, hx⟩
        · exact absurd hr (by simp)
        · obtain rfl := Except.ok.inj hr
          rcases appendUserTx_created hx with ⟨_, _, hrepeats⟩ | ⟨hcreated, _⟩
          · exact absurd hrepeats (by simp [hnew])
          · exact hcreated
    | _ => exact ⟨trivial, hJ.background hallows heffect (.inr rfl) fun _ _ _ => rfl⟩
  | world w =>
    cases w with
    | submit conversationId content actorId runId =>
      obtain rfl : db' = db := heffect
      refine ⟨trivial, hJ.dispatch rfl hallows ?_⟩
      cases r <;> rfl
    | _ => exact ⟨trivial, hJ.background hallows heffect (.inr rfl) fun _ _ _ => rfl⟩
  | _ => exact ⟨trivial, hJ.background hallows heffect (.inr rfl) fun _ _ _ => rfl⟩

/-- Every run of the conversation that is created has its message. -/
def DB.Attends (db : DB) (conversationId : Uuid) : Prop :=
  ∀ runId run, db.run runId = some run → run.conversationId = conversationId →
    run.status = .created → db.Attached runId

/-- The messages of the client in the conversation. -/
def DB.clientMessages (db : DB) (conversationId : Uuid) (clientMessageId : String) :
    List MessageRecord :=
  db.messages.select fun m =>
    m.conversationId = conversationId ∧ m.clientMessageId = some clientMessageId

/-- The uniqueness constraint on the ids of a client. -/
theorem clientMessages_le_one (db : DB) (conversationId : Uuid) (clientMessageId : String) :
    (db.clientMessages conversationId clientMessageId).length ≤ 1 := by
  apply Table.select_le_one
  intro a b ha hb
  obtain ⟨hac, haid⟩ := of_decide_eq_true ha
  obtain ⟨hbc, hbid⟩ := of_decide_eq_true hb
  have hsome : a.clientMessageId.isSome := by rw [haid]; rfl
  exact .inr (.inr (.inl ⟨hac.trans hbc.symm, hsome, haid.trans hbid.symm⟩))

/-- Every message of a client is stored once and dispatched once, and no reservation is left when
the requests have returned, if the steps keep the admissions whole. -/
theorem messages_admitted_once
    (run : Run store (admitting π conversationId actors payloads others) db₀ h ps db)
    (hothers : ∀ k, Uses Op.Background (others k)) (hattends : db₀.Attends conversationId)
    (hadmits : ∀ i e, (.inl i, e) ∈ h → (payloads i).admits e = true) :
    (∀ c, (db.clientMessages conversationId c).length ≤ 1) ∧
      (∀ c, (dispatched payloads c h).length ≤ 1) ∧
      ((∀ i, (ps (.inl i)).outcome?.isSome) → db.Attends conversationId) := by
  let promises : ι ⊕ κ → Admission → {β : Type} → Op β → Prop := fun p g _ o =>
    p.elim (fun i => g.Allows conversationId (payloads i) o) fun _ => o.Background
  let relied : ι ⊕ κ → Event → Prop := Sum.elim (fun i => (payloads i).Relies) fun _ _ => True
  let ends : ι ⊕ κ → Except Exc Unit → Admission → Prop := fun p _ g =>
    p.elim (fun _ => g.Ends) fun _ => True
  let kept : ι ⊕ κ → Happened Op Exc DB → Prop := Sum.elim
    (fun i e => (payloads i).admits e = true) fun _ _ => True
  have hsafe : ∀ p, Safe ((Machine.ghost Admission.track).restrict (relied p)) (promises p) (ends p)
      (admitting π conversationId actors payloads others p) .looking := by
    intro p
    cases p with
    | inl i =>
      have hsend : Safe (admissionMachine (payloads i)) (promises (.inl i)) (fun _ g => g.Ends)
          (sendMessage π conversationId (actors i) (payloads i)) .looking := safe_sendMessage
      rw [admitting, safe_bind]
      refine hsend.post ?_
      rintro (e | response) g hg <;> exact hg
    | inr k =>
      have hkeeps := Yields.keeps (M := (Machine.ghost Admission.track).restrict (relied (.inr k)))
        (J := fun _ : Admission => True) (s := .looking) (hothers k)
        (fun _ _ _ _ _ _ _ _ => trivial) trivial
      exact hkeeps.mono (fun _ _ _ h => h.2) fun _ _ _ => trivial
  have hstart : Admissions conversationId payloads ([] : History (ι ⊕ κ) Op Exc DB) db₀ :=
    ⟨fun runId row hrow hin hcreated => .inl (hattends runId row hrow hin hcreated),
      fun _ hi => absurd hi id, fun _ _ _ hi => absurd hi id, fun _ => Nat.zero_le _,
      fun _ hc => absurd rfl hc⟩
  obtain ⟨hJ, hprocs⟩ := run.conditional_invariant (C := kept) (Admissions conversationId payloads)
    hsafe hstart (by
      intro h db p _ o r db' hJ hpromise hm hkept
      cases p with
      | inl i => exact hJ.step hpromise hm hkept
      | inr k =>
        exact ⟨trivial, hJ.background hpromise (store_effect hm) (.inl ⟨k, rfl⟩)
          fun _ hp => absurd hp (by simp)⟩)
    (by
      intro p e he
      cases p with
      | inl i => exact hadmits i e he
      | inr k => trivial)
  refine ⟨clientMessages_le_one db conversationId, hJ.once, ?_⟩
  intro hreturned runId row hrow hin hcreated
  rcases hJ.covered runId row hrow hin hcreated with hattached | ⟨i, hi, _⟩
  · exact hattached
  · -- The request that holds the reservation has returned, and requests do not end so.
    have hend := hprocs (.inl i)
    have hdone := hreturned i
    cases hp : ps (.inl i) with
    | call o k =>
      rw [hp] at hdone
      exact absurd hdone (by simp [Prog.outcome?])
    | ret a =>
      rw [hp] at hend
      exact absurd hi (hend runId)
    | raise e =>
      rw [hp] at hend
      exact absurd hi (hend runId)

end Runs

section Demo

/-- A conversation without runs. -/
def quietDB : DB where
  conversations := ⟨[⟨"conv", DEMO_TENANT_ID, "demo-user-001"⟩], List.pairwise_singleton _ _⟩

theorem quietDB_attends : quietDB.Attends "conv" := fun _ _ hrow => absurd hrow (by simp [quietDB, DB.run, Table.lookup])

def greeting : MessageCreateRequest := ⟨"你好", "client-1", by decide, by decide⟩

def blankMessage : MessageCreateRequest := ⟨" ", "client-1", by decide, by decide⟩

def admissionChoice (uuid : Uuid) : Choice :=
  ⟨⟨100, uuid, fun _ => 0⟩, false, fun
    | .uuid4 => .ok uuid
    | w => demoWorld 100 "" w⟩

/-- The client sends its message twice, and both requests look before either one acts. -/
def demoRace : History (Bool ⊕ Empty) Op Exc DB × (Bool ⊕ Empty → Act Unit) × DB :=
  play respond
    (List.replicate 4 (.inl false, admissionChoice "run-1") ++
      List.replicate 4 (.inl true, admissionChoice "run-2") ++
      List.replicate 5 (.inl false, admissionChoice "run-1") ++
      List.replicate 4 (.inl true, admissionChoice "run-2"))
    (admitting demoPlatform "conv" (fun _ => "demo-user-001") (fun _ => greeting) Empty.elim) quietDB

/-- A blank message, alone. -/
def demoBlank : History (Unit ⊕ Empty) Op Exc DB × (Unit ⊕ Empty → Act Unit) × DB :=
  play respond (List.replicate 7 (.inl (), admissionChoice "run-1"))
    (admitting demoPlatform "conv" (fun _ => "demo-user-001") (fun _ => blankMessage) Empty.elim)
    quietDB

theorem demoAdmissions_facts :
    (demoRace.1.all fun e => greeting.admits e.2) = true ∧
      ((demoRace.2.1 (.inl false)).outcome?.isSome && (demoRace.2.1 (.inl true)).outcome?.isSome) =
        true ∧
      (demoRace.1.countP fun e => e.2.op.dispatches) = 1 ∧
      (demoBlank.2.1 (.inl ())).outcome?.isSome = true ∧
      (demoBlank.2.2.run "run-1").map (fun run => (run.conversationId, run.status)) =
        some ("conv", .created) ∧
      demoBlank.2.2.messages.rows.length = 0 := by
  decide +kernel

/-- One of the two racing requests is admitted, the other one finds its run in the way. -/
theorem messages_admitted_once_race :
    (demoRace.2.2.clientMessages "conv" "client-1").length ≤ 1 ∧
      (dispatched (fun _ => greeting) "client-1" demoRace.1).length ≤ 1 ∧
      demoRace.2.2.Attends "conv" := by
  obtain ⟨hquiet, hreturned, _⟩ := demoAdmissions_facts
  rw [List.all_eq_true] at hquiet
  rw [Bool.and_eq_true] at hreturned
  obtain ⟨hstored, honce, hattends⟩ := messages_admitted_once (play_run respond _ _ _ : Run store
    (admitting demoPlatform "conv" (fun _ => "demo-user-001") (fun _ => greeting) Empty.elim)
    quietDB demoRace.1 demoRace.2.1 demoRace.2.2) (fun k => k.elim) quietDB_attends
    fun i e he => hquiet _ he
  refine ⟨hstored _, honce _, hattends fun i => ?_⟩
  cases i with
  | false => exact hreturned.1
  | true => exact hreturned.2

/-- A blank message passes the bounds of the request and is refused by the repository only after
its run is reserved. -/
theorem blank_message_keeps_run :
    ¬ ∀ (π : Platform) (conversationId : Uuid) (actors : Unit → String)
      (payloads : Unit → MessageCreateRequest) (others : Empty → Act Unit)
      (h : History (Unit ⊕ Empty) Op Exc DB) (ps : Unit ⊕ Empty → Act Unit) (db₀ db : DB),
      Run store (admitting π conversationId actors payloads others) db₀ h ps db →
      (∀ k, Uses Op.Background (others k)) → db₀.Attends conversationId →
      (∀ c, (db.clientMessages conversationId c).length ≤ 1) ∧
        (∀ c, (dispatched payloads c h).length ≤ 1) ∧
        ((∀ i, (ps (.inl i)).outcome?.isSome) → db.Attends conversationId) := by
  intro hclaim
  obtain ⟨_, _, _, hreturned, hcreated, hnone⟩ := demoAdmissions_facts
  have hattends := (hclaim demoPlatform "conv" (fun _ => "demo-user-001") (fun _ => blankMessage)
    Empty.elim demoBlank.1 demoBlank.2.1 quietDB demoBlank.2.2 (play_run respond _ _ _)
    (fun k => k.elim) quietDB_attends).2.2 fun _ => hreturned
  obtain ⟨run, hrow, hfacts⟩ := Option.map_eq_some_iff.mp hcreated
  obtain ⟨hin, hstatus⟩ := Prod.mk.inj hfacts
  obtain ⟨m, hm, _⟩ := hattends "run-1" run hrow hin hstatus
  rw [List.length_eq_zero_iff.mp hnone] at hm
  exact absurd hm List.not_mem_nil

end Demo

end CommerceAgent
