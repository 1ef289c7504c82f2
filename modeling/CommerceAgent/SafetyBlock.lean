import CommerceAgent.Standing

/-! A P0 pattern dominates: what the worker does with a message that holds one. -/
namespace CommerceAgent

open Json Texts Tables Programs

variable (π : Platform)

/-- The calls of a handover: the run, its ticket, its answer, the audit and the release record; no
model, no tool, no planner and no business system. -/
def Op.HandsOver : {α : Type} → Op α → Prop
  | _, .runs _ | _, .tickets _ | _, .messages _ => True
  | _, .world (.auditAppend _ _ _) | _, .world (.assignRelease _ _) => True
  | _, _ => False

/-- The risk of a blocked message. -/
def blockedRisk (content : String) : RiskAssessment :=
  ⟨.unknown, (detect π content).riskLevel, (detect π content).reasonCode,
    (detect π content).hardBlock, (detect π content).category⟩

/-- What the worker puts on record about a blocked message. -/
def recordBlock (job : Dispatch) (context : RunContext) : Act Unit := do
  if context.status = .created then
    job.observe .runCreated "accept" [("message_id", .str "[REDACTED]")]
  let risk := blockedRisk π job.content
  job.observe .safetyRouted "safety_router"
    [("domain", .str risk.domain.value), ("risk_level", .str risk.riskLevel.value),
      ("category", .str risk.safetyCategory.value),
      ("disposition", .str SafetyDisposition.handoff.value),
      ("shadow_only", .bool false), ("detector_version", .str DETECTOR_VERSION),
      ("reason_code", .str risk.reasonCode)]
  (Prog.perform (.world (.auditAppend job.tenantId "safety-router"
    "safety_p0_detected"))).handle fun _ => pure ()

/-- All that is left of the worker for a blocked message. -/
def blockedMessage (job : Dispatch) (context : RunContext) : Act Unit := do
  recordBlock π job context
  let _ ← job.recordRelease none
  let risk := blockedRisk π job.content
  handoffRun π job context risk (safetyDecision risk)

section Block

variable {π} {settings : Settings} {job : Dispatch}

theorem runMessage_blocked (h : (detect π job.content).hardBlock = true) (context : RunContext) :
    runMessage π settings job context = blockedMessage π job context := by
  have hrisk : effectiveRisk π ⟨detect π job.content, .handoff, false⟩ job.content =
      blockedRisk π job.content := by
    simp [effectiveRisk, blockedRisk]
  by_cases hnew : context.status = .created
  · simp only [runMessage, safetyBoundary, route_hardBlock h, Prog.ofExcept, Prog.ret_bind,
      bind_assoc, hrisk, h, hnew, if_true, blockedMessage, recordBlock, routeRequest, runRoute,
      safetyDecision, Prog.pure_eq_ret]
  · simp only [runMessage, safetyBoundary, route_hardBlock h, Prog.ofExcept, Prog.ret_bind,
      bind_assoc, hrisk, h, hnew, if_true, if_false, blockedMessage, recordBlock, routeRequest,
      runRoute, safetyDecision, Prog.pure_eq_ret]

end Block

/-- A run that stands somewhere, in a conversation that is the actor's or not, with tickets. -/
structure Held (job : Dispatch) (status : RunStatus) (version : ℕ) (latest : Option RunContext)
    (owned : Bool) (tickets : List HandoffTicket) (db : DB) : Prop where
  stands : Stands job.runId job.tenantId status version latest db
  conversation : db.ownsConversation job.conversationId job.tenantId job.actorId = owned
  tickets : ∀ t ∈ tickets, t ∈ db.tickets.rows

/-- The operations that touch neither the rows of the runs nor the tickets. -/
def Op.Calm {α : Type} (o : Op α) : Prop := o.KeepsRow ∧ o.SparesTickets

section Held

variable {α : Type} {job : Dispatch} {status : RunStatus} {version : ℕ}
  {latest : Option RunContext} {owned : Bool} {tickets : List HandoffTicket} {db db' : DB}

theorem Held.effect {o : Op α} {r : Except Exc α}
    (h : Held job status version latest owned tickets db) (heff : o.Effect db r db')
    (ho : o.Calm) : Held job status version latest owned tickets db' := by
  refine ⟨h.stands.effect heff ho.1, ?_, ?_⟩
  · rw [DB.ownsConversation, heff.conversations_eq]
    exact h.conversation
  · rw [heff.tickets_eq ho.2]
    exact h.tickets

theorem Held.keeps {p : Act α} (h : Held job status version latest owned tickets db)
    (hp : Uses Op.Calm p) :
    Safe serving (fun _ {_} _ => True)
      (fun _ db' => Held job status version latest owned tickets db') p db := by
  refine (hp.keeps ?_ h).mono (fun _ _ _ _ => trivial) fun _ _ hs => hs
  intro db β o r db' hs ho hm
  exact hs.effect (serving_effect hm) ho

/-- What is tried and swallowed does not fail. -/
theorem Held.swallow {p : Act Unit} (h : Held job status version latest owned tickets db)
    (hp : Uses Op.Calm p) :
    Safe serving (fun _ {_} _ => True)
      (fun r db' => r = .ok () ∧ Held job status version latest owned tickets db')
      (p.handle fun _ => pure ()) db := by
  rw [safe_handle]
  refine (h.keeps hp).post ?_
  rintro (e | u) db' hs
  · exact ⟨rfl, hs⟩
  · exact ⟨rfl, hs⟩

theorem Held.swallow_seq {β : Type} {p : Act Unit} {f : Unit → Act β} {Q : Except Exc β → DB → Prop}
    (h : Held job status version latest owned tickets db) (hp : Uses Op.Calm p)
    (hf : ∀ db', Held job status version latest owned tickets db' →
      Safe serving (fun _ {_} _ => True) Q (f ()) db') :
    Safe serving (fun _ {_} _ => True) Q ((p.handle fun _ => pure ()) >>= f) db := by
  rw [safe_bind]
  refine (h.swallow hp).post ?_
  rintro r db' ⟨rfl, hs⟩
  exact hf db' hs

theorem Held.observe_seq {β : Type} {eventType : EventType} {step : String} {payload : Dict}
    {f : Unit → Act β} {Q : Except Exc β → DB → Prop}
    (h : Held job status version latest owned tickets db)
    (hf : ∀ db', Held job status version latest owned tickets db' →
      Safe serving (fun _ {_} _ => True) Q (f ()) db') :
    Safe serving (fun _ {_} _ => True) Q (job.observe eventType step payload >>= f) db :=
  h.swallow_seq (.bind (.perform ⟨trivial, trivial⟩) fun _ => .pure _) hf

/-- An event of the run is recorded. -/
theorem Held.appendEvent_seq {β : Type} {eventType : EventType} {step : String} {payload : Dict}
    {f : ℕ → Act β} {Q : Except Exc β → DB → Prop}
    (h : Held job status version latest owned tickets db)
    (hf : ∀ n db', Held job status version latest owned tickets db' →
      Safe serving (fun _ {_} _ => True) Q (f n) db') :
    Safe serving (fun _ {_} _ => True) Q (Prog.perform (.runs (.appendEvent job.runId job.tenantId
      eventType step payload)) >>= f) db := by
  rw [safe_bind, safe_perform]
  refine ⟨trivial, ?_⟩
  intro r db' hm
  have hafter := h.effect (serving_effect hm) ⟨trivial, trivial⟩
  obtain ⟨row, hrow, ht, _⟩ := h.stands.row
  rcases serving_tx hm rfl with ⟨_, n, rfl, _⟩ | ⟨_, e, rfl, hx, _, hdown, hrefused⟩
  · exact hf n db' hafter
  · have hfound : (db.run job.runId).filter (fun run => run.tenantId = job.tenantId) = some row := by
      rw [hrow]
      simp [ht]
    simp only [RunTx.exec, appendEvent, hfound] at hx
    rcases Except.bind_eq_error hx with hx | ⟨_, _, hx⟩
    · rcases DB.insertEvents_error hx with rfl | rfl
      · exact absurd rfl hdown
      · exact absurd rfl hrefused
    · exact absurd hx (by simp)

/-- What the conversations and the tickets hold, an operation on runs does not touch. -/
theorem surroundings_keeps {p : Act α} (hp : Uses Op.SparesTickets p)
    (howned : db.ownsConversation job.conversationId job.tenantId job.actorId = owned)
    (htickets : ∀ t ∈ tickets, t ∈ db.tickets.rows) :
    Safe serving (fun _ {_} _ => True)
      (fun _ db' => db'.ownsConversation job.conversationId job.tenantId job.actorId = owned ∧
        ∀ t ∈ tickets, t ∈ db'.tickets.rows) p db := by
  refine (hp.keeps (J := fun db' => db'.ownsConversation job.conversationId job.tenantId
    job.actorId = owned ∧ ∀ t ∈ tickets, t ∈ db'.tickets.rows) ?_ ⟨howned, htickets⟩).mono
    (fun _ _ _ _ => trivial) fun _ _ hs => hs
  rintro db β o r db' ⟨hs, ht⟩ ho hm
  have heff := serving_effect hm
  refine ⟨?_, ?_⟩
  · rw [DB.ownsConversation, heff.conversations_eq]
    exact hs
  · rw [heff.tickets_eq ho]
    exact ht

theorem Held.safe_checkpoint {context : RunContext} {next : RunStatus} {nextStep : String}
    {state : Dict} {event : DomainEvent} {events : List DomainEvent}
    (h : Held job status version latest owned tickets db) (hid : context.runId = job.runId)
    (htenant : context.tenantId = job.tenantId) :
    Safe serving (fun _ {_} _ => True)
      (fun r db' => Checkpointed job.runId job.tenantId status version latest context next state
          r db' ∧
        db'.ownsConversation job.conversationId job.tenantId job.actorId = owned ∧
          ∀ t ∈ tickets, t ∈ db'.tickets.rows)
      (checkpoint context next nextStep state (event :: events)) db := by
  have huses : Uses Op.SparesTickets (checkpoint context next nextStep state (event :: events)) :=
    uses_commitCheckpoint_of (fun _ => trivial) trivial
  exact ((h.stands.safe_checkpoint hid htenant).and
    (surroundings_keeps huses h.conversation h.tickets)).mono (fun _ _ _ _ => trivial)
    fun _ _ hs => hs

end Held

/-- A text that can be a message of the assistant. -/
def Presentable (prompt : String) : Prop :=
  strip prompt ≠ "" ∧ strip (strip prompt) ≠ "" ∧ (strip prompt).length ≤ 8000

theorem presentable_of_ends {prompt : String} (hne : prompt ≠ "")
    (hfirst : ∀ c ∈ prompt.toList.head?, isSpace c = false)
    (hlast : ∀ c ∈ prompt.toList.getLast?, isSpace c = false) (hlength : prompt.length ≤ 8000) :
    Presentable prompt := by
  have hstrip : strip prompt = prompt := stripBy_self hfirst hlast
  refine ⟨?_, ?_, ?_⟩ <;> simpa only [hstrip]

theorem presentable_ofList {l : List Char} (hne : l ≠ [])
    (hfirst : (l.head?.all fun c => !isSpace c) = true)
    (hlast : (l.getLast?.all fun c => !isSpace c) = true) (hlength : l.length ≤ 8000) :
    Presentable (String.ofList l) := by
  apply presentable_of_ends
  · simpa using hne
  · simpa [Option.all_eq_true] using hfirst
  · simpa [Option.all_eq_true] using hlast
  · simpa using hlength

theorem safeResponse_presentable (category : SafetyCategory) :
    Presentable (safeResponseFor category) := by
  cases category <;> simp only [safeResponseFor] <;> apply presentable_ofList <;> decide +kernel

section Publish

variable {π} {job : Dispatch} {status : RunStatus} {version : ℕ} {latest : Option RunContext}
  {owned : Bool} {tickets : List HandoffTicket} {db : DB}

/-- The context is one of the job's run. -/
structure Dispatch.Owns (job : Dispatch) (context : RunContext) : Prop where
  run : context.runId = job.runId
  tenant : context.tenantId = job.tenantId
  conversation : context.conversationId = job.conversationId
  actor : context.actorId = job.actorId

theorem assistantInput_presentable {context : RunContext} {prompt : String}
    (h : Presentable prompt) :
    ∃ input, assistantInput π context (strip prompt) = .ok input ∧
      input.conversationId = context.conversationId ∧ input.tenantId = context.tenantId ∧
      input.actorId = context.actorId := by
  have hok : ¬ (strip (strip prompt) = "" ∨ 8000 < (strip prompt).length) := by
    rintro (hblank | hlong)
    · exact h.2.1 hblank
    · have hshort := h.2.2
      omega
  exact ⟨_, by rw [assistantInput, if_neg hok], rfl, rfl, rfl⟩

/-- A prompt is published if the conversation is the actor's, and refused otherwise. -/
theorem Held.safe_prompt {p : Publication} {prompt : String}
    (h : Held job status version latest owned tickets db) (hp : ¬ p.Terminal)
    (hprompt : p.preferredContent = some prompt) (htext : Presentable prompt)
    (howns : job.Owns p.context) :
    Safe serving (fun _ {_} _ => True)
      (fun r db' => Held job status version latest owned tickets db' ∧
        if owned then ∃ a, r = .ok a else ∃ m, r = .error (.valueError m))
      (publishTerminalResponse π p) db := by
  have hpreferred : p.preferred? = some (strip prompt) := by
    simp [Publication.preferred?, hprompt, htext.1]
  have hcontent : p.content π = strip prompt := by
    rw [Publication.content, hpreferred, Option.getD_some]
  -- The run has not ended, so there is no reason to record: one message, and one event.
  have hreason : p.recordReason π = pure () := by
    unfold Publication.recordReason
    cases p.stableReason π with
    | none => rfl
    | some reason => simp [hp]
  obtain ⟨input, hinput, hconv, htenant, hactor⟩ :=
    @assistantInput_presentable π p.context prompt htext
  simp only [publishTerminalResponse, Publication.appendResponse, if_neg hp, appendAssistant,
    hcontent, hinput, Prog.ofExcept, Prog.pure_eq_ret, Prog.ret_bind, bind_assoc, hreason,
    Publication.announceIf, if_true]
  rw [safe_bind, safe_perform]
  refine ⟨trivial, ?_⟩
  intro r db' hm
  have hafter := h.effect (serving_effect hm) ⟨trivial, trivial⟩
  have hown : db.ownsConversation input.conversationId input.tenantId input.actorId = owned := by
    rw [hconv, htenant, hactor, howns.conversation, howns.tenant, howns.actor]
    exact h.conversation
  rcases serving_tx hm rfl with ⟨env, message, rfl, hx⟩ | ⟨env, e, rfl, hx, _, hdown, hrefused⟩
  · have howned : owned = true := by
      simp only [MessageTx.exec, appendAssistantTx, hown] at hx
      split at hx
      · assumption
      · exact absurd hx (by simp)
    subst howned
    rw [thenSafe_ok, Publication.announce]
    simp only [bind_assoc]
    rw [howns.run, howns.tenant]
    refine hafter.swallow_seq (.perform ⟨trivial, trivial⟩) fun db₁ h₁ => ?_
    refine h₁.appendEvent_seq fun _ db₂ h₂ => ?_
    simp only [Publication.terminalEvent, if_neg hp, Prog.pure_eq_ret, Prog.ret_bind]
    exact ⟨h₂, _, rfl⟩
  · refine ⟨hafter, ?_⟩
    simp only [MessageTx.exec, appendAssistantTx, hown] at hx
    split at hx
    · rcases Except.bind_eq_error hx with hx | ⟨_, _, hx⟩
      · unfold DB.insertMessage at hx
        split at hx
        · exact absurd (Except.error.inj hx).symm hrefused
        · exact absurd hx (by simp)
      · exact absurd hx (by simp)
    · rename_i hforeign
      rw [if_neg hforeign]
      exact ⟨_, congrArg Except.error (Except.error.inj hx).symm⟩

end Publish

/-- The run waits for a human, on record in its row and in its latest checkpoint, which names an
open ticket of the run. -/
def HandedOver (runId : Uuid) (db : DB) : Prop :=
  ∃ row context, db.run runId = some row ∧ row.status = .waitingHuman ∧
    (db.latestCheckpoint runId).map RunCheckpoint.stateJson = some context ∧
    context.status = .waitingHuman ∧
    ∃ ticket ∈ db.tickets.rows, ticket.runId = runId ∧ ticket.status = .open ∧
      context.state.get? "handoff_ticket_id" = some (.str ticket.ticketId)

theorem Ended.not_handedOver {runId : Uuid} {db : DB} (h : Ended runId db) :
    ¬ HandedOver runId db := by
  rintro ⟨row, _, hrow, hstatus, _⟩
  obtain ⟨row', hrow', hended⟩ := h
  obtain rfl := Option.some.inj (hrow.symm.trans hrow')
  rw [hstatus] at hended
  exact absurd hended (by decide)

section Handover

variable {π} {job : Dispatch} {status : RunStatus} {version : ℕ} {latest : Option RunContext}
  {owned : Bool} {db : DB} {context : RunContext}

/-- How a blocked message ends: it is handed over if its checkpoint can be recorded and its answer
can be published, and raises otherwise. -/
def Blocked (job : Dispatch) (recordable : Prop) (r : Except Exc Unit) (db : DB) : Prop :=
  (recordable ∧ r = .ok () ∧ HandedOver job.runId db) ∨
    (¬ recordable ∧ (∃ e, r = .error e ∧ e ≠ .modelGateway) ∧
      ∃ status version latest, Stands job.runId job.tenantId status version latest db)

attribute [local irreducible] publishTerminalResponse checkpoint

theorem Held.safe_pauseForHuman {ticket : HandoffTicket} {state : Dict}
    {reasonCode prompt : String}
    (h : Held job status version latest owned [ticket] db) (howns : job.Owns context)
    (hprompt : Presentable prompt) (hrun : ticket.runId = job.runId)
    (hopen : ticket.status = .open)
    (hstate : state.get? "handoff_ticket_id" = some (.str ticket.ticketId)) :
    Safe serving (fun _ {_} _ => True)
      (Blocked job (context.checkpointVersion = version ∧ owned = true))
      (pauseForHuman π context state ticket.ticketId reasonCode prompt) db := by
  unfold pauseForHuman
  rw [safe_bind]
  refine (h.safe_checkpoint howns.run howns.tenant).post ?_
  rintro (e | n) db₁ ⟨hcheckpoint, howned, htickets⟩
  · obtain ⟨hstale, ⟨m, rfl⟩, hstands⟩ := hcheckpoint
    exact .inr ⟨fun hrec => hstale hrec.1, ⟨_, rfl, by simp⟩, _, _, _, hstands⟩
  · obtain ⟨hversion, hstands⟩ := hcheckpoint
    rw [thenSafe_ok, safe_bind]
    have hheld : Held job .waitingHuman (version + 1) (some (context.next .waitingHuman state))
        owned [ticket] db₁ := ⟨hstands, howned, htickets⟩
    refine Safe.post (hheld.safe_prompt ?_ rfl hprompt ⟨howns.run, howns.tenant,
      howns.conversation, howns.actor⟩) ?_
    · exact (by decide : ¬ RunStatus.waitingHuman.IsTerminal)
    rintro r db₂ ⟨h₂, hr⟩
    cases owned with
    | false =>
      obtain ⟨m, rfl⟩ := hr
      exact .inr ⟨fun hrec => absurd hrec.2 (by simp), ⟨_, rfl, by simp⟩, _, _, _, h₂.stands⟩
    | true =>
      obtain ⟨a, rfl⟩ := hr
      obtain ⟨row, hrow, _, hstatus, _⟩ := h₂.stands.row
      refine .inl ⟨⟨hversion, rfl⟩, rfl, row, _, hrow, hstatus, h₂.stands.latest, rfl, ticket,
        h₂.tickets ticket (List.mem_singleton_self _), hrun, hopen, hstate⟩

/-- The ticket of a handover is created. -/
theorem Held.safe_ticket {input : TicketInput} {f : Uuid → Act Unit} {Q : Except Exc Unit → DB → Prop}
    (h : Held job status version latest owned [] db) (hrun : input.runId = job.runId)
    (hf : ∀ ticket db', Held job status version latest owned [ticket] db' →
      ticket.runId = job.runId → ticket.status = .open →
      Safe serving (fun _ {_} _ => True) Q (f ticket.ticketId) db') :
    Safe serving (fun _ {_} _ => True) Q (Prog.perform (.tickets (.create input)) >>= f) db := by
  rw [safe_bind, safe_perform]
  refine ⟨trivial, ?_⟩
  intro r db' hm
  rcases serving_tx hm rfl with ⟨env, ticketId, rfl, hx⟩ | ⟨env, e, rfl, hx, _, hdown, hrefused⟩
  · obtain ⟨db₁, hi, hx⟩ := Except.bind_eq_ok.mp hx
    obtain ⟨rfl, rfl⟩ := Prod.mk.inj (Except.ok.inj hx)
    obtain ⟨table, hrows, rfl⟩ := DB.insertTicket_eq_ok hi
    refine hf (input.row env) _ ⟨?_, h.conversation, ?_⟩ hrun rfl
    · exact ⟨h.stands.row, h.stands.latest⟩
    · intro t ht
      obtain rfl := List.mem_singleton.mp ht
      change input.row env ∈ table.rows
      rw [hrows]
      exact List.mem_append_right _ (List.mem_singleton_self _)
  · have herror : e = .integrity := by
      rcases Except.bind_eq_error hx with hx | ⟨_, _, hx⟩
      · unfold DB.insertTicket at hx
        split at hx
        · exact (Except.error.inj hx).symm
        · split at hx
          · exact (Except.error.inj hx).symm
          · exact absurd hx (by simp)
      · exact absurd hx (by simp)
    exact absurd herror hrefused

attribute [local irreducible] pauseForHuman

theorem Held.safe_handoffRun {risk : RiskAssessment} {routed : RouteDecision}
    (h : Held job status version latest owned [] db) (howns : job.Owns context)
    (hrisk : risk.hardBlock = true) :
    Safe serving (fun _ {_} _ => True)
      (Blocked job (context.checkpointVersion = version ∧ owned = true))
      (handoffRun π job context risk routed) db := by
  unfold handoffRun
  refine h.safe_ticket rfl fun ticket db' hheld hrun hopen => ?_
  rw [if_pos hrisk]
  refine hheld.safe_pauseForHuman howns (safeResponse_presentable _) hrun hopen ?_
  rw [Dict.get?_update_of_not_mem _ (by simp [RouteDecision.policyState]), Dict.get?_set_self]

theorem uses_recordBlock_of {P : {β : Type} → Op β → Prop}
    (hevent : ∀ eventType step payload, P (.runs (.appendEvent job.runId job.tenantId eventType
      step payload)))
    (haudit : P (.world (.auditAppend job.tenantId "safety-router" "safety_p0_detected"))) :
    Uses P (recordBlock π job context) := by
  have haudited : Uses P ((Prog.perform (.world (.auditAppend job.tenantId "safety-router"
      "safety_p0_detected")) : Act Unit).handle fun _ => pure ()) :=
    .handle (.perform haudit) fun _ => .pure _
  have hobserve := uses_observe_of job hevent
  unfold recordBlock
  exact .ite (.bind (hobserve _ _ _) fun _ => .bind (hobserve _ _ _) fun _ => haudited)
    (.bind (hobserve _ _ _) fun _ => haudited)

attribute [local irreducible] handoffRun

theorem Held.safe_blockedMessage (h : Held job status version latest owned [] db)
    (howns : job.Owns context) (hblock : (detect π job.content).hardBlock = true) :
    Safe serving (fun _ {_} _ => True)
      (Blocked job (context.checkpointVersion = version ∧ owned = true))
      (blockedMessage π job context) db := by
  have hrecord : ∀ db', Held job status version latest owned [] db' →
      Safe serving (fun _ {_} _ => True)
        (Blocked job (context.checkpointVersion = version ∧ owned = true)) (do
        let _ ← job.recordRelease none
        let risk := blockedRisk π job.content
        handoffRun π job context risk (safetyDecision risk)) db' := by
    intro db' h'
    unfold Dispatch.recordRelease
    rw [safe_bind, safe_handle, safe_perform]
    refine ⟨trivial, ?_⟩
    intro r db'' hm
    have hafter := h'.effect (serving_effect hm) ⟨trivial, trivial⟩
    cases r with
    | ok canary => exact hafter.safe_handoffRun howns hblock
    | error e => exact hafter.safe_handoffRun howns hblock
  unfold blockedMessage recordBlock
  by_cases hnew : context.status = .created
  · simp only [hnew, if_true, bind_assoc]
    refine h.observe_seq fun db₁ h₁ => h₁.observe_seq fun db₂ h₂ => ?_
    exact h₂.swallow_seq (.perform ⟨trivial, trivial⟩) hrecord
  · simp only [hnew, if_false, bind_assoc]
    refine h.observe_seq fun db₁ h₁ => ?_
    exact h₁.swallow_seq (.perform ⟨trivial, trivial⟩) hrecord

end Handover

/-- A dispatch of a run that is there: its row is the tenant's, and its checkpoints are its own. -/
structure Dispatch.Reaches (job : Dispatch) (db : DB) : Prop where
  row : ∃ row, db.run job.runId = some row ∧ row.tenantId = job.tenantId ∧
    ∀ c ∈ db.checkpoints.rows, c.runId = job.runId → c.checkpointSeq ≤ row.lastCheckpointSeq
  checkpoint : ∀ c ∈ db.latestCheckpoint job.runId, job.Owns c.stateJson

/-- A checkpoint can be recorded and answered: the latest one can be read, it is of the version of
the row, and the conversation is the actor's. -/
def Dispatch.Recordable (job : Dispatch) (db : DB) : Prop :=
  ∃ row ∈ db.run job.runId, ∃ context,
    job.context ((db.latestCheckpoint job.runId).map RunCheckpoint.stateJson) = .ok context ∧
    context.checkpointVersion = row.rowVersion ∧
    db.ownsConversation job.conversationId job.tenantId job.actorId = true

section Worker

variable {π} {settings : Settings} {job : Dispatch} {status : RunStatus} {version : ℕ}
  {latest : Option RunContext} {owned : Bool} {db : DB}

theorem Dispatch.owns_entering (job : Dispatch) : job.Owns job.entering := ⟨rfl, rfl, rfl, rfl⟩

theorem Dispatch.owns_context (hlatest : ∀ c ∈ latest, job.Owns c) {context : RunContext}
    (h : job.context latest = .ok context) : job.Owns context := by
  cases latest with
  | none =>
    obtain rfl := Except.ok.inj h
    exact job.owns_entering
  | some persisted =>
    obtain ⟨c, hc, hcontext⟩ := Except.bind_eq_ok.mp h
    obtain ⟨rfl, _⟩ := RunContext.modelValidate_eq_ok.mp hc
    have howns := hlatest c rfl
    obtain rfl := Except.ok.inj hcontext
    split
    · exact ⟨howns.run, howns.tenant, howns.conversation, howns.actor⟩
    · exact howns

theorem Dispatch.owns_recovery (hlatest : ∀ c ∈ latest, job.Owns c) :
    job.Owns (job.recovery latest) := by
  unfold Dispatch.recovery
  split
  · rename_i context hfound
    obtain ⟨persisted, hpersisted, hvalid⟩ := Option.map_eq_some_iff.mp hfound
    obtain ⟨rfl, _⟩ := RunContext.modelValidate_eq_ok.mp hvalid
    exact hlatest _ hpersisted
  · exact job.owns_entering

/-- The read of the latest checkpoint. -/
theorem Held.load_seq {α : Type} {f : Option RunContext → Act α} {Q : Except Exc α → DB → Prop}
    (h : Held job status version latest owned [] db)
    (hf : Safe serving (fun _ {_} _ => True) Q (f latest) db) :
    Safe serving (fun _ {_} _ => True) Q
      (Prog.perform (.runs (.loadLatestCheckpoint job.runId job.tenantId)) >>= f) db := by
  rw [safe_bind]
  refine h.stands.safe_load.post ?_
  rintro r db' ⟨rfl, rfl⟩
  exact hf

theorem Dispatch.Reaches.owns_latest (h : job.Reaches db) :
    ∀ c ∈ (db.latestCheckpoint job.runId).map RunCheckpoint.stateJson, job.Owns c := by
  intro c hc
  obtain ⟨checkpoint, hcheckpoint, rfl⟩ := Option.map_eq_some_iff.mp hc
  exact h.checkpoint checkpoint hcheckpoint

theorem Dispatch.Reaches.held (h : job.Reaches db) {row : AgentRun} (hrow : db.run job.runId = some row) :
    Held job row.status row.rowVersion ((db.latestCheckpoint job.runId).map RunCheckpoint.stateJson)
      (db.ownsConversation job.conversationId job.tenantId job.actorId) [] db := by
  obtain ⟨row', hrow', htenant, hseq⟩ := h.row
  obtain rfl := Option.some.inj (hrow.symm.trans hrow')
  exact ⟨⟨⟨row, hrow, htenant, rfl, rfl, hseq⟩, rfl⟩, rfl, by simp⟩

/-- Whether the checkpoint of a message can be recorded. -/
def CanRecord (job : Dispatch) (latest : Option RunContext) (version : ℕ) (owned : Bool) : Prop :=
  ∃ context, job.context latest = .ok context ∧ context.checkpointVersion = version ∧
    owned = true

theorem uses_observe_uncommitting (eventType : EventType) (step : String) (payload : Dict) :
    Uses Op.Uncommitting (job.observe eventType step payload) :=
  uses_observe_of job (fun _ _ _ => rfl) _ _ _

/-- How the inner boundary leaves a blocked message: handed over, failed, or not begun. -/
def BlockLeft (job : Dispatch) (recordable unbegun : Prop) (r : Except Exc Unit) (db : DB) : Prop :=
  (recordable ∧ r = .ok () ∧ HandedOver job.runId db) ∨ (¬ recordable ∧ Ended job.runId db) ∨
    (¬ recordable ∧ (∃ e, r = .error e) ∧ unbegun)

attribute [local irreducible] blockedMessage markFailed publishTerminalResponse checkpoint

/-- A blocked message under the inner boundary of the worker. -/
theorem Held.safe_executeMessage (h : Held job status version latest owned [] db)
    (hlatest : ∀ c ∈ latest, job.Owns c) (hblock : (detect π job.content).hardBlock = true) :
    Safe serving (fun _ {_} _ => True)
      (fun r db' => BlockLeft job (CanRecord job latest version owned)
        (Held job status version latest owned [] db') r db')
      (executeMessage π settings job) db := by
  unfold executeMessage
  refine h.swallow_seq (.perform ⟨trivial, trivial⟩) fun db₁ h₁ => h₁.load_seq ?_
  cases hcontext : job.context latest with
  | error e =>
    refine .inr (.inr ⟨?_, ⟨e, rfl⟩, h₁⟩)
    rintro ⟨context, hok, _⟩
    exact absurd (hcontext.symm.trans hok) (by simp)
  | ok context =>
    have howns := job.owns_context hlatest hcontext
    have hreadable : CanRecord job latest version owned ↔
        context.checkpointVersion = version ∧ owned = true := by
      constructor
      · rintro ⟨context', hok, hrest⟩
        obtain rfl := Except.ok.inj (hcontext.symm.trans hok)
        exact hrest
      · exact fun hrest => ⟨context, hcontext, hrest⟩
    rw [hreadable, Prog.ofExcept, Prog.ret_bind, safe_handle, runMessage_blocked hblock]
    refine (h₁.safe_blockedMessage howns hblock).post ?_
    rintro r db₂ (⟨hrec, rfl, hdone⟩ | ⟨hrec, ⟨e, rfl, hgateway⟩, _, _, _, hstands⟩)
    · exact .inl ⟨hrec, rfl, hdone⟩
    · have hfail := @Stands.safe_markFailed _ _ _ _ _ _ π job.observe context
        "UNEXPECTED_EXECUTION_ERROR" hstands howns.run howns.tenant uses_observe_uncommitting
      have hended : Safe serving (fun _ {_} _ => True) (fun r db' => BlockLeft job
          (context.checkpointVersion = version ∧ owned = true)
          (Held job status version latest owned [] db') r db')
          (markFailed π job.observe context "UNEXPECTED_EXECUTION_ERROR") db₂ :=
        hfail.post fun _ _ hs => .inr (.inl ⟨hrec, hs.ended (RunStatus.failing_terminal _)⟩)
      cases e with
      | modelGateway => exact absurd rfl hgateway
      | _ => exact hended

/-- A blocked message, up to the outer boundary of the worker. -/
theorem Held.safe_executeMessageRun (h : Held job status version latest owned [] db)
    (hlatest : ∀ c ∈ latest, job.Owns c) (hblock : (detect π job.content).hardBlock = true) :
    Safe serving (fun _ {_} _ => True)
      (fun _ db' => HandedOver job.runId db' ↔ CanRecord job latest version owned)
      (executeMessageRun π settings job) db := by
  have hended : ∀ {db'}, ¬ CanRecord job latest version owned → Ended job.runId db' →
      (HandedOver job.runId db' ↔ CanRecord job latest version owned) := by
    intro db' hrec hend
    exact iff_of_false hend.not_handedOver hrec
  unfold executeMessageRun
  rw [safe_handle]
  refine (h.safe_executeMessage hlatest hblock).post ?_
  rintro r db₁ (⟨hrec, rfl, hdone⟩ | ⟨hrec, hend⟩ | ⟨hrec, ⟨e, rfl⟩, h₁⟩)
  · exact iff_of_true hdone hrec
  · cases r with
    | ok u => exact hended hrec hend
    | error e =>
      have hload : Op.Uncommitting (Op.runs (.loadLatestCheckpoint job.runId job.tenantId)) := rfl
      refine (hend.keeps (.bind (.perform hload) fun persisted => .handle ?_ fun _ =>
        .pure _)).post fun _ _ hs => hended hrec hs
      exact uses_markFailed_of rfl (fun _ ho => ho.uncommitting) fun _ _ _ => .pure _
  · rw [exceptSafe_error]
    refine h₁.load_seq ?_
    have howns := job.owns_recovery hlatest
    rw [safe_handle]
    refine (h₁.stands.safe_markFailed howns.run howns.tenant fun _ _ _ => .pure _).post ?_
    rintro (e | u) db₂ hs
    · exact hended hrec (hs.ended (RunStatus.failing_terminal _))
    · exact hended hrec (hs.ended (RunStatus.failing_terminal _))

theorem Op.Publishes.handsOver {α : Type} {o : Op α} (ho : o.Publishes) : o.HandsOver := by
  cases o with
  | runs t => trivial
  | messages t => trivial
  | _ => exact absurd ho id

theorem uses_handsOver_observe (eventType : EventType) (step : String) (payload : Dict) :
    Uses Op.HandsOver (job.observe eventType step payload) :=
  uses_observe_of job (fun _ _ _ => trivial) _ _ _

theorem uses_pauseForHuman {context : RunContext} {state : Dict} {ticketId : Uuid}
    {reasonCode prompt : String} :
    Uses Op.HandsOver (pauseForHuman π context state ticketId reasonCode prompt) := by
  have hcheckpoint : ∀ events, Uses Op.HandsOver (checkpoint context .waitingHuman "terminal" state
      events) := by
    intro events
    unfold checkpoint
    exact uses_commitCheckpoint_of (fun _ => trivial) trivial
  have hpublish : ∀ p, Uses Op.HandsOver (publishTerminalResponse π p) :=
    fun p => (uses_publishTerminalResponse p).mono fun _ ho => ho.handsOver
  unfold pauseForHuman
  exact .bind (hcheckpoint _) fun _ => .bind (hpublish _) fun _ => .pure _

theorem uses_blockedMessage {context : RunContext} :
    Uses Op.HandsOver (blockedMessage π job context) := by
  unfold blockedMessage handoffRun
  refine .bind (uses_recordBlock_of (fun _ _ _ => trivial) trivial) fun _ => ?_
  refine .bind (uses_recordRelease_of job trivial) fun _ => .bind (.perform trivial) fun _ => ?_
  exact uses_pauseForHuman

theorem uses_classifierUnavailable {context : RunContext} :
    Uses Op.HandsOver (classifierUnavailable π job context) := by
  unfold classifierUnavailable selectRoute
  refine .bind (.ite (.raise _) (.bind (.perform trivial) fun _ => .ite (.pure _) (.raise _)))
    fun _ => .bind (.perform trivial) fun _ => .bind uses_pauseForHuman fun _ => ?_
  exact uses_handsOver_observe _ _ _

attribute [local irreducible] classifierUnavailable

/-- Whatever the database and the world answer, a blocked message only hands over. -/
theorem uses_executeMessageRun_blocked (hblock : (detect π job.content).hardBlock = true) :
    Uses Op.HandsOver (executeMessageRun π settings job) := by
  have hload : Uses Op.HandsOver (Prog.perform (.runs (.loadLatestCheckpoint job.runId
      job.tenantId)) : Act (Option RunContext)) := .perform trivial
  unfold executeMessageRun executeMessage
  refine .handle (.bind (.handle (.perform trivial) fun _ => .pure _) fun _ => ?_) fun _ => ?_
  · refine .bind hload fun latest => ?_
    cases job.context latest with
    | error e => exact .raise _
    | ok context =>
      rw [Prog.ofExcept, Prog.ret_bind, runMessage_blocked hblock]
      refine .handle uses_blockedMessage fun e => ?_
      cases e with
      | modelGateway => exact uses_classifierUnavailable
      | _ => exact uses_markFailed_of trivial (fun _ ho => ho.handsOver) uses_handsOver_observe
  · refine .bind hload fun latest => .handle ?_ fun _ => .pure _
    exact uses_markFailed_of trivial (fun _ ho => ho.handsOver) fun _ _ _ => .pure _

end Worker

/-- Whether the safety router hands a text over. -/
def Routed (π : Platform) (enabled : Bool) (triage : Option LLMRiskTriage) (content : String) : Prop :=
  ∃ route, SafetyRouter.route π enabled triage content = .ok route ∧
    route.effectiveDisposition = .handoff

/-- Turning the router on, and giving it a triage, takes no handoff back. -/
theorem routed_mono {enabled : Bool} {triage : Option LLMRiskTriage} {content : String}
    (h : Routed π enabled triage content) :
    Routed π true triage content ∧ (triage = none → ∀ triage', Routed π enabled (some triage')
      content) := by
  by_cases hblock : (detect π content).hardBlock = true
  · exact ⟨⟨_, route_hardBlock hblock _ _, rfl⟩, fun _ _ => ⟨_, route_hardBlock hblock _ _, rfl⟩⟩
  · have hopen : (detect π content).hardBlock = false := by simpa using hblock
    obtain ⟨semantic, hsemantic⟩ := (route_handoff_iff hopen).mp h
    cases enabled with
    | false => cases triage <;> exact absurd hsemantic (by simp [semanticRisk])
    | true =>
      refine ⟨h, ?_⟩
      rintro rfl
      exact absurd hsemantic (by simp [semanticRisk])

/-- A P0 pattern anywhere in a message dominates: no flag and no triage keeps the router from a
handoff, the worker makes no call but those of the handover, and while the database answers it
leaves the run with a human exactly when a checkpoint can be recorded and answered. -/
theorem hard_block_dominates (hπ : π.LowersPlainly) (settings : Settings) (job : Dispatch)
    (hpattern : HoldsPattern job.content) :
    (∀ enabled triage, SafetyRouter.route π enabled triage job.content =
      .ok ⟨detect π job.content, .handoff, false⟩) ∧
    (∀ context, runMessage π settings job context = blockedMessage π job context) ∧
    Uses Op.HandsOver (executeMessageRun π settings job) ∧
    (∀ db t q db', job.Reaches db → Exec serving (executeMessageRun π settings job) db t q db' →
      q.outcome?.isSome → (HandedOver job.runId db' ↔ job.Recordable db)) ∧
    ∀ content enabled triage, Routed π enabled triage content → Routed π true triage content ∧
      (triage = none → ∀ triage', Routed π enabled (some triage') content) := by
  have hblock := detect_hardBlock hπ hpattern
  refine ⟨fun _ _ => route_hardBlock hblock _ _, fun _ => runMessage_blocked hblock _,
    uses_executeMessageRun_blocked hblock, ?_, fun _ _ _ => routed_mono π⟩
  intro db t q db' hreaches hexec hdone
  obtain ⟨row, hrow, htenant, hseq⟩ := hreaches.row
  have hlatest := hreaches.owns_latest
  have hheld := hreaches.held hrow
  have hrecordable : CanRecord job ((db.latestCheckpoint job.runId).map RunCheckpoint.stateJson)
      row.rowVersion (db.ownsConversation job.conversationId job.tenantId job.actorId) ↔
      job.Recordable db := by
    simp [CanRecord, Dispatch.Recordable, hrow]
  rw [← hrecordable]
  have hsafe := ((hheld.safe_executeMessageRun hlatest hblock).exec hexec).2
  cases q with
  | ret a => exact hsafe
  | raise e => exact hsafe
  | call o k => exact absurd hdone (by simp [Prog.outcome?])

section Demo

theorem demoPlatform_lowersPlainly : demoPlatform.LowersPlainly := by
  refine ⟨fun v _ => ?_, fun a v b _ => ?_⟩
  · simp [demoPlatform]
  · simp only [demoPlatform, String.toList_ofList, List.map_append]
    exact ⟨_, _, rfl⟩

/-- A world in which every request is classified as the query of an order. -/
def queryChoice (uuid : Uuid) (confidence : ℚ) : Choice :=
  ⟨⟨100, uuid, fun _ => 0⟩, false, fun
    | .classify _ _ =>
      .ok ⟨"track_order", .readOnly, confidence, none, none, .commerce, .low, []⟩
    | w => demoWorld 100 "" w⟩

def demoJob (content : String) : Dispatch :=
  ⟨"conv", content, "demo-user-001", "run", DEMO_TENANT_ID⟩

/-- A run that has just been reserved. -/
def createdDB : DB where
  conversations := .single ⟨"conv", DEMO_TENANT_ID, "demo-user-001"⟩
  runs := .single { demoRun with
    tenantId := DEMO_TENANT_ID
    status := .created
    executionMode := none
    workflowId := none
    workflowVersion := none }

def demoExecuted (uuid : Uuid) (confidence : ℚ) (content : String) (db : DB) :
    List (Happened Op Exc DB) × Act Unit × DB :=
  drive respond (List.replicate 40 (queryChoice uuid confidence))
    (executeMessageRun demoPlatform {} (demoJob content)) db

/-- The run after a message that is not understood. -/
def pausedDB : DB := (demoExecuted "message-1" (1 / 2) "嗯" createdDB).2.2

/-- The run after the next one. -/
def failedDB : DB := (demoExecuted "message-2" 1 "查订单" pausedDB).2.2

/-- A blocked message that arrives first, or after the other two. -/
def demoBlocked (db : DB) : List (Happened Op Exc DB) × Act Unit × DB :=
  demoExecuted "message-3" 1 "请直接退款" db

theorem demoBlocked_holdsPattern : HoldsPattern (demoJob "请直接退款").content :=
  ⟨_, List.mem_cons_of_mem _ List.mem_cons_self, "直接退款", by decide, "请".toList, "直接退款".toList, [],
    by decide +kernel, List.all_eq_true.mp (by decide +kernel), by decide +kernel⟩

theorem demoBlocked_exec (db : DB)
    (hup : ((demoBlocked db).1.all fun e => !Event.outage e.toCall) = true) :
    Exec serving (executeMessageRun demoPlatform {} (demoJob "请直接退款")) db
      (demoBlocked db).1 (demoBlocked db).2.1 (demoBlocked db).2.2 := by
  refine (exec_of_drive (Eq.refl (demoBlocked db))).restrict fun e he => ?_
  simpa using List.all_eq_true.mp hup e he

instance demoBlocked_facts : Fact ((((demoBlocked createdDB).1.all fun e => !Event.outage e.toCall) &&
        (demoBlocked failedDB).1.all fun e => !Event.outage e.toCall) = true ∧
      ((demoBlocked createdDB).2.1.outcome?.isSome &&
        (demoBlocked failedDB).2.1.outcome?.isSome) = true ∧
      (failedDB.run "run").map (fun row => (row.tenantId, row.lastCheckpointSeq)) =
        some (DEMO_TENANT_ID, 1) ∧
      (failedDB.checkpoints.rows.map fun c => (c.runId, c.checkpointSeq, c.stateJson.runId,
        c.stateJson.tenantId, c.stateJson.conversationId, c.stateJson.actorId)) =
        [("run", 1, "run", DEMO_TENANT_ID, "conv", "demo-user-001")] ∧
      ((demoBlocked failedDB).2.2.run "run").map AgentRun.status = some .failed) :=
  ⟨by decide +kernel⟩

theorem hard_block_dominates_demo :
    HandedOver "run" (demoBlocked createdDB).2.2 := by
  obtain ⟨hup, hdone, _⟩ := demoBlocked_facts.out
  rw [Bool.and_eq_true] at hup hdone
  have hreaches : (demoJob "请直接退款").Reaches createdDB :=
    ⟨⟨_, rfl, rfl, fun c hc => absurd hc List.not_mem_nil⟩, fun c hc => absurd hc (by
      simp [createdDB, DB.latestCheckpoint, Table.select, Table.empty, latestBy])⟩
  have hhands := (hard_block_dominates demoPlatform demoPlatform_lowersPlainly {}
    (demoJob "请直接退款") demoBlocked_holdsPattern).2.2.2.1 createdDB _ _ _ hreaches
    (demoBlocked_exec createdDB hup.1) hdone.1
  exact hhands.mpr ⟨_, rfl, _, rfl, rfl, rfl⟩

/-- A message that was accepted while its run waited is executed after the run has failed: its
checkpoint is stale, and nobody is told of the block. -/
theorem late_block_stays_failed : ¬ ∀ (π : Platform), π.LowersPlainly →
    ∀ (settings : Settings) (job : Dispatch), HoldsPattern job.content → ∀ db t q db',
      job.Reaches db → Exec serving (executeMessageRun π settings job) db t q db' →
      q.outcome?.isSome → HandedOver job.runId db' := by
  intro hclaim
  obtain ⟨hup, hdone, hrow, hcheckpoints, hfailed⟩ := demoBlocked_facts.out
  rw [Bool.and_eq_true] at hup hdone
  obtain ⟨row, hfound, hrow⟩ := Option.map_eq_some_iff.mp hrow
  obtain ⟨htenant, hseq⟩ := Prod.mk.inj hrow
  have hids : ∀ c ∈ failedDB.checkpoints.rows, c.checkpointSeq = 1 ∧
      (demoJob "请直接退款").Owns c.stateJson := by
    intro c hc
    have hmem := List.mem_map_of_mem (f := fun c : RunCheckpoint => (c.runId, c.checkpointSeq,
      c.stateJson.runId, c.stateJson.tenantId, c.stateJson.conversationId,
      c.stateJson.actorId)) hc
    rw [hcheckpoints, List.mem_singleton] at hmem
    simp only [Prod.mk.injEq] at hmem
    obtain ⟨_, hone, hrun, ht, hconv, hactor⟩ := hmem
    exact ⟨hone, hrun, ht, hconv, hactor⟩
  have hreaches : (demoJob "请直接退款").Reaches failedDB := by
    refine ⟨⟨row, hfound, htenant, fun c hc _ => ?_⟩, fun c hc => ?_⟩
    · have hone := (hids c hc).1
      omega
    · exact (hids c (List.mem_of_mem_filter (latestBy_mem hc))).2
  have hhanded := hclaim demoPlatform demoPlatform_lowersPlainly {} (demoJob "请直接退款")
    demoBlocked_holdsPattern failedDB _ _ _ hreaches (demoBlocked_exec failedDB hup.2) hdone.2
  obtain ⟨row', _, hrow', hstatus, _⟩ := hhanded
  have hrun : (demoBlocked failedDB).2.2.run "run" = some row' := hrow'
  rw [hrun, Option.map_some, hstatus] at hfailed
  exact absurd hfailed (by decide)

end Demo

end CommerceAgent
