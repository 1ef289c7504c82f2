import CommerceAgent.EventLog
import CommerceAgent.TerminalResponse

/-! The final answer of a run, published by any number of callers in any order. -/
namespace CommerceAgent

open Json Tables Programs

/-- What a publisher knows of the answer of a run. -/
structure Publishing where
  answered : Option String := none
  created : Bool := false
  announced : Bool := false

def Publishing.track (runId : Uuid) (g : Publishing) : Event → Publishing
  | ⟨.messages (.appendAssistantOnce input), .ok (message, created)⟩ =>
    if input.runId = runId then
      { g with answered := some message.contentRedacted, created := created }
    else g
  | ⟨.runs (.appendEvent r _ .terminalResponsePublished _ _), .ok _⟩ =>
    if r = runId then { g with announced := true } else g
  | _ => g

/-- A publisher appends an answer once, and announces once what it created. -/
def Publishing.Allows (runId : Uuid) (g : Publishing) : {α : Type} → Op α → Prop
  | _, .messages (.appendAssistantOnce input) => input.runId = runId → g = {}
  | _, .runs (.appendEvent r _ .terminalResponsePublished _ _) =>
    r = runId → g.created = true ∧ g.announced = false
  | _, .runs (.commitStep _) => False
  | _, _ => True

/-- The events that announce the final answer of a run. -/
def DB.announcements (db : DB) (runId : Uuid) : List RunEvent :=
  db.events.select fun e => e.runId = runId ∧ e.eventType = .terminalResponsePublished

section Publisher

variable {π : Platform} {runId : Uuid}

/-- What a publisher returns is what it was answered. -/
def Publication.Returns (p : Publication) (runId : Uuid) :
    Except Exc TerminalResponse → Publishing → Prop
  | .ok response, g => p.context.runId = runId → p.Terminal → g.answered = some response.content
  | .error _, _ => True

theorem assistantInput_runId {context : RunContext} {content : String}
    {input : AssistantMessageInput} (h : assistantInput π context content = .ok input) :
    input.runId = context.runId := by
  unfold assistantInput at h
  split at h
  · exact absurd h (by simp)
  · obtain rfl := Except.ok.inj h
    rfl

/-- The calls that say nothing about the answer of a run. -/
def Silent (runId : Uuid) {α : Type} (o : Op α) : Prop :=
  (∀ g : Publishing, g.Allows runId o) ∧ ∀ (g : Publishing) r, g.track runId ⟨o, r⟩ = g

theorem Silent.keeps {α : Type} {p : Act α} {g : Publishing} (hp : Uses (Silent runId) p) :
    Safe (.ghost (Publishing.track runId)) (Publishing.Allows runId)
      (fun _ g' => g' = g) p g := by
  refine (Yields.keeps (J := fun g' => g' = g) hp ?_ rfl).mono (fun _ _ o h => h.2.1 _)
    fun _ _ h => h.1
  rintro _ β o r _ rfl ho rfl
  exact ho.2 _ r

theorem silent_runs {α : Type} {t : RunTx α} (hw : t.written? = none) :
    Silent runId (.runs t) := by
  cases t with
  | appendEvent => exact absurd hw (by simp [RunTx.written?])
  | commitStep => exact absurd hw (by simp [RunTx.written?])
  | _ => exact ⟨fun _ => trivial, fun _ _ => rfl⟩

theorem uses_recordReason (p : Publication) : Uses (Silent runId) (p.recordReason π) := by
  unfold Publication.recordReason
  split
  · exact .perform (silent_runs rfl)
  · exact .pure _

/-- The announcement of an answer that this publisher created. -/
theorem safe_announce {p : Publication} {g : Publishing}
    (hg : p.Terminal → p.context.runId = runId → g.created = true ∧ g.announced = false) :
    Safe (.ghost (Publishing.track runId)) (Publishing.Allows runId)
      (fun _ g' => g'.answered = g.answered) (p.announce π) g := by
  have hmark : Uses (Silent runId) ((Prog.perform (.runs (.markResponsePublished p.context.runId
      p.context.tenantId)) : Act Unit).handle fun _ => pure ()) :=
    .handle (.perform (silent_runs rfl)) fun _ => .pure _
  have hresponse : Uses (Silent runId) (Prog.perform (.runs (.appendEvent p.context.runId
      p.context.tenantId .assistantResponse "response" [("status", .str "published"),
        ("character_count", .int (p.content π).length)])) : Act ℕ) :=
    .perform ⟨fun _ => trivial, fun _ _ => rfl⟩
  rw [Publication.announce, safe_bind]
  refine (Silent.keeps hmark).post ?_
  rintro (e | u) _ rfl
  · rfl
  rw [thenSafe_ok, safe_bind]
  refine (Silent.keeps hresponse).post ?_
  rintro (e | n) _ rfl
  · rfl
  rw [thenSafe_ok, Publication.terminalEvent]
  refine (safe_ite _ _ _ _).mpr ⟨fun hterminal => ?_, fun _ => rfl⟩
  rw [safe_bind, safe_perform]
  refine ⟨hg hterminal, ?_⟩
  rintro (e | n) _ rfl
  · rfl
  · change (Publishing.track runId _ _).answered = _
    simp only [Publishing.track]
    split <;> rfl

theorem safe_publish (p : Publication) :
    Safe (.ghost (Publishing.track runId)) (Publishing.Allows runId) (p.Returns runId)
      (publishTerminalResponse π p) {} := by
  rw [publishTerminalResponse, safe_bind, Publication.appendResponse]
  refine (safe_ite _ _ _ _).mpr ⟨fun hterminal => ?_, fun hstage => ?_⟩
  · rw [appendAssistantOnceForRun, safe_bind, safe_ofExcept]
    cases hinput : assistantInput π p.context (p.content π) with
    | error e => trivial
    | ok input =>
      have hid := assistantInput_runId hinput
      rw [thenSafe_ok, safe_perform]
      refine ⟨fun _ => rfl, ?_⟩
      rintro (e | ⟨message, created⟩) g rfl
      · trivial
      · simp only [thenSafe_ok, safe_bind]
        refine (Silent.keeps (uses_recordReason p)).post ?_
        rintro (e | u) _ rfl
        · trivial
        · rw [thenSafe_ok, safe_bind, Publication.announceIf]
          refine (safe_ite _ _ _ _).mpr ⟨fun hcreated => ?_, fun _ => ?_⟩
          · refine (safe_announce ?_).post ?_
            · intro _ hrun
              simp [Publishing.track, hid, hrun, hcreated]
            · rintro (e | u) g' hg'
              · trivial
              · intro hrun _
                rw [hg']
                simp [Publishing.track, hid, hrun]
          · intro hrun _
            simp [Publishing.track, hid, hrun]
  -- A stage message is no answer of the run, whatever becomes of it.
  · rw [safe_bind, appendAssistant, safe_bind, safe_ofExcept]
    cases hinput : assistantInput π p.context (p.content π) with
    | error e => trivial
    | ok input =>
      rw [thenSafe_ok, safe_perform]
      refine ⟨trivial, ?_⟩
      rintro (e | message) g rfl
      · trivial
      · simp only [thenSafe_ok, safe_pure, safe_bind]
        refine (Silent.keeps (uses_recordReason p)).post ?_
        rintro (e | u) _ rfl
        · trivial
        · rw [thenSafe_ok, safe_bind, Publication.announceIf]
          refine (safe_ite _ _ _ _).mpr ⟨fun _ => ?_, fun _ _ hterminal => absurd hterminal hstage⟩
          refine (safe_announce fun hterminal => absurd hterminal hstage).post ?_
          rintro (e | u) g' _
          · trivial
          · exact fun _ hterminal => absurd hterminal hstage

end Publisher

section Answers

variable {ι : Type} [DecidableEq ι] {runId : Uuid}

/-- What the publishers know of the answer of a run, and what is stored of it. -/
inductive Answering (v : ι → Publishing) (runId : Uuid) (db : DB) : Prop
  | unanswered (hviews : ∀ i, v i = {}) (hmessages : db.terminalMessages runId = [])
      (hevents : db.announcements runId = [])
  | answered (i : ι) (message : MessageRecord) (hmessages : db.terminalMessages runId = [message])
      (hcreator : ∀ j, (v j).created = true → j = i)
      (hcontent : ∀ j, ∀ c ∈ (v j).answered, c = message.contentRedacted)
      (hevents : (db.announcements runId).length ≤ 1)
      (hfirst : (v i).announced = false → db.announcements runId = [])

variable {v : ι → Publishing} {db db' : DB} {i : ι} {α : Type} {o : Op α} {r : Except Exc α}

theorem announcements_after (h : o.Effect db r db') :
    db'.announcements runId = db.announcements runId ++ (Event.rowsOn db ⟨o, r⟩).filter
      fun e => e.runId = runId ∧ e.eventType = .terminalResponsePublished := by
  rw [DB.announcements, Table.select, h.eventsAfter, List.filter_append]
  rfl

theorem announcements_eq (h : o.Effect db r db') (hw : o.written? = none) :
    db'.announcements runId = db.announcements runId := by
  have hrows : Event.rowsOn db ⟨o, r⟩ = [] := by
    cases r with
    | error e => rfl
    | ok a => rw [Event.rowsOn, hw]; rfl
  rw [announcements_after h, hrows]
  exact List.append_nil _

/-- A call that nobody learns from, and that touches neither the answers nor the
announcements. -/
theorem Answering.frame (h : Answering v runId db)
    (hmessages : db'.terminalMessages runId = db.terminalMessages runId)
    (hevents : db'.announcements runId = db.announcements runId)
    (htrack : (v i).track runId ⟨o, r⟩ = v i) :
    Answering (Function.update v i ((v i).track runId ⟨o, r⟩)) runId db' := by
  rw [htrack, Function.update_eq_self]
  cases h with
  | unanswered hv hm he => exact .unanswered hv (hmessages.trans hm) (hevents.trans he)
  | answered i message hm hcreator hcontent he hfirst =>
    exact .answered i message (hmessages.trans hm) hcreator hcontent (hevents ▸ he)
      fun hann => hevents.trans (hfirst hann)

theorem terminalMessages_of_spares (h : o.Effect db r db') (ho : o.SparesMessages) :
    db'.terminalMessages runId = db.terminalMessages runId := by
  rw [DB.terminalMessages, h.messages_eq ho]
  rfl

/-- An answer that is found or created. -/
theorem Answering.append {input : AssistantMessageInput} {env : Env} {message : MessageRecord}
    {created : Bool} (h : Answering v runId db) (hview : input.runId = runId → v i = {})
    (hx : appendAssistantOnceTx input env db = .ok ((message, created), db')) :
    Answering (Function.update v i ((v i).track runId
      ⟨.messages (.appendAssistantOnce input), .ok (message, created)⟩)) runId db' := by
  have hevents : ∀ {messages}, ({ db with messages := messages } : DB).announcements runId =
      db.announcements runId := rfl
  by_cases hid : input.runId = runId
  · have htrack : (v i).track runId ⟨.messages (.appendAssistantOnce input), .ok (message, created)⟩ =
        { answered := some message.contentRedacted, created := created } := by
      simp [Publishing.track, hid, hview hid]
    rw [htrack]
    rcases appendAssistantOnceTx_eq_ok hx with ⟨rfl, rfl, hmem⟩ | ⟨rfl, hnone, hone, _, _, rfl⟩
    -- An answer that is found is the one there is, and its text is what this publisher goes on with.
    · rw [hid] at hmem
      cases h with
      | unanswered _ hm _ =>
        rw [hm] at hmem
        exact absurd hmem List.not_mem_nil
      | answered k first hm hcreator hcontent he hfirst =>
        rw [hm, List.mem_singleton] at hmem
        subst hmem
        refine .answered k message hm ?_ ?_ he ?_
        · intro j hj
          by_cases hji : j = i
          · subst hji
            simp at hj
          · rw [Function.update_of_ne hji] at hj
            exact hcreator j hj
        · intro j c hc
          by_cases hji : j = i
          · subst hji
            rw [Function.update_self] at hc
            exact (Option.some.inj hc).symm
          · rw [Function.update_of_ne hji] at hc
            exact hcontent j c hc
        · intro hann
          by_cases hki : k = i
          · subst hki
            exact hfirst (by rw [hview hid])
          · rw [Function.update_of_ne hki] at hann
            exact hfirst hann
    -- An answer that is created is the first, and its creator the only one that announces.
    · rw [hid] at hnone hone
      cases h with
      | unanswered hv hm he =>
        refine .answered i message hone ?_ ?_ ?_ fun _ => he
        · intro j hj
          by_contra hji
          rw [Function.update_of_ne hji, hv j] at hj
          exact absurd hj (by simp)
        · intro j c hc
          by_cases hji : j = i
          · subst hji
            rw [Function.update_self] at hc
            exact (Option.some.inj hc).symm
          · rw [Function.update_of_ne hji, hv j] at hc
            exact absurd hc (by simp)
        · rw [hevents, he]
          exact Nat.zero_le _
      | answered _ first hm => exact absurd (hnone.symm.trans hm) (by simp)
  · have htrack : (v i).track runId ⟨.messages (.appendAssistantOnce input), .ok (message, created)⟩ =
        v i := by
      simp [Publishing.track, hid]
    rcases appendAssistantOnceTx_eq_ok hx with ⟨rfl, rfl, _⟩ | ⟨rfl, _, _, hother, _, rfl⟩
    · exact h.frame rfl rfl htrack
    · exact h.frame (hother runId (Ne.symm hid)) rfl htrack

/-- The announcement of the answer by the publisher that created it. -/
theorem Answering.announce {tenantId stepId : String} {payload : Dict} {seq : ℕ}
    (h : Answering v runId db)
    (hview : (v i).created = true ∧ (v i).announced = false)
    (hx : (Op.runs (.appendEvent runId tenantId .terminalResponsePublished stepId payload)).Effect db
      (.ok seq) db') :
    Answering (Function.update v i { v i with announced := true }) runId db' := by
  have hmessages : db'.terminalMessages runId = db.terminalMessages runId :=
    terminalMessages_of_spares hx trivial
  cases h with
  | unanswered hv _ _ =>
    rw [hv i] at hview
    exact absurd hview.1 (by simp)
  | answered k message hm hcreator hcontent he hfirst =>
    obtain rfl := hcreator i hview.1
    refine .answered i message (hmessages.trans hm) ?_ ?_ ?_ ?_
    · intro j hj
      by_cases hji : j = i
      · exact hji
      · rw [Function.update_of_ne hji] at hj
        exact hcreator j hj
    · intro j c hc
      by_cases hji : j = i
      · subst hji
        rw [Function.update_self] at hc
        exact hcontent j c hc
      · rw [Function.update_of_ne hji] at hc
        exact hcontent j c hc
    · rw [announcements_after hx, hfirst hview.2]
      simp [Event.rowsOn, Op.written?, RunTx.written?, eventRows]
    · intro hann
      rw [Function.update_self] at hann
      exact absurd hann (by simp)

/-- Any other event that is appended. -/
theorem Answering.appendEvent {runId' : Uuid} {tenantId stepId : String} {eventType : EventType}
    {payload : Dict} {r : Except Exc ℕ} (h : Answering v runId db)
    (hallows : (v i).Allows runId (.runs (.appendEvent runId' tenantId eventType stepId payload)))
    (heff : (Op.runs (.appendEvent runId' tenantId eventType stepId payload)).Effect db r db') :
    Answering (Function.update v i ((v i).track runId
      ⟨.runs (.appendEvent runId' tenantId eventType stepId payload), r⟩)) runId db' := by
  have hmessages : db'.terminalMessages runId = db.terminalMessages runId :=
    terminalMessages_of_spares heff trivial
  by_cases hann : eventType = .terminalResponsePublished ∧ runId' = runId
  · obtain ⟨rfl, rfl⟩ := hann
    cases r with
    | error e =>
      obtain rfl := heff.error
      exact h.frame rfl rfl rfl
    | ok seq =>
      have htrack : (v i).track runId' ⟨.runs (.appendEvent runId' tenantId
          .terminalResponsePublished stepId payload), .ok seq⟩ = { v i with announced := true } :=
        if_pos rfl
      rw [htrack]
      exact h.announce (hallows rfl) heff
  · have hevents : db'.announcements runId = db.announcements runId := by
      rw [announcements_after heff]
      cases r with
      | error e => exact List.append_nil _
      | ok seq =>
        have hother : ¬ (runId' = runId ∧ eventType = .terminalResponsePublished) :=
          fun hboth => hann hboth.symm
        simp [Event.rowsOn, Op.written?, RunTx.written?, eventRows, hother]
    refine h.frame hmessages hevents ?_
    cases r with
    | error e => cases eventType <;> rfl
    | ok seq =>
      cases eventType with
      | terminalResponsePublished =>
        have hid : runId' ≠ runId := fun hid => hann ⟨rfl, hid⟩
        exact if_neg hid
      | _ => rfl

theorem Answering.step (h : Answering v runId db) (hallows : (v i).Allows runId o)
    (heff : o.Effect db r db') :
    Answering (Function.update v i ((v i).track runId ⟨o, r⟩)) runId db' := by
  cases o with
  | messages t =>
    have hevents : db'.announcements runId = db.announcements runId := announcements_eq heff rfl
    cases t with
    | appendAssistantOnce input =>
      rcases heff with ⟨e, rfl, rfl⟩ | ⟨env, ⟨message, created⟩, rfl, hx⟩
      · exact h.frame rfl rfl rfl
      · exact h.append hallows hx
    | appendUser | appendAssistant | findUserByClientMessageId | conversationExists | listForActor
      | latestUserForRun =>
      have hmessages : db'.terminalMessages runId = db.terminalMessages runId := by
        rcases heff with ⟨_, _, rfl⟩ | ⟨env, a, _, hx⟩
        · rfl
        · exact MessageTx.terminalMessages_eq hx rfl runId
      exact h.frame hmessages hevents rfl
  | runs t =>
    have hmessages : db'.terminalMessages runId = db.terminalMessages runId :=
      terminalMessages_of_spares heff trivial
    cases t with
    | appendEvent => exact h.appendEvent hallows heff
    | commitStep p => exact absurd hallows id
    | _ => exact h.frame hmessages (announcements_eq heff rfl) rfl
  | tokens t => exact h.frame (terminalMessages_of_spares heff trivial) (announcements_eq heff rfl) rfl
  | records t => exact h.frame (terminalMessages_of_spares heff trivial) (announcements_eq heff rfl) rfl
  | tickets t => exact h.frame (terminalMessages_of_spares heff trivial) (announcements_eq heff rfl) rfl
  | world w => exact h.frame (terminalMessages_of_spares heff trivial) (announcements_eq heff rfl) rfl

end Answers

section Publishers

variable {ι : Type} [DecidableEq ι] {π : Platform} {publications : ι → Publication}
  {ps : ι → Act TerminalResponse} {h : History ι Op Exc DB} {db₀ db : DB} {runId : Uuid}

/-- The final answer of a run, its announcement, and what the publishers of it returned. -/
structure OneResponse (publications : ι → Publication) (ps : ι → Act TerminalResponse) (db : DB)
    (runId : Uuid) : Prop where
  message : (db.terminalMessages runId).length ≤ 1
  event : (db.announcements runId).length ≤ 1
  content : ∀ i response, ps i = .ret response → (publications i).context.runId = runId →
    (publications i).Terminal →
    (db.terminalMessages runId).map MessageRecord.contentRedacted = [response.content]

theorem Run.answering
    (run : Run store (fun i => publishTerminalResponse π (publications i)) db₀ h ps db)
    (hmessages : db₀.terminalMessages runId = []) (hevents : db₀.announcements runId = []) :
    Answering (fun i => view (Publishing.track runId) {} i h) runId db := by
  refine Run.invariant (G := fun _ => Publishing.Allows runId) (g := fun _ => {})
    (fun h db => Answering (fun i => view (Publishing.track runId) {} i h) runId db)
    (fun i => safe_publish (publications i)) (.unanswered (fun _ => rfl) hmessages hevents) ?_ run
  intro h db i β o r db' hans hallows hm
  rw [view_snoc]
  exact hans.step hallows (store_effect hm)

omit [DecidableEq ι] in
/-- A publisher that has returned an answer of the run was told the stored one. -/
theorem Answering.told {v : ι → Publishing} {content : String} (h : Answering v runId db) {i : ι}
    (hi : (v i).answered = some content) :
    (db.terminalMessages runId).map MessageRecord.contentRedacted = [content] := by
  cases h with
  | unanswered hv =>
    rw [hv i] at hi
    exact absurd hi (by simp)
  | answered _ message hm _ hcontent =>
    rw [hm, List.map_singleton, hcontent i content hi]

/-- However the publishers of a run interleave and crash, it gets one final answer. -/
theorem one_terminal_response
    (run : Run store (fun i => publishTerminalResponse π (publications i)) db₀ h ps db)
    (hmessages : db₀.terminalMessages runId = []) (hevents : db₀.announcements runId = []) :
    OneResponse publications ps db runId := by
  have hans := Run.answering run hmessages hevents
  have hcontent : ∀ i response, ps i = .ret response → (publications i).context.runId = runId →
      (publications i).Terminal →
      (db.terminalMessages runId).map MessageRecord.contentRedacted = [response.content] := by
    intro i response hret hrun hterminal
    have hlocal := run.local_safe (@safe_publish π runId (publications i))
    rw [hret] at hlocal
    exact hans.told (hlocal hrun hterminal)
  refine ⟨?_, ?_, hcontent⟩
  · cases hans with
    | unanswered _ hm => simp [hm]
    | answered _ _ hm => simp [hm]
  · cases hans with
    | unanswered _ _ he => simp [he]
    | answered _ _ _ _ _ he => exact he

/-- A worker that hands the run over late, and an operator who has completed it. -/
def demoPublication : Bool → Publication
  | true => { context := demoContext, status := some .completed }
  | false => { context := demoContext, status := some .waitingHuman }

def demoPublished : History Bool Op Exc DB × (Bool → Act TerminalResponse) × DB :=
  play respond ((List.replicate 4 true ++ List.replicate 3 false).map fun publisher =>
    (publisher, demoChoice (if publisher then "message-1" else "message-2") "" false))
    (fun i => publishTerminalResponse demoPlatform (demoPublication i)) demoSeed

theorem demoPublished_run :
    Run store (fun i => publishTerminalResponse demoPlatform (demoPublication i)) demoSeed
      demoPublished.1 demoPublished.2.1 demoPublished.2.2 :=
  play_run _ _ _ _

instance demoPublished_facts : Fact ((demoPublished.2.1 true).returned (fun response => response.content = "本次请求已完成。") = true ∧
    (demoPublished.2.1 false).returned (fun response => response.content ≠ "本次请求已完成。") = true) :=
  ⟨by decide +kernel⟩

theorem one_terminal_response_demo :
    OneResponse demoPublication demoPublished.2.1 demoPublished.2.2 "run" :=
  one_terminal_response demoPublished_run rfl rfl

/-- A stage reply after the answer returns its own content. -/
theorem stage_reply_differs :
    ¬ ∀ (π : Platform) (publications : Bool → Publication) (ps : Bool → Act TerminalResponse)
      (h : History Bool Op Exc DB) (db₀ db : DB) (runId : Uuid),
      Run store (fun i => publishTerminalResponse π (publications i)) db₀ h ps db →
      db₀.terminalMessages runId = [] → db₀.announcements runId = [] →
      ∀ i response, ps i = .ret response → (publications i).context.runId = runId →
        (db.terminalMessages runId).map MessageRecord.contentRedacted = [response.content] := by
  intro hclaim
  have hcontent := hclaim demoPlatform demoPublication _ _ _ _ "run" demoPublished_run rfl rfl
  obtain ⟨hanswer, hstage⟩ := demoPublished_facts.out
  obtain ⟨answer, hret, ha⟩ := Prog.eq_ret_of_returned hanswer
  obtain ⟨stage, hret', hs⟩ := Prog.eq_ret_of_returned hstage
  have hsame := (hcontent true answer hret rfl).symm.trans (hcontent false stage hret' rfl)
  have heq : answer.content = stage.content := List.singleton_inj.mp hsame
  rw [of_decide_eq_true ha] at heq
  exact absurd heq.symm (of_decide_eq_true hs)

end Publishers

end CommerceAgent
