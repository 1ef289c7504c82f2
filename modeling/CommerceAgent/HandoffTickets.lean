import CommerceAgent.RunKnowledge
import CommerceAgent.SafetyBlock

/-! Handoff tickets beside the runs they are about: who files a ticket, who closes it, and what a crash
in between leaves. -/
namespace CommerceAgent

open Json Tables Programs Texts

section Review

variable (π : Platform)

/-- The text of a field that is there and not empty. -/
def Dict.text? (state : Dict) (key : String) : Option String :=
  ((state.get? key).filter Value.truthy).map π.str

/-- The ticket that `get_human_review` rebuilds from the row and the latest checkpoint of a run. -/
def reviewTicket (runId : Uuid) (actorId : String) (run : AgentRun) (checkpoint : Option RunContext) :
    TicketInput :=
  -- Without a checkpoint, and where a value is missing or empty, the defaults of the source.
  let state := (checkpoint.map RunContext.state).getD []
  let arguments := ((state.get? "mutation_args").bind Value.asObj?).getD []
  let reason := ((Dict.text? π state "mutation_error").or (run.terminalReason.filter (· ≠ ""))).getD
    "HUMAN_REVIEW_REQUIRED"
  let message := (Dict.text? π state "mutation_message").getD "请求需要人工处理"
  let field (key : String) : Dict :=
    ((Dict.text? π arguments key).map fun value => (key, Value.str (take value 128))).toList
  { runId := runId
    tenantId := DEMO_TENANT_ID
    actorRef := actorId
    reasonCode := take reason 128
    operation := some (((Dict.text? π state "mutation_type").or (Dict.text? π state "route")).getD
      "human_review")
    details := ("message", .str (take message 500)) :: (field "order_id" ++ field "item_id") }

/-- `get_human_review`: a run that waits for a human without a ticket gets one on the first read. -/
def getHumanReview (runId : Uuid) (actorId : String) : Act HandoffTicket := do
  let snapshot ← requireRun runId actorId
  if snapshot.status ≠ .waitingHuman then .raise (.http 409 "run_not_waiting_human")
  else do
    let found ← Prog.perform (.tickets (.getOpenForRun runId DEMO_TENANT_ID actorId))
    match found with
    | some ticket => pure ticket
    | none =>
      let checkpoint ← Prog.perform (.runs (.loadLatestCheckpoint runId DEMO_TENANT_ID))
      let ticket ← getOrCreateOpenForRun (reviewTicket π runId actorId snapshot checkpoint)
      match ticket with
      | some ticket => pure ticket
      | none => .raise (.http 404 "human_review_not_found")

/-- What acts on tickets: every request and worker that acts on runs, and the review of a run. -/
inductive TicketRequest where
  | act (request : RunRequest)
  | review (runId : Uuid) (actorId : String)

def TicketRequest.program : TicketRequest → Act Unit
  | .act request => request.program π
  | .review runId actorId => do
    let _ ← getHumanReview π runId actorId
    pure ()

end Review

/-- The ticket that a `resolve_handoff` call is about. -/
def TicketRequest.resolves : TicketRequest → Option Uuid
  | .act (.resolve ticketId _ _) => some ticketId
  | _ => none

/-- The ticket that a call files, and whether it looks for an open one first. -/
def Op.files? : {α : Type} → Op α → Option (TicketInput × Bool)
  | _, .tickets (.create ticket) => some (ticket, false)
  | _, .tickets (.ensureOpen ticket) => some (ticket, true)
  | _, _ => none

/-- The ticket that a call closes, and the tenant that it closes it for. -/
def Op.closes? : {α : Type} → Op α → Option (Uuid × String)
  | _, .tickets (.resolve ticketId tenantId _) => some (ticketId, tenantId)
  | _, _ => none

def DB.openTickets (db : DB) (runId : Uuid) : List HandoffTicket :=
  db.tickets.select fun t => t.runId = runId ∧ t.status = .open

/-- How far a resolution has come. -/
structure Resolving where
  committed : Bool := false
  tried : Bool := false

def Resolving.track (g : Resolving) (e : Event) : Resolving :=
  match e with
  | ⟨o, r⟩ =>
    if o.closes?.isSome then { g with tried := true }
    else match r with
      | .ok _ => if o.commit?.isSome then { g with committed := true } else g
      | .error _ => g

/-- A resolution ends its run first, and closes its own ticket then. -/
def Resolving.Allows (request : TicketRequest) (g : Resolving) {α : Type} (o : Op α) : Prop :=
  ∀ ticketId ∈ request.resolves, (o.commit?.isSome → g.tried = false) ∧
    ∀ c ∈ o.closes?, c = (ticketId, DEMO_TENANT_ID)

/-- What is found under the id of a ticket has that id. -/
def Event.Found : Event → Prop
  | ⟨.tickets (.getForActor ticketId _ _), .ok (some t)⟩ => t.ticketId = ticketId
  | _ => True

section Programs

variable {π : Platform} {request : TicketRequest} {g : Resolving}

/-- The calls that neither commit a checkpoint nor close a ticket. -/
def Op.Unresolving {α : Type} (o : Op α) : Prop := o.commit? = none ∧ o.closes? = none

theorem Op.Unresolving.track {α : Type} {o : Op α} (ho : o.Unresolving) (g : Resolving)
    (r : Except Exc α) :
    g.track ⟨o, r⟩ = g := by
  unfold Resolving.track
  simp only [ho.1, ho.2]
  cases r <;> rfl

theorem Op.Unresolving.allowed {α : Type} {o : Op α} (ho : o.Unresolving) (g : Resolving) :
    g.Allows request o := by
  intro ticketId _
  refine ⟨fun hcommit => ?_, fun c hc => ?_⟩
  · rw [ho.1] at hcommit
    exact absurd hcommit (by simp)
  · rw [ho.2] at hc
    exact absurd hc (by simp)

/-- The machine on which a process learns what the store may answer. -/
abbrev answering : Machine Op Exc Resolving := (Machine.ghost Resolving.track).restrict Event.Found

theorem safe_aside {α : Type} {p : Act α} (hp : Uses Op.Unresolving p) :
    Safe answering (Resolving.Allows request) (fun _ g' => g' = g) p g := by
  refine (Yields.keeps (J := fun g' => g' = g) hp ?_ rfl).mono (fun g' _ o h => h.2.allowed g')
    fun _ _ h => h.1
  rintro _ β o r _ rfl ho ⟨rfl, _⟩
  exact ho.track _ r

/-- The rules for the two calls of a resolution that count. -/
theorem safe_resolutionCheckpoint {context : RunContext} {status : RunStatus} {nextStep : String}
    {state : Dict} {events : List DomainEvent} :
    Safe answering (Resolving.Allows request) (fun _ g' => g'.tried = false)
      (checkpoint context status nextStep state events) {} := by
  have hcommit : Safe answering (Resolving.Allows request) (fun _ g' => g'.tried = false)
      (commitStep (checkpointStep context status nextStep state events none)) {} := by
    unfold commitStep
    refine (safe_ite _ _ _ _).mpr ⟨fun _ => rfl, fun _ => ?_⟩
    refine (safe_ite _ _ _ _).mpr ⟨fun _ => rfl, fun _ => ?_⟩
    rw [safe_bind, safe_perform]
    refine ⟨fun ticketId _ => ⟨fun _ => rfl, fun c hc => absurd hc (by simp [Op.closes?])⟩, ?_⟩
    rintro (e | u) g ⟨rfl, _⟩
    · rfl
    · -- The row is read again, which touches no ticket.
      refine (safe_aside ?_).post fun _ _ h => h ▸ rfl
      refine .bind (.perform ⟨rfl, rfl⟩) fun snapshot => ?_
      cases snapshot with
      | none => exact .raise _
      | some run => exact .pure _
  unfold checkpoint commitCheckpoint
  refine (safe_ite _ _ _ _).mpr ⟨fun _ => rfl, fun _ => ?_⟩
  rw [safe_bind]
  refine hcommit.post ?_
  rintro (e | run) g htried
  · exact htried
  · exact htried

theorem uses_publish_aside {p : Publication} : Uses Op.Unresolving (publishTerminalResponse π p) := by
  refine (uses_publishTerminalResponse p).mono fun o ho => ?_
  cases o with
  | runs t =>
    cases t with
    | setTerminalReason | markResponsePublished | appendEvent => exact ⟨rfl, rfl⟩
    | _ => exact absurd ho id
  | messages t => exact ⟨rfl, rfl⟩
  | _ => exact absurd ho id

attribute [local irreducible] checkpoint publishTerminalResponse

theorem safe_resolveTo {ticket : HandoffTicket} {actorId : String} {payload : HandoffResolveRequest}
    {context : RunContext}
    (hrequest : ∀ ticketId ∈ request.resolves, ticket.ticketId = ticketId) :
    Safe answering (Resolving.Allows request) (fun _ _ => True)
      (resolveTo π ticket actorId payload context) {} := by
  unfold resolveTo
  rw [safe_bind]
  refine safe_resolutionCheckpoint.post ?_
  rintro (e | version) g htried
  · trivial
  rw [thenSafe_ok, safe_bind, safe_perform]
  refine ⟨fun ticketId hticket => ⟨fun _ => htried, ?_⟩, ?_⟩
  · -- The ticket that was found is the one the request is about.
    rintro c hc
    obtain rfl := Option.some.inj hc
    rw [hrequest ticketId hticket]
  · rintro (e | _ | resolved) g' _
    · trivial
    · trivial
    · refine Safe.post (safe_aside (.bind uses_publish_aside fun _ =>
        .bind (.perform ⟨rfl, rfl⟩) fun _ =>
        .pure _)) fun _ _ _ => trivial

theorem uses_requireRun_aside {runId : Uuid} {actorId : String} :
    Uses Op.Unresolving (requireRun runId actorId) := by
  unfold requireRun
  refine .bind (.perform ⟨rfl, rfl⟩) fun snapshot => ?_
  cases snapshot with
  | none => exact .raise _
  | some run => exact .pure _

theorem uses_checkpointContext_aside {runId : Uuid} {actorId : String} :
    Uses Op.Unresolving (checkpointContext runId actorId) := by
  unfold checkpointContext
  refine .bind (.perform ⟨rfl, rfl⟩) fun found => ?_
  cases found with
  | none => exact .raise _
  | some state =>
    dsimp only
    split
    · exact .raise _
    · exact .ite (.raise _) (.pure _)

attribute [local irreducible] resolveTo requireRun checkpointContext

theorem safe_resolution {ticketId : Uuid} {actorId : String} {payload : HandoffResolveRequest}
    (hrequest : ∀ id ∈ request.resolves, ticketId = id) :
    Safe answering (Resolving.Allows request) (fun _ _ => True)
      (resolveHandoff π ticketId actorId payload) {} := by
  unfold resolveHandoff
  rw [safe_bind, safe_perform]
  refine ⟨Op.Unresolving.allowed ⟨rfl, rfl⟩ _, ?_⟩
  rintro (e | _ | ticket) g ⟨rfl, hfound⟩
  · trivial
  · trivial
  · have hid : ticket.ticketId = ticketId := hfound
    rw [thenSafe_ok]
    refine (safe_ite _ _ _ _).mpr ⟨fun _ => trivial, fun _ => ?_⟩
    rw [safe_bind]
    refine (safe_aside uses_requireRun_aside).post ?_
    rintro (e | run) _ rfl
    · trivial
    rw [thenSafe_ok, safe_bind]
    refine (safe_aside uses_checkpointContext_aside).post ?_
    rintro (e | context) _ rfl
    · trivial
    rw [thenSafe_ok]
    refine (safe_ite _ _ _ _).mpr ⟨fun _ => trivial, fun _ => ?_⟩
    exact safe_resolveTo fun id hid' => hid.trans (hrequest id hid')

/-- A request keeps to the order of a resolution, whatever the store answers. -/
theorem safe_ticketRequest (request : TicketRequest) :
    Safe answering (Resolving.Allows request) (fun _ _ => True) (request.program π) {} := by
  have hother : request.resolves = none →
      Safe answering (Resolving.Allows request) (fun _ _ => True) (request.program π) {} := by
    intro hnone
    refine (Safe.of_stable (J := fun _ => True) (fun _ _ _ _ _ _ _ => trivial) trivial _).mono ?_
      fun _ _ _ => trivial
    intro g β o _ ticketId hid
    -- The order is asked of resolutions only.
    rw [hnone] at hid
    exact absurd hid (by simp)
  cases request with
  | review runId actorId => exact hother rfl
  | act r =>
    cases r with
    | resolve ticketId actorId payload =>
      change Safe _ _ _ (resolveHandoff π ticketId actorId payload >>= fun _ => pure ()) _
      rw [safe_bind]
      have hown : ∀ id ∈ TicketRequest.resolves (.act (.resolve ticketId actorId payload)), ticketId = id :=
        fun id hid => Option.some.inj hid
      refine (safe_resolution hown).post ?_
      rintro (e | a) _ _ <;> trivial
    | _ => exact hother rfl

end Programs

section Effects

variable {α : Type} {o : Op α} {r : Except Exc α} {db db' : DB}

theorem latestBy_eq_none {ρ : Type} {stamp order : ρ → ℕ} {l : List ρ}
    (h : latestBy stamp order l = none) : l = [] := by
  cases l with
  | nil => rfl
  | cons x l =>
    unfold latestBy at h
    split at h
    · exact absurd h (by simp)
    · split at h <;> exact absurd h (by simp)

/-- What a call makes of the tickets. -/
inductive TicketsAfter {α : Type} (o : Op α) (r : Except Exc α) (db db' : DB) : Prop
  | same (htickets : db'.tickets = db.tickets) (hcloses : o.closes? = none ∨ r.isOk = false)
  | filed (f : TicketInput × Bool) (t : HandoffTicket) (hf : f ∈ o.files?)
      (hrows : db'.tickets.rows = db.tickets.rows ++ [t]) (hrun : t.runId = f.1.runId)
      (hruns : db'.runs = db.runs)
      (hlooked : f.2 = true → ∀ t' ∈ db.openTickets f.1.runId,
        ¬ (t'.tenantId = f.1.tenantId ∧ t'.actorRef = f.1.actorRef))
  | closed (c : Uuid × String) (hc : c ∈ o.closes?) (hruns : db'.runs = db.runs)
      (hopen : ∀ t ∈ db'.tickets.rows, t.status = .open →
        t ∈ db.tickets.rows ∧ ¬ (t.ticketId = c.1 ∧ t.tenantId = c.2))
      (hcount : ∀ runId, (db'.openTickets runId).length ≤ (db.openTickets runId).length)

theorem resolved_after {ticketId : Uuid} {tenantId resolution : String} {env : Env}
    {a : Option HandoffTicket} (h : resolveTicket ticketId tenantId resolution env db = .ok (a, db')) :
    TicketsAfter (.tickets (.resolve ticketId tenantId resolution)) (.ok a) db db' := by
  obtain rfl := congrArg Prod.snd (Except.ok.inj h)
  set p : HandoffTicket → Bool := fun t =>
    t.ticketId = ticketId ∧ t.tenantId = tenantId ∧ t.status = .open with hp
  have hkept : ∀ t : HandoffTicket,
      (Table.changed p (HandoffTicket.resolve resolution env.now) t).status =
      .open → Table.changed p (HandoffTicket.resolve resolution env.now) t = t ∧ p t = false := by
    intro t hopen
    by_cases hpt : p t = true
    · rw [Table.changed_pos hpt] at hopen
      exact absurd hopen (by simp [HandoffTicket.resolve])
    · exact ⟨Table.changed_neg hpt, Bool.eq_false_iff.mpr hpt⟩
  refine .closed (ticketId, tenantId) rfl rfl ?_ ?_
  · intro t ht hopen
    obtain ⟨t', ht', rfl⟩ := List.mem_map.mp ht
    obtain ⟨hsame, hpt⟩ := hkept t' hopen
    rw [hsame] at hopen ⊢
    refine ⟨ht', ?_⟩
    rintro ⟨hid, htenant⟩
    have hclosed : p t' = true := decide_eq_true ⟨hid, htenant, hopen⟩
    exact absurd (hclosed.symm.trans hpt) (by simp)
  · intro runId
    simp only [DB.openTickets, Table.select, Table.rows_update, ← List.countP_eq_length_filter,
      List.countP_map]
    refine List.countP_mono_left fun t _ hopen => ?_
    simp only [Function.comp_apply, decide_eq_true_eq] at hopen ⊢
    obtain ⟨hsame, _⟩ := hkept t hopen.2
    rwa [hsame] at hopen

/-- What is found under an id has that id. -/
theorem Op.Effect.found (h : o.Effect db r db') : Event.Found ⟨o, r⟩ := by
  cases o with
  | tickets t =>
    cases t with
    | getForActor ticketId tenantId actorRef =>
      rcases h with ⟨e, rfl, _⟩ | ⟨env, a, rfl, hx⟩
      · trivial
      · obtain ⟨hfound, _⟩ := Prod.mk.inj (Except.ok.inj hx)
        cases a with
        | none => trivial
        | some t => exact (Table.lookup_mem (Option.filter_eq_some_iff.mp hfound).1).2
    | _ => trivial
  | _ => trivial

/-- A row that is written for a ticket, where an open one was looked for in vain or not at all. -/
theorem filed_after {ticket : TicketInput} {b : Bool} {env : Env} {a : α}
    (hfiles : (ticket, b) ∈ o.files?) (hinsert : db.insertTicket (ticket.row env) = .ok db')
    (hlooked : b = true → db.openTicket env ticket.runId ticket.tenantId ticket.actorRef = none) :
    TicketsAfter o (.ok a) db db' := by
  obtain ⟨tickets, hrows, rfl⟩ := DB.insertTicket_eq_ok hinsert
  refine .filed (ticket, b) (ticket.row env) hfiles hrows rfl rfl ?_
  intro hlooks t ht hsame
  obtain ⟨hmem, hopen⟩ := List.mem_filter.mp ht
  simp only [decide_eq_true_eq] at hopen
  have hfound : t ∈ db.tickets.select
      (HandoffTicket.openFor ticket.runId ticket.tenantId ticket.actorRef) :=
    List.mem_filter.mpr ⟨hmem, decide_eq_true ⟨hopen.1, hsame.1, hsame.2, hopen.2⟩⟩
  rw [latestBy_eq_none (hlooked hlooks)] at hfound
  exact absurd hfound List.not_mem_nil

/-- Whatever is called, tickets are left, one is filed, or one is closed. -/
theorem Op.Effect.ticketsAfter (h : o.Effect db r db') : TicketsAfter o r db db' := by
  by_cases ho : o.SparesTickets
  · refine .same (h.tickets_eq ho) (.inl ?_)
    cases o with
    | tickets t => exact absurd ho id
    | _ => rfl
  · cases o with
    | tickets t =>
      rcases h with ⟨e, rfl, rfl⟩ | ⟨env, a, rfl, hx⟩
      · exact .same rfl (.inr rfl)
      · cases t with
        | create ticket =>
          obtain ⟨db₁, hinsert, hx⟩ := Except.bind_eq_ok.mp hx
          obtain rfl : db₁ = db' := congrArg Prod.snd (Except.ok.inj hx)
          exact filed_after (b := false) rfl hinsert (by simp)
        | ensureOpen ticket =>
          simp only [TicketTx.exec, ensureOpenTicket] at hx
          split at hx
          -- No such run for this actor, or an open ticket already: nothing is written.
          · obtain rfl : db = db' := congrArg Prod.snd (Except.ok.inj hx)
            exact .same rfl (.inl rfl)
          · split at hx
            · obtain rfl : db = db' := congrArg Prod.snd (Except.ok.inj hx)
              exact .same rfl (.inl rfl)
            · rename_i hnone
              obtain ⟨db₁, hinsert, hx⟩ := Except.bind_eq_ok.mp hx
              obtain rfl : db₁ = db' := congrArg Prod.snd (Except.ok.inj hx)
              exact filed_after (b := true) rfl hinsert fun _ => hnone
        | getForActor =>
          obtain rfl : db = db' := congrArg Prod.snd (Except.ok.inj hx)
          exact .same rfl (.inl rfl)
        | getOpenForRun =>
          obtain rfl : db = db' := congrArg Prod.snd (Except.ok.inj hx)
          exact .same rfl (.inl rfl)
        | resolve => exact resolved_after hx
    | _ => exact absurd trivial ho

end Effects

instance (runId : Uuid) (db : DB) : Decidable (Ended runId db) :=
  decidable_of_iff ((db.run runId).any (fun run => decide run.status.IsTerminal) = true) (by
    rw [Option.any_eq_true]
    refine exists_congr fun run => and_congr Iff.rfl ?_
    exact decide_eq_true_iff)

section Interleavings

variable {ι : Type} [DecidableEq ι]

/-- The request has ended its run and not yet tried to close its ticket. -/
def InFlight (h : History ι Op Exc DB) (i : ι) : Prop :=
  (view Resolving.track {} i h).committed = true ∧ (view Resolving.track {} i h).tried = false

/-- A run has at most one open ticket, and an open ticket of a run that has ended is one that a
request which has not crashed is about to close. -/
structure TicketsAgree (requests : ι → TicketRequest) (crashed : ι → Prop) (h : History ι Op Exc DB)
    (db : DB) : Prop where
  one : ∀ runId, (db.openTickets runId).length ≤ 1
  closable : ∀ t ∈ db.tickets.rows, t.status = .open → Ended t.runId db →
    ∃ i, ¬ crashed i ∧ (requests i).resolves = some t.ticketId ∧ InFlight h i

/-- A step that files a ticket looks for open ones first, unless there are none, and finds a run that
goes on; a step that ends a run with an open ticket is the checkpoint of its resolution; and the
update that closes a ticket does not fail. -/
structure Orderly (requests : ι → TicketRequest) (i : ι) (e : Happened Op Exc DB) : Prop where
  alone : ∀ f ∈ e.op.files?, ∀ t ∈ e.before.openTickets f.1.runId,
    f.2 = true ∧ t.tenantId = f.1.tenantId ∧ t.actorRef = f.1.actorRef
  going : ∀ f ∈ e.op.files?, (e.before.openTickets f.1.runId).isEmpty → ¬ Ended f.1.runId e.before
  ends : ∀ t ∈ e.before.tickets.rows, t.status = .open → ¬ Ended t.runId e.before → Ended t.runId e.after →
    (requests i).resolves = some t.ticketId ∧ t.tenantId = DEMO_TENANT_ID ∧ e.op.commit?.isSome
  closes : e.op.closes?.isSome → e.answer.isOk

instance (requests : ι → TicketRequest) (i : ι) (e : Happened Op Exc DB) :
    Decidable (Orderly requests i e) :=
  decidable_of_iff
    ((∀ f ∈ e.op.files?, ∀ t ∈ e.before.openTickets f.1.runId,
        f.2 = true ∧ t.tenantId = f.1.tenantId ∧ t.actorRef = f.1.actorRef) ∧
      (∀ f ∈ e.op.files?, (e.before.openTickets f.1.runId).isEmpty → ¬ Ended f.1.runId e.before) ∧
      (∀ t ∈ e.before.tickets.rows, t.status = .open → ¬ Ended t.runId e.before →
        Ended t.runId e.after → (requests i).resolves = some t.ticketId ∧ t.tenantId = DEMO_TENANT_ID ∧
          e.op.commit?.isSome) ∧
      (e.op.closes?.isSome → e.answer.isOk))
    ⟨fun ⟨ha, hg, he, hc⟩ => ⟨ha, hg, he, hc⟩, fun ⟨ha, hg, he, hc⟩ => ⟨ha, hg, he, hc⟩⟩

/-- What is kept while the steps are orderly. -/
structure Tended (requests : ι → TicketRequest) (h : History ι Op Exc DB) (db : DB) : Prop where
  one : ∀ runId, (db.openTickets runId).length ≤ 1
  closable : ∀ t ∈ db.tickets.rows, t.status = .open → Ended t.runId db →
    ∃ i, (requests i).resolves = some t.ticketId ∧ t.tenantId = DEMO_TENANT_ID ∧ InFlight h i

variable {requests : ι → TicketRequest} {h : History ι Op Exc DB} {db db' : DB} {i : ι} {α : Type}
  {o : Op α} {r : Except Exc α}

/-- A call that closes nothing takes no request out of its flight. -/
theorem InFlight.snoc {j : ι} (hj : InFlight h j) (hcloses : j = i → o.closes? = none) :
    InFlight (h ++ [(i, ⟨⟨o, r⟩, db, db'⟩)]) j := by
  unfold InFlight
  by_cases hij : i = j
  · subst hij
    obtain ⟨hcommitted, htried⟩ := hj
    rw [view_snoc_self]
    unfold Resolving.track
    simp only [hcloses rfl, Option.isSome_none, Bool.false_eq_true, if_false]
    cases r with
    | error e => exact ⟨hcommitted, htried⟩
    | ok a =>
      dsimp only
      split
      · exact ⟨rfl, htried⟩
      · exact ⟨hcommitted, htried⟩
  · rw [view_snoc_other _ _ hij]
    exact hj

/-- The checkpoint of a resolution puts the request in flight. -/
theorem inFlight_of_commit (hallows : (view Resolving.track {} i h).Allows (requests i) o)
    {ticketId : Uuid} (hresolves : (requests i).resolves = some ticketId) (hcommit : o.commit?.isSome)
    (hok : r.isOk = true) : InFlight (h ++ [(i, ⟨⟨o, r⟩, db, db'⟩)]) i := by
  have htried := (hallows ticketId hresolves).1 hcommit
  have hcloses : o.closes?.isSome = false := by
    cases o with
    | runs t => rfl
    | _ => exact absurd hcommit (by simp [Op.commit?])
  unfold InFlight
  rw [view_snoc_self]
  unfold Resolving.track
  simp only [hcloses, hcommit, if_true, Bool.false_eq_true, if_false]
  cases r with
  | error e => exact absurd hok (by simp [Except.isOk, Except.toBool])
  | ok a => exact ⟨rfl, htried⟩

theorem ended_of_runs {runId : Uuid} (hruns : db'.runs = db.runs) :
    Ended runId db' ↔ Ended runId db := by
  unfold Ended DB.run
  rw [hruns]

/-- An open ticket of a run that had ended keeps the request that is about to close it. -/
theorem Tended.still (htended : Tended requests h db)
    (hallows : (view Resolving.track {} i h).Allows (requests i) o) {t : HandoffTicket}
    (ht : t ∈ db.tickets.rows) (hopen : t.status = .open) (hended : Ended t.runId db)
    (hother : ∀ c ∈ o.closes?, ¬ (t.ticketId = c.1 ∧ t.tenantId = c.2)) :
    ∃ j, (requests j).resolves = some t.ticketId ∧ t.tenantId = DEMO_TENANT_ID ∧
      InFlight (h ++ [(i, ⟨⟨o, r⟩, db, db'⟩)]) j := by
  obtain ⟨j, hresolves, htenant, hflight⟩ := htended.closable t ht hopen hended
  refine ⟨j, hresolves, htenant, hflight.snoc ?_⟩
  -- A resolution closes its own ticket, and this step closes another one or none.
  rintro rfl
  cases hcloses : o.closes? with
  | none => rfl
  | some c =>
    have hown := (hallows t.ticketId hresolves).2 c hcloses
    exact absurd ⟨by rw [hown], by rw [hown, htenant]⟩ (hother c hcloses)

/-- An orderly step keeps the tickets with their runs, by what it makes of the tickets. -/
theorem Tended.step (htended : Tended requests h db)
    (hallows : (view Resolving.track {} i h).Allows (requests i) o) (heff : o.Effect db r db')
    (horderly : Orderly requests i ⟨⟨o, r⟩, db, db'⟩) :
    Tended requests (h ++ [(i, ⟨⟨o, r⟩, db, db'⟩)]) db' := by
  cases heff.ticketsAfter with
  | same htickets hcloses =>
    have hsame : ∀ runId, db'.openTickets runId = db.openTickets runId := by
      intro runId
      unfold DB.openTickets
      rw [htickets]
    refine ⟨fun runId => (hsame runId) ▸ htended.one runId, ?_⟩
    intro t ht hopen hended
    rw [htickets] at ht
    have hnone : o.closes? = none := by
      rcases hcloses with hnone | herror
      · exact hnone
      · cases hcloses : o.closes? with
        | none => rfl
        | some c =>
          have hok := horderly.closes (by simp [hcloses])
          exact absurd (hok.symm.trans herror) (by simp)
    by_cases hbefore : Ended t.runId db
    · refine htended.still hallows ht hopen hbefore fun c hc => ?_
      rw [hnone] at hc
      exact absurd hc (by simp)
    -- The step itself has ended the run of an open ticket: it is the checkpoint of the resolution.
    · obtain ⟨hresolves, htenant, hcommit⟩ := horderly.ends t ht hopen hbefore hended
      have hok : r.isOk = true := by
        cases r with
        | ok a => rfl
        | error e =>
          rw [heff.error] at hended
          exact absurd hended hbefore
      exact ⟨i, hresolves, htenant, inFlight_of_commit hallows hresolves hcommit hok⟩
  | filed f t hf hrows hrun hruns hlooked =>
    -- The new ticket is the only open one of its run, and the run goes on.
    have hnone : db.openTickets f.1.runId = [] := by
      refine List.eq_nil_iff_forall_not_mem.mpr fun t' ht' => ?_
      obtain ⟨hlooks, hsame⟩ := horderly.alone f hf t' ht'
      exact hlooked hlooks t' ht' hsame
    have hgoing : ¬ Ended f.1.runId db := horderly.going f hf (by simp [hnone])
    have hcloses : o.closes? = none := by
      cases o with
      | tickets tx =>
        cases tx with
        | resolve => exact absurd hf (by simp [Op.files?])
        | _ => rfl
      | _ => rfl
    have hopened : ∀ runId, db'.openTickets runId = db.openTickets runId ++
        [t].filter fun t => t.runId = runId ∧ t.status = .open := by
      intro runId
      unfold DB.openTickets Table.select
      rw [hrows, List.filter_append]
    constructor
    · intro runId
      rw [hopened]
      by_cases hid : runId = f.1.runId
      · rw [hid, hnone, List.nil_append]
        exact List.length_filter_le _ _
      · have hother : [t].filter (fun t => decide (t.runId = runId ∧ t.status = .open)) = [] := by
          simp [hrun, Ne.symm hid]
        rw [hother, List.append_nil]
        exact htended.one runId
    · intro t' ht' hopen hended
      rw [hrows] at ht'
      rw [ended_of_runs hruns] at hended
      rcases List.mem_append.mp ht' with ht' | ht'
      · refine htended.still hallows ht' hopen hended fun c hc => ?_
        rw [hcloses] at hc
        exact absurd hc (by simp)
      · rw [List.mem_singleton.mp ht', hrun] at hended
        exact absurd hended hgoing
  | closed c hc hruns hopen hcount =>
    refine ⟨fun runId => (hcount runId).trans (htended.one runId), ?_⟩
    intro t ht hstatus hended
    rw [ended_of_runs hruns] at hended
    obtain ⟨hmem, hother⟩ := hopen t ht hstatus
    refine htended.still hallows hmem hstatus hended fun c' hc' => ?_
    obtain rfl := Option.some.inj (hc.symm.trans hc')
    exact hother

/-- Whatever acts on runs and tickets, in any order and with crashes anywhere but inside a resolution:
if every step is orderly, tickets agree with runs in every state. -/
theorem tickets_agree (π : Platform) (requests : ι → TicketRequest) (crashed : ι → Prop) (db₀ : DB)
    (h0 : TicketsAgree requests crashed [] db₀) {h : History ι Op Exc DB} {ps : ι → Act Unit} {db : DB}
    (run : Run store (fun i => (requests i).program π) db₀ h ps db)
    (horderly : ∀ i e, (i, e) ∈ h → Orderly requests i e)
    (hcrashed : ∀ i, crashed i → ¬ InFlight h i) : TicketsAgree requests crashed h db := by
  have hstart : Tended requests [] db₀ := by
    refine ⟨h0.one, fun t ht hopen hended => ?_⟩
    obtain ⟨i, _, _, hflight, _⟩ := h0.closable t ht hopen hended
    exact absurd hflight (by simp)
  have hstep : ∀ (h : History ι Op Exc DB) (s : DB) (i : ι) {β : Type} (o : Op β)
      (r : Except Exc β) (s' : DB),
      Tended requests h s → (view Resolving.track {} i h).Allows (requests i) o → store s o r s' →
      Orderly requests i ⟨⟨o, r⟩, s, s'⟩ →
      Event.Found ⟨o, r⟩ ∧ Tended requests (h ++ [(i, ⟨⟨o, r⟩, s, s'⟩)]) s' := by
    intro h s i β o r s' hJ hG hm hC
    have heff := store_effect hm
    exact ⟨heff.found, hJ.step hG heff hC⟩
  obtain ⟨htended, _⟩ := Run.conditional_invariant (Tended requests)
    (fun i => safe_ticketRequest (requests i)) hstart hstep run horderly
  refine ⟨htended.one, fun t ht hopen hended => ?_⟩
  obtain ⟨i, hresolves, _, hflight⟩ := htended.closable t ht hopen hended
  exact ⟨i, fun hcrash => hcrashed i hcrash hflight, hresolves, hflight⟩

end Interleavings

section Demo

def demoResolution : HandoffResolveRequest := ⟨.verifiedFailure, "no", by decide⟩

def demoNow (uuid : Uuid) (now : ℕ) : Choice :=
  ⟨⟨now, uuid, fun _ => 0⟩, false, fun w => demoWorld now "" w⟩

/-- A worker and another process on the run that has just been reserved. -/
def beside (other : TicketRequest) (i : Bool) : TicketRequest :=
  if i then other else .act (.work {} (demoJob "请直接退款"))

def played (other : TicketRequest) (worker later : ℕ) (now : ℕ) :
    History Bool Op Exc DB × (Bool → Act Unit) × DB :=
  play respond (List.replicate worker (false, demoNow "ticket-1" 100) ++
    List.replicate later (true, demoNow "ticket-2" now))
    (fun i => (beside other i).program demoPlatform) createdDB

/-- The worker hands the run over, and the resolution is carried through. -/
def demoResolved : History Bool Op Exc DB × (Bool → Act Unit) × DB :=
  played (.act (.resolve "ticket-1" "demo-user-001" demoResolution)) 12 20 100

/-- The worker stops after the ticket, and the run is dispatched again. -/
def demoRedispatched : History Bool Op Exc DB × (Bool → Act Unit) × DB :=
  played (.act (.work {} (demoJob "请直接退款"))) 7 12 100

/-- The worker stops after the ticket, and the run expires. -/
def demoExpired : History Bool Op Exc DB × (Bool → Act Unit) × DB := played (.act .expire) 7 1 1000

theorem played_run (other : TicketRequest) (worker later now : ℕ) :
    Run store (fun i => (beside other i).program demoPlatform) createdDB (played other worker later now).1
      (played other worker later now).2.1 (played other worker later now).2.2 :=
  play_run respond _ _ _

attribute [local irreducible] played

instance demoResolved_orderly : Fact (∀ e ∈ demoResolved.1,
    Orderly (beside (.act (.resolve "ticket-1" "demo-user-001" demoResolution))) e.1 e.2) :=
  ⟨by decide +kernel⟩

/-- The expired run has ended, and its ticket is open. -/
instance demoExpired_facts : Fact ((demoExpired.2.2.tickets.rows.any fun t =>
      decide (t.status = .open ∧ Ended t.runId demoExpired.2.2)) = true ∧
    Ended "run" demoExpired.2.2 ∧ (demoExpired.2.2.openTickets "run").length = 1) :=
  ⟨by decide +kernel⟩

instance demoRedispatched_open :
    Fact ((demoRedispatched.2.2.openTickets "run").length = 2) :=
  ⟨by decide +kernel⟩

theorem tickets_agree_resolved :
    TicketsAgree (beside (.act (.resolve "ticket-1" "demo-user-001" demoResolution))) (fun _ => False)
      demoResolved.1 demoResolved.2.2 := by
  refine tickets_agree demoPlatform _ (fun _ => False) createdDB ⟨?_, ?_⟩
    (played_run _ 12 20 100) ?_ ?_
  · exact fun runId => Nat.zero_le 1
  · exact fun t ht => absurd ht List.not_mem_nil
  · exact fun i e he => demoResolved_orderly.out (i, e) he
  · exact fun _ hcrash => absurd hcrash id

theorem demoExpired_split (crashed : Bool → Prop) :
    ¬ TicketsAgree (beside (.act .expire)) crashed demoExpired.1 demoExpired.2.2 := by
  intro hagree
  obtain ⟨t, ht, hstatus⟩ := List.any_eq_true.mp demoExpired_facts.out.1
  obtain ⟨hstatus, hended⟩ := of_decide_eq_true hstatus
  obtain ⟨i, _, hresolves, _⟩ := hagree.closable t ht hstatus hended
  cases i <;> exact absurd hresolves (by simp [beside, TicketRequest.resolves])

/-- A worker that stops between the ticket and the checkpoint leaves a run that gets a second open
ticket when it is dispatched again, or one that expires with a ticket that nothing closes. -/
theorem tickets_split_from_runs :
    (Run store (fun i => (beside (.act (.work {} (demoJob "请直接退款"))) i).program demoPlatform) createdDB
        demoRedispatched.1 demoRedispatched.2.1 demoRedispatched.2.2 ∧
      (demoRedispatched.2.2.openTickets "run").length = 2) ∧
    Run store (fun i => (beside (.act .expire) i).program demoPlatform) createdDB demoExpired.1
      demoExpired.2.1 demoExpired.2.2 ∧
    Ended "run" demoExpired.2.2 ∧ (demoExpired.2.2.openTickets "run").length = 1 ∧
    ∀ crashed, ¬ TicketsAgree (beside (.act .expire)) crashed demoExpired.1 demoExpired.2.2 := by
  obtain ⟨_, hended, hone⟩ := demoExpired_facts.out
  exact ⟨⟨played_run _ 7 12 100, demoRedispatched_open.out⟩, played_run _ 7 1 1000, hended, hone,
    demoExpired_split⟩

end Demo

end CommerceAgent
