import CommerceAgent.Schema

/-! The transactions of `HandoffRepository`. -/
namespace CommerceAgent

open Json Tables

/-- `INSERT INTO runtime.handoff_tickets`, whose `run_id` is a foreign key. -/
def DB.insertTicket (db : DB) (ticket : HandoffTicket) : Except Exc DB :=
  if (db.run ticket.runId).isNone then .error .integrity
  else match db.tickets.insert? ticket with
    | none => .error .integrity
    | some tickets => .ok { db with tickets := tickets }

theorem DB.insertTicket_eq_ok {db db' : DB} {ticket : HandoffTicket}
    (h : db.insertTicket ticket = .ok db') :
    ∃ tickets, tickets.rows = db.tickets.rows ++ [ticket] ∧
      db' = { db with tickets := tickets } := by
  unfold DB.insertTicket at h
  split at h
  · exact absurd h (by simp)
  · split at h
    · exact absurd h (by simp)
    · rename_i tickets ht
      exact ⟨tickets, (Table.insert?_eq_some.mp ht).2, (Except.ok.inj h).symm⟩

structure TicketInput where
  runId : Uuid
  tenantId : String
  actorRef : String
  reasonCode : String
  operation : Option String
  details : Dict

def TicketInput.row (ticket : TicketInput) (env : Env) : HandoffTicket where
  ticketId := env.uuid
  runId := ticket.runId
  tenantId := ticket.tenantId
  actorRef := ticket.actorRef
  reasonCode := ticket.reasonCode
  status := .open
  operation := ticket.operation
  details := ticket.details
  createdAt := env.now

/-- `HandoffRepository.create`. -/
def createTicket (ticket : TicketInput) : Tx Uuid := fun env db => do
  let db ← db.insertTicket (ticket.row env)
  .ok (env.uuid, db)

def getTicketForActor (ticketId : Uuid) (tenantId actorRef : String) :
    Tx (Option HandoffTicket) := fun _ db =>
  .ok ((db.tickets.lookup HandoffTicket.ticketId ticketId).filter fun t =>
    t.tenantId = tenantId ∧ t.actorRef = actorRef, db)

def HandoffTicket.openFor (runId : Uuid) (tenantId actorRef : String) (t : HandoffTicket) :
    Bool :=
  t.runId = runId ∧ t.tenantId = tenantId ∧ t.actorRef = actorRef ∧ t.status = .open

def DB.openTicket (db : DB) (env : Env) (runId : Uuid) (tenantId actorRef : String) :
    Option HandoffTicket :=
  latestBy HandoffTicket.createdAt (fun t => env.tieBreak t.ticketId)
    (db.tickets.select (HandoffTicket.openFor runId tenantId actorRef))

def getOpenForRun (runId : Uuid) (tenantId actorRef : String) : Tx (Option HandoffTicket) :=
  fun env db => .ok (db.openTicket env runId tenantId actorRef, db)

/-- The transaction of `get_or_create_open_for_run`: whether the actor owns the run. -/
def ensureOpenTicket (ticket : TicketInput) : Tx Bool := fun env db =>
  match (db.run ticket.runId).filter fun run =>
      run.tenantId = ticket.tenantId ∧ run.actorRef = ticket.actorRef with
  | none => .ok (false, db)
  | some _ =>
    match db.openTicket env ticket.runId ticket.tenantId ticket.actorRef with
    | some _ => .ok (true, db)
    | none => do
      let db ← db.insertTicket (ticket.row env)
      .ok (true, db)

def HandoffTicket.resolve (resolution : String) (now : ℕ) (t : HandoffTicket) :
    HandoffTicket :=
  { t with status := .resolved, resolution := some resolution, resolvedAt := some now }

theorem HandoffTicket.neutral_resolve (resolution : String) (now : ℕ) :
    Table.Neutral HandoffTicket.clash (resolve resolution now) := fun _ _ => ⟨id, id⟩

def resolveTicket (ticketId : Uuid) (tenantId resolution : String) :
    Tx (Option HandoffTicket) := fun env db =>
  let p : HandoffTicket → Bool := fun t =>
    t.ticketId = ticketId ∧ t.tenantId = tenantId ∧ t.status = .open
  let resolved := (db.tickets.rows.find? p).map (HandoffTicket.resolve resolution env.now)
  let tickets := db.tickets.update p _ (HandoffTicket.neutral_resolve resolution env.now)
  .ok (resolved, { db with tickets := tickets })

inductive TicketTx : Type → Type
  | create (ticket : TicketInput) : TicketTx Uuid
  | getForActor (ticketId : Uuid) (tenantId actorRef : String) : TicketTx (Option HandoffTicket)
  | getOpenForRun (runId : Uuid) (tenantId actorRef : String) : TicketTx (Option HandoffTicket)
  | ensureOpen (ticket : TicketInput) : TicketTx Bool
  | resolve (ticketId : Uuid) (tenantId resolution : String) : TicketTx (Option HandoffTicket)

namespace TicketTx

def exec : {α : Type} → TicketTx α → Tx α
  | _, .create ticket => createTicket ticket
  | _, .getForActor ticketId tenantId actorRef => getTicketForActor ticketId tenantId actorRef
  | _, .getOpenForRun runId tenantId actorRef => CommerceAgent.getOpenForRun runId tenantId actorRef
  | _, .ensureOpen ticket => ensureOpenTicket ticket
  | _, .resolve ticketId tenantId resolution => resolveTicket ticketId tenantId resolution

/-- Ticket transactions write tickets only. -/
theorem frame {α : Type} {t : TicketTx α} {env : Env} {db db' : DB} {a : α}
    (h : t.exec env db = .ok (a, db')) : ∃ tickets, db' = { db with tickets := tickets } := by
  have hinsert : ∀ {ticket db₁}, db.insertTicket ticket = .ok db₁ →
      ∃ tickets, db₁ = { db with tickets := tickets } := by
    intro ticket db₁ hi
    obtain ⟨tickets, _, hdb⟩ := DB.insertTicket_eq_ok hi
    exact ⟨tickets, hdb⟩
  cases t with
  | create ticket =>
    obtain ⟨db₁, hi, h⟩ := Except.bind_eq_ok.mp h
    obtain rfl : db₁ = db' := congrArg Prod.snd (Except.ok.inj h)
    exact hinsert hi
  | getForActor =>
    obtain rfl : db = db' := congrArg Prod.snd (Except.ok.inj h)
    exact ⟨db.tickets, rfl⟩
  | getOpenForRun =>
    obtain rfl : db = db' := congrArg Prod.snd (Except.ok.inj h)
    exact ⟨db.tickets, rfl⟩
  | ensureOpen ticket =>
    simp only [exec, ensureOpenTicket] at h
    split at h
    · obtain rfl : db = db' := congrArg Prod.snd (Except.ok.inj h)
      exact ⟨db.tickets, rfl⟩
    · split at h
      · obtain rfl : db = db' := congrArg Prod.snd (Except.ok.inj h)
        exact ⟨db.tickets, rfl⟩
      · obtain ⟨db₁, hi, h⟩ := Except.bind_eq_ok.mp h
        obtain rfl : db₁ = db' := congrArg Prod.snd (Except.ok.inj h)
        exact hinsert hi
  | resolve =>
    obtain rfl := congrArg Prod.snd (Except.ok.inj h)
    exact ⟨_, rfl⟩

end TicketTx

end CommerceAgent
