import CommerceAgent.Histories
import CommerceAgent.Tables
import CommerceAgent.Json
import CommerceAgent.Protocols
import Mathlib.Data.List.Sort

/-! The outbox: messages that workers lease, publish, give back and finally quarantine. -/
namespace CommerceAgent.Outbox

open Histories Json Tables

inductive Status where
  | pending
  | publishing
  | published
  | deadLetter
  deriving DecidableEq, Repr

structure Message where
  outboxId : Uuid
  runId : Uuid
  eventId : Uuid
  topic : String
  payload : Dict
  status : Status := .pending
  attemptCount : ℕ := 0
  availableAt : ℕ
  lockedAt : Option ℕ := none
  publishedAt : Option ℕ := none
  lastError : Option String := none
  deadLetteredAt : Option ℕ := none

/-- The primary key, and `UNIQUE (event_id, topic)`. -/
abbrev Clash (a b : Message) : Prop :=
  a.outboxId = b.outboxId ∨ a.eventId = b.eventId ∧ a.topic = b.topic

abbrev Messages : Type := Table Message Clash

structure OutboxLease where
  outboxId : Uuid
  runId : Uuid
  eventId : Uuid
  topic : String
  payload : Dict
  attemptCount : ℕ

def Message.lease (m : Message) : OutboxLease :=
  ⟨m.outboxId, m.runId, m.eventId, m.topic, m.payload, m.attemptCount⟩

theorem neutral_row {f : Message → Message}
    (hf : ∀ m, (f m).outboxId = m.outboxId ∧ (f m).eventId = m.eventId ∧ (f m).topic = m.topic) :
    Table.Neutral Clash f := by
  intro a b
  obtain ⟨ha, ha', ha''⟩ := hf a
  obtain ⟨hb, hb', hb''⟩ := hf b
  simp [Clash, ha, ha', ha'', hb, hb', hb'']

/-- `f"{int(d.total_seconds())} seconds"` as an interval: a duration in microseconds, cut down to
whole seconds. -/
def interval (duration : ℤ) : ℕ := (duration.tdiv 1000000).toNat * 1000000

section Calls

/-- What may be handed out at `now` by a call with this duration. -/
def Message.leasable (now : ℕ) (leaseFor : ℤ) (m : Message) : Bool :=
  decide (m.status = .pending ∧ m.availableAt ≤ now) ||
    decide (m.status = .publishing) && m.lockedAt.any fun locked => decide (locked + interval leaseFor ≤ now)

def Message.leased (now : ℕ) (m : Message) : Message :=
  { m with status := .publishing, lockedAt := some now, attemptCount := m.attemptCount + 1 }

/-- `ORDER BY available_at`. -/
def byAvailability (l : List Message) : List Message :=
  l.insertionSort fun a b => a.availableAt ≤ b.availableAt

/-- The rows that the call locks: those that are `busy` in another transaction are skipped. -/
def leasedIds (db : Messages) (limit leaseFor : ℤ) (busy : Uuid → Bool) (now : ℕ) : List Uuid :=
  (((byAvailability (db.select (Message.leasable now leaseFor))).filter fun m => !busy m.outboxId).take
    limit.toNat).map Message.outboxId

/-- `lease_pending`. -/
def leasePending (db : Messages) (limit leaseFor : ℤ) (busy : Uuid → Bool) (now : ℕ) :
    Except String (List OutboxLease × Messages) :=
  if ¬ (1 ≤ limit ∧ limit ≤ 100) ∨ leaseFor ≤ 0 then .error "invalid outbox lease request"
  else
    let ids := leasedIds db limit leaseFor busy now
    let db' := db.update (fun m => decide (m.outboxId ∈ ids)) (Message.leased now)
      (neutral_row fun _ => ⟨rfl, rfl, rfl⟩)
    .ok ((db'.select fun m => decide (m.outboxId ∈ ids)).map Message.lease, db')

/-- `WHERE outbox_id = :outbox_id AND status = 'publishing'`. -/
def Message.inPublication (outboxId : Uuid) (m : Message) : Bool :=
  decide (m.outboxId = outboxId ∧ m.status = .publishing)

def Message.published (now : ℕ) (m : Message) : Message :=
  { m with status := .published, publishedAt := some now, lockedAt := none }

/-- `mark_published`. -/
def markPublished (db : Messages) (outboxId : Uuid) (now : ℕ) : Bool × Messages :=
  (decide (db.count (Message.inPublication outboxId) = 1),
    db.update (Message.inPublication outboxId) (Message.published now)
      (neutral_row fun _ => ⟨rfl, rfl, rfl⟩))

def Message.retried (errorCode : String) (delay : ℤ) (now : ℕ) (m : Message) : Message :=
  { m with status := .pending, lockedAt := none, lastError := some errorCode
           availableAt := now + interval delay }

/-- `retry`. -/
def retry (db : Messages) (outboxId : Uuid) (errorCode : String) (delay : ℤ) (now : ℕ) :
    Except String (Bool × Messages) :=
  if delay < 0 then .error "retry delay must not be negative"
  else .ok (decide (db.count (Message.inPublication outboxId) = 1),
    db.update (Message.inPublication outboxId) (Message.retried errorCode delay now)
      (neutral_row fun _ => ⟨rfl, rfl, rfl⟩))

def Message.exhausted (maxAttempts : ℤ) (m : Message) : Bool :=
  decide ((m.status = .pending ∨ m.status = .publishing) ∧ maxAttempts ≤ m.attemptCount)

def Message.dead (now : ℕ) (m : Message) : Message :=
  { m with status := .deadLetter, deadLetteredAt := some now, lockedAt := none
           lastError := some (m.lastError.getD "max_attempts") }

def deadIds (db : Messages) (maxAttempts limit : ℤ) : List Uuid :=
  ((byAvailability (db.select (Message.exhausted maxAttempts))).take limit.toNat).map Message.outboxId

/-- `dead_letter`. -/
def deadLetter (db : Messages) (maxAttempts limit : ℤ) (now : ℕ) : Except String (ℕ × Messages) :=
  if maxAttempts < 1 ∨ ¬ (1 ≤ limit ∧ limit ≤ 1000) then .error "invalid dead-letter policy"
  else
    let ids := deadIds db maxAttempts limit
    .ok (db.count fun m => decide (m.outboxId ∈ ids),
      db.update (fun m => decide (m.outboxId ∈ ids)) (Message.dead now)
        (neutral_row fun _ => ⟨rfl, rfl, rfl⟩))

end Calls

section Workers

variable {κ : Type}

/-- A call of a worker, a sweep, or a message that a producer adds. -/
inductive Call (κ : Type) where
  | enqueue (outboxId runId eventId : Uuid) (topic : String) (payload : Dict) (availableAt : ℕ)
  | leasePending (worker : κ) (limit leaseFor : ℤ) (busy : Uuid → Bool)
  | markPublished (worker : κ) (outboxId : Uuid)
  | retry (worker : κ) (outboxId : Uuid) (errorCode : String) (delay : ℤ)
  | deadLetter (maxAttempts limit : ℤ)

structure Step (κ : Type) where
  call : Call κ
  now : ℕ

/-- A message that was handed to a worker, and what has become of it since: whether it was given back
by anybody, and whether the worker has finished. -/
structure Handout (κ : Type) where
  outboxId : Uuid
  worker : κ
  since : ℕ
  duration : ℤ
  retried : Bool := false
  finished : Bool := false
  deriving DecidableEq

/-- The outbox, with the hand-outs so far, the newest first, and the time of the last call. -/
structure World (κ : Type) where
  messages : Messages := .empty
  handouts : List (Handout κ) := []
  clock : ℕ := 0

def Handout.finish [DecidableEq κ] (worker : κ) (outboxId : Uuid) (d : Handout κ) : Handout κ :=
  if d.worker = worker ∧ d.outboxId = outboxId then { d with finished := true } else d

def Handout.giveBack (outboxId : Uuid) (d : Handout κ) : Handout κ :=
  if d.outboxId = outboxId then { d with retried := true } else d

def World.message (w : World κ) (outboxId : Uuid) : Option Message :=
  w.messages.lookup Message.outboxId outboxId

/-- What the calls of the step answer, and the outbox they leave. -/
def after [DecidableEq κ] (w : World κ) (e : Step κ) : World κ :=
  match e.call with
  | .enqueue outboxId runId eventId topic payload availableAt =>
    match w.messages.insert? { outboxId, runId, eventId, topic, payload, availableAt } with
    | some messages => { w with messages := messages, clock := e.now }
    | none => { w with clock := e.now }
  | .leasePending worker limit leaseFor busy =>
    match leasePending w.messages limit leaseFor busy e.now with
    | .ok (leases, messages) =>
      ⟨messages, leases.map (fun x => ⟨x.outboxId, worker, e.now, leaseFor, false, false⟩) ++ w.handouts,
        e.now⟩
    | .error _ => { w with clock := e.now }
  | .markPublished worker outboxId =>
    ⟨(markPublished w.messages outboxId e.now).2, w.handouts.map (Handout.finish worker outboxId), e.now⟩
  | .retry worker outboxId errorCode delay =>
    match retry w.messages outboxId errorCode delay e.now with
    | .ok (changed, messages) =>
      ⟨messages, (w.handouts.map (Handout.finish worker outboxId)).map
        (if changed then Handout.giveBack outboxId else id), e.now⟩
    | .error _ => { w with clock := e.now }
  | .deadLetter maxAttempts limit =>
    match deadLetter w.messages maxAttempts limit e.now with
    | .ok (_, messages) => { w with messages := messages, clock := e.now }
    | .error _ => { w with clock := e.now }

end Workers

end CommerceAgent.Outbox
