import CommerceAgent.Outbox

/-! Who holds a message of the outbox, over any number of workers and every order of their calls. -/
namespace CommerceAgent.Outbox

open Histories Json Tables

variable {κ : Type}

/-- The hand-outs of a message, the newest first. -/
def World.of (w : World κ) (outboxId : Uuid) : List (Handout κ) :=
  w.handouts.filter fun d => d.outboxId = outboxId

section Rows

variable {w : World κ} {outboxId : Uuid} {m : Message}

theorem clash_id (a b : Message) (h : a.outboxId = b.outboxId) : Clash a b := .inl h

theorem message_eq_some : w.message outboxId = some m ↔
    m ∈ w.messages.rows ∧ m.outboxId = outboxId :=
  Table.lookup_eq_some clash_id

/-- The rows with one identifier are at most one row. -/
theorem select_id (db : Messages) (p : Message → Bool) (outboxId : Uuid) :
    (db.select fun m => p m && decide (m.outboxId = outboxId)).length ≤ 1 := by
  apply db.select_le_one
  intro a b ha hb
  simp only [Bool.and_eq_true, decide_eq_true_eq] at ha hb
  exact .inl (ha.2.trans hb.2.symm)

theorem count_inPublication {db : Messages} (hm : db.lookup Message.outboxId outboxId = some m) :
    db.count (Message.inPublication outboxId) = 1 ↔ m.status = .publishing := by
  obtain ⟨hrow, hid⟩ := Table.lookup_mem hm
  have hone := @Table.count_le_one _ _ _ Message.outboxId clash_id db
    (Message.inPublication outboxId) outboxId (fun x hx => (of_decide_eq_true hx).1)
  have hpositive : 0 < db.count (Message.inPublication outboxId) ↔ m.status = .publishing := by
    unfold Table.count
    rw [List.countP_pos_iff]
    constructor
    · rintro ⟨x, hx, hp⟩
      obtain ⟨hxid, hstatus⟩ := of_decide_eq_true hp
      obtain rfl := Table.Keyed.eq clash_id db.distinct hx hrow (hxid.trans hid.symm)
      exact hstatus
    · intro hstatus
      exact ⟨m, hrow, by simp [Message.inPublication, hid, hstatus]⟩
  rw [← hpositive]
  omega

theorem mem_byAvailability {l : List Message} : m ∈ byAvailability l ↔ m ∈ l :=
  (List.perm_insertionSort _ l).mem_iff

theorem leasable_eq (m : Message) (now : ℕ) (leaseFor : ℤ) : m.leasable now leaseFor =
    (decide (m.status = .pending ∧ m.availableAt ≤ now) || decide (m.status = .publishing) &&
      m.lockedAt.any fun locked => decide (locked + interval leaseFor ≤ now)) := by rfl

theorem waits_or_locked {now n : ℕ} (h : (decide (m.status = .pending ∧ m.availableAt ≤ now) ||
    decide (m.status = .publishing) && m.lockedAt.any fun locked => decide (locked + n ≤ now)) = true) :
    m.status = .pending ∨ m.status = .publishing ∧ ∀ locked ∈ m.lockedAt, locked + n ≤ now := by
  simp only [Bool.or_eq_true, decide_eq_true_eq, Bool.and_eq_true] at h
  rcases h with ⟨hpending, _⟩ | ⟨hpublishing, hlocked⟩
  · exact .inl hpending
  · refine .inr ⟨hpublishing, fun locked hmem => ?_⟩
    have hmem : m.lockedAt = some locked := hmem
    simpa [hmem] using hlocked

/-- What can be handed out waits, or its lease is over for the caller. -/
theorem leasable_cases {now : ℕ} {leaseFor : ℤ} (h : m.leasable now leaseFor = true) :
    m.status = .pending ∨
      m.status = .publishing ∧ ∀ locked ∈ m.lockedAt, locked + interval leaseFor ≤ now := by
  rw [leasable_eq] at h
  exact waits_or_locked h

theorem leasedIds_leasable {db : Messages} {limit leaseFor : ℤ} {busy : Uuid → Bool} {now : ℕ}
    (hm : db.lookup Message.outboxId outboxId = some m)
    (h : outboxId ∈ leasedIds db limit leaseFor busy now) : m.leasable now leaseFor = true := by
  obtain ⟨hrow, hid⟩ := Table.lookup_mem hm
  obtain ⟨x, hx, hxid⟩ := List.mem_map.mp h
  have hselected := mem_byAvailability.mp (List.mem_filter.mp (List.mem_of_mem_take hx)).1
  obtain ⟨hxrow, hleasable⟩ := List.mem_filter.mp hselected
  obtain rfl := Table.Keyed.eq clash_id db.distinct hxrow hrow (hxid.trans hid.symm)
  exact hleasable

theorem deadIds_exhausted {db : Messages} {maxAttempts limit : ℤ}
    (hm : db.lookup Message.outboxId outboxId = some m) (h : outboxId ∈ deadIds db maxAttempts limit) :
    m.exhausted maxAttempts = true := by
  obtain ⟨hrow, hid⟩ := Table.lookup_mem hm
  obtain ⟨x, hx, hxid⟩ := List.mem_map.mp h
  have hselected := mem_byAvailability.mp (List.mem_of_mem_take hx)
  obtain ⟨hxrow, hexhausted⟩ := List.mem_filter.mp hselected
  obtain rfl := Table.Keyed.eq clash_id db.distinct hxrow hrow (hxid.trans hid.symm)
  exact hexhausted

/-- The hand-outs of a message after a call that hands out some. -/
theorem leases_of {db : Messages} {ids : List Uuid} {worker : κ} {now : ℕ} {leaseFor : ℤ}
    (hm : db.lookup Message.outboxId outboxId = some m) :
    (((db.select fun m => decide (m.outboxId ∈ ids)).map Message.lease).map fun x =>
      (⟨x.outboxId, worker, now, leaseFor, false, false⟩ : Handout κ)).filter
        (fun d => d.outboxId = outboxId) =
      if outboxId ∈ ids then [⟨outboxId, worker, now, leaseFor, false, false⟩] else [] := by
  obtain ⟨hrow, hid⟩ := Table.lookup_mem hm
  have hone := select_id db (fun m => decide (m.outboxId ∈ ids)) outboxId
  have hselect : (db.select fun m => decide (m.outboxId ∈ ids) && decide (m.outboxId = outboxId)) =
      if outboxId ∈ ids then [m] else [] := by
    split
    · rename_i hids
      have hmem : m ∈ db.select fun m => decide (m.outboxId ∈ ids) && decide (m.outboxId = outboxId) :=
        List.mem_filter.mpr ⟨hrow, by simp [hid, hids]⟩
      obtain ⟨x, hx⟩ := List.length_eq_one_iff.mp (Nat.le_antisymm hone (List.length_pos_of_mem hmem))
      rw [hx, List.mem_singleton] at hmem
      rw [hx, hmem]
    · rename_i hids
      apply List.filter_eq_nil_iff.mpr
      intro x _ hx
      simp only [Bool.and_eq_true, decide_eq_true_eq] at hx
      exact hids (hx.2 ▸ hx.1)
  unfold Table.select at hselect ⊢
  rw [List.filter_map, List.filter_map, List.filter_filter]
  have hcomm : (db.rows.filter fun m => decide (m.outboxId = outboxId) && decide (m.outboxId ∈ ids)) =
      db.rows.filter fun m => decide (m.outboxId ∈ ids) && decide (m.outboxId = outboxId) := by
    apply List.filter_congr
    intro x _
    exact Bool.and_comm _ _
  change ((db.rows.filter fun m => decide (m.outboxId = outboxId) && decide (m.outboxId ∈ ids)).map
    Message.lease).map _ = _
  rw [hcomm, hselect]
  split
  · simp [Message.lease, hid]
  · rfl

theorem leasePending_ok {db db' : Messages} {limit leaseFor : ℤ} {busy : Uuid → Bool} {now : ℕ}
    {leases : List OutboxLease} (h : leasePending db limit leaseFor busy now = .ok (leases, db')) :
    leases = (db'.select fun m => decide (m.outboxId ∈ leasedIds db limit leaseFor busy now)).map
        Message.lease ∧
      db' = db.update (fun m => decide (m.outboxId ∈ leasedIds db limit leaseFor busy now))
        (Message.leased now) (neutral_row fun _ => ⟨rfl, rfl, rfl⟩) := by
  unfold leasePending at h
  split at h
  · exact absurd h (by simp)
  · obtain ⟨rfl, rfl⟩ := Prod.mk.inj (Except.ok.inj h)
    exact ⟨rfl, rfl⟩

theorem retry_ok {db db' : Messages} {errorCode : String} {delay : ℤ} {now : ℕ} {changed : Bool}
    (h : retry db outboxId errorCode delay now = .ok (changed, db')) :
    changed = decide (db.count (Message.inPublication outboxId) = 1) ∧
      db' = db.update (Message.inPublication outboxId) (Message.retried errorCode delay now)
        (neutral_row fun _ => ⟨rfl, rfl, rfl⟩) := by
  unfold retry at h
  split at h
  · exact absurd h (by simp)
  · obtain ⟨rfl, rfl⟩ := Prod.mk.inj (Except.ok.inj h)
    exact ⟨rfl, rfl⟩

theorem deadLetter_ok {db db' : Messages} {maxAttempts limit : ℤ} {now n : ℕ}
    (h : deadLetter db maxAttempts limit now = .ok (n, db')) :
    ¬ (maxAttempts < 1 ∨ ¬ (1 ≤ limit ∧ limit ≤ 1000)) ∧
      db' = db.update (fun m => decide (m.outboxId ∈ deadIds db maxAttempts limit)) (Message.dead now)
        (neutral_row fun _ => ⟨rfl, rfl, rfl⟩) := by
  unfold deadLetter at h
  split at h
  · exact absurd h (by simp)
  · rename_i hpolicy
    obtain ⟨_, rfl⟩ := Prod.mk.inj (Except.ok.inj h)
    exact ⟨hpolicy, rfl⟩

/-- An update of rows that keeps their identifiers, seen at one identifier. -/
theorem lookup_changed {db : Messages} {p : Message → Bool} {f : Message → Message}
    (hf : Table.Neutral Clash f) (hid : ∀ m, (f m).outboxId = m.outboxId)
    (hm : db.lookup Message.outboxId outboxId = some m) :
    (db.update p f hf).lookup Message.outboxId outboxId = some (Table.changed p f m) := by
  rw [Table.lookup_update hf hid, hm]
  rfl

/-- A completion by a worker, seen at the message that it names or at another one. -/
theorem completed_after (f : Message → Message) (hid : ∀ m, (f m).outboxId = m.outboxId)
    (hf : Table.Neutral Clash f) {called : Uuid} (hm : w.message outboxId = some m) :
    (w.messages.update (Message.inPublication called) f hf).lookup Message.outboxId outboxId =
      some (if called = outboxId ∧ m.status = .publishing then f m else m) := by
  rw [lookup_changed hf hid hm, Table.changed]
  have hmid := (message_eq_some.mp hm).2
  by_cases hcalled : called = outboxId
  · simp [Message.inPublication, hmid, hcalled]
  · simp [Message.inPublication, hmid, hcalled, Ne.symm hcalled]

end Rows

theorem giveBack_id (outboxId : Uuid) (d : Handout κ) : (d.giveBack outboxId).outboxId = d.outboxId := by
  unfold Handout.giveBack
  split <;> rfl

theorem filter_map_id {f : Handout κ → Handout κ} (hf : ∀ d, (f d).outboxId = d.outboxId)
    (l : List (Handout κ)) (outboxId : Uuid) :
    (l.map f).filter (fun d => d.outboxId = outboxId) =
      (l.filter fun d => d.outboxId = outboxId).map f := by
  rw [List.filter_map]
  simp only [Function.comp_def, hf]

theorem giveBack_other {called : Uuid} (d : Handout κ) (h : d.outboxId ≠ called) :
    d.giveBack called = d := by
  simp [Handout.giveBack, h]

/-- What happens to the hand-outs of another message only. -/
theorem map_other {f : Handout κ → Handout κ} {called outboxId : Uuid} (hother : called ≠ outboxId)
    (hf : ∀ d, d.outboxId ≠ called → f d = d) (l : List (Handout κ)) :
    (l.filter fun d => d.outboxId = outboxId).map f = l.filter fun d => d.outboxId = outboxId := by
  have hsame : ∀ d ∈ l.filter (fun d => d.outboxId = outboxId), f d = id d := by
    intro d hd
    apply hf
    intro hcalled
    exact hother (hcalled.symm.trans (of_decide_eq_true (List.mem_filter.mp hd).2))
  rw [List.map_congr_left hsame, List.map_id]

section Effects

variable [DecidableEq κ] {w : World κ} {e : Step κ} {outboxId : Uuid} {m : Message}

/-- What a step does to a message and to its hand-outs. -/
inductive Became (e : Step κ) (outboxId : Uuid) (w : World κ) (m m' : Message)
    (l l' : List (Handout κ)) : Prop
  | kept (hm : m' = m) (hl : l' = l)
  | ignored (worker : κ) (hm : m' = m) (hl : l' = l.map (Handout.finish worker outboxId))
      (status : m.status ≠ .publishing)
  | leased (worker : κ) (limit leaseFor : ℤ) (busy : Uuid → Bool)
      (hcall : e.call = .leasePending worker limit leaseFor busy)
      (leasable : m.leasable e.now leaseFor = true) (hm : m' = m.leased e.now)
      (hl : l' = ⟨outboxId, worker, e.now, leaseFor, false, false⟩ :: l)
  | published (worker : κ) (hcall : e.call = .markPublished worker outboxId)
      (status : m.status = .publishing) (hm : m' = m.published e.now)
      (hl : l' = l.map (Handout.finish worker outboxId))
  | retried (worker : κ) (errorCode : String) (delay : ℤ)
      (hcall : e.call = .retry worker outboxId errorCode delay)
      (status : m.status = .publishing) (hm : m' = m.retried errorCode delay e.now)
      (hl : l' = (l.map (Handout.finish worker outboxId)).map (Handout.giveBack outboxId))
  | dead (maxAttempts limit : ℤ) (hcall : e.call = .deadLetter maxAttempts limit)
      (policy : ¬ (maxAttempts < 1 ∨ ¬ (1 ≤ limit ∧ limit ≤ 1000)))
      (swept : outboxId ∈ deadIds w.messages maxAttempts limit)
      (exhausted : m.exhausted maxAttempts = true) (hm : m' = m.dead e.now) (hl : l' = l)

theorem finish_id (worker : κ) (outboxId : Uuid) (d : Handout κ) :
    (d.finish worker outboxId).outboxId = d.outboxId := by
  unfold Handout.finish
  split <;> rfl

theorem finish_other (worker : κ) {called : Uuid} (d : Handout κ) (h : d.outboxId ≠ called) :
    d.finish worker called = d := by
  simp [Handout.finish, h]

theorem leasePending_after (hm : w.message outboxId = some m) {worker : κ} {limit leaseFor : ℤ}
    {busy : Uuid → Bool} (hcall : e.call = .leasePending worker limit leaseFor busy) :
    ∃ m', (after w e).message outboxId = some m' ∧
      Became e outboxId w m m' (w.of outboxId) ((after w e).of outboxId) := by
  have hlookup : w.messages.lookup Message.outboxId outboxId = some m := hm
  have hmid := (message_eq_some.mp hm).2
  unfold after
  rw [hcall]
  dsimp only
  split
  · rename_i leases messages hok
    obtain ⟨rfl, rfl⟩ := leasePending_ok hok
    have hrow := @lookup_changed outboxId m w.messages
      (fun m => decide (m.outboxId ∈ leasedIds w.messages limit leaseFor busy e.now))
      (Message.leased e.now) (neutral_row fun _ => ⟨rfl, rfl, rfl⟩) (fun _ => rfl) hlookup
    have hof := @leases_of κ outboxId _ _ (leasedIds w.messages limit leaseFor busy e.now) worker e.now
      leaseFor hrow
    refine ⟨_, hrow, ?_⟩
    unfold Table.changed
    unfold World.of
    rw [List.filter_append, hof]
    -- The hand-out that is new belongs to the message exactly if its row was among the leased ones.
    by_cases hids : outboxId ∈ leasedIds w.messages limit leaseFor busy e.now
    · simp only [hmid, hids, decide_true, if_true]
      exact .leased worker limit leaseFor busy hcall (leasedIds_leasable hlookup hids) rfl rfl
    · simp only [hmid, hids, decide_false, if_false]
      exact .kept rfl rfl
  · exact ⟨m, hm, .kept rfl rfl⟩

theorem markPublished_after (hm : w.message outboxId = some m) {worker : κ} {called : Uuid}
    (hcall : e.call = .markPublished worker called) :
    ∃ m', (after w e).message outboxId = some m' ∧
      Became e outboxId w m m' (w.of outboxId) ((after w e).of outboxId) := by
  unfold after
  rw [hcall]
  dsimp only
  refine ⟨_, completed_after (Message.published e.now) (fun _ => rfl)
    (neutral_row fun _ => ⟨rfl, rfl, rfl⟩) hm, ?_⟩
  have hof : World.of ⟨(markPublished w.messages called e.now).2,
      w.handouts.map (Handout.finish worker called), e.now⟩ outboxId =
      (w.of outboxId).map (Handout.finish worker called) := filter_map_id (finish_id _ _) _ _
  rw [hof]
  by_cases hcalled : called = outboxId
  · subst hcalled
    by_cases hstatus : m.status = .publishing
    · rw [if_pos ⟨rfl, hstatus⟩]
      exact .published worker hcall hstatus rfl rfl
    · rw [if_neg fun h => hstatus h.2]
      exact .ignored worker rfl rfl hstatus
  · rw [if_neg fun h => hcalled h.1]
    exact .kept rfl (map_other hcalled (finish_other worker) _)

theorem retry_after (hm : w.message outboxId = some m) {worker : κ} {called : Uuid} {errorCode : String}
    {delay : ℤ} (hcall : e.call = .retry worker called errorCode delay) :
    ∃ m', (after w e).message outboxId = some m' ∧
      Became e outboxId w m m' (w.of outboxId) ((after w e).of outboxId) := by
  have hlookup : w.messages.lookup Message.outboxId outboxId = some m := hm
  unfold after
  rw [hcall]
  dsimp only
  split
  · rename_i changed messages hok
    obtain ⟨rfl, rfl⟩ := retry_ok hok
    refine ⟨_, completed_after (Message.retried errorCode delay e.now) (fun _ => rfl)
      (neutral_row fun _ => ⟨rfl, rfl, rfl⟩) hm, ?_⟩
    by_cases hcalled : called = outboxId
    · subst hcalled
      -- The update changes one row if the message is being published, and none otherwise.
      have hcount := count_inPublication hlookup
      by_cases hstatus : m.status = .publishing
      · rw [if_pos ⟨rfl, hstatus⟩]
        refine .retried worker errorCode delay hcall hstatus rfl ?_
        unfold World.of
        simp only [hcount.mpr hstatus, decide_true, if_true]
        rw [filter_map_id (giveBack_id _), filter_map_id (finish_id _ _)]
      · rw [if_neg fun h => hstatus h.2]
        refine .ignored worker rfl ?_ hstatus
        unfold World.of
        have hzero : ¬ w.messages.count (Message.inPublication called) = 1 := fun h =>
          hstatus (hcount.mp h)
        rw [if_neg (by simpa using hzero), List.map_id, filter_map_id (finish_id _ _)]
    · rw [if_neg fun h => hcalled h.1]
      refine .kept rfl ?_
      unfold World.of
      split
      · rw [filter_map_id (giveBack_id _), filter_map_id (finish_id _ _),
          map_other hcalled (finish_other worker), map_other hcalled giveBack_other]
      · rw [List.map_id, filter_map_id (finish_id _ _), map_other hcalled (finish_other worker)]
  · exact ⟨m, hm, .kept rfl rfl⟩

theorem deadLetter_after (hm : w.message outboxId = some m) {maxAttempts limit : ℤ}
    (hcall : e.call = .deadLetter maxAttempts limit) :
    ∃ m', (after w e).message outboxId = some m' ∧
      Became e outboxId w m m' (w.of outboxId) ((after w e).of outboxId) := by
  have hlookup : w.messages.lookup Message.outboxId outboxId = some m := hm
  have hmid := (message_eq_some.mp hm).2
  unfold after
  rw [hcall]
  dsimp only
  split
  · rename_i n messages hok
    obtain ⟨hpolicy, rfl⟩ := deadLetter_ok hok
    have hneutral : Table.Neutral Clash (Message.dead e.now) := neutral_row fun _ => ⟨rfl, rfl, rfl⟩
    refine ⟨_, lookup_changed hneutral (fun _ => rfl) hlookup, ?_⟩
    unfold Table.changed
    by_cases hids : outboxId ∈ deadIds w.messages maxAttempts limit
    · simp only [hmid, hids, decide_true, if_true]
      exact .dead maxAttempts limit hcall hpolicy hids (deadIds_exhausted hlookup hids) rfl rfl
    · simp only [hmid, hids, decide_false]
      exact .kept rfl rfl
  · exact ⟨m, hm, .kept rfl rfl⟩

/-- Everything that a step does to a message. -/
theorem message_after (hm : w.message outboxId = some m) (e : Step κ) :
    ∃ m', (after w e).message outboxId = some m' ∧
      Became e outboxId w m m' (w.of outboxId) ((after w e).of outboxId) := by
  cases hcall : e.call with
  | enqueue newId runId eventId topic payload availableAt =>
    unfold after
    rw [hcall]
    refine ⟨m, ?_, .kept rfl ?_⟩ <;> dsimp only <;> split
    -- A new row has another identifier, or is not inserted.
    · rename_i messages hinsert
      have hlookup : w.messages.lookup Message.outboxId outboxId = some m := hm
      change messages.lookup Message.outboxId outboxId = some m
      rw [Table.lookup_insert outboxId hinsert, hlookup, Option.some_or]
    · exact hm
    · rfl
    · rfl
  | leasePending worker limit leaseFor busy => exact leasePending_after hm hcall
  | markPublished worker called => exact markPublished_after hm hcall
  | retry worker called errorCode delay => exact retry_after hm hcall
  | deadLetter maxAttempts limit => exact deadLetter_after hm hcall

/-- A message that appears was added as a new one, and nobody has been handed it. -/
theorem message_new (hnone : w.message outboxId = none) (hof : w.of outboxId = [])
    (hm : (after w e).message outboxId = some m) :
    m.status = .pending ∧ m.attemptCount = 0 ∧ (after w e).of outboxId = [] := by
  have hlookup : w.messages.lookup Message.outboxId outboxId = none := hnone
  have hupdate : ∀ {p : Message → Bool} {f : Message → Message} (hf : Table.Neutral Clash f),
      (∀ m, (f m).outboxId = m.outboxId) →
      (w.messages.update p f hf).lookup Message.outboxId outboxId ≠ some m := by
    intro p f hf hid
    rw [Table.lookup_update hf hid, hlookup]
    simp
  unfold after at hm ⊢
  cases hcall : e.call with
  | enqueue newId runId eventId topic payload availableAt =>
    rw [hcall] at hm
    dsimp only at hm ⊢
    split at hm
    · rename_i messages hinsert
      have hrow : messages.lookup Message.outboxId outboxId = some m := hm
      rw [Table.lookup_insert outboxId hinsert, hlookup, Option.none_or] at hrow
      split at hrow
      · obtain rfl := Option.some.inj hrow
        exact ⟨rfl, rfl, hof⟩
      · exact absurd hrow (by simp)
    · exact absurd (hnone.symm.trans hm) (by simp)
  | leasePending worker limit leaseFor busy =>
    rw [hcall] at hm
    dsimp only at hm
    split at hm
    · rename_i leases messages hok
      obtain ⟨rfl, rfl⟩ := leasePending_ok hok
      have hneutral : Table.Neutral Clash (Message.leased e.now) := neutral_row fun _ => ⟨rfl, rfl, rfl⟩
      exact absurd hm (hupdate hneutral fun _ => rfl)
    · exact absurd (hnone.symm.trans hm) (by simp)
  | markPublished worker called =>
    rw [hcall] at hm
    have hneutral : Table.Neutral Clash (Message.published e.now) := neutral_row fun _ => ⟨rfl, rfl, rfl⟩
    exact absurd hm (hupdate hneutral fun _ => rfl)
  | retry worker called errorCode delay =>
    rw [hcall] at hm
    dsimp only at hm
    split at hm
    · rename_i changed messages hok
      obtain ⟨rfl, rfl⟩ := retry_ok hok
      have hneutral : Table.Neutral Clash (Message.retried errorCode delay e.now) :=
        neutral_row fun _ => ⟨rfl, rfl, rfl⟩
      exact absurd hm (hupdate hneutral fun _ => rfl)
    · exact absurd (hnone.symm.trans hm) (by simp)
  | deadLetter maxAttempts limit =>
    rw [hcall] at hm
    dsimp only at hm
    split at hm
    · rename_i n messages hok
      obtain ⟨_, rfl⟩ := deadLetter_ok hok
      have hneutral : Table.Neutral Clash (Message.dead e.now) := neutral_row fun _ => ⟨rfl, rfl, rfl⟩
      exact absurd hm (hupdate hneutral fun _ => rfl)
    · exact absurd (hnone.symm.trans hm) (by simp)

/-- Nobody has been handed a message that is not there. -/
theorem of_absent (hnone : (after w e).message outboxId = none) (hof : w.message outboxId = none →
    w.of outboxId = []) : (after w e).of outboxId = [] := by
  cases hm : w.message outboxId with
  | some m =>
    obtain ⟨m', hm', _⟩ := message_after hm e
    exact absurd (hnone.symm.trans hm') (by simp)
  | none =>
    have hempty := hof hm
    have hlookup : w.messages.lookup Message.outboxId outboxId = none := hm
    unfold World.of at hempty ⊢
    unfold after
    cases hcall : e.call with
    | enqueue => dsimp only; split <;> exact hempty
    | leasePending worker limit leaseFor busy =>
      dsimp only
      split
      · rename_i leases messages hok
        obtain ⟨rfl, rfl⟩ := leasePending_ok hok
        rw [List.filter_append, hempty, List.append_nil, List.filter_eq_nil_iff]
        intro d hd hid
        obtain ⟨x, hx, rfl⟩ := List.mem_map.mp hd
        obtain ⟨row, hrow, rfl⟩ := List.mem_map.mp hx
        have hrow := (List.mem_filter.mp hrow).1
        have habsent := @Table.lookup_update _ _ _ Message.outboxId _ w.messages
          (fun m => decide (m.outboxId ∈ leasedIds w.messages limit leaseFor busy e.now))
          (Message.leased e.now) (neutral_row fun _ => ⟨rfl, rfl, rfl⟩) (fun _ => rfl) outboxId
        rw [hlookup] at habsent
        exact Table.lookup_eq_none.mp habsent row hrow (of_decide_eq_true hid)
      · exact hempty
    | markPublished worker called =>
      change List.filter _ (List.map _ _) = []
      rw [filter_map_id (finish_id _ _), hempty, List.map_nil]
    | retry worker called errorCode delay =>
      dsimp only
      split
      · dsimp only
        split
        · rw [filter_map_id (giveBack_id _), filter_map_id (finish_id _ _), hempty, List.map_nil, List.map_nil]
        · rw [List.map_id, filter_map_id (finish_id _ _), hempty, List.map_nil]
      · exact hempty
    | deadLetter => dsimp only; split <;> exact hempty

end Effects

section Leases

variable [DecidableEq κ] {w : World κ} {e : Step κ} {outboxId : Uuid} {m m' : Message}
  {l l' : List (Handout κ)}

/-- A hand-out whose lease is over, because the message was given back or its time has passed. -/
def Handout.Elapsed (now : ℕ) (d : Handout κ) : Prop := d.retried = true ∨ d.since + d.duration ≤ now

/-- A call that hands out a message leaves no lease of it under way. -/
def Exclusive (x : World κ × Step κ) : Prop :=
  ∀ outboxId d, (after x.1 x.2).of outboxId = d :: x.1.of outboxId →
    ∀ d' ∈ x.1.of outboxId, d'.Elapsed x.2.now

/-- A call that takes a message over passes, in whole seconds, no less than the duration of the lease
that it takes it from. -/
def Patient (w : World κ) (e : Step κ) : Prop :=
  ∀ worker limit leaseFor busy, e.call = .leasePending worker limit leaseFor busy →
    ∀ outboxId m, w.message outboxId = some m → m.status = .publishing →
      m.leasable e.now leaseFor = true → ∀ d ∈ (w.of outboxId).head?, d.duration ≤ interval leaseFor

omit [DecidableEq κ] in
/-- A call is patient if it passes no less than any lease has had. -/
theorem Patient.of_handouts (h : ∀ worker limit leaseFor busy,
    e.call = .leasePending worker limit leaseFor busy → ∀ d ∈ w.handouts, d.duration ≤ interval leaseFor) :
    Patient w e := by
  intro worker limit leaseFor busy hcall outboxId m _ _ _ d hd
  apply h worker limit leaseFor busy hcall
  exact (List.mem_filter.mp (List.mem_of_mem_head? hd)).1

/-- What the row of a message says about its hand-outs `l`. -/
structure Leased (m : Message) (l : List (Handout κ)) : Prop where
  attempts : m.attemptCount = l.length
  waiting : m.status = .pending → ∀ d ∈ l, d.retried = true
  publishing : m.status = .publishing → ∃ d rest, l = d :: rest ∧ m.lockedAt = some d.since ∧
    ∀ d' ∈ rest, d'.Elapsed d.since

omit [DecidableEq κ] in
theorem Handout.Elapsed.later {now later : ℕ} {d : Handout κ} (h : d.Elapsed now) (hle : now ≤ later) :
    d.Elapsed later := by
  rcases h with h | h
  · exact .inl h
  · right
    omega

omit [DecidableEq κ] in
/-- At the moment of a hand-out, every earlier one is over. -/
theorem Leased.elapsed (h : Leased m l) {leaseFor : ℤ} (hleasable : m.leasable e.now leaseFor = true)
    (hpatient : m.status = .publishing → ∀ d ∈ l.head?, d.duration ≤ interval leaseFor) :
    ∀ d ∈ l, d.Elapsed e.now := by
  rcases leasable_cases hleasable with hpending | ⟨hpublishing, hlocked⟩
  · exact fun d hd => .inl (h.waiting hpending d hd)
  · obtain ⟨d, rest, rfl, hsince, hrest⟩ := h.publishing hpublishing
    have hlong := hpatient hpublishing d rfl
    have hover := hlocked d.since hsince
    intro d' hd'
    rcases List.mem_cons.mp hd' with rfl | hd'
    · right
      omega
    · exact (hrest d' hd').later (by omega)

/-- What a step makes of it. -/
theorem Leased.step (h : Leased m l) (hbecame : Became e outboxId w m m' l l')
    (hid : ∀ d ∈ l, d.outboxId = outboxId)
    (hpatient : ∀ worker limit leaseFor busy, e.call = .leasePending worker limit leaseFor busy →
      m.status = .publishing → m.leasable e.now leaseFor = true →
        ∀ d ∈ l.head?, d.duration ≤ interval leaseFor) : Leased m' l' := by
  cases hbecame with
  | kept hm hl =>
    subst hm hl
    exact h
  | ignored worker hm hl hstatus =>
    subst hm hl
    refine ⟨by simpa using h.attempts, fun hpending d hd => ?_, fun hpublishing => absurd hpublishing hstatus⟩
    obtain ⟨d', hd', rfl⟩ := List.mem_map.mp hd
    have hback := h.waiting hpending d' hd'
    unfold Handout.finish
    split <;> exact hback
  | leased worker limit leaseFor busy hcall hleasable hm hl =>
    subst hm hl
    have hover := h.elapsed hleasable fun hpublishing =>
      hpatient worker limit leaseFor busy hcall hpublishing hleasable
    refine ⟨?_, fun hpending => absurd hpending (by simp [Message.leased]), fun _ => ?_⟩
    · simp [Message.leased, h.attempts]
    · exact ⟨_, _, rfl, rfl, hover⟩
  | published worker _ _ hm hl =>
    subst hm hl
    refine ⟨by simpa [Message.published] using h.attempts, ?_, ?_⟩ <;> intro hstatus <;>
      exact absurd hstatus (by simp [Message.published])
  | retried worker errorCode delay _ _ hm hl =>
    subst hm hl
    refine ⟨by simpa [Message.retried] using h.attempts, fun _ d hd => ?_, fun hstatus =>
      absurd hstatus (by simp [Message.retried])⟩
    obtain ⟨d', hd', rfl⟩ := List.mem_map.mp hd
    obtain ⟨d'', hd'', rfl⟩ := List.mem_map.mp hd'
    simp [Handout.giveBack, finish_id, hid d'' hd'']
  | dead maxAttempts limit _ _ _ _ hm hl =>
    subst hm hl
    refine ⟨h.attempts, ?_, ?_⟩ <;> intro hstatus <;> exact absurd hstatus (by simp [Message.dead])

/-- The rows and the hand-outs agree at every message. -/
def Sound (w : World κ) : Prop :=
  ∀ outboxId, (∀ m, w.message outboxId = some m → Leased m (w.of outboxId)) ∧
    (w.message outboxId = none → w.of outboxId = [])

omit [DecidableEq κ] in
theorem Sound.start : Sound ({} : World κ) :=
  fun _ => ⟨fun _ hm => absurd hm (by simp [World.message, Table.lookup, Table.empty]), fun _ => rfl⟩

theorem Sound.after (h : Sound w) (hpatient : Patient w e) : Sound (after w e) := by
  intro outboxId
  refine ⟨fun m' hm' => ?_, fun hnone => of_absent hnone (h outboxId).2⟩
  cases hm : w.message outboxId with
  | some m =>
    obtain ⟨m'', hm'', hbecame⟩ := message_after hm e
    obtain rfl := Option.some.inj (hm'.symm.trans hm'')
    refine ((h outboxId).1 m hm).step hbecame (fun d hd => ?_) ?_
    · exact of_decide_eq_true (List.mem_filter.mp hd).2
    · intro worker limit leaseFor busy hcall hpublishing hleasable
      exact hpatient worker limit leaseFor busy hcall outboxId m hm hpublishing hleasable
  | none =>
    obtain ⟨hpending, hattempts, hof⟩ := message_new hm ((h outboxId).2 hm) hm'
    rw [hof]
    refine ⟨by simpa using hattempts, fun _ d hd => absurd hd (by simp), fun hpublishing => ?_⟩
    exact absurd (hpending.symm.trans hpublishing) (by simp)

theorem exclusive (h : Sound w) (hpatient : Patient w e) : Exclusive (w, e) := by
  intro outboxId d hhanded
  cases hm : w.message outboxId with
  | none =>
    rw [(h outboxId).2 hm]
    simp
  | some m =>
    obtain ⟨m', _, hbecame⟩ := message_after hm e
    have hleased := (h outboxId).1 m hm
    have hlonger : ((Outbox.after w e).of outboxId).length = (w.of outboxId).length + 1 := by
      rw [hhanded, List.length_cons]
    cases hbecame with
    | leased worker limit leaseFor busy hcall hleasable _ _ =>
      exact hleased.elapsed hleasable fun hpublishing =>
        hpatient worker limit leaseFor busy hcall outboxId m hm hpublishing hleasable
    | kept _ hl => rw [hl] at hlonger; omega
    | ignored _ _ hl => rw [hl, List.length_map] at hlonger; omega
    | published _ _ _ _ hl => rw [hl, List.length_map] at hlonger; omega
    | retried _ _ _ _ _ _ hl => rw [hl, List.length_map, List.length_map] at hlonger; omega
    | dead _ _ _ _ _ _ _ hl => rw [hl] at hlonger; omega

def Status.Final (status : Status) : Prop := status = .published ∨ status = .deadLetter

theorem final_after (hm : w.message outboxId = some m) (hfinal : m.status.Final) (e : Step κ) :
    (after w e).message outboxId = some m := by
  obtain ⟨m', hm', hbecame⟩ := message_after hm e
  have hne : m.status ≠ .pending ∧ m.status ≠ .publishing := by
    rcases hfinal with hfinal | hfinal <;> simp [hfinal]
  cases hbecame with
  | kept hsame _ => exact hsame ▸ hm'
  | ignored _ hsame _ _ => exact hsame ▸ hm'
  | leased _ _ _ _ _ hleasable _ _ =>
    rcases leasable_cases hleasable with hpending | ⟨hpublishing, _⟩
    · exact absurd hpending hne.1
    · exact absurd hpublishing hne.2
  | published _ _ hstatus _ _ => exact absurd hstatus hne.2
  | retried _ _ _ _ hstatus _ _ => exact absurd hstatus hne.2
  | dead _ _ _ _ _ hexhausted _ _ => simp [Message.exhausted, hne] at hexhausted

theorem final_run (hm : w.message outboxId = some m) (hfinal : m.status.Final) (h : List (Step κ)) :
    (run after w h).message outboxId = some m :=
  run_invariant (J := fun w : World κ => w.message outboxId = some m) hm fun _ e hw =>
    final_after hw hfinal e

/-- As long as no call takes a message over with a shorter duration than that of the lease it ends: a
message is handed out again only after it was given back or its lease has passed, an end is final,
and the attempts are the hand-outs. -/
theorem outbox_leases {h : List (Step κ)} (hpatient : Along after Patient ({} : World κ) h) :
    (∀ x ∈ trace after ({} : World κ) h, Exclusive x) ∧
      ∀ outboxId m, (run after ({} : World κ) h).message outboxId = some m →
        m.attemptCount = ((run after ({} : World κ) h).of outboxId).length ∧
        (m.status.Final → ∀ h', (run after ({} : World κ) (h ++ h')).message outboxId = some m) := by
  have hkeeping := hpatient.keeping Sound.start fun _ _ hs hp => hs.after hp
  have hsound := hpatient.invariant Sound.start fun _ _ hs hp => hs.after hp
  refine ⟨fun x hx => ?_, fun outboxId m hm => ⟨((hsound outboxId).1 m hm).attempts, fun hfinal h' => ?_⟩⟩
  · obtain ⟨hs, hp⟩ := hkeeping.mem_trace hx
    exact exclusive hs hp
  · rw [run_append]
    exact final_run hm hfinal h'

end Leases

section Demo

def demoMessage : Step Bool := ⟨.enqueue "outbox-1" "run-1" "event-1" "run.execute" [] 0, 0⟩

/-- A worker that leases for a duration of microseconds. -/
def demoLease (worker : Bool) (duration : ℤ) (now : ℕ) : Step Bool :=
  ⟨.leasePending worker 10 duration fun _ => false, now⟩

def demoLeased (duration : ℤ) : List (Step Bool) := [demoMessage, demoLease true duration 0]

end Demo

theorem outbox_leases_demo :
    Exclusive (run after {} (demoLeased 60000000), demoLease false 60000000 60000000) := by
  have hnone : (run after {} [demoMessage]).handouts = [] := by decide +kernel
  have hlong : ∀ d ∈ (run after {} (demoLeased 60000000)).handouts, d.duration ≤ interval 60000000 := by
    decide +kernel
  have hpatient : Along after Patient {} (demoLeased 60000000 ++ [demoLease false 60000000 60000000]) := by
    rw [along_snoc]
    refine ⟨⟨.of_handouts ?_, .of_handouts ?_, trivial⟩, .of_handouts ?_⟩
    · exact fun _ _ _ _ hcall => absurd hcall (by simp [demoMessage])
    · intro _ _ _ _ _ d hd
      exact absurd (hnone ▸ hd) List.not_mem_nil
    · intro _ _ _ _ hcall
      obtain ⟨_, _, rfl, _⟩ := Call.leasePending.inj hcall
      exact hlong
  apply (outbox_leases hpatient).1
  rw [trace_snoc]
  exact List.mem_append_right _ (List.mem_singleton_self _)

/-- A lease of half a second is none: a second worker is handed the message at the same time. -/
theorem half_second_lease : ¬ Exclusive (run after {} (demoLeased 500000), demoLease false 500000 0) := by
  intro hexclusive
  have hfacts : (after (run after {} (demoLeased 500000)) (demoLease false 500000 0)).of "outbox-1" =
        ⟨"outbox-1", false, 0, 500000, false, false⟩ :: (run after {} (demoLeased 500000)).of "outbox-1" ∧
      ⟨"outbox-1", true, 0, 500000, false, false⟩ ∈ (run after {} (demoLeased 500000)).of "outbox-1" := by
    decide +kernel
  rcases hexclusive "outbox-1" _ hfacts.1 _ hfacts.2 with hretried | hpassed
  · exact absurd hretried (by simp)
  · change (0 : ℤ) + 500000 ≤ 0 at hpassed
    omega

end CommerceAgent.Outbox
