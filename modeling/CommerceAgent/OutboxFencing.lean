import CommerceAgent.OutboxLeases

/-! What keeps one worker of the outbox from ending the work of another: nothing but its own clock. -/
namespace CommerceAgent.Outbox

open Histories Json Tables

variable {κ : Type}

/-- The call with which a worker finishes a message: it published the message, or gives it back. -/
def Step.Completes (e : Step κ) (worker : κ) (outboxId : Uuid) : Prop :=
  e.call = .markPublished worker outboxId ∨ ∃ errorCode delay, e.call = .retry worker outboxId errorCode delay

/-- A sweep that quarantines the message. -/
def Step.Sweeps (e : Step κ) (w : World κ) (outboxId : Uuid) : Prop :=
  ∃ maxAttempts limit, e.call = .deadLetter maxAttempts limit ∧
    ¬ (maxAttempts < 1 ∨ ¬ (1 ≤ limit ∧ limit ≤ 1000)) ∧ outboxId ∈ deadIds w.messages maxAttempts limit

section Fencing

variable [DecidableEq κ]

/-- The lease under which a worker holds a message, as far as it knows. -/
def World.own (w : World κ) (worker : κ) (outboxId : Uuid) : Option (Handout κ) :=
  (w.of outboxId).find? fun d => d.worker = worker

/-- A completion within the lease of its worker, or before anyone else has been handed the message. -/
def Timely (w : World κ) (e : Step κ) (worker : κ) (outboxId : Uuid) : Prop :=
  (∃ d ∈ w.own worker outboxId, d.finished = false ∧ e.now < d.since + d.duration) ∨
    ∃ d ∈ (w.of outboxId).head?, d.worker = worker

/-- The discipline of a step: the clock goes on, a call takes no message over before its lease has
passed, what is completed while it is being published is completed in time, and what is swept is not
being published. -/
structure Orderly (w : World κ) (e : Step κ) : Prop where
  clock : w.clock ≤ e.now
  patient : Patient w e
  timely : ∀ worker outboxId m, e.Completes worker outboxId → w.message outboxId = some m →
    m.status = .publishing → Timely w e worker outboxId
  spared : ∀ outboxId m, e.Sweeps w outboxId → w.message outboxId = some m → m.status ≠ .publishing

/-- A step leaves a message alone that a worker is still publishing, unless it is the call with which
this very worker completes it; and what this worker publishes is published. -/
def Fenced (x : World κ × Step κ) : Prop :=
  ∀ outboxId m d, x.1.message outboxId = some m → m.status = .publishing →
    d ∈ (x.1.of outboxId).head? → d.finished = false →
    ((∃ worker, worker ≠ d.worker ∧ x.2.Completes worker outboxId) ∨ x.2.Sweeps x.1 outboxId →
      (after x.1 x.2).message outboxId = some m) ∧
    (x.2.call = .markPublished d.worker outboxId →
      ∃ m', (after x.1 x.2).message outboxId = some m' ∧ m'.status = .published)

/-- The work of a hand-out is over: the worker has finished, or its lease has passed. -/
def Handout.Over (now : ℕ) (d : Handout κ) : Prop := d.finished = true ∨ d.since + d.duration ≤ now

/-- At most the newest hand-out of a message is still at work, and only while it is being published. -/
structure AtWork (now : ℕ) (m : Message) (l : List (Handout κ)) : Prop where
  resting : m.status ≠ .publishing → ∀ d ∈ l, d.Over now
  publishing : m.status = .publishing → ∃ d rest, l = d :: rest ∧ m.lockedAt = some d.since ∧
    ∀ d' ∈ rest, d'.Over now

variable {w : World κ} {e : Step κ} {outboxId : Uuid} {m m' : Message} {l l' : List (Handout κ)} {now : ℕ}

omit [DecidableEq κ] in
theorem Handout.Over.later {d : Handout κ} (h : d.Over now) {later : ℕ} (hle : now ≤ later) :
    d.Over later := by
  rcases h with h | h
  · exact .inl h
  · right
    omega

theorem Handout.Over.finish {worker : κ} {d : Handout κ} (h : d.Over now) :
    (d.finish worker outboxId).Over now := by
  unfold Handout.finish
  split
  · exact .inl rfl
  · exact h

omit [DecidableEq κ] in
theorem Handout.Over.giveBack {d : Handout κ} (h : d.Over now) : (d.giveBack outboxId).Over now := by
  unfold Handout.giveBack
  split <;> exact h

theorem finish_over {worker : κ} {d : Handout κ} (hworker : d.worker = worker)
    (hid : d.outboxId = outboxId) : (d.finish worker outboxId).Over now := by
  simp [Handout.finish, hworker, hid, Handout.Over]

/-- Once the holder completes, all hand-outs of the message are over. -/
theorem AtWork.completed (h : AtWork now m l) (hstatus : m.status = .publishing) {worker : κ}
    (hholder : ∃ d ∈ l.head?, d.worker = worker) (hid : ∀ d ∈ l, d.outboxId = outboxId) :
    ∀ d ∈ l.map (Handout.finish worker outboxId), d.Over now := by
  obtain ⟨d, rest, rfl, _, hrest⟩ := h.publishing hstatus
  obtain ⟨d', hd', hworker⟩ := hholder
  obtain rfl := Option.some.inj hd'
  intro d'' hd''
  obtain ⟨d₀, hd₀, rfl⟩ := List.mem_map.mp hd''
  rcases List.mem_cons.mp hd₀ with rfl | hd₀
  · exact finish_over hworker (hid _ List.mem_cons_self)
  · exact (hrest d₀ hd₀).finish

/-- A completion in time is one by the holder. -/
theorem AtWork.holder (h : AtWork w.clock m (w.of outboxId)) (hstatus : m.status = .publishing) {worker : κ}
    (hclock : w.clock ≤ e.now) (htimely : Timely w e worker outboxId) :
    ∃ d ∈ (w.of outboxId).head?, d.worker = worker := by
  rcases htimely with ⟨d, hown, hfinished, hbefore⟩ | hholder
  · obtain ⟨first, rest, hof, _, hrest⟩ := h.publishing hstatus
    have hown : (w.of outboxId).find? (fun d => d.worker = worker) = some d := hown
    have hworker : d.worker = worker := by simpa using List.find?_some hown
    have hmem := List.mem_of_find?_eq_some hown
    rw [hof] at hmem
    rcases List.mem_cons.mp hmem with rfl | hmem
    · exact ⟨d, by simp [hof], hworker⟩
    · -- an older hand-out is over, but this one is neither finished nor past its time
      rcases hrest d hmem with hover | hover
      · exact absurd (hfinished.symm.trans hover) (by simp)
      · omega
  · exact hholder

/-- One step of the discipline. -/
theorem AtWork.step (h : AtWork w.clock m (w.of outboxId)) (horderly : Orderly w e)
    (hm : w.message outboxId = some m) (hbecame : Became e outboxId w m m' (w.of outboxId) l') :
    AtWork e.now m' l' := by
  have hclock := horderly.clock
  have hid : ∀ d ∈ w.of outboxId, d.outboxId = outboxId := fun d hd =>
    of_decide_eq_true (List.mem_filter.mp hd).2
  have hlater : AtWork e.now m (w.of outboxId) := by
    refine ⟨fun hstatus d hd => (h.resting hstatus d hd).later hclock, fun hstatus => ?_⟩
    obtain ⟨d, rest, hof, hlocked, hrest⟩ := h.publishing hstatus
    exact ⟨d, rest, hof, hlocked, fun d' hd' => (hrest d' hd').later hclock⟩
  cases hbecame with
  | kept hsame hl =>
    subst hsame hl
    exact hlater
  | ignored worker hsame hl hstatus =>
    subst hsame hl
    refine ⟨fun _ d hd => ?_, fun hpublishing => absurd hpublishing hstatus⟩
    obtain ⟨d', hd', rfl⟩ := List.mem_map.mp hd
    exact (hlater.resting hstatus d' hd').finish
  | leased worker limit leaseFor busy hcall hleasable hsame hl =>
    subst hsame hl
    refine ⟨fun hstatus => absurd rfl hstatus, fun _ => ⟨_, _, rfl, rfl, ?_⟩⟩
    intro d hd
    rcases leasable_cases hleasable with hpending | ⟨hpublishing, hlocked⟩
    · exact hlater.resting (by simp [hpending]) d hd
    -- A message in publication is leased again when its lock is older than the new lease is long, and a
    -- patient lease is no shorter than the one of the holder.
    · obtain ⟨first, rest, hof, hsince, hrest⟩ := hlater.publishing hpublishing
      have hover := hlocked first.since hsince
      have hlong := horderly.patient worker limit leaseFor busy hcall outboxId m hm hpublishing hleasable
        first (by simp [hof])
      rw [hof] at hd
      rcases List.mem_cons.mp hd with rfl | hd
      · right
        omega
      · exact hrest d hd
  | published worker hcall hstatus hsame hl =>
    subst hsame hl
    have htimely := horderly.timely worker outboxId m (.inl hcall) hm hstatus
    have hholder := h.holder hstatus hclock htimely
    refine ⟨fun _ => hlater.completed hstatus hholder hid, fun hpublishing => ?_⟩
    exact absurd hpublishing (by simp [Message.published])
  | retried worker errorCode delay hcall hstatus hsame hl =>
    subst hsame hl
    have htimely := horderly.timely worker outboxId m (.inr ⟨errorCode, delay, hcall⟩) hm hstatus
    have hholder := h.holder hstatus hclock htimely
    refine ⟨fun _ d hd => ?_, fun hpublishing => absurd hpublishing (by simp [Message.retried])⟩
    obtain ⟨d', hd', rfl⟩ := List.mem_map.mp hd
    exact (hlater.completed hstatus hholder hid d' hd').giveBack
  | dead maxAttempts limit hcall hpolicy hswept _ hsame hl =>
    subst hsame hl
    have hstatus := horderly.spared outboxId m ⟨maxAttempts, limit, hcall, hpolicy, hswept⟩ hm
    refine ⟨fun _ => hlater.resting hstatus, fun hpublishing => absurd hpublishing (by simp [Message.dead])⟩

/-- Every message and its hand-outs, in a state of the outbox. -/
def Held (w : World κ) : Prop :=
  ∀ outboxId, (∀ m, w.message outboxId = some m → AtWork w.clock m (w.of outboxId)) ∧
    (w.message outboxId = none → w.of outboxId = [])

omit [DecidableEq κ] in
theorem Held.start : Held ({} : World κ) :=
  fun _ => ⟨fun _ hm => absurd hm (by simp [World.message, Table.lookup, Table.empty]), fun _ => rfl⟩

theorem clock_after (w : World κ) (e : Step κ) : (after w e).clock = e.now := by
  unfold after
  cases e.call <;> dsimp only <;> split <;> rfl

theorem Held.after (h : Held w) (horderly : Orderly w e) : Held (after w e) := by
  intro outboxId
  refine ⟨fun m' hm' => ?_, fun hnone => of_absent hnone (h outboxId).2⟩
  rw [clock_after]
  cases hm : w.message outboxId with
  | some m =>
    obtain ⟨m'', hm'', hbecame⟩ := message_after hm e
    obtain rfl := Option.some.inj (hm'.symm.trans hm'')
    exact ((h outboxId).1 m hm).step horderly hm hbecame
  | none =>
    obtain ⟨hpending, _, hof⟩ := message_new hm ((h outboxId).2 hm) hm'
    rw [hof]
    refine ⟨fun _ d hd => absurd hd (by simp), fun hpublishing => ?_⟩
    exact absurd (hpending.symm.trans hpublishing) (by simp)

/-- A message that is being published is published by the call that says so. -/
theorem marked_after {worker : κ} (hm : w.message outboxId = some m) (hstatus : m.status = .publishing)
    (hcall : e.call = .markPublished worker outboxId) :
    (after w e).message outboxId = some (m.published e.now) := by
  have hneutral : Table.Neutral Clash (Message.published e.now) := neutral_row fun _ => ⟨rfl, rfl, rfl⟩
  have hrow : (w.messages.update (Message.inPublication outboxId) (Message.published e.now) hneutral).lookup
      Message.outboxId outboxId =
        some (if outboxId = outboxId ∧ m.status = .publishing then m.published e.now else m) :=
    completed_after (Message.published e.now) (fun _ => rfl) hneutral hm
  rw [if_pos ⟨rfl, hstatus⟩] at hrow
  unfold after
  rw [hcall]
  exact hrow

theorem fenced (h : Held w) (horderly : Orderly w e) : Fenced (w, e) := by
  intro outboxId m d hm hstatus hd _
  have hwork := (h outboxId).1 m hm
  constructor
  · intro hintrudes
    rcases hintrudes with ⟨worker, hother, hcompletes⟩ | hsweeps
    · have htimely := horderly.timely worker outboxId m hcompletes hm hstatus
      obtain ⟨d', hd', hworker⟩ := hwork.holder hstatus horderly.clock htimely
      obtain rfl := Option.some.inj (hd.symm.trans hd')
      exact absurd hworker.symm hother
    · exact absurd hstatus (horderly.spared outboxId m hsweeps hm)
  · intro hcall
    exact ⟨m.published e.now, marked_after hm hstatus hcall, rfl⟩

/-- As long as every worker completes a message within its own lease, or before anybody else has been
handed it, and sweeps keep off what is being published: nobody ends the work of another, and what has
been published stays so. -/
theorem outbox_fencing {h : List (Step κ)} (horderly : Along after Orderly ({} : World κ) h) :
    (∀ x ∈ trace after ({} : World κ) h, Fenced x) ∧
      ∀ outboxId m, (run after ({} : World κ) h).message outboxId = some m → m.status = .published →
        ∀ h', (run after ({} : World κ) (h ++ h')).message outboxId = some m := by
  have hkeeping := horderly.keeping Held.start fun _ _ hw ho => hw.after ho
  constructor
  · intro x hx
    obtain ⟨hheld, ho⟩ := hkeeping.mem_trace hx
    exact fenced hheld ho
  · intro outboxId m hm hstatus h'
    rw [run_append]
    exact final_run hm (.inl hstatus) h'

end Fencing

section Demo

def demoPublish (worker : Bool) (now : ℕ) : Step Bool := ⟨.markPublished worker "outbox-1", now⟩

def demoSweep (maxAttempts : ℤ) (now : ℕ) : Step Bool := ⟨.deadLetter maxAttempts 100, now⟩

/-- A minute after one worker was handed the message, the other one takes it over. -/
def demoTakenOver : List (Step Bool) := demoLeased 60000000 ++ [demoLease false 60000000 60000000]

end Demo

instance demoLeased_facts : Fact ((run after {} [demoMessage]).handouts = [] ∧
    ⟨"outbox-1", true, 0, 60000000, false, false⟩ ∈
      ((run after {} (demoLeased 60000000)).of "outbox-1").head?) := ⟨by decide +kernel⟩

theorem outbox_fencing_demo :
    Fenced (run after {} (demoLeased 60000000), demoPublish true 30000000) := by
  obtain ⟨hnone, hhanded⟩ := demoLeased_facts.out
  have hhead : ∃ d ∈ ((run after {} (demoLeased 60000000)).of "outbox-1").head?, d.worker = true :=
    ⟨_, hhanded, rfl⟩
  have hmessage : Orderly ({} : World Bool) demoMessage := by
    refine ⟨Nat.le_refl 0, .of_handouts ?_, ?_, ?_⟩
    · exact fun _ _ _ _ hcall => absurd hcall (by simp [demoMessage])
    · exact fun _ _ _ hcompletes => absurd hcompletes (by simp [Step.Completes, demoMessage])
    · exact fun _ _ hsweeps => absurd hsweeps (by simp [Step.Sweeps, demoMessage])
  have hlease : Orderly (run after {} [demoMessage]) (demoLease true 60000000 0) := by
    refine ⟨Nat.le_refl 0, .of_handouts ?_, ?_, ?_⟩
    · intro _ _ _ _ _ d hd
      exact absurd (hnone ▸ hd) List.not_mem_nil
    · exact fun _ _ _ hcompletes => absurd hcompletes (by simp [Step.Completes, demoLease])
    · exact fun _ _ hsweeps => absurd hsweeps (by simp [Step.Sweeps, demoLease])
  have hpublish : Orderly (run after {} (demoLeased 60000000)) (demoPublish true 30000000) := by
    refine ⟨Nat.zero_le _, .of_handouts ?_, ?_, ?_⟩
    · exact fun _ _ _ _ hcall => absurd hcall (by simp [demoPublish])
    · intro worker outboxId m hcompletes _ _
      rcases hcompletes with hcall | ⟨_, _, hcall⟩
      · obtain ⟨rfl, rfl⟩ := Call.markPublished.inj hcall
        exact .inr hhead
      · exact absurd hcall (by simp [demoPublish])
    · exact fun _ _ hsweeps => absurd hsweeps (by simp [Step.Sweeps, demoPublish])
  have horderly : Along after Orderly {} (demoLeased 60000000 ++ [demoPublish true 30000000]) :=
    along_snoc.mpr ⟨⟨hmessage, hlease, trivial⟩, hpublish⟩
  apply (outbox_fencing horderly).1
  rw [trace_snoc]
  exact List.mem_append_right _ (List.mem_singleton_self _)

instance demoTakenOver_facts : Fact (⟨"outbox-1", false, 60000000, 60000000, false, false⟩ ∈
      ((run after {} demoTakenOver).of "outbox-1").head? ∧
    ((run after {} demoTakenOver).message "outbox-1").any
      (fun m => decide (m.status = .publishing)) = true ∧
    (((after (run after {} demoTakenOver) (demoPublish true 61000000)).message "outbox-1").any
      fun m => decide (m.status = .publishing)) = false ∧
    (((after (run after {} demoTakenOver) (demoSweep 2 61000000)).message "outbox-1").any
      fun m => decide (m.status = .publishing)) = false) := ⟨by decide +kernel⟩

/-- A worker whose lease has been taken over publishes the message of the other one, and a sweep
quarantines it at work. -/
theorem taken_over_published : ¬ Fenced (run after {} demoTakenOver, demoPublish true 61000000) ∧
    ¬ Fenced (run after {} demoTakenOver, demoSweep 2 61000000) := by
  obtain ⟨hholder, hany, hpublished, hquarantined⟩ := demoTakenOver_facts.out
  have hstatus : ∃ m, (run after {} demoTakenOver).message "outbox-1" = some m ∧ m.status = .publishing := by
    obtain ⟨m, hm, hpublishing⟩ := (Option.any_eq_true _ _).mp hany
    exact ⟨m, hm, of_decide_eq_true hpublishing⟩
  obtain ⟨m, hm, hpublishing⟩ := hstatus
  have hends : ∀ e : Step Bool, (((after (run after {} demoTakenOver) e).message "outbox-1").any
      fun m => decide (m.status = .publishing)) = false →
        (after (run after {} demoTakenOver) e).message "outbox-1" ≠ some m := by
    intro e hended hsame
    simp [hsame, hpublishing] at hended
  constructor <;> intro hfenced
  · have hkept := (hfenced "outbox-1" m _ hm hpublishing hholder rfl).1
      (.inl ⟨true, by decide, .inl rfl⟩)
    exact hends _ hpublished hkept
  · have hswept : (demoSweep 2 61000000).Sweeps (run after {} demoTakenOver) "outbox-1" :=
      ⟨2, 100, rfl, by omega, by decide +kernel⟩
    have hkept := (hfenced "outbox-1" m _ hm hpublishing hholder rfl).1 (.inr hswept)
    exact hends _ hquarantined hkept

end CommerceAgent.Outbox
