import CommerceAgent.Runtime

/-! The event log of a run: its sequence numbers, and the events that each checkpoint covers. -/
namespace CommerceAgent

open Json Tables Programs

def DB.runEvents (db : DB) (runId : Uuid) : List RunEvent :=
  db.events.select fun e => e.runId = runId

/-- The sequence numbers of a log are 1, 2, 3, … in the order of insertion. -/
def Numbered (l : List RunEvent) : Prop := l.map RunEvent.eventSeq = List.range' 1 l.length

section Rows

variable {runId runId' : Uuid} {stepId : String} {seq : ℕ} {events : List DomainEvent}

@[simp] theorem length_eventRows : (eventRows runId stepId seq events).length = events.length := by
  induction events generalizing seq with
  | nil => rfl
  | cons event events ih => simp [eventRows, ih]

theorem map_eventSeq_eventRows :
    (eventRows runId stepId seq events).map RunEvent.eventSeq =
      List.range' seq events.length := by
  induction events generalizing seq with
  | nil => rfl
  | cons event events ih => simp [eventRows, ih, List.range'_succ]

theorem eventRows_runId {e : RunEvent} (he : e ∈ eventRows runId stepId seq events) :
    e.runId = runId := by
  induction events generalizing seq with
  | nil => exact absurd he (by simp [eventRows])
  | cons event events ih =>
    rcases List.mem_cons.mp he with rfl | he
    · rfl
    · exact ih he

theorem filter_eventRows :
    (eventRows runId stepId seq events).filter (fun e => e.runId = runId') =
      if runId = runId' then eventRows runId stepId seq events else [] := by
  split
  · rename_i hid
    refine List.filter_eq_self.mpr fun e he => ?_
    simp [eventRows_runId he, hid]
  · rename_i hid
    refine List.filter_eq_nil_iff.mpr fun e he => ?_
    simp [eventRows_runId he, hid]

end Rows

section Numbering

variable {db : DB} {runId : Uuid} {l : List RunEvent} {stepId : String}
  {events : List DomainEvent}

theorem foldl_max_range' (n : ℕ) : (List.range' 1 n).foldl max 0 = n := by
  induction n with
  | zero => rfl
  | succ n ih =>
    rw [List.range'_concat, List.foldl_append, ih]
    simp only [List.foldl_cons, List.foldl_nil]
    omega

theorem Numbered.last (h : Numbered (db.runEvents runId)) :
    db.lastEventSeq runId = (db.runEvents runId).length := by
  have hseqs : (db.events.select fun e => e.runId = runId).map RunEvent.eventSeq =
      List.range' 1 (db.runEvents runId).length := h
  rw [DB.lastEventSeq, hseqs, foldl_max_range']

theorem Numbered.append (h : Numbered l) :
    Numbered (l ++ eventRows runId stepId (l.length + 1) events) := by
  have hrange : List.range' 1 (l.length + events.length) =
      List.range' 1 l.length ++ List.range' (l.length + 1) events.length := by
    rw [← List.range'_append, Nat.one_mul, Nat.add_comm 1]
  rw [Numbered, List.map_append, h, map_eventSeq_eventRows, List.length_append, length_eventRows,
    hrange]

end Numbering

/-- The rows that a call added to the log of events, which were none if it raised. -/
def Event.rowsOn (db : DB) : Event → List RunEvent
  | ⟨o, .ok _⟩ => (o.written?.map fun w =>
      eventRows w.1 w.2.1 (db.lastEventSeq w.1 + 1) w.2.2).getD []
  | ⟨_, .error _⟩ => []

/-- Whatever operation is performed, the log of events only grows at its end, by what the
operation writes. -/
theorem Op.Effect.eventsAfter {α : Type} {o : Op α} {db db' : DB} {r : Except Exc α}
    (h : o.Effect db r db') :
    db'.events.rows = db.events.rows ++ Event.rowsOn db ⟨o, r⟩ := by
  cases r with
  | error e =>
    rw [h.error]
    exact (List.append_nil _).symm
  | ok a =>
    cases o with
    | runs t =>
      rcases h with ⟨e, he, _⟩ | ⟨env, a', _, hx⟩
      · exact absurd he (by simp)
      · exact RunTx.events_after hx
    | _ =>
      rw [(h.runs_eq trivial).2.2]
      exact (List.append_nil _).symm

section Seqs

variable {l : List RunEvent} {e : RunEvent} {runId : Uuid} {stepId : String} {seq : ℕ}
  {events : List DomainEvent}

theorem Numbered.bounds (h : Numbered l) (he : e ∈ l) :
    1 ≤ e.eventSeq ∧ e.eventSeq ≤ l.length := by
  have hmem : e.eventSeq ∈ List.range' 1 l.length := by
    rw [← h]
    exact List.mem_map_of_mem he
  rw [List.mem_range'_1] at hmem
  omega

theorem eventRows_bounds (he : e ∈ eventRows runId stepId seq events) :
    seq ≤ e.eventSeq ∧ e.eventSeq < seq + events.length := by
  have hmem : e.eventSeq ∈ List.range' seq events.length := by
    have hseqs : (eventRows runId stepId seq events).map RunEvent.eventSeq =
        List.range' seq events.length := map_eventSeq_eventRows
    rw [← hseqs]
    exact List.mem_map_of_mem he
  rwa [List.mem_range'_1] at hmem

end Seqs

/-- The checkpoint that a commit wrote names exactly the events of that commit. -/
structure Covers (p : CommitStep) (c : RunCheckpoint) (db : DB) : Prop where
  context : c.runId = p.runId ∧ c.stateJson = p.checkpoint ∧ c.stepId = p.nextStep
  length : c.eventToSeq + 1 = c.eventFromSeq + p.events.length
  inside : c.eventToSeq ≤ (db.runEvents c.runId).length
  events : ((db.runEvents c.runId).filter fun e =>
    c.eventFromSeq ≤ e.eventSeq ∧ e.eventSeq ≤ c.eventToSeq) =
      eventRows c.runId p.nextStep c.eventFromSeq p.events

/-- What a call wrote to the log of a run: the step and its events, if it did not raise. -/
def Event.wrote (runId : Uuid) : Event → String × List DomainEvent
  | ⟨o, .ok _⟩ => (o.written?.filter fun w => w.1 = runId).elim ("", []) Prod.snd
  | ⟨_, .error _⟩ => ("", [])

/-- The log of a run after an operation. -/
theorem Op.Effect.runEvents_after {α : Type} {o : Op α} {db db' : DB} {r : Except Exc α}
    (h : o.Effect db r db') {runId : Uuid} (hn : Numbered (db.runEvents runId)) :
    db'.runEvents runId = db.runEvents runId ++
      eventRows runId (Event.wrote runId ⟨o, r⟩).1 ((db.runEvents runId).length + 1)
        (Event.wrote runId ⟨o, r⟩).2 := by
  have hlog : db'.runEvents runId = db.runEvents runId ++
      (Event.rowsOn db ⟨o, r⟩).filter (fun e => e.runId = runId) := by
    rw [DB.runEvents, Table.select, h.eventsAfter, List.filter_append]
    rfl
  rw [hlog]
  congr 1
  cases r with
  | error e => rfl
  | ok a =>
    simp only [Event.rowsOn, Event.wrote]
    cases o.written? with
    | none => rfl
    | some w =>
      obtain ⟨runId', stepId, events⟩ := w
      simp only [Option.map_some, Option.getD_some, filter_eventRows]
      by_cases hid : runId' = runId
      · subst hid
        rw [if_pos rfl, hn.last, Option.filter_some, if_pos (by simp)]
        rfl
      · rw [if_neg hid, Option.filter_some, if_neg (by simpa using hid)]
        rfl

theorem Numbered.after {α : Type} {o : Op α} {db db' : DB} {r : Except Exc α} {runId : Uuid}
    (hn : Numbered (db.runEvents runId)) (h : o.Effect db r db') :
    Numbered (db'.runEvents runId) := by
  rw [h.runEvents_after hn]
  exact hn.append

section Covering

variable {p : CommitStep} {c : RunCheckpoint} {db db' : DB}

/-- A commit covers its own events. -/
theorem CommitStep.Committed.covers {now : ℕ} {run : AgentRun} (h : p.Committed now run db db')
    (hn : Numbered (db.runEvents p.runId)) :
    ∃ c, db'.checkpoints.rows = db.checkpoints.rows ++ [c] ∧ Covers p c db' := by
  refine ⟨_, h.checkpoint, ⟨rfl, rfl, rfl⟩, ?_, ?_, ?_⟩
  · simp only
    omega
  · have hlog : db'.runEvents p.runId = db.runEvents p.runId ++
        eventRows p.runId p.nextStep (db.lastEventSeq p.runId + 1) p.events := by
      rw [DB.runEvents, Table.select, h.events, List.filter_append, filter_eventRows, if_pos rfl]
      rfl
    simp only [hlog, List.length_append, length_eventRows, hn.last]
    omega
  · have hlog : db'.runEvents p.runId = db.runEvents p.runId ++
        eventRows p.runId p.nextStep (db.lastEventSeq p.runId + 1) p.events := by
      rw [DB.runEvents, Table.select, h.events, List.filter_append, filter_eventRows, if_pos rfl]
      rfl
    simp only [hlog, List.filter_append]
    have hold : (db.runEvents p.runId).filter (fun e =>
        db.lastEventSeq p.runId + 1 ≤ e.eventSeq ∧
          e.eventSeq ≤ db.lastEventSeq p.runId + 1 + p.events.length - 1) = [] := by
      refine List.filter_eq_nil_iff.mpr fun e he => ?_
      have hb := hn.bounds he
      rw [hn.last]
      simp only [decide_eq_true_eq]
      omega
    have hnew : (eventRows p.runId p.nextStep (db.lastEventSeq p.runId + 1) p.events).filter
        (fun e => db.lastEventSeq p.runId + 1 ≤ e.eventSeq ∧
          e.eventSeq ≤ db.lastEventSeq p.runId + 1 + p.events.length - 1) =
        eventRows p.runId p.nextStep (db.lastEventSeq p.runId + 1) p.events := by
      refine List.filter_eq_self.mpr fun e he => ?_
      have hb := eventRows_bounds he
      simp only [decide_eq_true_eq]
      omega
    rw [hold, hnew, List.nil_append]

/-- Later operations add no event to what a checkpoint covers. -/
theorem Covers.after {α : Type} {o : Op α} {r : Except Exc α} (hc : Covers p c db)
    (hn : Numbered (db.runEvents c.runId)) (h : o.Effect db r db') : Covers p c db' := by
  have hlog := h.runEvents_after hn
  refine ⟨hc.context, hc.length, ?_, ?_⟩
  · rw [hlog, List.length_append]
    exact hc.inside.trans (Nat.le_add_right _ _)
  · have hnew : (eventRows c.runId (Event.wrote c.runId ⟨o, r⟩).1
        ((db.runEvents c.runId).length + 1) (Event.wrote c.runId ⟨o, r⟩).2).filter
        (fun e => c.eventFromSeq ≤ e.eventSeq ∧ e.eventSeq ≤ c.eventToSeq) = [] := by
      refine List.filter_eq_nil_iff.mpr fun e he => ?_
      have hb := eventRows_bounds he
      have hin := hc.inside
      simp only [decide_eq_true_eq]
      omega
    rw [hlog, List.filter_append, hc.events, hnew, List.append_nil]

end Covering

section Histories

variable {ι : Type} [DecidableEq ι] {α : ι → Type} {procs ps : (i : ι) → Act (α i)} {db₀ db : DB}
  {h : History ι Op Exc DB} {runId : Uuid}

theorem Run.numbered (run : Run store procs db₀ h ps db)
    (h0 : Numbered (db₀.runEvents runId)) : Numbered (db.runEvents runId) :=
  run.state_invariant (J := fun db => Numbered (db.runEvents runId)) h0
    fun _ _ _ _ _ hn hm => hn.after (store_effect hm)

/-- The commit that wrote a checkpoint. -/
structure WrittenBy (c : RunCheckpoint) (p : CommitStep) (e : Happened Op Exc DB) : Prop where
  commit : e.op.commit? = some p
  committed : ∃ now run, p.Committed now run e.before e.after
  written : e.after.checkpoints.rows = e.before.checkpoints.rows ++ [c]

/-- A checkpoint that was not there at the start was written by a commit of the history. -/
theorem Run.written (run : Run store procs db₀ h ps db) {c : RunCheckpoint}
    (hc : c ∈ db.checkpoints.rows) :
    c ∈ db₀.checkpoints.rows ∨ ∃ i e p, (i, e) ∈ h ∧ WrittenBy c p e := by
  induction run with
  | start => exact .inl hc
  | @step h ps db db' i _ o k r run hp hm ih =>
    have hpast : c ∈ db.checkpoints.rows → c ∈ db₀.checkpoints.rows ∨
        ∃ i' e p, (i', e) ∈ h ++ [(i, ⟨⟨o, r⟩, db, db'⟩)] ∧ WrittenBy c p e := by
      intro hold
      rcases ih hold with hstart | ⟨i', e, p, he, hw⟩
      · exact .inl hstart
      · exact .inr ⟨i', e, p, List.mem_append_left _ he, hw⟩
    have heff : o.Effect db r db' := store_effect hm
    by_cases ho : o.SparesRuns
    · rw [(heff.runs_eq ho).2.1] at hc
      exact hpast hc
    · cases heff.writes with
      | runs _ hw =>
        obtain ⟨_, _, rfl⟩ := hw
        exact hpast hc
      | commit _ hcommit hw =>
        have hrows := hw.checkpoint
        rw [hrows] at hc
        rcases List.mem_append.mp hc with hold | hnew
        · exact hpast hold
        · obtain rfl := List.mem_singleton.mp hnew
          exact .inr ⟨i, _, _, List.mem_append_right _ (List.mem_singleton_self _), hcommit,
            ⟨_, _, hw⟩, hrows⟩
      | consume _ _ hw =>
        obtain ⟨_, _, rfl⟩ := hw.others
        exact hpast hc
      | nothing hw =>
        subst hw
        exact hpast hc
      | tokens _ hw | records hw | tickets _ hw | messages _ hw =>
        obtain ⟨_, rfl⟩ := hw
        exact hpast hc

/-- What a commit of the history covered is what its checkpoint still covers. -/
theorem Run.covers (run : Run store procs db₀ h ps db) (h0 : Numbered (db₀.runEvents runId))
    {i : ι} {e : Happened Op Exc DB} (he : (i, e) ∈ h) {c : RunCheckpoint} {p : CommitStep}
    (hw : WrittenBy c p e) (hid : c.runId = runId) : Covers p c db := by
  obtain ⟨h₁, h₂, rfl⟩ := List.append_of_mem he
  obtain ⟨ps₁, ps₂, hpre, hm, _, hrest⟩ := run.entry
  obtain ⟨now, run', hcommitted⟩ := hw.committed
  have hrows := hcommitted.checkpoint
  rw [hw.written] at hrows
  have hc := List.singleton_inj.mp (List.append_cancel_left hrows)
  have hrun : p.runId = runId := by
    rw [← hid, hc]
  have hbefore : Numbered (e.before.runEvents runId) := Run.numbered hpre h0
  obtain ⟨c', hrows', hcovers⟩ := hcommitted.covers (hrun ▸ hbefore)
  rw [hw.written] at hrows'
  obtain rfl := List.singleton_inj.mp (List.append_cancel_left hrows')
  have hafter : Numbered (e.after.runEvents runId) := hbefore.after (store_effect hm)
  refine (hrest.state_invariant (J := fun db => Numbered (db.runEvents runId) ∧ Covers p c db)
    ⟨hafter, hcovers⟩ ?_).2
  rintro db β o r db' ⟨hn, hcov⟩ hm
  have heff : o.Effect db r db' := store_effect hm
  exact ⟨hn.after heff, hcov.after (hid ▸ hn) heff⟩

end Histories

end CommerceAgent
