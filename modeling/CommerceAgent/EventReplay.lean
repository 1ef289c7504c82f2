import CommerceAgent.EventLog
import CommerceAgent.EventDecoding
import CommerceAgent.MutationWorkflow

/-! The pages of `replay_events` over the event log of a run. -/
namespace CommerceAgent

open Json Tables Programs

variable (π : Platform)

section Pages

def checkSequence (runId : Uuid) : ℕ → List ReplayedRunEvent → Except Exc Unit
  | _, [] => .ok ()
  | expected, event :: events => do
    require (event.sequence = expected) "persisted event sequence contains a gap"
    require (event.runId = runId) "persisted event belongs to an unexpected run"
    checkSequence runId (expected + 1) events

/-- The rows that `replay_events` selects. -/
def DB.replayRows (db : DB) (runId : Uuid) (tenantId : String) (actorId : Option String)
    (afterSequence limit : ℕ) : List RunEvent :=
  match (db.run runId).filter fun run =>
      run.tenantId = tenantId ∧ ∀ a ∈ actorId, run.actorRef = a with
  | none => []
  | some _ => (((db.runEvents runId).filter fun e => afterSequence < e.eventSeq).insertionSort
      fun a b => a.eventSeq ≤ b.eventSeq).take limit

def replayEvents (db : DB) (runId : Uuid) (tenantId : String) (actorId : Option String)
    (afterSequence limit : ℕ) : Except Exc (List ReplayedRunEvent) :=
  if tenantId = "" ∨ 64 < tenantId.length then
    .error (.valueError "tenant_id must contain between 1 and 64 characters")
  else if limit < 1 ∨ 500 < limit then .error (.valueError "limit must be between 1 and 500")
  else do
    let events ← (db.replayRows runId tenantId actorId afterSequence limit).mapM
      fun e => fromPersistedRow π (e.persisted π)
    checkSequence runId (afterSequence + 1) events
    .ok events

/-- The pages of a reader that starts each after the last sequence that it was given. -/
def replayPages (db : DB) (runId : Uuid) (tenantId : String) (actorId : Option String) :
    ℕ → List ℕ → Except Exc (List ReplayedRunEvent)
  | _, [] => .ok []
  | afterSequence, limit :: limits => do
    let page ← replayEvents π db runId tenantId actorId afterSequence limit
    let rest ← replayPages db runId tenantId actorId
      ((page.getLast?.map ReplayedRunEvent.sequence).getD afterSequence) limits
    .ok (page ++ rest)

/-- The run is there for a caller that names its tenant, and its actor if it names one. -/
structure DB.Shows (db : DB) (runId : Uuid) (tenantId : String) (actorId : Option String) :
    Prop where
  run : ∃ run, db.run runId = some run ∧ run.tenantId = tenantId ∧ ∀ a ∈ actorId, run.actorRef = a
  tenant : tenantId ≠ "" ∧ tenantId.length ≤ 64

def RunEvent.read (e : RunEvent) : Except Exc ReplayedRunEvent := fromPersistedRow π (e.persisted π)

variable {π} {db : DB} {runId : Uuid} {tenantId : String} {actorId : Option String} {l : List RunEvent}

/-- The rows after a sequence number, in a list that is numbered from `k` on. -/
theorem filter_after {k n : ℕ} (h : l.map RunEvent.eventSeq = List.range' k l.length)
    (hk : k ≤ n + 1) : l.filter (fun e => n < e.eventSeq) = l.drop (n + 1 - k) := by
  induction l generalizing k with
  | nil => simp
  | cons e l ih =>
    rw [List.map_cons, List.length_cons, List.range'_succ] at h
    obtain ⟨hseq, hrest⟩ := List.cons.inj h
    rcases Nat.lt_or_ge n k with hn | hn
    · have hall : ∀ e' ∈ e :: l, n < e'.eventSeq := by
        intro e' he'
        have hmem : e'.eventSeq ∈ List.range' k (l.length + 1) := by
          rw [List.range'_succ, ← h]
          exact List.mem_map_of_mem he'
        rw [List.mem_range'_1] at hmem
        omega
      rw [show n + 1 - k = 0 by omega, List.drop_zero, List.filter_eq_self]
      simpa using hall
    · have hdrop : n + 1 - k = (n + 1 - (k + 1)) + 1 := by omega
      rw [List.filter_cons_of_neg (by simp only [decide_eq_true_eq]; omega), ih hrest (by omega),
        hdrop, List.drop_succ_cons]

theorem Numbered.sorted (h : Numbered l) :
    l.Pairwise fun a b => a.eventSeq ≤ b.eventSeq := by
  have hseqs : (l.map RunEvent.eventSeq).Pairwise (· ≤ ·) := by
    rw [h]
    exact (List.pairwise_lt_range' (s := 1) (n := l.length)).imp fun hab => Nat.le_of_lt hab
  exact List.pairwise_map.mp hseqs

/-- A page is a slice of the log. -/
theorem Numbered.replayRows (h : Numbered (db.runEvents runId))
    (hshow : db.Shows runId tenantId actorId) (n limit : ℕ) :
    db.replayRows runId tenantId actorId n limit = ((db.runEvents runId).drop n).take limit := by
  obtain ⟨run, hrun, howned⟩ := hshow.run
  have hdrop := filter_after h (Nat.le_add_left 1 n)
  rw [Nat.add_sub_cancel] at hdrop
  have hsorted : ((db.runEvents runId).drop n).Pairwise fun a b => a.eventSeq ≤ b.eventSeq :=
    h.sorted.sublist (List.drop_sublist _ _)
  rw [DB.replayRows, hrun, Option.filter_some, if_pos (by simpa using howned), hdrop,
    hsorted.insertionSort_eq]

theorem mapM_read_eq_ok {events : List ReplayedRunEvent} (h : l.mapM (RunEvent.read π) = .ok events) :
    events = l.map (RunEvent.replayed π) := by
  induction l generalizing events with
  | nil => exact (Except.ok.inj h).symm
  | cons e l ih =>
    rw [List.mapM_cons] at h
    obtain ⟨r, hr, h⟩ := Except.bind_eq_ok.mp h
    obtain ⟨rest, hrest, h⟩ := Except.bind_eq_ok.mp h
    obtain rfl := Except.ok.inj h
    rw [eq_replayed hr, ih hrest, List.map_cons]

theorem mapM_read_of_accepted (h : ∀ e ∈ l, e.read π = .ok (e.replayed π)) :
    l.mapM (RunEvent.read π) = .ok (l.map (RunEvent.replayed π)) := by
  induction l with
  | nil => rfl
  | cons e l ih =>
    rw [List.mapM_cons, h e List.mem_cons_self, ih fun e he => h e (List.mem_cons_of_mem _ he)]
    rfl

/-- The sequence check of a page never fails on rows that are numbered without a gap. -/
theorem checkSequence_replayed {k : ℕ} (h : l.map RunEvent.eventSeq = List.range' k l.length)
    (hrun : ∀ e ∈ l, e.runId = runId) :
    checkSequence runId k (l.map (RunEvent.replayed π)) = .ok () := by
  induction l generalizing k with
  | nil => rfl
  | cons e l ih =>
    rw [List.map_cons, List.length_cons, List.range'_succ] at h
    obtain ⟨hseq, hrest⟩ := List.cons.inj h
    have hthis : e.runId = runId := hrun e List.mem_cons_self
    have htail := ih hrest fun e he => hrun e (List.mem_cons_of_mem _ he)
    simp only [List.map_cons, checkSequence, RunEvent.replayed, Except.bind_eq_ok, require_eq_ok]
    exact ⟨(), by simpa using hseq, (), by simpa using hthis, htail⟩

/-- A slice of a numbered list is numbered from its start on. -/
theorem Numbered.slice (h : Numbered l) (n limit : ℕ) :
    ((l.drop n).take limit).map RunEvent.eventSeq =
      List.range' (n + 1) ((l.drop n).take limit).length := by
  rw [List.map_take, List.map_drop, h, List.drop_range', List.length_take, List.length_drop]
  rcases Nat.le_total (l.length - n) limit with hle | hge
  · rw [List.take_range'_of_length_le hle, Nat.min_eq_right hle, Nat.mul_one, Nat.add_comm 1]
  · rw [List.take_range'_of_length_ge hge, Nat.min_eq_left hge, Nat.mul_one, Nat.add_comm 1]

/-- `replay_events` reads a slice of the log and raises only for an event of that slice. -/
theorem replayEvents_eq (h : Numbered (db.runEvents runId)) (hshow : db.Shows runId tenantId actorId)
    (n : ℕ) {limit : ℕ} (hlimit : 1 ≤ limit ∧ limit ≤ 500) :
    replayEvents π db runId tenantId actorId n limit =
      (((db.runEvents runId).drop n).take limit).mapM (RunEvent.read π) := by
  have htenant : ¬ (tenantId = "" ∨ 64 < tenantId.length) := by
    rintro (hempty | hlong)
    · exact hshow.tenant.1 hempty
    · exact absurd hshow.tenant.2 (Nat.not_le_of_lt hlong)
  rw [replayEvents, if_neg htenant, if_neg (by omega), h.replayRows hshow]
  change (((db.runEvents runId).drop n).take limit).mapM (RunEvent.read π) >>= _ = _
  cases hm : (((db.runEvents runId).drop n).take limit).mapM (RunEvent.read π) with
  | error e => rfl
  | ok events =>
    have hrun : ∀ e ∈ ((db.runEvents runId).drop n).take limit, e.runId = runId := by
      intro e he
      have hmem := List.mem_of_mem_drop (List.mem_of_mem_take he)
      simpa using (List.mem_filter.mp hmem).2
    have hcheck : checkSequence runId (n + 1) events = .ok () := by
      rw [mapM_read_eq_ok hm]
      exact checkSequence_replayed (h.slice n limit) hrun
    change (checkSequence runId (n + 1) events >>= fun _ => .ok events) = .ok events
    rw [hcheck]
    rfl

/-- Where the page after this one starts. -/
theorem next_after {n limit : ℕ} {page : List ReplayedRunEvent} (h : Numbered l)
    (hpage : page = ((l.drop n).take limit).map (RunEvent.replayed π)) :
    (page.getLast?.map ReplayedRunEvent.sequence).getD n = n + page.length := by
  have hseqs : page.map ReplayedRunEvent.sequence = List.range' (n + 1) page.length := by
    rw [hpage, List.map_map, List.length_map]
    exact h.slice n limit
  rw [← List.getLast?_map, hseqs]
  cases hlen : page.length with
  | zero => rfl
  | succ k =>
    rw [List.range'_concat, List.getLast?_append]
    simp
    omega

/-- The pages together are a slice of the log, whatever the limits. -/
theorem replayPages_eq (h : Numbered (db.runEvents runId)) (hshow : db.Shows runId tenantId actorId)
    {limits : List ℕ} (hlimits : ∀ limit ∈ limits, 1 ≤ limit ∧ limit ≤ 500) (n : ℕ) :
    replayPages π db runId tenantId actorId n limits =
      (((db.runEvents runId).drop n).take limits.sum).mapM (RunEvent.read π) := by
  induction limits generalizing n with
  | nil => rfl
  | cons limit limits ih =>
    have hrest := ih fun limit' hlimit' => hlimits limit' (List.mem_cons_of_mem _ hlimit')
    have hsplit : ((db.runEvents runId).drop n).take (limit + limits.sum) =
        ((db.runEvents runId).drop n).take limit ++
          ((db.runEvents runId).drop (n + limit)).take limits.sum := by
      rw [List.take_add, List.drop_drop]
    rw [replayPages, replayEvents_eq h hshow n (hlimits limit List.mem_cons_self), List.sum_cons,
      hsplit, List.mapM_append]
    cases hm : (((db.runEvents runId).drop n).take limit).mapM (RunEvent.read π) with
    | error e => rfl
    | ok page =>
      have hpage := mapM_read_eq_ok hm
      have hlength : page.length = min limit ((db.runEvents runId).length - n) := by
        rw [hpage, List.length_map, List.length_take, List.length_drop]
      -- A short page ends the log, so that both slices after it are empty.
      have hdrop : (db.runEvents runId).drop (n + page.length) =
          (db.runEvents runId).drop (n + limit) := by
        rcases Nat.le_total limit ((db.runEvents runId).length - n) with hle | hge
        · rw [hlength, Nat.min_eq_left hle]
        · rw [hlength, Nat.min_eq_right hge, List.drop_of_length_le (by omega),
            List.drop_of_length_le (by omega)]
      change (replayPages π db runId tenantId actorId _ limits >>= _) = (_ >>= _)
      rw [next_after h hpage, hrest, hdrop]
      rfl

end Pages

section Accepted

variable {ι : Type} [DecidableEq ι] {α : ι → Type} {procs ps : (i : ι) → Act (α i)} {db₀ db : DB}
  {h : History ι Op Exc DB} {runId : Uuid}

/-- The events of a run that a call wrote, each with its step. -/
def Event.accepted (runId : Uuid) (event : Event) : List (String × DomainEvent) :=
  (event.wrote runId).2.map fun e => ((event.wrote runId).1, e)

/-- Everything that the calls of a history wrote to the log of a run. -/
def accepted (runId : Uuid) (h : History ι Op Exc DB) : List (String × DomainEvent) :=
  h.flatMap fun e => Event.accepted runId e.2.toCall

def RunEvent.content (e : RunEvent) : String × DomainEvent := (e.stepId, ⟨e.eventType, e.payload⟩)

theorem map_content_eventRows {stepId : String} {seq : ℕ} {events : List DomainEvent} :
    (eventRows runId stepId seq events).map RunEvent.content = events.map fun e => (stepId, e) := by
  induction events generalizing seq with
  | nil => rfl
  | cons event events ih =>
    rw [eventRows, List.map_cons, ih]
    rfl

/-- A run that has not been written to. -/
structure DB.Fresh (db : DB) (runId : Uuid) : Prop where
  events : db.runEvents runId = []
  checkpoints : ∀ c ∈ db.checkpoints.rows, c.runId ≠ runId

theorem DB.Fresh.numbered (h : db.Fresh runId) : Numbered (db.runEvents runId) := by
  rw [h.events]
  rfl

/-- The log of a run is what was accepted for it, in order. -/
theorem Run.log (run : Run store procs db₀ h ps db) (h0 : db₀.Fresh runId) :
    (db.runEvents runId).map RunEvent.content = accepted runId h := by
  induction run with
  | start =>
    rw [h0.events]
    rfl
  | @step h ps db db' i _ o k r run hp hm ih =>
    have heff : o.Effect db r db' := store_effect hm
    rw [heff.runEvents_after (Run.numbered run h0.numbered), List.map_append, map_content_eventRows, ih]
    simp [accepted, Event.accepted]

theorem mem_accepted_ok {β : Type} {o : Op β} {a : β} {w : String × DomainEvent} :
    w ∈ Event.accepted runId ⟨o, .ok a⟩ ↔
      ∃ step events, o.written? = some (runId, step, events) ∧ w.1 = step ∧ w.2 ∈ events := by
  obtain ⟨step, event⟩ := w
  simp only [Event.accepted, Event.wrote, List.mem_map, Prod.mk.injEq]
  cases o.written? with
  | none => simp
  | some w =>
    obtain ⟨runId', step', events⟩ := w
    by_cases hid : runId' = runId
    · rw [Option.filter_some, if_pos (by simpa using hid)]
      simp [hid, and_comm, eq_comm]
    · rw [Option.filter_some, if_neg (by simpa using hid)]
      simp [hid]

/-- What is written with a step fits its column. -/
theorem Op.Effect.accepted_step {β : Type} {o : Op β} {db db' : DB} {r : Except Exc β}
    (h : o.Effect db r db') {w : String × DomainEvent} (hw : w ∈ Event.accepted runId ⟨o, r⟩) :
    w.1.length ≤ 64 := by
  cases r with
  | error e => exact absurd hw (by simp [Event.accepted, Event.wrote])
  | ok a =>
    obtain ⟨step, events, hwritten, hw, hmem⟩ := mem_accepted_ok.mp hw
    rw [hw]
    cases o with
    | runs t =>
      rcases h with ⟨e, he, _⟩ | ⟨env, a', _, hx⟩
      · exact absurd he (by simp)
      · cases t with
        | appendEvent runId' tenantId eventType stepId payload =>
          obtain ⟨_, hrest⟩ := Prod.mk.inj (Option.some.inj hwritten)
          obtain ⟨hstep, _⟩ := Prod.mk.inj hrest
          rw [← hstep, ← String.length_toList, String.toList_ofList]
          exact List.length_take_le _ _
        | commitStep p =>
          obtain ⟨_, hcommit⟩ := commitStepTx_committed hx
          obtain ⟨_, hrest⟩ := Prod.mk.inj (Option.some.inj hwritten)
          obtain ⟨hstep, hevents⟩ := Prod.mk.inj hrest
          rw [← hstep]
          exact hcommit.step (List.ne_nil_of_mem (hevents ▸ hmem))
        | _ => exact absurd hwritten (by simp [Op.written?, RunTx.written?])
    | _ => exact absurd hwritten (by simp [Op.written?])

/-- The step of every event of a run fits its column. -/
theorem Run.step_length (run : Run store procs db₀ h ps db) {w : String × DomainEvent}
    (hw : w ∈ accepted runId h) : w.1.length ≤ 64 := by
  obtain ⟨⟨i, e⟩, he, hwrote⟩ := List.mem_flatMap.mp hw
  obtain ⟨h₁, h₂, rfl⟩ := List.append_of_mem he
  obtain ⟨_, _, _, hm, _⟩ := run.entry
  have heff : e.op.Effect e.before e.answer e.after := store_effect hm
  exact heff.accepted_step hwrote

/-- What the reader does with the log of a run, event by event. -/
theorem Run.read_eq_ok {π : Platform} (hdigest : π.HexDigests) (run : Run store procs db₀ h ps db)
    (h0 : db₀.Fresh runId) {e : RunEvent} (he : e ∈ db.runEvents runId) :
    e.read π = .ok (e.replayed π) ↔ Readable π e.content.1 e.content.2 := by
  have hseq : 1 ≤ e.eventSeq := ((Run.numbered run h0.numbered).bounds he).1
  have hmem : e.content ∈ accepted runId h := by
    rw [← Run.log run h0]
    exact List.mem_map_of_mem he
  refine (fromPersistedRow_eq_ok hdigest hseq (Run.step_length run hmem)).trans ?_
  exact and_iff_left rfl

end Accepted

section Demo

/-- A platform with the SHA-256 digests of the payloads below. -/
def digestPlatform : Platform where
  sha256 := fun s =>
    if s = "\x7b\x22reason\x22:\x22user_rejected\x22\x7d" then
      "f1b8b09db3d6fbdd41be16fbb5c82621eaea21caec6116c1e2405641bd96c02a"
    else if s = "\x7b\x22handoff_ticket_id\x22:\x223f2b8c1e-5d4a-4b7c-9e1f-a13812345678\x22\x7d" then
      "63b3b048caf39289e7bac768d5d6128972ec49eda1cabe8879b6ecab8e45de0f"
    else "78ad4cc73ed1ae2c997a18424766e1329fd89c59a35c0f77a11fdc72a5749e22"
  uuid5 := demoPlatform.uuid5
  isoformat := demoPlatform.isoformat
  repr := demoPlatform.repr
  upper := demoPlatform.upper
  lower := demoPlatform.lower
  isDecimal := demoPlatform.isDecimal
  isWord := demoPlatform.isWord

theorem digestPlatform_hexDigests : digestPlatform.HexDigests := by
  intro s
  simp only [digestPlatform]
  split
  · decide
  · split <;> decide

/-- One writer commits a checkpoint with the events, the other appends an event. -/
def demoWriters (events : List DomainEvent) : Bool → Act ℕ
  | true => checkpoint demoContext .waitingHuman "terminal" [] events
  | false => .perform (.runs (.appendEvent "run" "demo" .failed "terminal"
      [("reason", .str "user_rejected")]))

/-- The events of a rejection, and those of a handover whose ticket id is a random UUID. -/
def plainEvents : List DomainEvent := [⟨.failed, [("reason", .str "user_rejected")]⟩]

def ticketEvents : List DomainEvent :=
  handoffEvents .mutationUncertain "verify_mismatch" (some "3f2b8c1e-5d4a-4b7c-9e1f-a13812345678")

def demoLog (events : List DomainEvent) :
    History Bool Op Exc DB × (Bool → Act ℕ) × DB :=
  play respond ([true, true, false].map fun writer => (writer, demoChoice "event" "" false))
    (demoWriters events) demoSeed

theorem demoLog_run (events : List DomainEvent) :
    Run store (demoWriters events) demoSeed (demoLog events).1 (demoLog events).2.1
      (demoLog events).2.2 :=
  play_run _ _ _ _

theorem demoSeed_fresh : demoSeed.Fresh "run" := ⟨rfl, fun _ hc => absurd hc List.not_mem_nil⟩

/-- The log with the ticket is complete, and the reader refuses its first page. -/
theorem demoLog_facts :
    ((demoLog plainEvents).2.2.runEvents "run").length = 2 ∧
    ((demoLog plainEvents).2.2.run "run").any (fun run => run.tenantId = "demo") = true ∧
    ((demoLog ticketEvents).2.2.runEvents "run").length = 3 ∧
    ((demoLog ticketEvents).2.2.run "run").any (fun run => run.tenantId = "demo") = true ∧
    (replayPages digestPlatform (demoLog ticketEvents).2.2 "run" "demo" none 0 [200]).isOk =
      false := by
  decide +kernel

theorem shows_of_any {db : DB} {runId : Uuid} {tenantId : String}
    (h : (db.run runId).any (fun run => run.tenantId = tenantId) = true)
    (htenant : tenantId ≠ "" ∧ tenantId.length ≤ 64) : db.Shows runId tenantId none := by
  obtain ⟨run, hrun, ht⟩ := (Option.any_eq_true _ _).mp h
  exact ⟨⟨run, hrun, of_decide_eq_true ht, fun _ ha => absurd ha (by simp)⟩, htenant⟩

end Demo

section Integrity

variable {ι : Type} [DecidableEq ι] {α : ι → Type} {procs ps : (i : ι) → Act (α i)} {db₀ db : DB}
  {h : History ι Op Exc DB} {runId : Uuid}

/-- What a reader of the whole log is promised: page by page, the log in order. -/
def PagesShow (π : Platform) (db : DB) (runId : Uuid) : Prop :=
  ∀ (tenantId : String) (actorId : Option String), db.Shows runId tenantId actorId →
    ∀ limits : List ℕ, (∀ limit ∈ limits, 1 ≤ limit ∧ limit ≤ 500) →
      replayPages π db runId tenantId actorId 0 limits =
        .ok (((db.runEvents runId).take limits.sum).map (RunEvent.replayed π))

/-- Each checkpoint of a run was written by a commit, and names exactly its events. -/
def CheckpointsCover (h : History ι Op Exc DB) (db : DB) (runId : Uuid) : Prop :=
  ∀ c ∈ db.checkpoints.rows, c.runId = runId →
    ∃ i e p, (i, e) ∈ h ∧ WrittenBy c p e ∧ Covers p c db

/-- The log of a run has no gap, its checkpoints cover their commits, and its pages are the log
if the reader accepts every event of it. -/
theorem event_log_integrity (run : Run store procs db₀ h ps db) (h0 : db₀.Fresh runId) :
    Numbered (db.runEvents runId) ∧ CheckpointsCover h db runId ∧
      ∀ π : Platform, (∀ e ∈ db.runEvents runId, ∃ r, e.read π = .ok r) → PagesShow π db runId := by
  have hn := Run.numbered run h0.numbered
  refine ⟨hn, ?_, ?_⟩
  · intro c hc hid
    rcases Run.written run hc with hold | ⟨i, e, p, he, hw⟩
    · exact absurd hid (h0.checkpoints c hold)
    · exact ⟨i, e, p, he, hw, Run.covers run h0.numbered he hw hid⟩
  · intro π haccepted tenantId actorId hshow limits hlimits
    rw [replayPages_eq hn hshow hlimits, List.drop_zero]
    refine mapM_read_of_accepted fun e he => ?_
    obtain ⟨r, hr⟩ := haccepted e (List.mem_of_mem_take he)
    rw [hr, eq_replayed hr]

theorem event_log_integrity_demo :
    ((demoLog plainEvents).2.2.runEvents "run").length = 2 ∧
    Numbered ((demoLog plainEvents).2.2.runEvents "run") ∧
    CheckpointsCover (demoLog plainEvents).1 (demoLog plainEvents).2.2 "run" ∧
    ∀ π : Platform, (∀ e ∈ (demoLog plainEvents).2.2.runEvents "run", ∃ r, e.read π = .ok r) →
      PagesShow π (demoLog plainEvents).2.2 "run" :=
  ⟨demoLog_facts.1, event_log_integrity (demoLog_run plainEvents) demoSeed_fresh⟩

/-- A run whose ticket id looks like a phone number is never shown. -/
theorem event_log_not_always_shown :
    ¬ ∀ (db₀ db : DB) (procs ps : Bool → Act ℕ) (h : History Bool Op Exc DB) (runId : Uuid),
      Run store procs db₀ h ps db → db₀.Fresh runId →
      Numbered (db.runEvents runId) ∧ CheckpointsCover h db runId ∧
        ∀ π : Platform, π.HexDigests → PagesShow π db runId := by
  intro hclaim
  obtain ⟨_, _, _, hshow, hrefused⟩ := demoLog_facts
  obtain ⟨_, _, hpages⟩ := hclaim _ _ _ _ _ "run" (demoLog_run ticketEvents) demoSeed_fresh
  have hpage := hpages digestPlatform digestPlatform_hexDigests "demo" none
    (shows_of_any hshow (by decide)) [200] (by decide)
  rw [hpage] at hrefused
  exact absurd hrefused (by simp [Except.isOk, Except.toBool])

/-- What the writers would promise the reader: each row is read as it was written, and no page
is refused. -/
structure ReaderAgrees (π : Platform) (db : DB) (runId : Uuid) (tenantId : String)
    (actorId : Option String) : Prop where
  rows : ∀ e ∈ db.runEvents runId, e.read π = .ok (e.replayed π)
  pages : ∀ n limit, 1 ≤ limit ∧ limit ≤ 500 → replayEvents π db runId tenantId actorId n limit =
    .ok ((((db.runEvents runId).drop n).take limit).map (RunEvent.replayed π))

end Integrity

end CommerceAgent
