import CommerceAgent.EventReplay
import CommerceAgent.Confirmations

/-! The polling loop of `stream_run` beside the writers of a run, and what it has sent when it
returns. -/
namespace CommerceAgent

open Json Tables Programs

section Loop

variable (π : Platform)

/-- One pass of the loop: how many calls the writers have made when its page is read, and how many
when the status is. -/
structure Poll where
  page : ℕ
  status : ℕ

/-- The status that the loop reads makes it return. -/
def DB.streamEnds (db : DB) (runId : Uuid) (actorId : String) : Bool :=
  ((db.run runId).filter fun run =>
    run.tenantId = DEMO_TENANT_ID ∧ run.actorRef = actorId).any fun run =>
      run.status ∈ [RunStatus.completed, .failed, .cancelled, .expired]

/-- `replay_events` for a position that a client has sent. -/
def replayFrom (db : DB) (runId : Uuid) (tenantId : String) (actorId : Option String) :
    ℤ → ℕ → Except Exc (List ReplayedRunEvent)
  | .ofNat afterSequence, limit => replayEvents π db runId tenantId actorId afterSequence limit
  | .negSucc _, _ => .error (.valueError "after_sequence must not be negative")

/-- The events that the generator of `stream_run` yields in these polls, and whether it returned:
its deadline may come after any of them, and a heartbeat carries no event. -/
def streamEvents (moment : ℕ → DB) (runId : Uuid) (actorId : String) :
    ℤ → List Poll → Except Exc (List ReplayedRunEvent × Bool)
  | _, [] => .ok ([], false)
  | cursor, poll :: polls => do
    let batch ← replayFrom π (moment poll.page) runId DEMO_TENANT_ID (some actorId) cursor 200
    let cursor := (batch.getLast?.map fun event => (event.sequence : ℤ)).getD cursor
    if (moment poll.status).streamEnds runId actorId then .ok (batch, true)
    else do
      let (rest, ended) ← streamEvents moment runId actorId cursor polls
      .ok (batch ++ rest, ended)

/-- The polls come one after the other, from a moment on. -/
def Ordered : ℕ → List Poll → Prop
  | _, [] => True
  | n, poll :: polls => n ≤ poll.page ∧ poll.page ≤ poll.status ∧ Ordered poll.status polls

/-- A stream that was opened on a run of its caller and returned at its last poll. -/
structure Streamed (moment : ℕ → DB) (runId : Uuid) (actorId : String) (after : ℤ)
    (polls : List Poll) (last : Poll) (emitted : List ReplayedRunEvent) : Prop where
  opened : ∃ n, (moment n).Shows runId DEMO_TENANT_ID (some actorId) ∧ Ordered n (polls ++ [last])
  goesOn : ∀ poll ∈ polls, (moment poll.status).streamEnds runId actorId = false
  emits : streamEvents π moment runId actorId after (polls ++ [last]) = .ok (emitted, true)

/-- The terminal status that is read at moment `n` was committed by the call before `t`. -/
structure TerminalSince (moment : ℕ → DB) (runId : Uuid) (actorId : String) (t n : ℕ) : Prop where
  le : t ≤ n
  stays : ∀ m, t ≤ m → m ≤ n → (moment m).streamEnds runId actorId = true
  first : ∀ m, m + 1 = t → (moment m).streamEnds runId actorId = false

/-- The events that a stream owes its caller: those that were committed before or with the terminal
status that it read, and those of the terminal response. -/
def Owed (moment : ℕ → DB) (final : DB) (runId : Uuid) (actorId : String) (last : Poll)
    (e : RunEvent) : Prop :=
  e ∈ final.runEvents runId ∧
    ((∃ t, TerminalSince moment runId actorId t last.status ∧ e ∈ (moment t).runEvents runId) ∨
      e.eventType ∈ [.assistantResponse, .terminalResponsePublished])

/-- Every event that is owed was sent, once and in order. -/
structure Delivered (owed : RunEvent → Prop) (after : ℤ) (emitted : List ReplayedRunEvent) :
    Prop where
  ordered : (emitted.map ReplayedRunEvent.sequence).Pairwise (· < ·)
  complete : ∀ e, owed e → after < e.eventSeq → e.replayed π ∈ emitted

/-- Where a page of at most 200 events leaves a stream, in a log of this length. -/
def advanceCursor (cursor length : ℕ) : ℕ := max cursor (min length (cursor + 200))

/-- Where a stream stands after these polls. -/
def reached (moment : ℕ → DB) (runId : Uuid) (after : ℕ) (polls : List Poll) : ℕ :=
  (polls.map fun poll => ((moment poll.page).runEvents runId).length).foldl advanceCursor after

/-- At the last page, every event that is owed is in the log and within one page. -/
def LastPageHolds (moment : ℕ → DB) (runId : Uuid) (after : ℤ) (polls : List Poll) (last : Poll)
    (owed : RunEvent → Prop) : Prop :=
  ∀ e, owed e → after < e.eventSeq → e.eventSeq ≤ ((moment last.page).runEvents runId).length ∧
    e.eventSeq ≤ reached moment runId after.toNat polls + 200

end Loop

section Slices

variable {α : Type} {l : List α}

theorem take_drop_append {a b c : ℕ} (hca : c ≤ a) (hab : a ≤ b) :
    (l.take a).drop c ++ (l.take b).drop a = (l.take b).drop c := by
  rcases Nat.le_total a l.length with ha | ha
  · have hlen : (l.take a).length = a := by
      rw [List.length_take, Nat.min_eq_left ha]
    have hsplit := List.take_append_drop a (l.take b)
    rw [List.take_take, Nat.min_eq_left hab] at hsplit
    have hdrop := congrArg (List.drop c) hsplit
    rw [List.drop_append_of_le_length (by omega)] at hdrop
    exact hdrop
  · have htake : ∀ {n}, a ≤ n → l.take n = l := fun hn => List.take_of_length_le (by omega)
    rw [htake (Nat.le_refl a), htake hab, List.drop_of_length_le ha, List.append_nil]

/-- A page of a log that has grown since is a slice of the longer one. -/
theorem page_eq_slice {page l : List α} (h : page <+: l) (c : ℕ) :
    (page.drop c).take 200 = (l.take (advanceCursor c page.length)).drop c := by
  obtain ⟨rest, rfl⟩ := h
  rcases Nat.le_total page.length c with hlen | hlen
  · have hpage : page.drop c = [] := List.drop_of_length_le hlen
    have hcursor : advanceCursor c page.length = c := by
      unfold advanceCursor
      omega
    rw [hpage, hcursor, List.take_nil, List.drop_of_length_le (by rw [List.length_take]; omega)]
  · have hcursor : advanceCursor c page.length = min (c + 200) page.length := by
      unfold advanceCursor
      omega
    have hlength : (page.drop c).length = page.length - c := List.length_drop
    rw [hcursor, List.drop_take, List.drop_append_of_le_length hlen,
      List.take_append_of_le_length (by omega)]
    rcases Nat.le_total (c + 200) page.length with hfull | hshort
    · rw [Nat.min_eq_left hfull, Nat.add_sub_cancel_left]
    · rw [Nat.min_eq_right hshort, List.take_of_length_le (by omega),
        List.take_of_length_le (by omega)]

end Slices

section Growth

variable {ι : Type} [DecidableEq ι] {α : ι → Type} {procs ps : (i : ι) → Act (α i)} {db₀ db : DB}
  {h : History ι Op Exc DB} {runId : Uuid} {tenantId : String} {actorId : Option String}

theorem owner_rowAfter {α : Type} (t : RunTx α) (now : ℕ) (run : AgentRun) :
    (t.rowAfter now run).tenantId = run.tenantId ∧
      (t.rowAfter now run).actorRef = run.actorRef := by
  cases t with
  | selectRoute id tenantId decision =>
    simp only [RunTx.rowAfter, AgentRun.select]
    split
    · cases decision.outcome <;> exact ⟨rfl, rfl⟩
    · exact ⟨rfl, rfl⟩
  | loadRun | appendEvent | loadLatestCheckpoint | createRun | activeForConversation
  | recoverableRuns => exact ⟨rfl, rfl⟩
  | _ =>
    simp only [RunTx.rowAfter]
    split <;> exact ⟨rfl, rfl⟩

/-- A run that is shown to a caller stays so. -/
theorem DB.Shows.effect {β : Type} {o : Op β} {db db' : DB} {r : Except Exc β}
    (hshow : db.Shows runId tenantId actorId) (h : o.Effect db r db') :
    db'.Shows runId tenantId actorId := by
  obtain ⟨⟨run, hrow, htenant, hactor⟩, hvalid⟩ := hshow
  by_cases ho : o.SparesRuns
  · refine ⟨⟨run, ?_, htenant, hactor⟩, hvalid⟩
    rw [DB.run, (h.runs_eq ho).1]
    exact hrow
  · cases o with
    | runs t =>
      rcases h with ⟨_, _, rfl⟩ | ⟨env, a, _, hx⟩
      · exact ⟨⟨run, hrow, htenant, hactor⟩, hvalid⟩
      · obtain ⟨ht, ha⟩ := owner_rowAfter t env.now run
        refine ⟨⟨_, RunTx.run_after hx hrow, ht.trans htenant, ?_⟩, hvalid⟩
        intro a' ha'
        exact ha.trans (hactor a' ha')
    | _ => exact absurd trivial ho

theorem Run.shows (run : Run store procs db₀ h ps db)
    (hshow : db₀.Shows runId tenantId actorId) : db.Shows runId tenantId actorId := by
  refine run.state_invariant (J := fun d => d.Shows runId tenantId actorId) hshow ?_
  intro d β o r d' hs hm
  exact hs.effect (store_effect hm)

/-- The log of a run only grows. -/
theorem Run.log_grows (run : Run store procs db₀ h ps db) (hn : Numbered (db₀.runEvents runId)) :
    db₀.runEvents runId <+: db.runEvents runId := by
  have hboth : Numbered (db.runEvents runId) ∧ db₀.runEvents runId <+: db.runEvents runId := by
    refine run.state_invariant (J := fun d => Numbered (d.runEvents runId) ∧
      db₀.runEvents runId <+: d.runEvents runId) ⟨hn, List.prefix_rfl⟩ ?_
    intro d β o r d' hd hm
    have heff : o.Effect d r d' := store_effect hm
    refine ⟨hd.1.after heff, hd.2.trans ?_⟩
    rw [heff.runEvents_after hd.1]
    exact List.prefix_append _ _
  exact hboth.2

/-- The log at a moment is a prefix of the log at each later one, and numbered. -/
theorem Run.moments (run : Run store procs db₀ h ps db) (h0 : db₀.Fresh runId) {m n : ℕ}
    (hmn : m ≤ n) :
    Numbered ((stateAt db₀ h m).runEvents runId) ∧
      (stateAt db₀ h m).runEvents runId <+: (stateAt db₀ h n).runEvents runId := by
  obtain ⟨_, _, _, hearlier, hlater⟩ := run.between hmn
  have hn := Run.numbered hearlier h0.numbered
  exact ⟨hn, Run.log_grows hlater hn⟩

theorem Run.log_at (run : Run store procs db₀ h ps db) (h0 : db₀.Fresh runId) (n : ℕ) :
    (stateAt db₀ h n).runEvents runId <+: db.runEvents runId := by
  rw [run.last]
  rcases Nat.le_total n h.length with hn | hn
  · exact (Run.moments run h0 hn).2
  · rw [stateAt, stateAt, List.take_length, List.take_of_length_le hn]

theorem Run.shows_later (run : Run store procs db₀ h ps db) {m n : ℕ} (hmn : m ≤ n)
    (hshow : (stateAt db₀ h m).Shows runId tenantId actorId) :
    (stateAt db₀ h n).Shows runId tenantId actorId := by
  obtain ⟨_, _, _, _, hlater⟩ := run.between hmn
  exact Run.shows hlater hshow

end Growth

section Delivery

variable {ι : Type} [DecidableEq ι] {α : ι → Type} {procs ps : (i : ι) → Act (α i)} {db₀ db : DB}
  {h : History ι Op Exc DB} {runId : Uuid} {actorId : String} {π : Platform} {polls : List Poll}
  {last : Poll} {emitted : List ReplayedRunEvent}

theorem Ordered.le_last {n : ℕ} (h : Ordered n (polls ++ [last])) :
    n ≤ last.page ∧ last.page ≤ last.status := by
  induction polls generalizing n with
  | nil => exact ⟨h.1, h.2.1⟩
  | cons poll polls ih =>
    obtain ⟨hn, hpoll, hrest⟩ := h
    obtain ⟨hpage, hstatus⟩ := ih hrest
    exact ⟨by omega, hstatus⟩

/-- What one page sends, and where it leaves the stream. -/
theorem replayFrom_eq {db : DB} (hn : Numbered (db.runEvents runId))
    (hshow : db.Shows runId DEMO_TENANT_ID (some actorId)) {c : ℕ} {batch : List ReplayedRunEvent}
    (h : replayFrom π db runId DEMO_TENANT_ID (some actorId) c 200 = .ok batch) :
    batch = (((db.runEvents runId).drop c).take 200).map (RunEvent.replayed π) ∧
      (batch.getLast?.map fun event => (event.sequence : ℤ)).getD c =
        advanceCursor c (db.runEvents runId).length := by
  have hpage : replayEvents π db runId DEMO_TENANT_ID (some actorId) c 200 = .ok batch := h
  rw [replayEvents_eq hn hshow c (by omega)] at hpage
  have hbatch := mapM_read_eq_ok hpage
  have hnext := next_after hn hbatch
  have hlength : batch.length = min 200 ((db.runEvents runId).length - c) := by
    rw [hbatch, List.length_map, List.length_take, List.length_drop]
  have hcast : (batch.getLast?.map fun event => (event.sequence : ℤ)).getD c =
      (((batch.getLast?.map ReplayedRunEvent.sequence).getD c : ℕ) : ℤ) := by
    cases batch.getLast? with
    | none => rfl
    | some event => rfl
  refine ⟨hbatch, ?_⟩
  rw [hcast, hnext, hlength]
  unfold advanceCursor
  omega

theorem le_advanceCursor (c length : ℕ) : c ≤ advanceCursor c length := Nat.le_max_left _ _

theorem le_reached (moment : ℕ → DB) (c : ℕ) (polls : List Poll) :
    c ≤ reached moment runId c polls := by
  induction polls generalizing c with
  | nil => exact Nat.le_refl c
  | cons poll polls ih =>
    exact (le_advanceCursor c _).trans (ih _)

/-- What a stream that returned has sent is a slice of the log that its last page read. -/
theorem streamEvents_eq (run : Run store procs db₀ h ps db) (h0 : db₀.Fresh runId) {n c : ℕ}
    (hshow : (stateAt db₀ h n).Shows runId DEMO_TENANT_ID (some actorId))
    (hord : Ordered n (polls ++ [last]))
    (hgoes : ∀ poll ∈ polls, (stateAt db₀ h poll.status).streamEnds runId actorId = false)
    (hemits : streamEvents π (stateAt db₀ h) runId actorId c (polls ++ [last]) =
      .ok (emitted, true)) :
    emitted = ((((stateAt db₀ h last.page).runEvents runId).take
        (reached (stateAt db₀ h) runId c (polls ++ [last]))).drop c).map (RunEvent.replayed π) ∧
      (stateAt db₀ h last.status).streamEnds runId actorId = true := by
  induction polls generalizing n c emitted with
  | nil =>
    obtain ⟨batch, hbatch, hrest⟩ := Except.bind_eq_ok.mp hemits
    have hnum := (Run.moments run h0 (Nat.le_refl last.page)).1
    obtain ⟨rfl, hcursor⟩ := replayFrom_eq hnum (Run.shows_later run hord.1 hshow) hbatch
    by_cases hend : (stateAt db₀ h last.status).streamEnds runId actorId = true
    · rw [if_pos hend] at hrest
      obtain ⟨rfl, _⟩ := Prod.mk.inj (Except.ok.inj hrest)
      refine ⟨?_, hend⟩
      rw [page_eq_slice List.prefix_rfl]
      rfl
    · rw [if_neg hend] at hrest
      change Except.ok (_, false) = _ at hrest
      exact absurd (Prod.mk.inj (Except.ok.inj hrest)).2 Bool.false_ne_true
  | cons poll polls ih =>
    obtain ⟨hn, hpoll, hlater⟩ := hord
    obtain ⟨batch, hbatch, hrest⟩ := Except.bind_eq_ok.mp hemits
    have hpage := hlater.le_last.1
    obtain ⟨hnum, hgrown⟩ := Run.moments run h0 (hpoll.trans hpage)
    have hshown := Run.shows_later run hn hshow
    obtain ⟨rfl, hcursor⟩ := replayFrom_eq hnum hshown hbatch
    have hgo : ¬ (stateAt db₀ h poll.status).streamEnds runId actorId = true := by
      rw [hgoes poll List.mem_cons_self]
      exact Bool.false_ne_true
    rw [if_neg hgo, hcursor] at hrest
    obtain ⟨⟨rest, ended⟩, hstream, hrest⟩ := Except.bind_eq_ok.mp hrest
    obtain ⟨rfl, rfl⟩ := Prod.mk.inj (Except.ok.inj hrest)
    obtain ⟨rfl, hend⟩ := ih (Run.shows_later run hpoll hshown) hlater
      (fun p hp => hgoes p (List.mem_cons_of_mem _ hp)) hstream
    refine ⟨?_, hend⟩
    rw [page_eq_slice hgrown, ← List.map_append,
      take_drop_append (le_advanceCursor c _) (le_reached _ _ _)]
    rfl

theorem Numbered.getElem? {l : List RunEvent} {e : RunEvent} (h : Numbered l) (he : e ∈ l) :
    l[e.eventSeq - 1]? = some e ∧ 1 ≤ e.eventSeq := by
  obtain ⟨i, hi⟩ := List.mem_iff_getElem?.mp he
  have hlt := (List.getElem?_eq_some_iff.mp hi).1
  have hseq : (l.map RunEvent.eventSeq)[i]? = some e.eventSeq := by
    rw [List.getElem?_map, hi]
    rfl
  rw [h, List.getElem?_range' hlt] at hseq
  have hpos : 1 + 1 * i = e.eventSeq := Option.some.inj hseq
  have hindex : e.eventSeq - 1 = i := by omega
  rw [hindex]
  exact ⟨hi, by omega⟩

/-- What a slice of a log holds, among the events of the log as it is later. -/
theorem Numbered.mem_slice {l l' : List RunEvent} {b c : ℕ} {e : RunEvent} (h : Numbered l')
    (hl : l <+: l') (he : e ∈ l') (hlow : c < e.eventSeq) (hhigh : e.eventSeq ≤ b)
    (hlen : e.eventSeq ≤ l.length) : e ∈ (l.take b).drop c := by
  obtain ⟨hget, hpos⟩ := h.getElem? he
  obtain ⟨rest, rfl⟩ := hl
  rw [List.getElem?_append_left (by omega)] at hget
  have hindex : c + (e.eventSeq - 1 - c) = e.eventSeq - 1 := by omega
  refine List.mem_of_getElem? (i := e.eventSeq - 1 - c) ?_
  rw [List.getElem?_drop, hindex, List.getElem?_take_of_lt (by omega)]
  exact hget

theorem Numbered.slice_seqs {l : List RunEvent} (h : Numbered l) (b c : ℕ) :
    ((l.take b).drop c).map RunEvent.eventSeq =
      List.range' (c + 1) ((l.take b).drop c).length := by
  rw [List.drop_take]
  exact h.slice c (b - c)

/-- When `stream_run` returns at a terminal status, it has sent every event that it owes, once and
in order, exactly when its last page found them all in the log and within reach. -/
theorem stream_delivers_iff {after : ℤ} (run : Run store procs db₀ h ps db)
    (h0 : db₀.Fresh runId)
    (hstream : Streamed π (stateAt db₀ h) runId actorId after polls last emitted) :
    Delivered π (Owed (stateAt db₀ h) db runId actorId last) after emitted ↔
      LastPageHolds (stateAt db₀ h) runId after polls last
        (Owed (stateAt db₀ h) db runId actorId last) := by
  obtain ⟨⟨n, hshow, hord⟩, hgoes, hemits⟩ := hstream
  cases after with
  | negSucc k =>
    -- A negative position is refused by the first page.
    cases polls with
    | nil | cons =>
      obtain ⟨batch, hbatch, _⟩ := Except.bind_eq_ok.mp hemits
      exact absurd hbatch (by simp [replayFrom])
  | ofNat c =>
    obtain ⟨rfl, _⟩ := streamEvents_eq run h0 hshow hord hgoes hemits
    obtain ⟨hnum, _⟩ := Run.moments run h0 (Nat.le_refl last.page)
    have hfinal : Numbered (db.runEvents runId) := Run.numbered run h0.numbered
    have hgrown := Run.log_at run h0 last.page
    have hreach : reached (stateAt db₀ h) runId c (polls ++ [last]) =
        advanceCursor (reached (stateAt db₀ h) runId c polls)
          ((stateAt db₀ h last.page).runEvents runId).length := by
      simp [reached]
    have hle : c ≤ reached (stateAt db₀ h) runId c polls := le_reached _ c polls
    have hseqs := hnum.slice_seqs (reached (stateAt db₀ h) runId c (polls ++ [last])) c
    constructor
    · intro hdelivered e howed hafter
      obtain ⟨e', he', hsame⟩ := List.mem_map.mp (hdelivered.complete e howed hafter)
      have hseq : e'.eventSeq = e.eventSeq := congrArg ReplayedRunEvent.sequence hsame
      have hmem := List.mem_map_of_mem (f := RunEvent.eventSeq) he'
      rw [hseqs, List.mem_range'_1, List.length_drop, List.length_take, hreach, hseq] at hmem
      unfold advanceCursor at hmem
      change _ ∧ e.eventSeq ≤ reached _ _ c polls + 200
      have hafter' : c < e.eventSeq := Int.ofNat_lt.mp hafter
      omega
    · intro hholds
      refine ⟨?_, ?_⟩
      · rw [List.map_map]
        change (List.map RunEvent.eventSeq _).Pairwise (· < ·)
        rw [hseqs]
        exact List.pairwise_lt_range'
      · intro e howed hafter
        obtain ⟨hlen, hpage⟩ := hholds e howed hafter
        have hlow : c < e.eventSeq := Int.ofNat_lt.mp hafter
        apply List.mem_map_of_mem
        apply hfinal.mem_slice hgrown howed.1 hlow ?_ hlen
        rw [hreach]
        unfold advanceCursor
        change e.eventSeq ≤ reached _ _ c polls + 200 at hpage
        omega

end Delivery

section Demo

/-- A run of the tenant that the routes serve. -/
def streamSeed : DB where
  conversations := .single ⟨"conv", DEMO_TENANT_ID, "demo-user-001"⟩
  runs := .single { demoRun with tenantId := DEMO_TENANT_ID }

/-- A worker that marks the run failed and publishes its terminal response. -/
def demoFailing : Unit → Act Unit := fun _ =>
  markFailed digestPlatform (fun _ _ _ => pure ()) { demoContext with tenantId := DEMO_TENANT_ID }
    "AGENT_TIMEOUT"

def demoFailed : History Unit Op Exc DB × (Unit → Act Unit) × DB :=
  play respond (List.replicate 6 ((), demoChoice "message-1" "" false)) demoFailing streamSeed

def demoStream (polls : List Poll) : Except Exc (List ReplayedRunEvent × Bool) :=
  streamEvents digestPlatform (stateAt streamSeed demoFailed.1) "run" "demo-user-001" 0 polls

theorem demoFailed_run :
    Run store demoFailing streamSeed demoFailed.1 demoFailed.2.1 demoFailed.2.2 :=
  play_run _ _ _ _

theorem streamSeed_fresh : streamSeed.Fresh "run" := ⟨rfl, fun _ hc => absurd hc List.not_mem_nil⟩

theorem streamSeed_shows : streamSeed.Shows "run" DEMO_TENANT_ID (some "demo-user-001") :=
  ⟨⟨_, rfl, rfl, fun _ ha => (Option.some.inj ha)⟩, by decide, by decide⟩

theorem exists_sent {β : Type} {x : Except Exc β} {p : β → Bool} (h : x.toOption.any p = true) :
    ∃ a, x = .ok a ∧ p a = true := by
  cases x with
  | error e => exact absurd h (by simp [Except.toOption])
  | ok a => exact ⟨a, rfl, h⟩

/-- A stream that polls once more after the failure is complete, and one that polls between the
failure and its announcement sends nothing. -/
instance demoStream_facts : Fact ((demoStream [⟨0, 0⟩, ⟨6, 6⟩]).toOption.any Prod.snd = true ∧
    (demoStream [⟨1, 1⟩]).toOption.any (fun sent => sent.1.isEmpty && sent.2) = true ∧
    streamSeed.streamEnds "run" "demo-user-001" = false ∧
    (demoFailed.2.2.runEvents "run").any
      (fun e => e.eventType = .terminalResponsePublished ∧ 0 < e.eventSeq) = true) :=
  ⟨by decide +kernel⟩

theorem stream_delivers_iff_demo :
    ∃ emitted, Delivered digestPlatform (Owed (stateAt streamSeed demoFailed.1) demoFailed.2.2 "run"
        "demo-user-001" ⟨6, 6⟩) 0 emitted ↔
      LastPageHolds (stateAt streamSeed demoFailed.1) "run" 0 [⟨0, 0⟩] ⟨6, 6⟩
        (Owed (stateAt streamSeed demoFailed.1) demoFailed.2.2 "run" "demo-user-001" ⟨6, 6⟩) := by
  obtain ⟨hended, _, hopen, _⟩ := demoStream_facts.out
  obtain ⟨⟨emitted, ended⟩, hemits, hended⟩ := exists_sent hended
  obtain rfl : ended = true := hended
  have hmoments : Ordered 0 [⟨0, 0⟩, ⟨6, 6⟩] := by
    simp [Ordered]
  refine ⟨emitted, stream_delivers_iff demoFailed_run streamSeed_fresh
    ⟨⟨0, streamSeed_shows, hmoments⟩, ?_, hemits⟩⟩
  intro poll hpoll
  rw [List.mem_singleton.mp hpoll]
  exact hopen

/-- The announcement of a failure is not sent to a caller whose stream sees the failure first. -/
theorem stream_loses_response :
    ¬ ∀ (π : Platform) (db₀ db : DB) (procs ps : Unit → Act Unit) (h : History Unit Op Exc DB)
      (runId : Uuid) (actorId : String) (after : ℤ) (polls : List Poll) (last : Poll)
      (emitted : List ReplayedRunEvent), Run store procs db₀ h ps db → db₀.Fresh runId →
      Streamed π (stateAt db₀ h) runId actorId after polls last emitted →
      Delivered π (Owed (stateAt db₀ h) db runId actorId last) after emitted := by
  intro hclaim
  obtain ⟨_, hsent, _, hannounced⟩ := demoStream_facts.out
  obtain ⟨⟨emitted, ended⟩, hemits, hsent⟩ := exists_sent hsent
  obtain ⟨hempty, hended⟩ := (Bool.and_eq_true _ _).mp hsent
  obtain rfl : ended = true := hended
  obtain ⟨e, he, hkind⟩ := List.any_eq_true.mp hannounced
  obtain ⟨hkind, hpos⟩ := of_decide_eq_true hkind
  have hmoments : Ordered 0 [⟨1, 1⟩] := by
    simp [Ordered]
  have hdelivered := hclaim _ _ _ _ _ _ "run" "demo-user-001" 0 [] ⟨1, 1⟩ emitted demoFailed_run
    streamSeed_fresh ⟨⟨0, streamSeed_shows, hmoments⟩, fun _ hp => absurd hp List.not_mem_nil,
      hemits⟩
  have howed : Owed (stateAt streamSeed demoFailed.1) demoFailed.2.2 "run" "demo-user-001" ⟨1, 1⟩ e := by
    refine ⟨he, Or.inr ?_⟩
    rw [hkind]
    exact List.mem_cons_of_mem _ List.mem_cons_self
  have hsent := hdelivered.complete e howed (Int.ofNat_lt.mpr hpos)
  have hnil : emitted = [] := List.isEmpty_iff.mp hempty
  rw [hnil] at hsent
  exact absurd hsent List.not_mem_nil

end Demo

end CommerceAgent
