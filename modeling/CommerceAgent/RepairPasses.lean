import CommerceAgent.TerminalRepair

/-! Complete runs of the repair over all ended runs of a tenant: which of them are answered. -/
namespace CommerceAgent

open Json Tables Programs Histories

/-- What can be repaired: the context validates, its answer is a message, and its conversation is
there. -/
structure Repairable (π : Platform) (tenantId : String) (run : AgentRun) (db : DB) : Prop where
  bounded : (contextData tenantId run run.actorRef db).Bounded
  steps : (contextData tenantId run run.actorRef db).stepCount ≤ 6
  content : ∃ input, assistantInput π (contextData tenantId run run.actorRef db)
    (Publication.content π { context := contextData tenantId run run.actorRef db }) = .ok input
  owned : db.ownsConversation run.conversationId tenantId run.actorRef = true

/-- The run has its one answer and its one announcement. -/
structure DB.Answered (db : DB) (runId : Uuid) : Prop where
  message : (db.terminalMessages runId).length = 1
  event : (db.announcements runId).length = 1

/-- Nothing of the answer of the run is stored. -/
structure DB.Untouched (db : DB) (runId : Uuid) : Prop where
  message : db.terminalMessages runId = []
  event : db.announcements runId = []

/-- What a step of the repair makes of the answer of a run, which it publishes if `fixed`. -/
structure Outcome (fixed : Prop) (runId : Uuid) (db db' : DB) : Prop where
  fixes : fixed → (db'.terminalMessages runId).length = 1 ∧
    (db'.announcements runId).length = (db.announcements runId).length + 1
  spares : ¬ fixed → db'.terminalMessages runId = db.terminalMessages runId ∧
    db'.announcements runId = db.announcements runId

section Rows

variable {π : Platform} {tenantId : String} {db db' : DB} {run : AgentRun} {pass : Repairing}
  {uuid runId : Uuid}

theorem Published.outcome (h : Published uuid runId db db') (hnone : db.terminalMessages runId = [])
    (id : Uuid) : Outcome (id = runId) id db db' := by
  obtain ⟨m, hmessages, _, hrun, hrole, hterminal⟩ := h.messages
  obtain ⟨e, e', hevents, hid, htype, hid', htype'⟩ := h.events
  have hanswers : db'.terminalMessages id = db.terminalMessages id ++
      if id = runId then [m] else [] := by
    rw [DB.terminalMessages, Table.select, hmessages, List.filter_append]
    split
    · rename_i heq
      simp [DB.terminalMessages, Table.select, hrun, hrole, hterminal, heq]
    · rename_i hne
      simp [DB.terminalMessages, Table.select, hrun, Ne.symm hne]
  have hannounced : db'.announcements id = db.announcements id ++
      if id = runId then [e'] else [] := by
    rw [DB.announcements, Table.select, hevents, List.filter_append]
    split
    · rename_i heq
      simp [DB.announcements, Table.select, htype, hid', htype', heq]
    · rename_i hne
      simp [DB.announcements, Table.select, htype, hid', Ne.symm hne]
  refine ⟨?_, ?_⟩
  · rintro rfl
    rw [hanswers, hannounced, hnone]
    simp
  · intro hne
    rw [hanswers, hannounced]
    simp [hne]

theorem Published.checks (h : Published uuid runId db db') (hchecks : db.Checks) : db'.Checks := by
  refine ⟨h.toUnmoved.checked hchecks.runs, ?_⟩
  intro m hm hterminal
  obtain ⟨m', hmessages, _, _, hrole, _⟩ := h.messages
  rw [hmessages] at hm
  rcases List.mem_append.mp hm with hm | hm
  · exact hchecks.answers m hm hterminal
  · rw [List.mem_singleton.mp hm]
    exact hrole

/-- The row as the scan found it stands in the database. -/
def Stood (run : AgentRun) (db : DB) : Prop :=
  ∃ row, db.run run.runId = some row ∧ row.standing = run.standing

theorem Stood.kept (h : Stood run db) (hkept : Unmoved db db') : Stood run db' := by
  obtain ⟨row, hrow, hsame⟩ := h
  have hstanding := hkept.run run.runId
  rw [hrow, Option.map_some] at hstanding
  obtain ⟨row', hrow', hsame'⟩ := Option.map_eq_some_iff.mp hstanding
  exact ⟨row', hrow', hsame'.trans hsame⟩

theorem Stood.of_mem (h : run ∈ db.runs.rows) : Stood run db :=
  ⟨run, (Table.lookup_eq_some fun _ _ hid => .inl hid).mpr ⟨h, rfl⟩, rfl⟩

theorem Stood.actor (h : Stood run db) (htenant : run.tenantId = tenantId) :
    actorForRun run.runId tenantId db = some run.actorRef := by
  obtain ⟨row, hrow, hsame⟩ := h
  simp only [AgentRun.standing, Prod.mk.injEq] at hsame
  obtain ⟨_, _, hrowTenant, hactor, _⟩ := hsame
  unfold actorForRun
  rw [hrow, Option.filter_some, if_pos (by simpa using hrowTenant.trans htenant), Option.map_some,
    hactor]

theorem Unmoved.repairable (h : Unmoved db db') :
    Repairable π tenantId run db' ↔ Repairable π tenantId run db := by
  have hdata : contextData tenantId run run.actorRef db' =
      contextData tenantId run run.actorRef db := by
    unfold contextData DB.latestCheckpoint
    rw [h.checkpoints]
  have howned : db'.ownsConversation run.conversationId tenantId run.actorRef =
      db.ownsConversation run.conversationId tenantId run.actorRef := by
    unfold DB.ownsConversation
    rw [h.conversations]
  constructor
  · rintro ⟨hbounded, hsteps, hcontent, hown⟩
    rw [hdata] at hbounded hsteps hcontent
    exact ⟨hbounded, hsteps, hcontent, howned ▸ hown⟩
  · rintro ⟨hbounded, hsteps, hcontent, hown⟩
    rw [← hdata] at hbounded hsteps hcontent
    exact ⟨hbounded, hsteps, hcontent, howned ▸ hown⟩

/-- A run that can be repaired is. -/
theorem repairRow_published (h : Repairable π tenantId run db) (hstood : Stood run db)
    (htenant : run.tenantId = tenantId) (hterminal : run.status.IsTerminal) (hchecks : db.Checks)
    (hnone : db.terminalMessages run.runId = [])
    (hfresh : ∀ m ∈ db.messages.rows, m.messageId ≠ (pass.env run.runId).uuid) :
    Published (pass.env run.runId).uuid run.runId db (repairRow π tenantId pass db run) := by
  have hvalid : repairContext tenantId run db = .ok (contextData tenantId run run.actorRef db) := by
    unfold repairContext
    rw [hstood.actor htenant]
    exact RunContext.modelValidate_eq_ok.mpr ⟨rfl, h.bounded, h.steps⟩
  obtain ⟨input, hinput⟩ := h.content
  have hfound : Publication.Found { context := contextData tenantId run run.actorRef db } db := by
    obtain ⟨row, hrow, hsame⟩ := hstood
    simp only [AgentRun.standing, Prod.mk.injEq] at hsame
    exact ⟨row, hrow, hsame.2.2.1.trans htenant⟩
  unfold repairRow
  rw [hvalid]
  exact Publication.publishes (p := { context := contextData tenantId run run.actorRef db }) hterminal
    hinput hchecks hfound h.owned hnone hfresh

/-- A run that cannot be repaired is left as it is. -/
theorem repairRow_refused (h : ¬ Repairable π tenantId run db) (hstood : Stood run db)
    (htenant : run.tenantId = tenantId) (hterminal : run.status.IsTerminal) :
    repairRow π tenantId pass db run = db := by
  unfold repairRow repairContext
  rw [hstood.actor htenant]
  dsimp only
  split
  · rfl
  · rename_i context hvalid
    obtain ⟨rfl, hbounded, hsteps⟩ := RunContext.modelValidate_eq_ok.mp hvalid
    refine Publication.refused hterminal ?_
    by_cases hcontent : ∃ input, assistantInput π (contextData tenantId run run.actorRef db)
        (Publication.content π { context := contextData tenantId run run.actorRef db }) = .ok input
    · have hunowned : ¬ db.ownsConversation run.conversationId tenantId run.actorRef = true := by
        intro howned
        exact h ⟨hbounded, hsteps, hcontent, howned⟩
      exact .inr (Bool.eq_false_iff.mpr hunowned)
    · exact .inl fun input hinput => hcontent ⟨input, hinput⟩

end Rows

section Pages

variable {π : Platform} {tenantId : String} {limit : ℕ} {db db' db'' : DB} {run : AgentRun}
  {pass : Repairing} {runId : Uuid}

/-- The ids that the publications of this pass draw are new, and differ from each other. -/
structure Repairing.Fresh (pass : Repairing) (db : DB) : Prop where
  new : ∀ runId, ∀ m ∈ db.messages.rows, m.messageId ≠ (pass.env runId).uuid
  distinct : ∀ runId runId', (pass.env runId).uuid = (pass.env runId').uuid → runId = runId'

theorem Outcome.refl {fixed : Prop} (h : ¬ fixed) (runId : Uuid) (db : DB) :
    Outcome fixed runId db db :=
  ⟨fun hfixed => absurd hfixed h, fun _ => ⟨rfl, rfl⟩⟩

/-- The rows of a page: ended runs of the tenant, each once, that have no answer yet. -/
structure Page (tenantId : String) (l : List AgentRun) (db : DB) : Prop where
  distinct : l.Pairwise fun a b => a.runId ≠ b.runId
  rows : ∀ run ∈ l, Stood run db ∧ run.tenantId = tenantId ∧ run.status.IsTerminal ∧
    db.terminalMessages run.runId = []

theorem Page.head {l : List AgentRun} (h : Page tenantId (run :: l) db) :
    Stood run db ∧ run.tenantId = tenantId ∧ run.status.IsTerminal ∧ db.terminalMessages run.runId = [] :=
  h.rows run List.mem_cons_self

theorem Page.tail {l : List AgentRun} (h : Page tenantId (run :: l) db) : Page tenantId l db :=
  ⟨(List.pairwise_cons.mp h.distinct).2, fun other hother => h.rows other (List.mem_cons_of_mem _ hother)⟩

theorem Page.head_ne {l : List AgentRun} (h : Page tenantId (run :: l) db) {other : AgentRun}
    (hother : other ∈ l) : other.runId ≠ run.runId :=
  ((List.pairwise_cons.mp h.distinct).1 other hother).symm

/-- The answer of the first row leaves the others as they were found. -/
theorem Page.published {l : List AgentRun} {uuid : Uuid} (h : Page tenantId (run :: l) db)
    (hpublished : Published uuid run.runId db db') : Page tenantId l db' := by
  refine ⟨h.tail.distinct, fun other hother => ?_⟩
  obtain ⟨hstood, htenant, hterminal, hnone⟩ := h.tail.rows other hother
  refine ⟨hstood.kept hpublished.toUnmoved, htenant, hterminal, ?_⟩
  rw [((hpublished.outcome h.head.2.2.2 other.runId).spares (h.head_ne hother)).1]
  exact hnone

/-- The repair of a page answers the runs that can be repaired, and changes nothing of the others. -/
theorem Page.repaired (π : Platform) {l : List AgentRun} (h : Page tenantId l db) (hchecks : db.Checks)
    (hnew : ∀ run ∈ l, ∀ m ∈ db.messages.rows, m.messageId ≠ (pass.env run.runId).uuid)
    (hdistinct : ∀ runId runId', (pass.env runId).uuid = (pass.env runId').uuid → runId = runId') :
    Unmoved db (l.foldl (repairRow π tenantId pass) db) ∧
      (l.foldl (repairRow π tenantId pass) db).Checks ∧
      ∀ id, Outcome (∃ run ∈ l, run.runId = id ∧ Repairable π tenantId run db) id db
        (l.foldl (repairRow π tenantId pass) db) := by
  -- Over the page: a row that is repaired changes the database under the rest, but no row of it.
  induction l generalizing db with
  | nil => exact ⟨Unmoved.refl db, hchecks, fun id => .refl (by simp) id db⟩
  | cons run l ih =>
    obtain ⟨hstood, htenant, hterminal, hnone⟩ := h.head
    rw [List.foldl_cons]
    by_cases hrepairable : Repairable π tenantId run db
    · have hpublished := repairRow_published hrepairable hstood htenant hterminal hchecks hnone
        (hnew run List.mem_cons_self)
      have houtcome := hpublished.outcome hnone
      have hnew' : ∀ other ∈ l, ∀ m ∈ (repairRow π tenantId pass db run).messages.rows,
          m.messageId ≠ (pass.env other.runId).uuid := by
        intro other hother m hm
        obtain ⟨m', hmessages, hid, _⟩ := hpublished.messages
        rw [hmessages] at hm
        rcases List.mem_append.mp hm with hm | hm
        · exact hnew other (List.mem_cons_of_mem _ hother) m hm
        · rw [List.mem_singleton.mp hm, hid]
          exact fun huuid => h.head_ne hother (hdistinct _ _ huuid).symm
      obtain ⟨hkept, hchecks', hothers⟩ := ih (h.published hpublished) (hpublished.checks hchecks) hnew'
      refine ⟨hpublished.toUnmoved.trans hkept, hchecks', fun id => ⟨?_, ?_⟩⟩
      · rintro ⟨fixed, hmem, rfl, hfixed⟩
        rcases List.mem_cons.mp hmem with rfl | hmem
        · -- The first row, which the rest of the page leaves alone.
          have hspared := (hothers fixed.runId).spares (by
            rintro ⟨other, hother, hsame, _⟩
            exact h.head_ne hother hsame)
          rw [hspared.1, hspared.2]
          exact (houtcome fixed.runId).fixes rfl
        · have hfixes := (hothers fixed.runId).fixes
            ⟨fixed, hmem, rfl, hpublished.toUnmoved.repairable.mpr hfixed⟩
          rw [((houtcome fixed.runId).spares (h.head_ne hmem)).2] at hfixes
          exact hfixes
      · intro hspared
        have hrest := (hothers id).spares (by
          rintro ⟨other, hother, hsame, hfixed⟩
          exact hspared ⟨other, List.mem_cons_of_mem _ hother, hsame,
            hpublished.toUnmoved.repairable.mp hfixed⟩)
        have hrun := (houtcome id).spares (by
          rintro rfl
          exact hspared ⟨run, List.mem_cons_self, rfl, hrepairable⟩)
        exact ⟨hrest.1.trans hrun.1, hrest.2.trans hrun.2⟩
    -- The loop goes past a row whose repair fails.
    · rw [repairRow_refused hrepairable hstood htenant hterminal]
      obtain ⟨hkept, hchecks', hothers⟩ := ih h.tail hchecks
        fun other hother => hnew other (List.mem_cons_of_mem _ hother)
      refine ⟨hkept, hchecks', fun id => ⟨?_, ?_⟩⟩
      · rintro ⟨fixed, hmem, hid, hfixed⟩
        rcases List.mem_cons.mp hmem with rfl | hmem
        · exact absurd hfixed hrepairable
        · exact (hothers id).fixes ⟨fixed, hmem, hid, hfixed⟩
      · intro hspared
        refine (hothers id).spares ?_
        rintro ⟨other, hother, hid, hfixed⟩
        exact hspared ⟨other, List.mem_cons_of_mem _ hother, hid, hfixed⟩

theorem mem_unanswered : run ∈ db.unanswered tenantId ↔
    run ∈ db.ended tenantId ∧ db.terminalMessages run.runId = [] := by
  rw [DB.unanswered, List.mem_filter, List.isEmpty_iff]

theorem mem_ended : run ∈ db.ended tenantId ↔
    run ∈ db.runs.rows ∧ run.tenantId = tenantId ∧ run.status.IsTerminal := by
  rw [DB.ended, Table.select, List.mem_filter, decide_eq_true_eq]

/-- What one complete run of the repair does. -/
structure Pass (π : Platform) (tenantId : String) (limit : ℕ) (rows : List AgentRun) (db db' : DB) :
    Prop extends Unmoved db db' where
  checks : db'.Checks
  page : ∃ rest, (rows ++ rest).Perm (db.unanswered tenantId) ∧
    rest.length = (db.unanswered tenantId).length - limit
  outcome : ∀ id, Outcome (∃ run ∈ rows, run.runId = id ∧ Repairable π tenantId run db) id db db'

theorem Pass.unanswered {rows : List AgentRun} (h : Pass π tenantId limit rows db db')
    (hrun : run ∈ rows) : run ∈ db.unanswered tenantId := by
  obtain ⟨rest, hperm, _⟩ := h.page
  exact hperm.subset (List.mem_append_left _ hrun)

theorem repaired_pass (π : Platform) (tenantId : String) (hlimit : 1 ≤ limit ∧ limit ≤ 500)
    (hchecks : db.Checks) (hfresh : pass.Fresh db) :
    ∃ rows, Pass π tenantId limit rows db (repaired π tenantId limit db pass) := by
  set sorted := (db.unanswered tenantId).insertionSort fun a b =>
    pass.updatedAt a.runId ≤ pass.updatedAt b.runId with hsorted
  have hperm : sorted.Perm (db.unanswered tenantId) := List.perm_insertionSort _ _
  have hscan : terminalRunsWithoutResponse tenantId limit pass.updatedAt db =
      .ok (sorted.take limit) := by
    unfold terminalRunsWithoutResponse
    rw [if_neg (not_not.mpr hlimit)]
  have hrepaired : repaired π tenantId limit db pass =
      (sorted.take limit).foldl (repairRow π tenantId pass) db := by
    unfold repaired repairMissingTerminalResponses
    rw [hscan]
    rfl
  have hpage : Page tenantId (sorted.take limit) db := by
    -- The scan reads the table of runs, whose ids are distinct, in some order.
    have hkeys : (db.unanswered tenantId).Pairwise fun a b => a.runId ≠ b.runId := by
      refine (((db.runs.distinct.filter _).filter _).imp ?_)
      exact fun hclash hid => hclash (.inl hid)
    refine ⟨?_, ?_⟩
    · exact ((hperm.symm.pairwise hkeys fun hne => hne.symm)).sublist (List.take_sublist _ _)
    · intro run hrun
      obtain ⟨hended, hnone⟩ := mem_unanswered.mp (hperm.subset (List.mem_of_mem_take hrun))
      obtain ⟨hmem, htenant, hterminal⟩ := mem_ended.mp hended
      exact ⟨.of_mem hmem, htenant, hterminal, hnone⟩
  obtain ⟨hkept, hchecks', houtcome⟩ := hpage.repaired π hchecks
    (fun run _ => hfresh.new run.runId) hfresh.distinct
  rw [hrepaired]
  refine ⟨sorted.take limit, hkept, hchecks', ⟨sorted.drop limit, ?_, ?_⟩, houtcome⟩
  · rw [List.take_append_drop]
    exact hperm
  · rw [List.length_drop, hperm.length_eq]

end Pages

/-- The answer is there, or nothing is yet and it can be repaired. -/
def Mendable (π : Platform) (tenantId : String) (run : AgentRun) (db : DB) : Prop :=
  db.Answered run.runId ∨ db.Untouched run.runId ∧ Repairable π tenantId run db

section Passes

variable {π : Platform} {tenantId : String} {limit : ℕ} {db db' : DB} {run run' : AgentRun}
  {pass : Repairing} {rows : List AgentRun}

theorem Repairable.of_standing (h : run'.standing = run.standing)
    (hrun : Repairable π tenantId run db) :
    Repairable π tenantId run' db := by
  simp only [AgentRun.standing, Prod.mk.injEq] at h
  obtain ⟨hid, hconversation, _, hactor, hstatus, _⟩ := h
  have hdata : contextData tenantId run' run'.actorRef db =
      contextData tenantId run run.actorRef db := by
    unfold contextData
    rw [hid, hconversation, hactor, hstatus]
  obtain ⟨hbounded, hsteps, hcontent, howned⟩ := hrun
  rw [← hdata] at hbounded hsteps hcontent
  rw [← hconversation, ← hactor] at howned
  exact ⟨hbounded, hsteps, hcontent, howned⟩

theorem Mendable.of_standing (h : run'.standing = run.standing) (hrun : Mendable π tenantId run db) :
    Mendable π tenantId run' db := by
  have hid : run'.runId = run.runId := congrArg Prod.fst h
  rcases hrun with hanswered | ⟨huntouched, hrepairable⟩
  · rw [← hid] at hanswered
    exact .inl hanswered
  · rw [← hid] at huntouched
    exact .inr ⟨huntouched, hrepairable.of_standing h⟩

/-- Two rows of one run that stand in the same database stand alike. -/
theorem Stood.unique (h : Stood run db) (h' : Stood run' db) (hid : run'.runId = run.runId) :
    run'.standing = run.standing := by
  obtain ⟨row, hrow, hsame⟩ := h
  obtain ⟨row', hrow', hsame'⟩ := h'
  rw [hid, hrow] at hrow'
  obtain rfl := Option.some.inj hrow'
  exact hsame'.symm.trans hsame

/-- The repair neither mends what is not mendable, nor breaks what is. -/
theorem Pass.mendable (h : Pass π tenantId limit rows db db') (hstood : Stood run db) :
    Mendable π tenantId run db' ↔ Mendable π tenantId run db := by
  have houtcome := h.outcome run.runId
  by_cases hfixed : ∃ row ∈ rows, row.runId = run.runId ∧ Repairable π tenantId row db
  · obtain ⟨hone, hmore⟩ := houtcome.fixes hfixed
    obtain ⟨row, hrow, hid, hrepairable⟩ := hfixed
    obtain ⟨hended, hnone⟩ := mem_unanswered.mp (h.unanswered hrow)
    rw [hid] at hnone
    have hrun : Repairable π tenantId run db :=
      hrepairable.of_standing ((hstood.unique (.of_mem (mem_ended.mp hended).1) hid).symm)
    -- A repaired run has one answer, and one announcement more than before: one, if it had none.
    constructor
    · rintro (⟨_, hevent⟩ | ⟨⟨hmessage, _⟩, _⟩)
      · refine .inr ⟨⟨hnone, ?_⟩, hrun⟩
        apply List.eq_nil_of_length_eq_zero
        omega
      · rw [hmessage] at hone
        exact absurd hone (by simp)
    · rintro (⟨hmessage, _⟩ | ⟨⟨_, hevent⟩, _⟩)
      · rw [hnone] at hmessage
        exact absurd hmessage (by simp)
      · rw [hevent] at hmore
        exact .inl ⟨hone, hmore⟩
  · obtain ⟨hmessages, hevents⟩ := houtcome.spares hfixed
    have hanswered : db'.Answered run.runId ↔ db.Answered run.runId := by
      constructor
      · rintro ⟨hmessage, hevent⟩
        exact ⟨hmessages ▸ hmessage, hevents ▸ hevent⟩
      · rintro ⟨hmessage, hevent⟩
        exact ⟨hmessages.symm ▸ hmessage, hevents.symm ▸ hevent⟩
    have huntouched : db'.Untouched run.runId ↔ db.Untouched run.runId := by
      constructor
      · rintro ⟨hmessage, hevent⟩
        exact ⟨hmessages.symm.trans hmessage, hevents.symm.trans hevent⟩
      · rintro ⟨hmessage, hevent⟩
        exact ⟨hmessages.trans hmessage, hevents.trans hevent⟩
    unfold Mendable
    rw [hanswered, huntouched, h.toUnmoved.repairable]

theorem ended_standing (h : Unmoved db db') (hrun : run' ∈ db'.ended tenantId) :
    ∃ run ∈ db.ended tenantId, run'.standing = run.standing := by
  obtain ⟨hmem, htenant, hterminal⟩ := mem_ended.mp hrun
  obtain ⟨run, hrow, hsame⟩ := standing_mem h hmem
  have hfields := hsame
  simp only [AgentRun.standing, Prod.mk.injEq] at hfields
  obtain ⟨_, _, htenant', _, hstatus, _⟩ := hfields
  exact ⟨run, mem_ended.mpr ⟨hrow, htenant'.trans htenant, hstatus ▸ hterminal⟩, hsame.symm⟩

/-- A page of mendable runs leaves that many fewer to answer. -/
theorem Pass.shrinks (h : Pass π tenantId limit rows db db')
    (hmendable : ∀ run ∈ db.ended tenantId, Mendable π tenantId run db) :
    (db'.unanswered tenantId).length ≤ (db.unanswered tenantId).length - limit := by
  have hlength : (db'.unanswered tenantId).length =
      (db.ended tenantId).countP fun run => (db'.terminalMessages run.runId).isEmpty := by
    have hcount : ∀ l : List AgentRun, ((l.filter fun run => decide (run.tenantId = tenantId ∧
        run.status.IsTerminal)).filter fun run => (db'.terminalMessages run.runId).isEmpty).length =
        (l.map AgentRun.standing).countP fun s => decide (s.2.2.1 = tenantId ∧
          s.2.2.2.2.1.IsTerminal) && (db'.terminalMessages s.1).isEmpty := by
      intro l
      rw [List.filter_filter, ← List.countP_eq_length_filter, List.countP_map]
      refine List.countP_congr fun run _ => ?_
      simp only [Function.comp_apply, AgentRun.standing, Bool.and_comm]
      exact Iff.rfl
    have hcount' := hcount db.runs.rows
    rw [← h.standing, ← hcount, ← List.countP_eq_length_filter] at hcount'
    exact hcount'.symm
  -- No answer is taken back.
  have hstill : ∀ run ∈ db.ended tenantId, (db'.terminalMessages run.runId).isEmpty = true →
      (db.terminalMessages run.runId).isEmpty = true := by
    intro run _ hempty
    by_cases hfixed : ∃ row ∈ rows, row.runId = run.runId ∧ Repairable π tenantId row db
    · have hone := ((h.outcome run.runId).fixes hfixed).1
      rw [List.isEmpty_iff.mp hempty] at hone
      exact absurd hone (by simp)
    · rw [← ((h.outcome run.runId).spares hfixed).1]
      exact hempty
  have hrest : (db'.unanswered tenantId).length =
      (db.unanswered tenantId).countP fun run => (db'.terminalMessages run.runId).isEmpty := by
    rw [hlength, DB.unanswered, List.countP_filter]
    refine List.countP_congr fun run hrun => ?_
    simp only [Bool.and_eq_true]
    exact ⟨fun hempty => ⟨hempty, hstill run hrun hempty⟩, fun hempty => hempty.1⟩
  obtain ⟨rest, hperm, hlimit⟩ := h.page
  -- Every row of the page was mendable and without an answer, so it has one now.
  have hpage : rows.countP (fun run => (db'.terminalMessages run.runId).isEmpty) = 0 := by
    refine List.countP_eq_zero.mpr fun run hrun hempty => ?_
    obtain ⟨hended, hnone⟩ := mem_unanswered.mp (h.unanswered hrun)
    have hrepairable : Repairable π tenantId run db := by
      rcases hmendable run hended with ⟨hmessage, _⟩ | ⟨_, hrepairable⟩
      · rw [hnone] at hmessage
        exact absurd hmessage (by simp)
      · exact hrepairable
    have hone := ((h.outcome run.runId).fixes ⟨run, hrun, rfl, hrepairable⟩).1
    rw [List.isEmpty_iff.mp hempty] at hone
    exact absurd hone (by simp)
  calc (db'.unanswered tenantId).length
      = (rows ++ rest).countP fun run => (db'.terminalMessages run.runId).isEmpty := by
        rw [hrest, hperm.countP_eq]
    _ = rest.countP fun run => (db'.terminalMessages run.runId).isEmpty := by
        rw [List.countP_append, hpage, Nat.zero_add]
    _ ≤ rest.length := List.countP_le_length
    _ = (db.unanswered tenantId).length - limit := hlimit

/-- What complete runs of the repair keep, and what they leave to answer. -/
theorem repaired_run (π : Platform) (hlimit : 1 ≤ limit ∧ limit ≤ 500) {passes : List Repairing}
    (hchecks : db.Checks)
    (hfresh : Along (repaired π tenantId limit) (fun db pass => pass.Fresh db) db passes) :
    (∀ run ∈ db.ended tenantId,
      Mendable π tenantId run (Histories.run (repaired π tenantId limit) db passes) ↔
        Mendable π tenantId run db) ∧
    Unmoved db (Histories.run (repaired π tenantId limit) db passes) ∧
    ((∀ run ∈ db.ended tenantId, Mendable π tenantId run db) →
      ((Histories.run (repaired π tenantId limit) db passes).unanswered tenantId).length ≤
        (db.unanswered tenantId).length - passes.length * limit) := by
  -- Over the passes: what is mendable after the first pass was mendable before it, row by row.
  induction passes generalizing db with
  | nil => exact ⟨fun _ _ => Iff.rfl, Unmoved.refl db, fun _ => by simp⟩
  | cons pass passes ih =>
    obtain ⟨hnew, hrest⟩ := hfresh
    obtain ⟨rows, hpass⟩ := repaired_pass π tenantId hlimit hchecks hnew
    obtain ⟨hmendable, hkept, hshrinks⟩ := ih hpass.checks hrest
    have hstep : ∀ run ∈ db.ended tenantId,
        (Mendable π tenantId run (repaired π tenantId limit db pass) ↔ Mendable π tenantId run db) :=
      fun run hrun => hpass.mendable (.of_mem (mem_ended.mp hrun).1)
    have hback : ∀ run ∈ db.ended tenantId,
        ∃ run' ∈ (repaired π tenantId limit db pass).ended tenantId, run.standing = run'.standing :=
      fun run hrun => ended_standing ⟨hpass.conversations.symm, hpass.checkpoints.symm,
        hpass.standing.symm⟩ hrun
    refine ⟨?_, hpass.toUnmoved.trans hkept, ?_⟩
    · intro run hrun
      obtain ⟨run', hrun', hsame⟩ := hback run hrun
      rw [Histories.run_cons, ← hstep run hrun]
      exact ⟨fun h => ((hmendable run' hrun').mp (h.of_standing hsame.symm)).of_standing hsame,
        fun h => ((hmendable run' hrun').mpr (h.of_standing hsame.symm)).of_standing hsame⟩
    · intro hall
      have hall' : ∀ run ∈ (repaired π tenantId limit db pass).ended tenantId,
          Mendable π tenantId run (repaired π tenantId limit db pass) := by
        intro run hrun
        obtain ⟨run', hrun', hsame⟩ := ended_standing hpass.toUnmoved hrun
        exact ((hstep run' hrun').mpr (hall run' hrun')).of_standing hsame
      have hfirst := hpass.shrinks hall
      have hlater := hshrinks hall'
      rw [Histories.run_cons, List.length_cons, Nat.succ_mul]
      omega

/-- Every ended run of the tenant has its answer and its announcement in the end. -/
def Repairs (π : Platform) (tenantId : String) (limit : ℕ) (db : DB) (passes : List Repairing) :
    Prop :=
  ∀ run ∈ db.ended tenantId,
    (Histories.run (repaired π tenantId limit) db passes).Answered run.runId

/-- As many runs of the repair as there are pages of ended runs answer every one of them, if and
only if each had its answer or can be repaired from the start. -/
theorem repairs_iff (π : Platform) (tenantId : String) (limit : ℕ) (db : DB) (passes : List Repairing)
    (hlimit : 1 ≤ limit ∧ limit ≤ 500) (hchecks : db.Checks)
    (hfresh : Along (repaired π tenantId limit) (fun db pass => pass.Fresh db) db passes)
    (hlength : passes.length = ((db.ended tenantId).length + limit - 1) / limit) :
    Repairs π tenantId limit db passes ↔ ∀ run ∈ db.ended tenantId, Mendable π tenantId run db := by
  obtain ⟨hmendable, hkept, hshrinks⟩ := repaired_run π hlimit hchecks hfresh
  constructor
  · exact fun h run hrun => (hmendable run hrun).mp (.inl (h run hrun))
  · intro hall run hrun
    -- A pass answers a page, and there are as many passes as pages.
    have hnone : (Histories.run (repaired π tenantId limit) db passes).unanswered tenantId = [] := by
      have hpages : (db.ended tenantId).length ≤ passes.length * limit := by
        rw [hlength]
        have hdiv := Nat.div_add_mod ((db.ended tenantId).length + limit - 1) limit
        have hmod := Nat.mod_lt ((db.ended tenantId).length + limit - 1) hlimit.1
        rw [Nat.mul_comm]
        omega
      have hfilter : (db.unanswered tenantId).length ≤ (db.ended tenantId).length :=
        List.length_filter_le _ _
      have hleft := hshrinks hall
      apply List.eq_nil_of_length_eq_zero
      omega
    obtain ⟨run', hrun', hsame⟩ := ended_standing ⟨hkept.conversations.symm, hkept.checkpoints.symm,
      hkept.standing.symm⟩ hrun
    rcases (hmendable run hrun).mpr (hall run hrun) with hanswered | ⟨⟨hmessage, _⟩, _⟩
    · exact hanswered
    · -- A run without an answer would still be on the list.
      have hid : run.runId = run'.runId := congrArg Prod.fst hsame
      have hmem := mem_unanswered.mpr ⟨hrun', hid ▸ hmessage⟩
      rw [hnone] at hmem
      exact absurd hmem List.not_mem_nil

end Passes

section Demo

/-- A run that ended without an answer. -/
def owingRun (runId : Uuid) : AgentRun where
  runId := runId
  conversationId := "conv"
  tenantId := "tenant-demo"
  actorRef := "demo-user-001"
  status := .failed
  currentStep := "terminal"
  deadlineAt := 0

def owingDB : DB where
  conversations := .single ⟨"conv", "tenant-demo", "demo-user-001"⟩
  runs := .single (owingRun "run-b")

def owingContext : RunContext where
  runId := "run-b"
  conversationId := "conv"
  tenantId := "tenant-demo"
  actorId := "demo-user-001"
  status := .failed

def demoEnv : Env := ⟨0, "message", fun _ => 0⟩

/-- The worker stops after the transaction of the answer. -/
def crashedDB : DB :=
  (drive respond [undisturbed demoEnv] (publishTerminalResponse demoPlatform { context := owingContext })
    owingDB).2.2

/-- A run whose seventh checkpoint does not validate, before one that owes its answer. -/
def stalledDB : DB where
  conversations := .single ⟨"conv", "tenant-demo", "demo-user-001"⟩
  runs := ⟨[owingRun "run-a", owingRun "run-b"], by decide⟩
  checkpoints :=
    .single ⟨"run-a", 1, "terminal", { owingContext with runId := "run-a", stepCount := 7 }, 1, 1⟩

/-- The first run is the older one. -/
def demoPass : Repairing where
  updatedAt runId := if runId = "run-a" then 0 else 1
  env runId := ⟨0, runId, fun _ => 0⟩

instance owing_facts : Fact ((assistantInput demoPlatform owingContext
    (Publication.content demoPlatform { context := owingContext })).toOption.isSome = true) :=
  ⟨by decide +kernel⟩

theorem owing_repairable {db : DB} (hlatest : db.latestCheckpoint "run-b" = none)
    (howned : db.ownsConversation "conv" "tenant-demo" "demo-user-001" = true) :
    Repairable demoPlatform "tenant-demo" (owingRun "run-b") db := by
  have hdata : contextData "tenant-demo" (owingRun "run-b") (owingRun "run-b").actorRef db =
      owingContext := by
    have hid : (owingRun "run-b").runId = "run-b" := rfl
    unfold contextData
    rw [hid, hlatest]
    rfl
  have hvalid : owingContext.Bounded ∧ owingContext.stepCount ≤ 6 := by decide
  have hcontent := owing_facts.out
  refine ⟨hdata ▸ hvalid.1, hdata ▸ hvalid.2, ?_, howned⟩
  rw [hdata]
  cases hinput : assistantInput demoPlatform owingContext
      (Publication.content demoPlatform { context := owingContext }) with
  | ok input => exact ⟨input, rfl⟩
  | error e =>
    rw [hinput] at hcontent
    exact absurd hcontent (by simp [Except.toOption])

theorem mem_owing {run : AgentRun} (h : run ∈ owingDB.ended "tenant-demo") : run = owingRun "run-b" :=
  List.mem_singleton.mp (mem_ended.mp h).1

end Demo

theorem repairs_owing : Repairs demoPlatform "tenant-demo" 1 owingDB [demoPass] := by
  refine (repairs_iff demoPlatform "tenant-demo" 1 owingDB [demoPass] (by decide) ⟨?_, ?_⟩
    ⟨⟨?_, ?_⟩, trivial⟩
    (by decide)).mpr ?_
  · intro run hrun
    obtain rfl := List.mem_singleton.mp hrun
    decide
  · exact fun m hm => absurd hm List.not_mem_nil
  · exact fun _ m hm => absurd hm List.not_mem_nil
  · exact fun _ _ hid => hid
  · intro run hrun
    obtain rfl := mem_owing hrun
    exact .inr ⟨⟨rfl, rfl⟩, owing_repairable rfl (by decide)⟩

instance crashed_facts : Fact ((crashedDB.terminalMessages "run-b").length = 1 ∧
    (crashedDB.announcements "run-b").length = 0 ∧
    (crashedDB.messages.rows.all fun m => !m.isTerminal || m.role == "assistant") = true ∧
    (stalledDB.ended "tenant-demo").length = 2 ∧
    ((repaired demoPlatform "tenant-demo" 1 (repaired demoPlatform "tenant-demo" 1 stalledDB demoPass)
      demoPass).terminalMessages "run-b").length = 0) := ⟨by decide +kernel⟩

theorem crashed_ended {run : AgentRun} (h : run ∈ crashedDB.ended "tenant-demo") :
    ¬ Mendable demoPlatform "tenant-demo" run crashedDB := by
  obtain ⟨hmessage, hevent, -⟩ := crashed_facts.out
  have hrun : run = owingRun "run-b" := List.mem_singleton.mp (mem_ended.mp h).1
  have hid : run.runId = "run-b" := congrArg AgentRun.runId hrun
  rintro (⟨_, hone⟩ | ⟨⟨hnone, _⟩, _⟩)
  · rw [hid, hevent] at hone
    exact absurd hone (by simp)
  · rw [hid] at hnone
    rw [hnone] at hmessage
    exact absurd hmessage (by simp)

/-- A worker that stops between the answer and its announcement leaves a run that no repair
reaches, and a run whose repair fails keeps the one behind it from being repaired. -/
theorem repairs_miss_crashed_and_stalled :
    (∃ t q, Exec store (publishTerminalResponse demoPlatform { context := owingContext }) owingDB t q
      crashedDB) ∧
    (∀ passes,
      Along (repaired demoPlatform "tenant-demo" 1) (fun db pass => pass.Fresh db) crashedDB passes →
      ¬ Repairs demoPlatform "tenant-demo" 1 crashedDB passes) ∧
    Repairable demoPlatform "tenant-demo" (owingRun "run-b") stalledDB ∧
    (stalledDB.ended "tenant-demo").length = 2 ∧
    (repaired demoPlatform "tenant-demo" 1 (repaired demoPlatform "tenant-demo" 1 stalledDB demoPass)
      demoPass).terminalMessages "run-b" = [] := by
  obtain ⟨-, -, hall, hended, hnone⟩ := crashed_facts.out
  refine ⟨⟨_, _, exec_of_drive rfl⟩, ?_, ?_, hended, ?_⟩
  · intro passes hfresh hrepairs
    have hchecks : crashedDB.Checks := by
      refine ⟨?_, ?_⟩
      · intro run hrun
        obtain rfl : run = owingRun "run-b" := List.mem_singleton.mp hrun
        decide
      · intro m hm hterminal
        have hm' := List.all_eq_true.mp hall m hm
        simpa [hterminal] using hm'
    have hended : ∃ run, run ∈ crashedDB.ended "tenant-demo" :=
      ⟨owingRun "run-b", mem_ended.mpr ⟨List.mem_singleton.mpr rfl, rfl, by decide⟩⟩
    obtain ⟨run, hrun⟩ := hended
    obtain ⟨hmendable, _, _⟩ := repaired_run demoPlatform (by decide) hchecks hfresh
    exact crashed_ended hrun ((hmendable run hrun).mp (.inl (hrepairs run hrun)))
  · exact owing_repairable rfl (by decide)
  · exact List.eq_nil_of_length_eq_zero hnone

end CommerceAgent
