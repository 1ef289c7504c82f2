import CommerceAgent.ProgressiveDelivery
import CommerceAgent.Executor

/-! The assignment rows of a release: what a run records about the version that serves it, and which rows
keep their links over all the recordings of a run. -/
namespace CommerceAgent.Delivery

open Histories Json Tables Texts

section Model

def RiskHint.value : RiskHint → String
  | .readOnly => "read_only"
  | .write => "write"
  | .unknown => "unknown"

/-- The comparison of `build_release_comparison`. -/
structure Comparison where
  currentRoute : Option String
  candidateRoute : Option String
  currentResponsePolicy : Option String
  candidateResponsePolicy : Option String
  currentSkill : Option String := none
  candidateSkill : Option String := none
  estimatedCostDeltaMicrousd : Option ℚ := none
  candidateRuntimeAvailable : Bool := false
  candidateExecutionAllowed : Bool := false
  observationOnly : Bool := !candidateExecutionAllowed

/-- A row of `release_assignments`; the comparison is `{}` where none was given. -/
structure AssignmentRow where
  releaseId : Uuid
  tenantId : String
  runId : Uuid
  actorKeyHash : String
  conversationKeyHash : String
  assignment : TrafficAssignment
  riskLevel : String
  riskHint : String
  comparison : Option Comparison

/-- `UNIQUE (release_id, run_id)`. -/
abbrev AssignmentRow.Clash (a b : AssignmentRow) : Prop := a.releaseId = b.releaseId ∧ a.runId = b.runId

def AssignmentRow.key (row : AssignmentRow) : Uuid × Uuid := (row.releaseId, row.runId)

/-- The tables that an assignment is about: the releases, the runs with their tenants, and the versions of
the skills. -/
structure Board where
  db : DB := {}
  runs : List (Uuid × String) := []
  skillVersions : List (Uuid × Uuid) := []
  assignments : Table AssignmentRow AssignmentRow.Clash := .empty

def Board.row (board : Board) (releaseId runId : Uuid) : Option AssignmentRow :=
  board.assignments.lookup AssignmentRow.key (releaseId, runId)

/-- The release and the run are the tenant's. -/
def Board.owns (board : Board) (tenantId : String) (releaseId runId : Uuid) : Bool :=
  (board.db.releases.rows.any fun r => decide (r.releaseId = releaseId ∧ r.tenantId = tenantId)) &&
    decide ((runId, tenantId) ∈ board.runs)

/-- The `UPDATE` of a conflict: nothing but the comparison. -/
def AssignmentRow.compared (comparison : Option Comparison) (row : AssignmentRow) : AssignmentRow :=
  { row with comparison := comparison.orElse fun _ => row.comparison }

theorem AssignmentRow.neutral_compared (comparison : Option Comparison) :
    Table.Neutral Clash (compared comparison) :=
  fun _ _ => ⟨id, id⟩

/-- `ReleaseRepository.record_assignment`. -/
def recordAssignment (board : Board) (row : AssignmentRow) : Except Error Board :=
  if ¬ board.owns row.tenantId row.releaseId row.runId then .error (.transition "release_or_run_not_owned")
  else match board.assignments.insert? row with
  | some assignments => .ok { board with assignments := assignments }
  | none => .ok { board with
      assignments := board.assignments.update (fun old => old.key = row.key)
        (AssignmentRow.compared row.comparison) (AssignmentRow.neutral_compared _) }

/-- Of two releases the one that was updated last. -/
def newer (best : Option Release) (r : Release) : Option Release :=
  if best.any fun b => decide (r.updatedAt ≤ b.updatedAt) then best else some r

/-- `latest_active`; of two that were updated at one time the query may return either, here the first. -/
def DB.latestActive (db : DB) (tenantId : String) : Option Release :=
  (db.releases.select fun r => decide (r.tenantId = tenantId ∧ r.status = .active)).foldl newer none

/-- `release_ids_for_skill`, not ordered. -/
def Board.releaseIdsForSkill (board : Board) (tenantId : String) (skillId : Uuid) : List Uuid :=
  (board.db.releases.rows.filter fun r => decide (r.tenantId = tenantId) &&
    board.assignments.rows.any fun row => decide (row.releaseId = r.releaseId) &&
      ((row.comparison.any fun c => decide (c.currentSkill = some skillId ∨ c.candidateSkill = some skillId)) ||
        decide (r.candidateVersion = skillId) ||
        decide ((skillId, r.candidateVersion) ∈ board.skillVersions))).map (·.releaseId)

/-- The arguments of `_record_release_assignment`. -/
structure Recording where
  tenantId : String
  actorId : String
  runId : Uuid
  conversationId : Uuid
  routed : RouteDecision
  candidateRouted : Option RouteDecision := none
  currentSkill : Option String := none
  candidateSkill : Option String := none
  riskLevel : RequestRiskLevel

variable (sha256 : ByteArray → List UInt8) (π : Platform)

/-- What is asked of `assign_traffic` for a release. -/
def Recording.request (q : Recording) (db : DB) (r : Release) : TrafficRequest where
  tenantId := q.tenantId
  actorId := q.actorId
  runId := q.runId
  conversationId := q.conversationId
  riskLevel := q.riskLevel
  -- A route is a write if it has a mutation; what the candidate would do is not asked.
  riskHint :=
    if (q.routed.workflowId.filter (· ≠ "")).bind mutationTypeForRoute |>.isSome then .write else .readOnly
  candidateRuntimeAvailable := db.candidateAvailable q.tenantId r

def Recording.assigned (q : Recording) (db : DB) (r : Release) : TrafficAssignment :=
  assignTraffic sha256 (q.request db r) r.currentVersion r.candidateVersion r.stage r.status

def Recording.comparison (q : Recording) (db : DB) (r : Release) : Comparison where
  currentRoute := q.routed.workflowId
  candidateRoute := q.candidateRouted.bind (·.workflowId)
  currentResponsePolicy := some q.routed.responsePolicy.value
  candidateResponsePolicy := q.candidateRouted.map (·.responsePolicy.value)
  currentSkill := q.currentSkill
  candidateSkill := q.candidateSkill
  candidateRuntimeAvailable := db.candidateAvailable q.tenantId r
  candidateExecutionAllowed := (q.assigned sha256 db r).candidateExecutionAllowed

/-- The row that a recording offers. -/
def Recording.row (q : Recording) (db : DB) (r : Release) : AssignmentRow where
  releaseId := r.releaseId
  tenantId := q.tenantId
  runId := q.runId
  actorKeyHash := hashSecret π q.actorId
  conversationKeyHash := hashSecret π q.conversationId
  assignment := { q.assigned sha256 db r with reason := take (q.assigned sha256 db r).reason 128 }
  riskLevel := q.riskLevel.value
  riskHint := RiskHint.value (q.request db r).riskHint
  comparison := some (q.comparison sha256 db r)

/-- `_record_release_assignment`: the tables after it, and what it returns; it swallows every error. -/
def recordReleaseAssignment (board : Board) (q : Recording) : Board × Option TrafficAssignment :=
  match board.db.latestActive q.tenantId with
  | none => (board, none)
  | some r =>
    match recordAssignment board (q.row sha256 π board.db r) with
    -- What is returned is the new assignment, also where the row keeps an older one.
    | .ok board' => (board', some (q.assigned sha256 board.db r))
    | .error _ => (board, none)

end Model

section Histories

variable (F : Type) [LT F] [DecidableLT F] [Mul F] [OfScientific F] [Zero F] [One F]

/-- What happens to the tables: a call on the releases, a new run, a new version of a skill, a recording. -/
inductive Event where
  | release (e : Step F)
  | run (runId : Uuid) (tenantId : String)
  | skillVersion (skillId versionId : Uuid)
  | record (q : Recording)

variable {F} (sha256 : ByteArray → List UInt8) (π : Platform)

def Board.after (board : Board) : Event F → Board
  | .release e => { board with db := Delivery.after board.db e }
  | .run runId tenantId => { board with runs := board.runs ++ [(runId, tenantId)] }
  | .skillVersion skillId versionId =>
    { board with skillVersions := board.skillVersions ++ [(skillId, versionId)] }
  | .record q => (recordReleaseAssignment sha256 π board q).1

end Histories

section Rows

variable {sha256 : ByteArray → List UInt8} {π : Platform} {board board' : Board} {q : Recording} {r : Release}
  {releaseId runId : Uuid} {row : AssignmentRow}

theorem candidateExecutionAllowed_iff {request : TrafficRequest} {currentVersion candidateVersion : String}
    {stage : Stage} {status : Status} :
    (assignTraffic sha256 request currentVersion candidateVersion stage status).candidateExecutionAllowed = true ↔
      (assignTraffic sha256 request currentVersion candidateVersion stage status).mode = "canary" := by
  unfold assignTraffic currentAssignment
  dsimp only
  split_ifs <;> simp

theorem mem_newer {l : List Release} {best : Option Release} (h : l.foldl newer best = some r) :
    r ∈ l ∨ best = some r := by
  induction l generalizing best with
  | nil => exact .inr h
  | cons x l ih =>
    rcases ih h with hl | hbest
    · exact .inl (List.mem_cons_of_mem _ hl)
    · unfold newer at hbest
      split at hbest
      · exact .inr hbest
      · exact .inl (Option.some.inj hbest ▸ List.mem_cons_self)

theorem latestActive_mem {tenantId : String} (h : board.db.latestActive tenantId = some r) :
    board.db.release r.releaseId = some r ∧ r.tenantId = tenantId ∧ r.status = .active := by
  rcases mem_newer h with hmem | hnone
  · obtain ⟨hrow, hactive⟩ := List.mem_filter.mp hmem
    have hactive := of_decide_eq_true hactive
    exact ⟨release_eq_some.mpr ⟨hrow, rfl⟩, hactive.1, hactive.2⟩
  · cases hnone

theorem key_clash (a b : AssignmentRow) (h : a.key = b.key) : AssignmentRow.Clash a b :=
  ⟨congrArg Prod.fst h, congrArg Prod.snd h⟩

/-- The recording reaches the row of this release and run. -/
structure Recording.Hits (q : Recording) (board : Board) (r : Release) (releaseId runId : Uuid) : Prop where
  latest : board.db.latestActive q.tenantId = some r
  owned : board.owns q.tenantId r.releaseId q.runId = true
  release : r.releaseId = releaseId
  run : q.runId = runId

theorem recordAssignment_ok_iff : (∃ board', recordAssignment board row = .ok board') ↔
    board.owns row.tenantId row.releaseId row.runId = true := by
  unfold recordAssignment
  split
  · rename_i hnot
    constructor
    · rintro ⟨_, h⟩
      cases h
    · exact fun h => absurd h hnot
  · rename_i howned
    refine ⟨fun _ => not_not.mp howned, fun _ => ?_⟩
    split
    · exact ⟨_, rfl⟩
    · exact ⟨_, rfl⟩

/-- An upsert by the row that is offered. -/
theorem row_upserted (h : recordAssignment board row = .ok board') (releaseId runId : Uuid) :
    board'.row releaseId runId =
      if row.key = (releaseId, runId) then
        some ((board.row releaseId runId).elim row (AssignmentRow.compared row.comparison))
      else board.row releaseId runId := by
  unfold recordAssignment at h
  split at h
  · cases h
  unfold Board.row
  cases hinsert : board.assignments.insert? row with
  | some assignments =>
    rw [hinsert] at h
    obtain rfl := Except.ok.inj h
    rw [Table.lookup_insert _ hinsert]
    split
    · rename_i hkey
      have hnew := (Table.insert?_eq_some.mp hinsert).1
      have hnone : board.assignments.lookup AssignmentRow.key (releaseId, runId) = none := by
        apply Table.lookup_eq_none.mpr
        intro x hx hsame
        exact hnew x hx (key_clash x row (hsame.trans hkey.symm))
      rw [hnone]
      rfl
    · rw [Option.or_none]
  | none =>
    rw [hinsert] at h
    obtain rfl := Except.ok.inj h
    dsimp only
    have hsame : ∀ x, (AssignmentRow.compared row.comparison x).key = x.key := fun _ => rfl
    rw [Table.lookup_update _ hsame]
    split
    · rename_i hkey
      -- A row with the key stands in the way of the insertion.
      cases hold : board.assignments.lookup AssignmentRow.key (releaseId, runId) with
      | none =>
        exfalso
        unfold Table.insert? at hinsert
        split at hinsert
        · cases hinsert
        · rename_i hclash
          apply hclash
          intro x hx hsame
          apply Table.lookup_eq_none.mp hold x hx
          rw [← hkey]
          exact Prod.ext hsame.1 hsame.2
      | some old =>
        have hkeyed := (Table.lookup_mem hold).2
        rw [Option.map_some, Table.changed_pos (by simpa using hkeyed.trans hkey.symm)]
        rfl
    · rename_i hkey
      cases hold : board.assignments.lookup AssignmentRow.key (releaseId, runId) with
      | none => rfl
      | some old =>
        have hkeyed := (Table.lookup_mem hold).2
        rw [Option.map_some, Table.changed_neg]
        intro hsame
        exact hkey ((of_decide_eq_true hsame).symm.trans hkeyed)

/-- What a recording does to the row that it reaches. -/
theorem row_recorded (h : q.Hits board r releaseId runId) :
    (recordReleaseAssignment sha256 π board q).1.row releaseId runId =
      some ((board.row releaseId runId).elim (q.row sha256 π board.db r)
        (AssignmentRow.compared (some (q.comparison sha256 board.db r)))) := by
  obtain ⟨hlatest, howned, rfl, rfl⟩ := h
  unfold recordReleaseAssignment
  rw [hlatest]
  dsimp only
  obtain ⟨board', hrecord⟩ := (@recordAssignment_ok_iff board (q.row sha256 π board.db r)).mpr howned
  rw [hrecord]
  exact (row_upserted hrecord _ _).trans (if_pos rfl)

/-- Every other row stays as it is. -/
theorem row_kept (h : ∀ r, ¬ q.Hits board r releaseId runId) :
    (recordReleaseAssignment sha256 π board q).1.row releaseId runId = board.row releaseId runId := by
  unfold recordReleaseAssignment
  cases hlatest : board.db.latestActive q.tenantId with
  | none => rfl
  | some r =>
    dsimp only
    cases hrecord : recordAssignment board (q.row sha256 π board.db r) with
    | error e => rfl
    | ok board' =>
      have howned : board.owns q.tenantId r.releaseId q.runId = true :=
        recordAssignment_ok_iff.mp ⟨board', hrecord⟩
      rw [row_upserted hrecord, if_neg]
      intro hkey
      exact h r ⟨hlatest, howned, congrArg Prod.fst hkey, congrArg Prod.snd hkey⟩

theorem db_recorded (board : Board) (q : Recording) :
    (recordReleaseAssignment sha256 π board q).1.db = board.db ∧
      (recordReleaseAssignment sha256 π board q).1.skillVersions = board.skillVersions := by
  unfold recordReleaseAssignment recordAssignment
  split
  · exact ⟨rfl, rfl⟩
  · split
    · rename_i board' hrecord
      split at hrecord
      · cases hrecord
      · split at hrecord
        · obtain rfl := Except.ok.inj hrecord
          exact ⟨rfl, rfl⟩
        · obtain rfl := Except.ok.inj hrecord
          exact ⟨rfl, rfl⟩
    · exact ⟨rfl, rfl⟩

end Rows

section Links

variable {F : Type} [LT F] [DecidableLT F] [Mul F] [OfScientific F] [Zero F] [One F]
  {sha256 : ByteArray → List UInt8} {π : Platform} {board : Board} {releaseId runId : Uuid}
  {row : AssignmentRow} {skillId : Uuid} {e : Event F} {h : List (Event F)}

/-- The skills that the comparison of the row names. -/
def AssignmentRow.Names (row : AssignmentRow) (skillId : Uuid) : Prop :=
  ∃ c ∈ row.comparison, c.currentSkill = some skillId ∨ c.candidateSkill = some skillId

/-- The comparison allows the candidate exactly if the row is a canary. -/
def AssignmentRow.Consistent (row : AssignmentRow) : Prop :=
  ∀ c ∈ row.comparison, c.candidateExecutionAllowed = true ↔ row.assignment.mode = "canary"

/-- The recording names the skills of the row that it finds, and its flag is the one of the mode there. -/
def Recording.Keeps (sha256 : ByteArray → List UInt8) (board : Board) (q : Recording) : Prop :=
  ∀ r row, q.Hits board r r.releaseId q.runId → board.row r.releaseId q.runId = some row →
    (∀ skillId, row.Names skillId → q.currentSkill = some skillId ∨ q.candidateSkill = some skillId) ∧
    ((q.assigned sha256 board.db r).candidateExecutionAllowed = true ↔ row.assignment.mode = "canary")

def Event.Keeps (sha256 : ByteArray → List UInt8) (board : Board) : Event F → Prop
  | .record q => q.Keeps sha256 board
  | _ => True

/-- In all states of the history the rows are consistent, and a skill that a row names is still named by it
in every later state, where the release is found for the skill. -/
def LinksKept (sha256 : ByteArray → List UInt8) (π : Platform) (h : List (Event F)) : Prop :=
  ∀ before mid rest, h = before ++ mid ++ rest → ∀ releaseId runId row,
    (run (Board.after sha256 π) {} before).row releaseId runId = some row →
      row.Consistent ∧ ∀ skillId, row.Names skillId →
        (∃ row', (run (Board.after sha256 π) {} (before ++ mid)).row releaseId runId = some row' ∧
          row'.Names skillId) ∧
        releaseId ∈ (run (Board.after sha256 π) {} (before ++ mid)).releaseIdsForSkill row.tenantId skillId

/-- What an event does to a row: at most it replaces the comparison. -/
theorem row_after (hrow : board.row releaseId runId = some row) (e : Event F) :
    (board.after sha256 π e).row releaseId runId = some row ∨
      ∃ q r, e = .record q ∧ q.Hits board r releaseId runId ∧
        (board.after sha256 π e).row releaseId runId =
          some (row.compared (some (q.comparison sha256 board.db r))) := by
  cases e with
  | release _ | run _ _ | skillVersion _ _ => exact .inl hrow
  | record q =>
    by_cases hhits : ∃ r, q.Hits board r releaseId runId
    · obtain ⟨r, hhits⟩ := hhits
      refine .inr ⟨q, r, rfl, hhits, ?_⟩
      have hrecorded := @row_recorded sha256 π board q r releaseId runId hhits
      rw [hrow] at hrecorded
      exact hrecorded
    · exact .inl ((row_kept fun r hr => hhits ⟨r, hr⟩).trans hrow)

/-- Every row is consistent, and its release is one of its tenant. -/
def Board.Sound (board : Board) : Prop :=
  ∀ releaseId runId row, board.row releaseId runId = some row →
    row.Consistent ∧ ∃ r, board.db.release releaseId = some r ∧ r.tenantId = row.tenantId

theorem tenant_after {db : DB} {r : Release} (hr : db.release releaseId = some r) (e : Step F) :
    ∃ r', (Delivery.after db e).release releaseId = some r' ∧ r'.tenantId = r.tenantId := by
  obtain ⟨r', hr', rfl | ⟨_, reason, rfl⟩ | ⟨metrics, _, rfl⟩⟩ := release_after hr e
  · exact ⟨_, hr', rfl⟩
  · exact ⟨_, hr', rfl⟩
  · exact ⟨_, hr', rfl⟩

theorem release_after_board {r : Release} (hr : board.db.release releaseId = some r) (e : Event F) :
    ∃ r', (board.after sha256 π e).db.release releaseId = some r' ∧ r'.tenantId = r.tenantId := by
  cases e with
  | release e => exact tenant_after hr e
  | run _ _ | skillVersion _ _ => exact ⟨r, hr, rfl⟩
  | record q =>
    refine ⟨r, ?_, rfl⟩
    unfold Board.after
    rw [(db_recorded board q).1]
    exact hr

theorem consistent_recorded (q : Recording) (r : Release) : (q.row sha256 π board.db r).Consistent := by
  intro c hc
  obtain rfl := Option.some.inj hc
  exact candidateExecutionAllowed_iff

/-- A row that was not there before was offered by a recording. -/
theorem row_new (hnone : board.row releaseId runId = none)
    (hrow : (board.after sha256 π e).row releaseId runId = some row) :
    ∃ q r, e = .record q ∧ q.Hits board r releaseId runId ∧ row = q.row sha256 π board.db r := by
  cases e with
  | release _ | run _ _ | skillVersion _ _ => exact absurd (hnone.symm.trans hrow) (by simp)
  | record q =>
    by_cases hhits : ∃ r, q.Hits board r releaseId runId
    · obtain ⟨r, hhits⟩ := hhits
      have hrecorded := @row_recorded sha256 π board q r releaseId runId hhits
      rw [hnone] at hrecorded
      exact ⟨q, r, rfl, hhits, Option.some.inj (hrow.symm.trans hrecorded)⟩
    · have hkept := @row_kept sha256 π board q releaseId runId fun r hr => hhits ⟨r, hr⟩
      exact absurd ((hkept.trans hnone).symm.trans hrow) (by simp)

theorem Board.Sound.after (hs : board.Sound) (he : e.Keeps sha256 board) : (board.after sha256 π e).Sound := by
  intro releaseId runId row' hrow'
  cases hrow : board.row releaseId runId with
  | none =>
    obtain ⟨q, r, rfl, hhits, rfl⟩ := row_new hrow hrow'
    obtain ⟨hr, htenant, _⟩ := latestActive_mem hhits.latest
    obtain ⟨r', hr', htenant'⟩ := @release_after_board _ _ _ _ _ _ _ sha256 π board _ r hr (.record q)
    rw [hhits.release] at hr'
    exact ⟨consistent_recorded q r, r', hr', htenant'.trans htenant⟩
  | some row =>
    obtain ⟨hconsistent, r, hr, htenant⟩ := hs releaseId runId row hrow
    obtain ⟨r', hr', htenant'⟩ := @release_after_board _ _ _ _ _ _ _ sha256 π board _ r hr e
    obtain hsame | ⟨q, latest, rfl, hhits, hcompared⟩ := @row_after _ _ _ _ _ _ _ sha256 π _ _ _ _ hrow e
    · obtain rfl := Option.some.inj (hsame.symm.trans hrow')
      exact ⟨hconsistent, r', hr', htenant'.trans htenant⟩
    · obtain rfl := Option.some.inj (hcompared.symm.trans hrow')
      -- Only the comparison is replaced, by one whose flag the event keeps.
      refine ⟨fun c hc => ?_, r', hr', htenant'.trans htenant⟩
      obtain rfl := Option.some.inj hc
      obtain rfl := hhits.release
      obtain rfl := hhits.run
      exact (he latest row hhits hrow).2

/-- A skill that a row names is still named after a recording that keeps it. -/
theorem Names.after (hrow : board.row releaseId runId = some row) (hnames : row.Names skillId)
    (he : e.Keeps sha256 board) : ∃ row', (board.after sha256 π e).row releaseId runId = some row' ∧
      row'.tenantId = row.tenantId ∧ row'.Names skillId := by
  obtain hsame | ⟨q, latest, rfl, hhits, hcompared⟩ := @row_after _ _ _ _ _ _ _ sha256 π _ _ _ _ hrow e
  · exact ⟨row, hsame, rfl, hnames⟩
  · obtain rfl := hhits.release
    obtain rfl := hhits.run
    exact ⟨_, hcompared, rfl, _, rfl, (he latest row hhits hrow).1 skillId hnames⟩

/-- The release of a row that names the skill is found for it. -/
theorem mem_releaseIdsForSkill (hs : board.Sound) (hrow : board.row releaseId runId = some row)
    (hnames : row.Names skillId) : releaseId ∈ board.releaseIdsForSkill row.tenantId skillId := by
  obtain ⟨_, r, hr, htenant⟩ := hs releaseId runId row hrow
  obtain ⟨hmem, hid⟩ := release_eq_some.mp hr
  obtain ⟨hrows, hkey⟩ := Table.lookup_mem hrow
  obtain ⟨c, hc, hskill⟩ := hnames
  refine List.mem_map.mpr ⟨r, List.mem_filter.mpr ⟨hmem, ?_⟩, hid⟩
  rw [Bool.and_eq_true, decide_eq_true_eq, List.any_eq_true]
  refine ⟨htenant, row, hrows, ?_⟩
  have hrelease : row.releaseId = r.releaseId := (congrArg Prod.fst hkey).trans hid.symm
  have hnamed : row.comparison.any
      (fun c => decide (c.currentSkill = some skillId ∨ c.candidateSkill = some skillId)) = true :=
    (Option.any_eq_true _ _).mpr ⟨c, hc, decide_eq_true hskill⟩
  rw [hnamed, decide_eq_true hrelease]
  rfl

theorem sound_empty : ({} : Board).Sound := by
  intro releaseId runId row hrow
  cases hrow

/-- What is recorded last keeps the row that it finds, where the links are kept across it. -/
theorem keeps_of_kept {q : Recording} (hkept : LinksKept sha256 π (h ++ [.record q])) :
    q.Keeps sha256 (run (Board.after sha256 π) {} h) := by
  intro r row hhits hrow
  have hafter := @row_recorded sha256 π _ q r _ _ hhits
  rw [hrow] at hafter
  have hsnoc : (run (Board.after sha256 π) {} (h ++ [Event.record q])).row r.releaseId q.runId =
      some (row.compared (some (q.comparison sha256 (run (Board.after sha256 π) {} h).db r))) := by
    rw [run_append]
    exact hafter
  -- The row keeps its mode and gets the flag of the recording: consistent, they agree.
  have hconsistent := (hkept (h ++ [.record q]) [] [] (by simp) _ _ _ hsnoc).1 _ rfl
  refine ⟨fun skillId hnames => ?_, hconsistent⟩
  obtain ⟨⟨row', hrow', c, hc, hskill⟩, _⟩ :=
    (hkept h [.record q] [] (by simp) _ _ _ hrow).2 skillId hnames
  obtain rfl := Option.some.inj (hsnoc.symm.trans hrow')
  obtain rfl := Option.some.inj hc
  exact hskill

/-- Over the events that keep what they find, a skill that a row names stays named. -/
theorem Names.run (hkeeps : Along (Board.after sha256 π) (Event.Keeps sha256) board h) (hs : board.Sound)
    (hrow : board.row releaseId runId = some row) (hnames : row.Names skillId) :
    (Histories.run (Board.after sha256 π) board h).Sound ∧
      ∃ row', (Histories.run (Board.after sha256 π) board h).row releaseId runId = some row' ∧
        row'.tenantId = row.tenantId ∧ row'.Names skillId := by
  apply hkeeps.invariant
    (J := fun board => board.Sound ∧ ∃ row', board.row releaseId runId = some row' ∧
      row'.tenantId = row.tenantId ∧ row'.Names skillId) ⟨hs, row, hrow, rfl, hnames⟩
  rintro board e ⟨hs, row', hrow', htenant, hnames'⟩ he
  obtain ⟨row'', hrow'', htenant', hnames''⟩ := Names.after hrow' hnames' he
  exact ⟨hs.after he, row'', hrow'', htenant'.trans htenant, hnames''⟩

/-- The rows of every run of recordings keep what they name, and stay consistent, exactly if every recording
names what it finds and has the flag of the mode that it finds. -/
theorem links_kept_iff (sha256 : ByteArray → List UInt8) (π : Platform) (h : List (Event F)) :
    LinksKept sha256 π h ↔ Along (Board.after sha256 π) (Event.Keeps sha256) {} h := by
  constructor
  · intro hkept
    -- From the first event on: the links of a history are kept in all that begins it.
    induction h using List.reverseRecOn with
    | nil => trivial
    | append_singleton h e ih =>
      refine along_snoc.mpr ⟨ih ?_, ?_⟩
      · intro before mid rest hsplit
        exact hkept before mid (rest ++ [e]) (by rw [hsplit, List.append_assoc])
      · cases e with
        | release _ | run _ _ | skillVersion _ _ => trivial
        | record q => exact keeps_of_kept hkept
  · rintro hkeeps before mid rest rfl releaseId runId row hrow
    rw [List.append_assoc] at hkeeps
    obtain ⟨hbefore, hafter⟩ := along_append.mp hkeeps
    have hmid := (along_append.mp hafter).1
    have hsound : (run (Board.after sha256 π) {} before).Sound :=
      hbefore.invariant sound_empty fun _ _ hs he => hs.after he
    refine ⟨(hsound _ _ _ hrow).1, fun skillId hnames => ?_⟩
    obtain ⟨hs, row', hrow', htenant, hnames'⟩ := Names.run hmid hsound hrow hnames
    rw [← run_append] at hs hrow'
    exact ⟨⟨row', hrow', hnames'⟩, htenant ▸ mem_releaseIdsForSkill hs hrow' hnames'⟩

end Links

section Demo

def demoRoute : RouteDecision where
  outcome := .execute
  executionMode := some .readonlyLoop
  workflowId := some "order_query"
  workflowVersion := some "1"
  intent := some "track_order"
  reasonCode := "ROUTE_RULE_MATCHED"

/-- A recording of the run, with the skill that was matched, if any. -/
def demoRecording (candidateSkill : Option String) : Recording where
  tenantId := "demo-shop"
  actorId := "demo-user-001"
  runId := "run"
  conversationId := "conv"
  routed := demoRoute
  candidateRouted := some demoRoute
  candidateSkill := candidateSkill
  riskLevel := .unknown

/-- A release in shadow, and a run that records its assignment, then the match of a skill, and then the
assignment of its next message. -/
def demoLinks : List (Event ℚ) :=
  [.release ⟨.create "demo-shop" "owner" "v1" "v2" [] "release-1", 0, 0⟩, .run "run" "demo-shop",
    .record (demoRecording none), .record (demoRecording (some "skill-1")), .record (demoRecording none)]

def demoNames (h : List (Event ℚ)) : Option (Option String) :=
  ((run (Board.after demoHash demoPlatform) {} h).row "release-1" "run").map fun row =>
    row.comparison.bind (·.candidateSkill)

theorem demoNames_eq : demoNames (demoLinks.take 4) = some (some "skill-1") ∧ demoNames demoLinks = some none ∧
    (((run (Board.after demoHash demoPlatform) {} demoLinks).row "release-1" "run").bind fun row =>
      row.comparison.bind (·.currentSkill)) = none := by
  decide +kernel

/-- The next message of the run takes the matched skill out of the comparison. -/
theorem skill_link_lost : ¬ ∀ (sha256 : ByteArray → List UInt8) (π : Platform) (h : List (Event ℚ)),
    LinksKept sha256 π h := by
  intro hclaim
  obtain ⟨hmatched, hlost, hcurrent⟩ := demoNames_eq
  obtain ⟨row, hrow, hskill⟩ := Option.map_eq_some_iff.mp hmatched
  obtain ⟨c, hc, hskill⟩ := Option.bind_eq_some_iff.mp hskill
  obtain ⟨⟨row', hrow', c', hc', hnamed⟩, _⟩ :=
    (hclaim demoHash demoPlatform demoLinks (demoLinks.take 4) (demoLinks.drop 4) [] rfl _ _ row hrow).2
      "skill-1" ⟨c, hc, .inr hskill⟩
  have hrow' : (run (Board.after demoHash demoPlatform) {} demoLinks).row "release-1" "run" = some row' := hrow'
  unfold demoNames at hlost
  rw [hrow'] at hlost hcurrent
  have hcomparison : row'.comparison = some c' := hc'
  simp [hcomparison] at hlost hcurrent
  rcases hnamed with hnamed | hnamed
  · rw [hnamed] at hcurrent
    cases hcurrent
  · rw [hnamed] at hlost
    cases hlost

end Demo

end CommerceAgent.Delivery
