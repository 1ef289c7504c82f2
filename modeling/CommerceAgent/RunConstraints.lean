import CommerceAgent.RunRepository

/-! The constraints and the trigger on the rows of runs, beside what a statement makes of a row. -/
namespace CommerceAgent

open Json Tables

/-- The statuses of a run that no route was selected for. -/
def UNPINNED : List RunStatus :=
  [.created, .routing, .waitingUser, .waitingHuman, .failed, .cancelled, .expired]

/-- A run that is pinned to this mode may have the status. -/
structure RunStatus.Fits (status : RunStatus) (mode : ExecutionMode) : Prop where
  readonly : status = .runningReadonly → mode = .readonlyLoop
  workflow : status ∈ [.runningWorkflow, .waitingConfirmation, .committing, .verifying] →
    mode = .workflow

instance (status : RunStatus) (mode : ExecutionMode) : Decidable (status.Fits mode) :=
  decidable_of_iff ((status = .runningReadonly → mode = .readonlyLoop) ∧
    (status ∈ [.runningWorkflow, .waitingConfirmation, .committing, .verifying] → mode = .workflow))
    ⟨fun h => ⟨h.1, h.2⟩, fun h => ⟨h.readonly, h.workflow⟩⟩

section Rows

variable {α : Type} {run : AgentRun} {now : ℕ}

theorem RunStatus.fits_of_unpinned {status : RunStatus} (h : status ∈ UNPINNED) (mode : ExecutionMode) :
    status.Fits mode := by
  have hall : ∀ status ∈ UNPINNED, ∀ mode ∈ [ExecutionMode.readonlyLoop, .workflow], status.Fits mode := by
    decide
  refine hall status h mode ?_
  cases mode <;> decide

/-- A row keeps its constraints when it moves to a status that fits its mode. -/
theorem AgentRun.Checked.moved {run' : AgentRun} (h : run.Checked)
    (hmode : run'.executionMode = run.executionMode) (hworkflow : run'.workflowId = run.workflowId)
    (hversion : run'.workflowVersion = run.workflowVersion)
    (hfits : run'.status ∈ UNPINNED ∨ ∃ mode, run.executionMode = some mode ∧ run'.status.Fits mode) :
    run'.Checked := by
  cases hpin : run.executionMode with
  | none =>
    have hstatus : run'.status ∈ UNPINNED := by
      rcases hfits with hstatus | ⟨mode, hsome, _⟩
      · exact hstatus
      · exact absurd (hpin.symm.trans hsome) (by simp)
    have hshape : run.workflowId = none ∧ run.workflowVersion = none := by
      rcases h.dualExecutorShape with ⟨_, hw, hv, _⟩ | ⟨hsome, _⟩
      · exact ⟨hw, hv⟩
      · exact absurd hsome (by simp [hpin])
    have hall : ∀ status ∈ UNPINNED, status ≠ .runningReadonly ∧
        status ∉ [RunStatus.runningWorkflow, .waitingConfirmation, .committing, .verifying] := by
      decide
    refine ⟨.inl ⟨hmode.trans hpin, hworkflow.trans hshape.1, hversion.trans hshape.2, hstatus⟩, ?_, ?_⟩
    · exact fun hreadonly => absurd hreadonly (hall _ hstatus).1
    · exact fun hworking => absurd hworking (hall _ hstatus).2
  | some mode =>
    have hfit : run'.status.Fits mode := by
      rcases hfits with hstatus | ⟨mode', hsome, hfit⟩
      · exact RunStatus.fits_of_unpinned hstatus mode
      · obtain rfl := Option.some.inj (hpin.symm.trans hsome)
        exact hfit
    have hshape : run.executionMode.isSome ∧ run.workflowId.isSome ∧ run.workflowVersion.isSome := by
      rcases h.dualExecutorShape with ⟨hnone, _⟩ | hshape
      · exact absurd (hpin.symm.trans hnone) (by simp)
      · exact hshape
    refine ⟨.inr ?_, ?_, ?_⟩
    · rw [hmode, hworkflow, hversion]
      exact hshape
    · intro hreadonly
      rw [hmode, hpin, hfit.readonly hreadonly]
    · intro hworking
      rw [hmode, hpin, hfit.workflow hworking]

/-- The trigger lets a row pass whose pins stay as they are. -/
theorem AgentRun.selectionGuarded_same {run' : AgentRun} (hmode : run'.executionMode = run.executionMode)
    (hworkflow : run'.workflowId = run.workflowId)
    (hversion : run'.workflowVersion = run.workflowVersion) : run.selectionGuarded run' = true := by
  unfold AgentRun.selectionGuarded
  rw [hmode, hworkflow, hversion]
  cases run.executionMode <;> simp

/-- An executable decision names everything that it pins. -/
def RouteDecision.Complete (decision : RouteDecision) : Prop :=
  decision.outcome = .execute →
    decision.executionMode.isSome ∧ decision.workflowId.isSome ∧ decision.workflowVersion.isSome

def RunTx.Complete : {α : Type} → RunTx α → Prop
  | _, .selectRoute _ _ decision => decision.Complete
  | _, _ => True

/-- The row that a commit is about. -/
def RunTx.Finds : {α : Type} → RunTx α → AgentRun → Prop
  | _, .commitStep p, run => run.runId = p.runId ∧ run.tenantId = p.tenantId ∧
      run.rowVersion = p.expectedVersion
  | _, _, _ => True

/-- The constraints and the trigger accept what the statement makes of a row. -/
def RunTx.Accepts (t : RunTx α) (run : AgentRun) : Prop :=
  ∀ now, (t.rowAfter now run).Checked ∧ run.selectionGuarded (t.rowAfter now run) = true

theorem select_accepted {decision : RouteDecision} (h : run.Checked) (hcomplete : decision.Complete)
    (hopen : run.status ∈ [RunStatus.created, .routing]) (hnone : run.executionMode = none) :
    (run.select decision).Checked ∧ run.selectionGuarded (run.select decision) = true := by
  have hworkflow : run.workflowId = none := by
    rcases h.dualExecutorShape with ⟨_, hw, _⟩ | ⟨hsome, _⟩
    · exact hw
    · exact absurd hsome (by simp [hnone])
  unfold AgentRun.select
  cases houtcome : decision.outcome with
  | handoff | askUser =>
    exact ⟨h.moved rfl rfl rfl (.inl (by simp [UNPINNED])), AgentRun.selectionGuarded_same rfl rfl rfl⟩
  | execute =>
    obtain ⟨hmode, hw, hv⟩ := hcomplete houtcome
    obtain ⟨mode, hmode⟩ := Option.isSome_iff_exists.mp hmode
    refine ⟨⟨.inr ⟨by simp [hmode], hw, hv⟩, ?_, ?_⟩, ?_⟩
    · cases mode <;> simp [hmode]
    · cases mode <;> simp [hmode]
    · simp only [AgentRun.selectionGuarded, hnone, hworkflow, hopen]
      simp

/-- Whatever the row: only a commit and the selection of an incomplete decision can be refused. -/
theorem RunTx.accepts_of_checked {t : RunTx α} (h : run.Checked) (ht : t.commit? = none)
    (hselect : t.Complete) : t.Accepts run := by
  have hsame : ∀ {run' : AgentRun}, run'.executionMode = run.executionMode →
      run'.workflowId = run.workflowId → run'.workflowVersion = run.workflowVersion →
      run'.status = run.status ∨ run'.status ∈ UNPINNED →
      run'.Checked ∧ run.selectionGuarded run' = true := by
    intro run' hmode hworkflow hversion hstatus
    refine ⟨?_, AgentRun.selectionGuarded_same hmode hworkflow hversion⟩
    rcases hstatus with hstatus | hstatus
    · refine ⟨?_, ?_, ?_⟩
      · rw [hmode, hworkflow, hversion, hstatus]
        exact h.dualExecutorShape
      · rw [hmode, hstatus]
        exact h.modeMatchesStatus
      · rw [hmode, hstatus]
        exact h.workflowStates
    · exact h.moved hmode hworkflow hversion (.inl hstatus)
  intro now
  cases t with
  | commitStep p => exact absurd ht (by simp [RunTx.commit?])
  | selectRoute runId tenantId decision =>
    simp only [RunTx.rowAfter]
    split
    · rename_i hfound
      exact select_accepted h hselect hfound.2.2.1 hfound.2.2.2
    · exact hsame rfl rfl rfl (.inl rfl)
  | markDispatchStarted | markResponsePublished | setTerminalReason =>
    simp only [RunTx.rowAfter]
    split
    · exact hsame rfl rfl rfl (.inl rfl)
    · exact hsame rfl rfl rfl (.inl rfl)
  | cancelUnstartedRun | markFailed | expireOverdueRuns =>
    simp only [RunTx.rowAfter]
    split
    · exact hsame rfl rfl rfl (.inr (by simp [UNPINNED]))
    · exact hsame rfl rfl rfl (.inl rfl)
  | loadRun | appendEvent | loadLatestCheckpoint | createRun | activeForConversation | recoverableRuns =>
    exact hsame rfl rfl rfl (.inl rfl)

/-- A commit is accepted if the row is pinned to a mode that its status fits, or needs no pin. -/
theorem commit_accepted {p : CommitStep} (h : run.Checked)
    (hfits : p.nextStatus ∈ UNPINNED ∨ ∃ mode, run.executionMode = some mode ∧ p.nextStatus.Fits mode) :
    (RunTx.commitStep p).Accepts run := by
  intro now
  simp only [RunTx.rowAfter]
  split
  · exact ⟨h.moved rfl rfl rfl hfits, AgentRun.selectionGuarded_same rfl rfl rfl⟩
  · exact ⟨h, AgentRun.selectionGuarded_same rfl rfl rfl⟩

/-- Once pinned, a row stays with its mode. -/
theorem mode_rowAfter {t : RunTx α} {mode : ExecutionMode} (h : run.executionMode = some mode) :
    (t.rowAfter now run).executionMode = some mode := by
  cases t with
  | selectRoute runId tenantId decision =>
    simp only [RunTx.rowAfter]
    split
    · rename_i hfound
      exact absurd (h.symm.trans hfound.2.2.2) (by simp)
    · exact h
  | commitStep | markDispatchStarted | markResponsePublished | setTerminalReason | cancelUnstartedRun
  | markFailed | expireOverdueRuns =>
    simp only [RunTx.rowAfter]
    split <;> exact h
  | loadRun | appendEvent | loadLatestCheckpoint | createRun | activeForConversation | recoverableRuns =>
    exact h

end Rows

end CommerceAgent
