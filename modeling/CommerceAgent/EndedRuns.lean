import CommerceAgent.TerminalResponse

/-! What may still happen to a run that has ended. -/
namespace CommerceAgent

open Json Programs

/-- A publisher writes another reason over the one that the run has. -/
def AgentRun.rewritesReason (run : AgentRun) {α : Type} : RunTx α → Bool
  | .setTerminalReason runId tenantId reason =>
    run.runId = runId ∧ run.tenantId = tenantId ∧ run.terminalReason ≠ none ∧
      run.terminalReason ≠ reason
  | _ => false

/-- A checkpoint with another status is committed on the version that the run has. -/
def AgentRun.reopens (run : AgentRun) {α : Type} : RunTx α → Bool
  | .commitStep p =>
    run.runId = p.runId ∧ run.tenantId = p.tenantId ∧ run.rowVersion = p.expectedVersion ∧
      run.status ≠ p.nextStatus
  | _ => false

/-- The call finds the run ended, and is one of the two that do not look at the status. -/
def DB.disturbs (db : DB) (runId : Uuid) {α : Type} : Op α → Bool
  | .runs t => (db.run runId).any fun run =>
      decide run.status.IsTerminal && (run.rewritesReason t || run.reopens t)
  | _ => false

/-- The status is kept, and the reason if there was one. -/
def AgentRun.SameEnd (run run' : AgentRun) : Prop :=
  run'.status = run.status ∧ ∀ reason, run.terminalReason = some reason →
    run'.terminalReason = some reason

theorem AgentRun.SameEnd.refl (run : AgentRun) : run.SameEnd run := ⟨rfl, fun _ => id⟩

theorem AgentRun.SameEnd.trans {run run' run'' : AgentRun} (h : run.SameEnd run')
    (h' : run'.SameEnd run'') : run.SameEnd run'' :=
  ⟨h'.1.trans h.1, fun reason hr => h'.2 reason (h.2 reason hr)⟩

section Steps

variable {α : Type} {runId : Uuid} {run : AgentRun} {db db' : DB}

/-- A status that the guarded updates ask for is not a final one. -/
theorem not_terminal_of_recoverable {status : RunStatus} (h : status ∈ RECOVERABLE) :
    ¬ status.IsTerminal := by
  cases status <;> revert h <;> decide

/-- The update of a run that has ended: only the two calls that do not look at the status change
how it ended. -/
theorem sameEnd_rowAfter {t : RunTx α} {now : ℕ} (hended : run.status.IsTerminal)
    (hreason : run.rewritesReason t = false) (hcommit : ∀ p, t.commit? = some p →
      run.runId = p.runId → run.status = p.nextStatus) :
    run.SameEnd (t.rowAfter now run) := by
  cases t with
  | setTerminalReason id tenantId reason =>
    rw [RunTx.rowAfter]
    split
    · rename_i hid
      refine ⟨rfl, fun r hr => ?_⟩
      -- A reason that is written over another one is what the hypothesis excludes.
      have hsame : run.terminalReason = reason := by
        by_contra hne
        have hrewrites : run.rewritesReason (.setTerminalReason id tenantId reason) = true := by
          simp [AgentRun.rewritesReason, hid.1, hid.2, hr, hr ▸ hne]
        exact absurd (hrewrites.symm.trans hreason) (by simp)
      exact hsame ▸ hr
    · exact .refl run
  | commitStep p =>
    rw [RunTx.rowAfter]
    split
    · rename_i hid
      exact ⟨(hcommit p rfl hid).symm, fun r hr => hr⟩
    · exact .refl run
  | cancelUnstartedRun id tenantId reason =>
    rw [RunTx.rowAfter, if_neg]
    · exact .refl run
    · rintro ⟨_, _, hcreated⟩
      rw [hcreated] at hended
      exact absurd hended (by decide)
  | selectRoute id tenantId decision =>
    rw [RunTx.rowAfter, if_neg]
    · exact .refl run
    · rintro ⟨_, _, hstatus, _⟩
      have hrecoverable : run.status ∈ RECOVERABLE := by
        rcases List.mem_pair.mp hstatus with hs | hs <;> rw [hs] <;> decide
      exact not_terminal_of_recoverable hrecoverable hended
  | markFailed id tenantId reason =>
    rw [RunTx.rowAfter, if_neg]
    · exact .refl run
    · exact fun h => h.2.2 hended
  | expireOverdueRuns tenantId =>
    rw [RunTx.rowAfter, if_neg]
    · exact .refl run
    · exact fun h => not_terminal_of_recoverable h.2.1 hended
  | markDispatchStarted _ _ | markResponsePublished _ _ =>
    rw [RunTx.rowAfter]
    split
    · exact ⟨rfl, fun _ => id⟩
    · exact .refl run
  | loadRun | appendEvent | loadLatestCheckpoint | createRun | activeForConversation
  | recoverableRuns => exact .refl run

/-- One call, whoever makes it. -/
theorem Op.Effect.sameEnd {o : Op α} {r : Except Exc α} (h : o.Effect db r db')
    (hrow : db.run runId = some run) (hended : run.status.IsTerminal)
    (hkept : db.disturbs runId o = false) : ∃ run', db'.run runId = some run' ∧ run.SameEnd run' := by
  by_cases ho : o.SparesRuns
  · refine ⟨run, ?_, .refl run⟩
    rw [DB.run, (h.runs_eq ho).1]
    exact hrow
  · cases o with
    | runs t =>
      rcases h with ⟨_, _, rfl⟩ | ⟨env, a, _, hx⟩
      · exact ⟨run, hrow, .refl run⟩
      · have hquiet : run.rewritesReason t = false ∧ run.reopens t = false := by
          simpa [DB.disturbs, hrow, hended] using hkept
        refine ⟨_, RunTx.run_after hx hrow, sameEnd_rowAfter hended hquiet.1 ?_⟩
        intro p hp hid
        obtain ⟨row, hcommit⟩ := commitStepTx_committed (RunTx.exec_of_commit? hp hx)
        have hfound := hcommit.found
        rw [← hid, DB.run_runId hrow, hrow] at hfound
        obtain rfl := Option.some.inj hfound
        cases t with
        | commitStep p' =>
          obtain rfl := Option.some.inj hp
          simpa [AgentRun.reopens, hid, hcommit.tenant, hcommit.version] using hquiet.2
        | _ => exact absurd hp (by simp [RunTx.commit?])
    | _ => exact absurd trivial ho

end Steps

section Runs

variable {ι : Type} [DecidableEq ι] {β : ι → Type} {procs ps : (i : ι) → Act (β i)}
  {h : History ι Op Exc DB} {db db' : DB} {runId : Uuid} {run : AgentRun}

end Runs

section Demo

/-- A run that the user cancelled, with the reason that its publisher wrote. -/
def endedDB (status : RunStatus) (reason : String) : DB :=
  { demoSeed with
    runs := ⟨[{ demoRun with status := status, terminalReason := some reason, rowVersion := 1 }],
      List.pairwise_singleton _ _⟩ }

/-- A worker that finds out late that its run cannot be executed. -/
def lateWorker : Unit → Act Unit := fun _ =>
  markFailed demoPlatform (fun _ _ _ => pure ()) demoContext "UNEXPECTED_EXECUTION_ERROR"

def demoLate (db : DB) : History Unit Op Exc DB × (Unit → Act Unit) × DB :=
  play respond (List.replicate 6 ((), demoChoice "message-1" "" false)) lateWorker db

theorem demoLate_run (db : DB) :
    Run store lateWorker db (demoLate db).1 (demoLate db).2.1 (demoLate db).2.2 :=
  play_run respond _ _ _

theorem demoLate_facts :
    ((demoLate (endedDB .failed "UNEXPECTED_EXECUTION_ERROR")).1.all fun e =>
      !e.2.before.disturbs "run" e.2.op) = true ∧
    (((demoLate (endedDB .cancelled "CANCELLED_BY_USER")).2.2.run "run").map
      AgentRun.terminalReason) = some (some "UNEXPECTED_EXECUTION_ERROR") := by
  decide +kernel

end Demo

end CommerceAgent
