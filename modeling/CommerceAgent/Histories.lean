import Mathlib.Data.List.Basic
import Mathlib.Data.List.Chain

/-! Histories of a system whose steps are functions of its state: what holds along a history, and
the states in which its steps were taken. -/
namespace Histories

variable {σ ι : Type} {step : σ → ι → σ} {s : σ} {e : ι} {h h' : List ι}

/-- The state after the steps `h`. -/
def run (step : σ → ι → σ) (s : σ) (h : List ι) : σ := h.foldl step s

@[simp] theorem run_nil : run step s [] = s := rfl

@[simp] theorem run_cons : run step s (e :: h) = run step (step s e) h := rfl

@[simp] theorem run_append : run step s (h ++ h') = run step (run step s h) h' :=
  List.foldl_append

/-- Each step is taken in a state that allows it. -/
def Along (step : σ → ι → σ) (C : σ → ι → Prop) : σ → List ι → Prop
  | _, [] => True
  | s, e :: h => C s e ∧ Along step C (step s e) h

section Along

variable {C C' : σ → ι → Prop}

instance decidableAlong [∀ s e, Decidable (C s e)] : ∀ s h, Decidable (Along step C s h)
  | _, [] => isTrue trivial
  | s, e :: h =>
    have : Decidable (Along step C (step s e) h) := decidableAlong (step s e) h
    inferInstanceAs (Decidable (C s e ∧ Along step C (step s e) h))

@[simp] theorem along_nil : Along step C s [] := trivial

@[simp] theorem along_cons : Along step C s (e :: h) ↔ C s e ∧ Along step C (step s e) h := Iff.rfl

theorem along_append : Along step C s (h ++ h') ↔ Along step C s h ∧ Along step C (run step s h) h' := by
  induction h generalizing s with
  | nil => simp
  | cons e h ih => simp [ih, and_assoc]

theorem along_snoc : Along step C s (h ++ [e]) ↔ Along step C s h ∧ C (run step s h) e := by
  simp [along_append]

theorem Along.of_mem (hC : ∀ e ∈ h, ∀ s, C s e) : Along step C s h := by
  induction h generalizing s with
  | nil => trivial
  | cons e h ih => exact ⟨hC e List.mem_cons_self s, ih fun e he => hC e (List.mem_cons_of_mem _ he)⟩

theorem Along.and (h : Along step C s h') (hC : Along step C' s h') :
    Along step (fun s e => C s e ∧ C' s e) s h' := by
  induction h' generalizing s with
  | nil => trivial
  | cons e h' ih => exact ⟨⟨h.1, hC.1⟩, ih h.2 hC.2⟩

/-- What the allowed steps keep holds after the history. -/
theorem Along.invariant {J : σ → Prop} (h : Along step C s h') (hJ : J s)
    (hstep : ∀ s e, J s → C s e → J (step s e)) : J (run step s h') := by
  induction h' generalizing s with
  | nil => exact hJ
  | cons e h' ih => exact ih h.2 (hstep s e hJ h.1)

/-- An invariant may be assumed at every step. -/
theorem Along.keeping {J : σ → Prop} (h : Along step C s h') (hJ : J s)
    (hstep : ∀ s e, J s → C s e → J (step s e)) : Along step (fun s e => J s ∧ C s e) s h' := by
  induction h' generalizing s with
  | nil => trivial
  | cons e h' ih => exact ⟨⟨hJ, h.1⟩, ih h.2 (hstep s e hJ h.1)⟩

end Along

theorem run_invariant {J : σ → Prop} (hJ : J s) (hstep : ∀ s e, J s → J (step s e)) :
    J (run step s h) :=
  (Along.of_mem (C := fun _ _ => True) fun _ _ _ => trivial).invariant hJ fun s e hs _ => hstep s e hs

/-- The steps, each with the state in which it was taken. -/
def trace (step : σ → ι → σ) : σ → List ι → List (σ × ι)
  | _, [] => []
  | s, e :: h => (s, e) :: trace step (step s e) h

theorem trace_append : trace step s (h ++ h') = trace step s h ++ trace step (run step s h) h' := by
  induction h generalizing s with
  | nil => rfl
  | cons e h ih => simp [trace, ih]

theorem trace_snoc : trace step s (h ++ [e]) = trace step s h ++ [(run step s h, e)] := by
  simp [trace_append, trace]

/-- A pair of the trace splits the history. -/
theorem mem_trace {x : σ × ι} (hx : x ∈ trace step s h) :
    ∃ h₁ h₂, h = h₁ ++ x.2 :: h₂ ∧ x.1 = run step s h₁ := by
  induction h generalizing s with
  | nil => exact absurd hx (by simp [trace])
  | cons e h ih =>
    rcases List.mem_cons.mp hx with rfl | hx
    · exact ⟨[], h, rfl, rfl⟩
    · obtain ⟨h₁, h₂, rfl, hrun⟩ := ih hx
      exact ⟨e :: h₁, h₂, rfl, hrun⟩

theorem Along.mem_trace {C : σ → ι → Prop} {x : σ × ι} (h : Along step C s h')
    (hx : x ∈ trace step s h') : C x.1 x.2 := by
  obtain ⟨h₁, h₂, rfl, hrun⟩ := Histories.mem_trace hx
  rw [hrun]
  exact (along_append.mp h).2.1

/-- What holds along a history holds of every pair of its trace. -/
theorem along_iff_trace {C : σ → ι → Prop} :
    Along step C s h ↔ ∀ x ∈ trace step s h, C x.1 x.2 := by
  induction h generalizing s with
  | nil => simp [Along, trace]
  | cons e h ih => rw [Along, trace, List.forall_mem_cons, ih]

end Histories
