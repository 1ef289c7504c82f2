import Mathlib.Data.List.Basic

/-! A loop that tries one input after another until an attempt succeeds. An error that the loop
handles leads to the next input, any other ends it. -/
namespace Attempts

variable {σ ι ε α : Type*}

/-- The result of the first attempt that succeeds, none after the last input; a state is carried
from one attempt to the next. -/
def firstOk (step : σ → ι → σ × Except ε α) (handled : ε → Prop) [DecidablePred handled] :
    σ → List ι → Except ε (Option α)
  | _, [] => .ok none
  | s, i :: rest =>
    match step s i with
    | (_, .ok a) => .ok (some a)
    | (s', .error e) => if handled e then firstOk step handled s' rest else .error e

/-- None of the inputs before this one is accepted. -/
def Reached (accepted : ι → Prop) (inputs : List ι) (i : ι) : Prop :=
  ∃ before rest, inputs = before ++ i :: rest ∧ ∀ j ∈ before, ¬accepted j

theorem reached_cons {accepted : ι → Prop} {i j : ι} {rest : List ι} :
    Reached accepted (j :: rest) i ↔ i = j ∨ ¬accepted j ∧ Reached accepted rest i := by
  constructor
  · rintro ⟨before, after, heq, hbefore⟩
    cases before with
    | nil => exact Or.inl (List.cons.inj heq).1.symm
    | cons k before =>
      obtain ⟨rfl, rfl⟩ := List.cons.inj heq
      refine Or.inr ⟨hbefore _ List.mem_cons_self, before, after, rfl, ?_⟩
      exact fun j hj => hbefore j (List.mem_cons_of_mem _ hj)
  · rintro (rfl | ⟨hj, before, after, rfl, hbefore⟩)
    · exact ⟨[], rest, rfl, fun _ h => nomatch h⟩
    · refine ⟨j :: before, after, rfl, fun k hk => ?_⟩
      rcases List.mem_cons.mp hk with rfl | hk
      · exact hj
      · exact hbefore k hk

/-- Which inputs succeed and which ones end the loop with an error, whatever the state is. -/
structure Judges (step : σ → ι → σ × Except ε α) (handled : ε → Prop)
    (accepted crashes : ι → Prop) : Prop where
  accepted_iff (s : σ) (i : ι) : accepted i ↔ ∃ a, (step s i).2 = .ok a
  crashes_iff (s : σ) (i : ι) : crashes i ↔ ∃ e, (step s i).2 = .error e ∧ ¬handled e

section Runs

variable {step : σ → ι → σ × Except ε α} {handled : ε → Prop} [DecidablePred handled]
  {accepted crashes : ι → Prop} {inputs : List ι} {s : σ}

theorem firstOk_cons_ok {i : ι} {s' : σ} {a : α} (h : step s i = (s', .ok a)) :
    firstOk step handled s (i :: inputs) = .ok (some a) := by
  rw [firstOk, h]

theorem firstOk_cons_error {i : ι} {s' : σ} {e : ε} (h : step s i = (s', .error e)) :
    firstOk step handled s (i :: inputs) =
      if handled e then firstOk step handled s' inputs else .error e := by
  rw [firstOk, h]

/-- The loop ends with an error when it comes to an input that crashes. -/
theorem firstOk_error_iff (h : Judges step handled accepted crashes) :
    (∃ e, firstOk step handled s inputs = .error e) ↔
      ∃ i, Reached accepted inputs i ∧ crashes i := by
  induction inputs generalizing s with
  | nil => simp [firstOk, Reached]
  | cons j rest ih =>
    have hrest : (∃ i, Reached accepted (j :: rest) i ∧ crashes i) ↔
        crashes j ∨ ¬accepted j ∧ ∃ i, Reached accepted rest i ∧ crashes i := by
      simp only [reached_cons, or_and_right, exists_or, exists_eq_left, and_assoc,
        exists_and_left]
    rw [hrest, h.accepted_iff s, h.crashes_iff s]
    rcases hstep : step s j with ⟨s', e | a⟩
    · rw [firstOk_cons_error hstep]
      by_cases he : handled e
      · simp [he, ih (s := s')]
      · simp [he]
    · simp [firstOk_cons_ok hstep]

/-- Every error of the loop is one that it does not handle. -/
theorem not_handled_of_firstOk {e : ε} (h : firstOk step handled s inputs = .error e) :
    ¬handled e := by
  induction inputs generalizing s with
  | nil => exact nomatch h
  | cons j rest ih =>
    rcases hstep : step s j with ⟨s', e' | a⟩
    · rw [firstOk_cons_error hstep] at h
      split_ifs at h with he
      · exact ih h
      · exact Except.error.inj h ▸ he
    · exact nomatch (firstOk_cons_ok hstep).symm.trans h

/-- A result is that of an attempt. -/
theorem exists_of_firstOk_some {a : α} (h : firstOk step handled s inputs = .ok (some a)) :
    ∃ s' i, i ∈ inputs ∧ (step s' i).2 = .ok a := by
  induction inputs generalizing s with
  | nil => exact nomatch Except.ok.inj h
  | cons j rest ih =>
    rcases hstep : step s j with ⟨s', e | b⟩
    · rw [firstOk_cons_error hstep] at h
      split_ifs at h
      obtain ⟨s', i, hi, hs'⟩ := ih h
      exact ⟨s', i, List.mem_cons_of_mem _ hi, hs'⟩
    · rw [firstOk_cons_ok hstep] at h
      obtain rfl := Option.some.inj (Except.ok.inj h)
      exact ⟨s, j, List.mem_cons_self, congrArg Prod.snd hstep⟩

/-- An error is that of an attempt. -/
theorem exists_of_firstOk_error {e : ε} (h : firstOk step handled s inputs = .error e) :
    ∃ s' i, i ∈ inputs ∧ (step s' i).2 = .error e := by
  induction inputs generalizing s with
  | nil => exact nomatch h
  | cons j rest ih =>
    rcases hstep : step s j with ⟨s', e' | a⟩
    · rw [firstOk_cons_error hstep] at h
      split_ifs at h
      · obtain ⟨s', i, hi, hs'⟩ := ih h
        exact ⟨s', i, List.mem_cons_of_mem _ hi, hs'⟩
      · obtain rfl := Except.error.inj h
        exact ⟨s, j, List.mem_cons_self, congrArg Prod.snd hstep⟩
    · exact nomatch (firstOk_cons_ok hstep).symm.trans h

theorem firstOk_none_iff (h : Judges step handled accepted crashes) :
    firstOk step handled s inputs = .ok none ↔ ∀ i ∈ inputs, ¬accepted i ∧ ¬crashes i := by
  induction inputs generalizing s with
  | nil => simp [firstOk]
  | cons j rest ih =>
    rw [List.forall_mem_cons, h.accepted_iff s, h.crashes_iff s]
    rcases hstep : step s j with ⟨s', e | a⟩
    · rw [firstOk_cons_error hstep]
      by_cases he : handled e
      · simp [he, ih (s := s')]
      · simp [he]
    · simp [firstOk_cons_ok hstep]

end Runs

end Attempts
