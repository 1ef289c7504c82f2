import CommerceAgent.Programs
import Mathlib.Data.List.Basic

/-! Any number of processes on one machine, one atomic call at a time in any order. A process
that is never scheduled again has crashed. -/
namespace Programs

universe u v

variable {F : Type → Type} {ε σ ι : Type} {γ : Type v} {α : ι → Type}

abbrev History (ι : Type) (F : Type → Type) (ε σ : Type) : Type 1 := List (ι × Happened F ε σ)

section Runs

variable [DecidableEq ι]

inductive Run (M : Machine F ε σ) (procs : (i : ι) → Prog F ε (α i)) (s₀ : σ) :
    History ι F ε σ → ((i : ι) → Prog F ε (α i)) → σ → Prop
  | start : Run M procs s₀ [] procs s₀
  | step {h : History ι F ε σ} {ps : (i : ι) → Prog F ε (α i)} {s s' : σ} {i : ι} {β : Type}
      {o : F β} {k : Except ε β → Prog F ε (α i)} {r : Except ε β}
      (run : Run M procs s₀ h ps s) (hp : ps i = .call o k) (hm : M s o r s') :
      Run M procs s₀ (h ++ [(i, ⟨⟨o, r⟩, s, s'⟩)]) (Function.update ps i (k r)) s'

/-- The calls that process `i` made. -/
def own (i : ι) (h : History ι F ε σ) : List (Call F ε) :=
  (h.filter fun e => e.1 = i).map fun e => e.2.toCall

@[simp] theorem own_nil (i : ι) : own i ([] : History ι F ε σ) = [] := rfl

@[simp] theorem own_snoc (i j : ι) (h : History ι F ε σ) (e : Happened F ε σ) :
    own i (h ++ [(j, e)]) = if j = i then own i h ++ [e.toCall] else own i h := by
  unfold own
  by_cases hij : j = i <;> simp [hij]

/-- The ghost value that `track` computes from the calls of process `i`. -/
def view (track : γ → Call F ε → γ) (g : γ) (i : ι) (h : History ι F ε σ) : γ :=
  (own i h).foldl track g

@[simp] theorem view_nil (track : γ → Call F ε → γ) (g : γ) (i : ι) :
    view track g i ([] : History ι F ε σ) = g := rfl

@[simp] theorem view_snoc_self (track : γ → Call F ε → γ) (g : γ) (i : ι)
    (h : History ι F ε σ) (e : Happened F ε σ) :
    view track g i (h ++ [(i, e)]) = track (view track g i h) e.toCall := by
  simp [view]

theorem view_snoc_other (track : γ → Call F ε → γ) (g : γ) {i j : ι} (hij : j ≠ i)
    (h : History ι F ε σ) (e : Happened F ε σ) :
    view track g i (h ++ [(j, e)]) = view track g i h := by
  simp [view, hij]

/-- Only the view of the process that made the call changes. -/
theorem view_snoc (track : γ → Call F ε → γ) (g : γ) (i : ι) (h : History ι F ε σ)
    (e : Happened F ε σ) :
    (fun j => view track g j (h ++ [(i, e)])) =
      Function.update (fun j => view track g j h) i (track (view track g i h) e.toCall) := by
  funext j
  by_cases hij : i = j
  · subst hij
    rw [view_snoc_self, Function.update_self]
  · rw [view_snoc_other track g hij, Function.update_of_ne (Ne.symm hij)]

theorem mem_own {i : ι} {h : History ι F ε σ} {c : Call F ε} :
    c ∈ own i h ↔ ∃ e, (i, e) ∈ h ∧ e.toCall = c := by
  simp only [own, List.mem_map, List.mem_filter, decide_eq_true_eq]
  constructor
  · rintro ⟨⟨j, e⟩, ⟨hmem, rfl⟩, rfl⟩
    exact ⟨e, hmem, rfl⟩
  · rintro ⟨e, hmem, rfl⟩
    exact ⟨(i, e), ⟨hmem, rfl⟩, rfl⟩

/-- The ghost value that keeps every call. -/
def log (l : List (Call F ε)) (c : Call F ε) : List (Call F ε) := l ++ [c]

theorem view_log (i : ι) (h : History ι F ε σ) : view log [] i h = own i h := by
  have hfold : ∀ l m : List (Call F ε), l.foldl log m = m ++ l := by
    intro l
    induction l with
    | nil => simp
    | cons c l ih => simp [log, ih]
  exact hfold _ _

variable {M : Machine F ε σ} {procs ps : (i : ι) → Prog F ε (α i)} {s₀ s : σ}
  {h : History ι F ε σ}

/-- What a process keeps to under every answer, it keeps to in every interleaving. -/
theorem Run.local_safe {track : γ → Call F ε → γ} {G : γ → {β : Type} → F β → Prop} {i : ι} {g : γ}
    {Q : Except ε (α i) → γ → Prop} (hsafe : Safe (.ghost track) G Q (procs i) g)
    (run : Run M procs s₀ h ps s) :
    Safe (.ghost track) G Q (ps i) (view track g i h) := by
  induction run with
  | start => exact hsafe
  | @step h ps s s' j _ o k r run hp hm ih =>
    by_cases hij : j = i
    · subst hij
      rw [hp] at ih
      rw [Function.update_self, view_snoc_self]
      exact ih.2 r _ rfl
    · rw [Function.update_of_ne (Ne.symm hij), view_snoc_other track g hij]
      exact ih

/-- An invariant of the history and the shared state: each step may use what its process
promises about the call it makes. -/
theorem Run.invariant {track : γ → Call F ε → γ} {G : ι → γ → {β : Type} → F β → Prop} {g : ι → γ}
    {Q : (i : ι) → Except ε (α i) → γ → Prop} (J : History ι F ε σ → σ → Prop)
    (hsafe : ∀ i, Safe (.ghost track) (G i) (Q i) (procs i) (g i)) (h0 : J [] s₀)
    (hstep : ∀ h s i {β : Type} (o : F β) r s', J h s → G i (view track (g i) i h) o → M s o r s' →
      J (h ++ [(i, ⟨⟨o, r⟩, s, s'⟩)]) s')
    (run : Run M procs s₀ h ps s) : J h s := by
  induction run with
  | start => exact h0
  | @step h ps s s' i _ o k r run hp hm ih =>
    have hcall := run.local_safe (hsafe i)
    rw [hp] at hcall
    exact hstep _ _ _ _ _ _ ih hcall.1 hm

/-- An invariant of the history and the shared state when the steps meet a condition: each of them
may use what its process promises, and shows what the process may rely on. -/
theorem Run.conditional_invariant {track : γ → Call F ε → γ} {P : ι → Call F ε → Prop}
    {C : ι → Happened F ε σ → Prop} {G : ι → γ → {β : Type} → F β → Prop} {g : ι → γ}
    {Q : (i : ι) → Except ε (α i) → γ → Prop} (J : History ι F ε σ → σ → Prop)
    (hsafe : ∀ i, Safe ((Machine.ghost track).restrict (P i)) (G i) (Q i) (procs i) (g i))
    (h0 : J [] s₀)
    (hstep : ∀ h s i {β : Type} (o : F β) r s', J h s → G i (view track (g i) i h) o → M s o r s' →
      C i ⟨⟨o, r⟩, s, s'⟩ → P i ⟨o, r⟩ ∧ J (h ++ [(i, ⟨⟨o, r⟩, s, s'⟩)]) s')
    (run : Run M procs s₀ h ps s) (hC : ∀ i e, (i, e) ∈ h → C i e) :
    J h s ∧ ∀ i, Safe ((Machine.ghost track).restrict (P i)) (G i) (Q i) (ps i)
      (view track (g i) i h) := by
  induction run with
  | start => exact ⟨h0, hsafe⟩
  | @step h ps s s' i _ o k r run hp hm ih =>
    obtain ⟨hJ, hprocs⟩ := ih fun j e he => hC j e (List.mem_append_left _ he)
    have hcall := hprocs i
    rw [hp] at hcall
    have hlast := hC i _ (List.mem_append_right _ (List.mem_singleton_self _))
    obtain ⟨hP, hnext⟩ := hstep _ _ _ _ _ _ hJ hcall.1 hm hlast
    refine ⟨hnext, fun j => ?_⟩
    by_cases hij : i = j
    · subst hij
      rw [Function.update_self, view_snoc_self]
      exact hcall.2 r _ ⟨rfl, hP⟩
    · rw [Function.update_of_ne (Ne.symm hij), view_snoc_other track (g j) hij]
      exact hprocs j

/-- An invariant of the shared state that every step of the machine keeps. -/
theorem Run.state_invariant {J : σ → Prop} (h0 : J s₀)
    (hstep : ∀ s {β : Type} (o : F β) r s', J s → M s o r s' → J s') (run : Run M procs s₀ h ps s) : J s := by
  induction run with
  | start => exact h0
  | step run hp hm ih => exact hstep _ _ _ _ ih hm

theorem Run.trans {ps' : (i : ι) → Prog F ε (α i)} {s' : σ} {h' : History ι F ε σ}
    (run : Run M procs s₀ h ps s) (run' : Run M ps s h' ps' s') :
    Run M procs s₀ (h ++ h') ps' s' := by
  induction run' with
  | start => simpa only [List.append_nil] using run
  | step run' hp hm ih =>
    rw [← List.append_assoc]
    exact .step ih hp hm

/-- A run stops after each prefix of its history and goes on from there. -/
theorem Run.split {h₁ h₂ : History ι F ε σ} (run : Run M procs s₀ (h₁ ++ h₂) ps s) :
    ∃ ps₁ s₁, Run M procs s₀ h₁ ps₁ s₁ ∧ Run M ps₁ s₁ h₂ ps s := by
  generalize hh : h₁ ++ h₂ = h at run
  induction run generalizing h₂ with
  | start =>
    obtain ⟨rfl, rfl⟩ := List.append_eq_nil_iff.mp hh
    exact ⟨procs, s₀, .start, .start⟩
  | @step h ps s s' i _ o k r run hp hm ih =>
    rcases List.eq_nil_or_concat h₂ with rfl | ⟨h₂', e, rfl⟩
    · rw [List.append_nil] at hh
      subst hh
      exact ⟨_, _, .step run hp hm, .start⟩
    · rw [List.concat_eq_append, ← List.append_assoc] at hh
      obtain ⟨hpre, hlast⟩ := List.append_inj' hh rfl
      obtain ⟨rfl⟩ := List.cons.inj hlast
      obtain ⟨ps₁, s₁, hrun, hrest⟩ := ih hpre
      rw [List.concat_eq_append]
      exact ⟨ps₁, s₁, hrun, .step hrest hp hm⟩

/-- The step that an entry of the history records. -/
theorem Run.entry {h₁ h₂ : History ι F ε σ} {i : ι} {e : Happened F ε σ}
    (run : Run M procs s₀ (h₁ ++ (i, e) :: h₂) ps s) :
    ∃ ps₁ ps₂, Run M procs s₀ h₁ ps₁ e.before ∧ M e.before e.op e.answer e.after ∧
      Run M procs s₀ (h₁ ++ [(i, e)]) ps₂ e.after ∧ Run M ps₂ e.after h₂ ps s := by
  rw [List.append_cons] at run
  obtain ⟨ps₂, s₂, hpre, hpost⟩ := run.split
  generalize hh : h₁ ++ [(i, e)] = h' at hpre
  cases hpre with
  | start => simp at hh
  | step hrun hp hm =>
    obtain ⟨rfl, hlast⟩ := List.append_inj' hh rfl
    obtain ⟨rfl, rfl⟩ := Prod.mk.inj (List.cons.inj hlast).1
    exact ⟨_, _, hrun, hm, .step hrun hp hm, hpost⟩

/-- A run whose steps another machine also makes is a run of that machine. -/
theorem Run.refine {M' : Machine F ε σ} (run : Run M procs s₀ h ps s)
    (hM : ∀ i e, (i, e) ∈ h → M e.before e.op e.answer e.after → M' e.before e.op e.answer e.after) :
    Run M' procs s₀ h ps s := by
  induction run with
  | start => exact .start
  | step run hp hm ih =>
    have hpast := ih fun i e he => hM i e (List.mem_append_left _ he)
    exact .step hpast hp (hM _ _ (List.mem_append_right _ (List.mem_singleton_self _)) hm)

/-- The state after the first `n` calls of a history from `s₀`. -/
def stateAt (s₀ : σ) (h : History ι F ε σ) (n : ℕ) : σ :=
  ((h.take n).getLast?.map fun e => e.2.after).getD s₀

theorem Run.last (run : Run M procs s₀ h ps s) : s = stateAt s₀ h h.length := by
  cases run with
  | start => rfl
  | step run hp hm =>
    rw [stateAt, List.take_length]
    simp

/-- A run passes through the state after each number of its calls, in order. -/
theorem Run.between (run : Run M procs s₀ h ps s) {m n : ℕ} (hmn : m ≤ n) :
    ∃ ps₁ h' ps₂, Run M procs s₀ (h.take m) ps₁ (stateAt s₀ h m) ∧
      Run M ps₁ (stateAt s₀ h m) h' ps₂ (stateAt s₀ h n) := by
  rw [← List.take_append_drop n h] at run
  obtain ⟨ps₂, s₂, hlater, _⟩ := run.split
  have hn : s₂ = stateAt s₀ h n := by
    have hlast := hlater.last
    rwa [stateAt, List.take_length] at hlast
  have htake : h.take n = h.take m ++ (h.take n).drop m := by
    have hsplit := List.take_append_drop m (h.take n)
    rw [List.take_take, Nat.min_eq_left hmn] at hsplit
    exact hsplit.symm
  rw [htake] at hlater
  obtain ⟨ps₁, s₁, hearlier, hrest⟩ := hlater.split
  have hm : s₁ = stateAt s₀ h m := by
    have hlast := hearlier.last
    rwa [stateAt, List.take_length] at hlast
  subst hn hm
  exact ⟨ps₁, _, ps₂, hearlier, hrest⟩

/-- The promise under which an entry of the history was made. -/
theorem Run.promised {track : γ → Call F ε → γ} {G : γ → {β : Type} → F β → Prop} {i : ι} {g : γ}
    {Q : Except ε (α i) → γ → Prop} (hsafe : Safe (.ghost track) G Q (procs i) g)
    {h₁ h₂ : History ι F ε σ} {e : Happened F ε σ}
    (run : Run M procs s₀ (h₁ ++ (i, e) :: h₂) ps s) : G (view track g i h₁) e.op := by
  rw [List.append_cons] at run
  obtain ⟨ps₂, s₂, hpre, _⟩ := run.split
  generalize hh : h₁ ++ [(i, e)] = h' at hpre
  cases hpre with
  | start => simp at hh
  | step hrun hp hm =>
    obtain ⟨rfl, hlast⟩ := List.append_inj' hh rfl
    obtain ⟨rfl, rfl⟩ := Prod.mk.inj (List.cons.inj hlast).1
    have hcall := hrun.local_safe hsafe
    rw [hp] at hcall
    exact hcall.1

/-- Once `J` holds and every step keeps it, it holds ever after. -/
theorem Run.after {J : σ → Prop} (hstep : ∀ s {β : Type} (o : F β) r s', J s → M s o r s' → J s')
    {h₁ h₂ : History ι F ε σ} {i : ι} {e : Happened F ε σ}
    (run : Run M procs s₀ (h₁ ++ (i, e) :: h₂) ps s) (he : J e.after) : J s := by
  obtain ⟨_, _, _, _, _, hrest⟩ := run.entry
  exact hrest.state_invariant he hstep

/-- The run in which the machine's choices and the scheduler's are `cs`; an entry for a process
that has nothing left to do is skipped. -/
def play {χ : Type u} (respond : χ → σ → {β : Type} → F β → Except ε β × σ) :
    List (ι × χ) → ((i : ι) → Prog F ε (α i)) → σ →
      History ι F ε σ × ((i : ι) → Prog F ε (α i)) × σ
  | [], ps, s => ([], ps, s)
  | (i, c) :: cs, ps, s =>
    match ps i with
    | .call o k =>
      let (r, s') := respond c s o
      let (h, ps', s'') := play respond cs (Function.update ps i (k r)) s'
      ((i, ⟨⟨o, r⟩, s, s'⟩) :: h, ps', s'')
    | _ => play respond cs ps s

theorem play_run {χ : Type u} (respond : χ → σ → {β : Type} → F β → Except ε β × σ)
    (cs : List (ι × χ)) (ps : (i : ι) → Prog F ε (α i)) (s : σ) :
    Run (.of respond) ps s (play respond cs ps s).1 (play respond cs ps s).2.1
      (play respond cs ps s).2.2 := by
  induction cs generalizing ps s with
  | nil => exact .start
  | cons c cs ih =>
    obtain ⟨i, c⟩ := c
    unfold play
    split
    · rename_i o k hp
      exact (Run.step .start hp ⟨c, rfl⟩).trans (ih _ _)
    · exact ih _ _

end Runs

end Programs
