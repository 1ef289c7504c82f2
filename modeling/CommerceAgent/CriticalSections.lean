import CommerceAgent.Interleaving
import Mathlib.Data.Finset.Card

/-! Processes that enter and leave a section, and a counter of those inside. -/
namespace Programs

universe u v

variable {F G : Type → Type} {ε σ ι α β : Type} {γ : Type v}

namespace Prog

/-- `try: p finally: q`. -/
def ensure (p : Prog F ε α) (q : Prog F ε β) : Prog F ε α := do
  let r ← p.attempt
  let _ ← q
  .ofExcept r

/-- The same program over a larger interface. -/
def embed (f : {β : Type} → F β → G β) : Prog F ε α → Prog G ε α
  | ret a => ret a
  | raise e => raise e
  | call o k => call (f o) fun r => (k r).embed f

end Prog

section Rules

variable {M : Machine F ε σ} {P : σ → {β : Type} → F β → Prop} {Q : Except ε α → σ → Prop} {s : σ}

/-- The second program of `ensure` runs whatever the first one did. -/
theorem Safe.ensure {p : Prog F ε α} {q : Prog F ε β} {J : σ → Prop}
    (hp : Safe M P (fun _ s => J s) p s)
    (hq : ∀ s, J s → Safe M P (fun _ _ => True) q s) :
    Safe M P (fun _ _ => True) (p.ensure q) s := by
  unfold Prog.ensure
  rw [safe_bind, safe_attempt]
  refine hp.post ?_
  intro r s' hs
  rw [thenSafe_ok, safe_bind]
  refine (hq s' hs).post ?_
  intro r' s'' _
  cases r' with
  | error e => trivial
  | ok _ => exact (safe_ofExcept _ r).mpr trivial

theorem Uses.ensure {P : {β : Type} → F β → Prop} {p : Prog F ε α} {q : Prog F ε β} (hp : Uses P p)
    (hq : Uses P q) : Uses P (p.ensure q) := by
  refine Uses.bind hp.attempt fun r => Uses.bind hq fun _ => ?_
  cases r with
  | ok a => exact .pure a
  | error e => exact .raise e

theorem Uses.embed {P : {β : Type} → G β → Prop} {f : {β : Type} → F β → G β}
    (hf : ∀ {β : Type} (o : F β), P (f o)) (p : Prog F ε α) : Uses P (p.embed f) := by
  induction p with
  | ret a => exact .pure a
  | raise e => exact .raise e
  | call o k ih => exact ⟨hf o, fun r _ _ => ih r⟩

/-- A program whose calls leave the ghost value alone is safe where they are allowed. -/
theorem Uses.idle {P : {β : Type} → F β → Prop} {track : γ → Call F ε → γ}
    {A : γ → {β : Type} → F β → Prop} {g : γ} {p : Prog F ε α} (hp : Uses P p)
    (hA : ∀ {β : Type} (o : F β), P o → A g o)
    (htrack : ∀ {β : Type} (o : F β) r, P o → track g ⟨o, r⟩ = g) :
    Safe (.ghost track) A (fun _ g' => g' = g) p g := by
  have hkeeps := Yields.keeps (M := .ghost track) (J := fun g' => g' = g) hp ?_ rfl
  · refine hkeeps.mono ?_ fun _ _ h => h.1
    rintro g' β o ⟨hg, ho⟩
    rw [hg]
    exact hA o ho
  · intro g' β o r g'' hg ho hm
    have hm' : g'' = track g' ⟨o, r⟩ := hm
    rw [hm', hg]
    exact htrack o r ho

end Rules

section Sections

variable [DecidableEq ι] {enters leaves : Call F ε → Bool}

/-- Whether the process that made the call is inside after it. -/
def inside (enters leaves : Call F ε → Bool) (b : Bool) (c : Call F ε) : Bool :=
  if enters c then true else if leaves c then false else b

/-- The processes inside after one more call. -/
def moveMember (enters leaves : Call F ε → Bool) (S : Finset ι) (e : ι × Happened F ε σ) : Finset ι :=
  if enters e.2.toCall then insert e.1 S else if leaves e.2.toCall then S.erase e.1 else S

/-- The processes inside after the history. -/
def members (enters leaves : Call F ε → Bool) (h : History ι F ε σ) : Finset ι :=
  h.foldl (moveMember enters leaves) ∅

@[simp] theorem members_nil : members enters leaves ([] : History ι F ε σ) = ∅ := rfl

theorem members_snoc (h : History ι F ε σ) (e : ι × Happened F ε σ) :
    members enters leaves (h ++ [e]) = moveMember enters leaves (members enters leaves h) e := by
  simp only [members, List.foldl_append, List.foldl_cons, List.foldl_nil]

theorem mem_members {i : ι} {h : History ι F ε σ} :
    i ∈ members enters leaves h ↔ view (inside enters leaves) false i h = true := by
  induction h using List.reverseRecOn with
  | nil => simp
  | append_singleton h e ih =>
    obtain ⟨j, e⟩ := e
    rw [members_snoc]
    by_cases hij : j = i
    · subst hij
      rw [view_snoc_self]
      by_cases henter : enters e.toCall = true
      · simp [moveMember, inside, henter]
      · by_cases hleave : leaves e.toCall = true
        · simp [moveMember, inside, henter, hleave]
        · simp [moveMember, inside, henter, hleave, ih]
    · -- a call of another process does not move `i`
      rw [view_snoc_other _ _ hij, ← ih]
      unfold moveMember
      have hne : i ≠ j := fun h => hij h.symm
      split
      · simp [hne]
      · split
        · simp [hne]
        · rfl

/-- How a call changes the number of processes inside. -/
def shift (enters leaves : Call F ε → Bool) (c : Call F ε) : ℤ :=
  if enters c then 1 else if leaves c then -1 else 0

/-- Processes enter from outside and leave from inside. -/
def InTurn (enters leaves : Call F ε → Bool) (b : Bool) {β : Type} (o : F β) : Prop :=
  ∀ r, (enters ⟨o, r⟩ = true → b = false) ∧ (leaves ⟨o, r⟩ = true → b = true)

theorem card_moveMember {h : History ι F ε σ} {i : ι} {e : Happened F ε σ}
    (hturn : InTurn enters leaves (view (inside enters leaves) false i h) e.op) :
    ((moveMember enters leaves (members enters leaves h) (i, e)).card : ℤ) =
      (members enters leaves h).card + shift enters leaves e.toCall := by
  obtain ⟨henter, hleave⟩ := hturn e.answer
  unfold moveMember shift
  split
  · rename_i hc
    have hout : i ∉ members enters leaves h := by
      rw [mem_members, henter hc]
      exact Bool.false_ne_true
    rw [Finset.card_insert_of_notMem hout]
    push_cast
    rfl
  · split
    · rename_i hc
      have hin : i ∈ members enters leaves h := mem_members.mpr (hleave hc)
      have hpos : 0 < (members enters leaves h).card := Finset.card_pos.mpr ⟨i, hin⟩
      rw [Finset.card_erase_of_mem hin]
      omega
    · omega

/-- A counter that each call shifts counts the processes inside. -/
theorem Run.card_members {M : Machine F ε σ} {A : ι → Type} {procs ps : (i : ι) → Prog F ε (A i)}
    {s₀ s : σ} {h : History ι F ε σ} {Q : (i : ι) → Except ε (A i) → Bool → Prop} (count : σ → ℤ)
    (hsafe : ∀ i, Safe (.ghost (inside enters leaves)) (fun b {_} o => InTurn enters leaves b o) (Q i)
      (procs i) false)
    (h0 : count s₀ = 0)
    (hstep : ∀ s {β : Type} (o : F β) r s', M s o r s' →
      count s' = count s + shift enters leaves ⟨o, r⟩)
    (run : Run M procs s₀ h ps s) : count s = (members enters leaves h).card := by
  apply run.invariant (fun h s => count s = (members enters leaves h).card) hsafe
  · simpa using h0
  · intro h s i β o r s' hcount hturn hm
    rw [members_snoc, card_moveMember hturn, ← hcount]
    exact hstep s o r s' hm

end Sections

section Order

variable {P Q : Call F ε → Bool} {h : History ι F ε σ} {x : ι × Happened F ε σ}

/-- A call of the kind `P` was made. -/
def Occurs (P : Call F ε → Bool) (h : History ι F ε σ) : Prop := ∃ x ∈ h, P x.2.toCall = true

/-- Once a call of the kind `P` was made, none of the kind `Q` is. -/
def NeverAfter (P Q : Call F ε → Bool) (h : History ι F ε σ) : Prop :=
  h.Pairwise fun x y => P x.2.toCall = true → Q y.2.toCall = false

@[simp] theorem occurs_nil : ¬ Occurs P ([] : History ι F ε σ) := by simp [Occurs]

@[simp] theorem neverAfter_nil : NeverAfter P Q ([] : History ι F ε σ) := List.Pairwise.nil

theorem occurs_snoc : Occurs P (h ++ [x]) ↔ Occurs P h ∨ P x.2.toCall = true := by
  simp [Occurs, or_and_right, exists_or]

theorem neverAfter_snoc :
    NeverAfter P Q (h ++ [x]) ↔ NeverAfter P Q h ∧ (Occurs P h → Q x.2.toCall = false) := by
  simp only [NeverAfter, Occurs, List.pairwise_append, List.pairwise_singleton, true_and,
    List.mem_singleton, forall_eq, forall_exists_index, and_imp]

end Order

end Programs
