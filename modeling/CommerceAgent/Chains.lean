import Mathlib.Data.List.Basic

/-! Walks of a partial step to a goal: at most one leads there from a place, and it comes to no place twice. -/
namespace CommerceAgent.Chains

variable {κ α : Type} {step : κ → Option (κ × α)} {goal : κ}

/-- The labels of the steps that lead from a place to the goal, where they stop. -/
inductive Chain (step : κ → Option (κ × α)) (goal : κ) : κ → List α → Prop where
  | here : Chain step goal goal []
  | next {k k' : κ} {a : α} {labels : List α} (hne : k ≠ goal) (hstep : step k = some (k', a))
      (rest : Chain step goal k' labels) : Chain step goal k (a :: labels)

theorem Chain.eq {k : κ} {labels labels' : List α} (h : Chain step goal k labels) (h' : Chain step goal k labels') :
    labels = labels' := by
  induction h generalizing labels' with
  | here =>
    cases h' with
    | here => rfl
    | next hne => exact absurd rfl hne
  | next hne hstep rest ih =>
    cases h' with
    | here => exact absurd rfl hne
    | next hne' hstep' rest' =>
      rw [hstep] at hstep'
      cases hstep'
      rw [ih rest']

/-- More steps do not change the chains that were there. -/
theorem Chain.mono {step' : κ → Option (κ × α)} (hmore : ∀ k x, step k = some x → step' k = some x) {k : κ}
    {labels : List α} (h : Chain step goal k labels) : Chain step' goal k labels := by
  induction h with
  | here => exact .here
  | next hne hstep rest ih => exact .next hne (hmore _ _ hstep) ih

/-- The goal is nearer from here than from any place of the list. -/
def Nearer (step : κ → Option (κ × α)) (goal : κ) (labels : List α) (seen : List κ) : Prop :=
  ∀ k ∈ seen, ∀ labels', Chain step goal k labels' → labels.length < labels'.length

theorem Nearer.not_mem {k : κ} {labels : List α} {seen : List κ} (h : Nearer step goal labels seen)
    (hchain : Chain step goal k labels) : k ∉ seen :=
  fun hmem => Nat.lt_irrefl _ (h k hmem labels hchain)

theorem Nearer.next {k : κ} {a : α} {labels : List α} {seen : List κ} (h : Nearer step goal (a :: labels) seen)
    (hchain : Chain step goal k (a :: labels)) : Nearer step goal labels (k :: seen) := by
  intro k' hk' labels' hchain'
  rcases List.mem_cons.mp hk' with rfl | hmem
  · rw [hchain'.eq hchain, List.length_cons]
    omega
  · have hfar : (a :: labels).length < labels'.length := h k' hmem labels' hchain'
    rw [List.length_cons] at hfar
    omega

end CommerceAgent.Chains
