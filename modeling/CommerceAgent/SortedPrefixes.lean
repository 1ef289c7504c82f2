import Mathlib.Data.List.Sort

/-! How much of a sorted list does not depend on the order that it was sorted from: a prefix, as long as
nothing is tied before its end. -/
namespace SortedPrefixes

variable {α : Type} {r : α → α → Prop} [DecidableRel r]

/-- Neither of two members comes before the other. -/
def Tied (r : α → α → Prop) (a b : α) : Prop := r a b ∧ r b a

/-- How many members come strictly before `a`. -/
def before (r : α → α → Prop) [DecidableRel r] (a : α) (l : List α) : ℕ := l.countP fun x => ¬ r a x

/-- Distinct members that are tied have `k` others before them. -/
def LateTies (r : α → α → Prop) [DecidableRel r] (k : ℕ) (l : List α) : Prop :=
  ∀ a ∈ l, ∀ b ∈ l, a ≠ b → Tied r a b → k ≤ before r a l

theorem before_eq_of_perm {l l' : List α} (a : α) (h : l.Perm l') : before r a l = before r a l' :=
  h.countP_eq _

theorem LateTies.of_perm {k : ℕ} {l l' : List α} (h : LateTies r k l) (hperm : l.Perm l') :
    LateTies r k l' := by
  intro a ha b hb hne htied
  rw [← before_eq_of_perm a hperm]
  exact h a (hperm.mem_iff.mpr ha) b (hperm.mem_iff.mpr hb) hne htied

/-- Two sorted lists of the same members agree as long as the ties are late. -/
theorem take_eq_of_sorted (hrefl : ∀ a, r a a) {k : ℕ} {s s' : List α} (hs : s.Pairwise r)
    (hs' : s'.Pairwise r) (hperm : s.Perm s') (h : LateTies r k s) : s.take k = s'.take k := by
  induction k generalizing s s' with
  | zero => rfl
  | succ k ih =>
    cases s with
    | nil => rw [← hperm.nil_eq]
    | cons a t =>
      cases s' with
      | nil => exact absurd hperm.length_eq (by simp)
      | cons b t' =>
        obtain ⟨hfirst, ht⟩ := List.pairwise_cons.mp hs
        obtain ⟨hfirst', ht'⟩ := List.pairwise_cons.mp hs'
        have hleast : ∀ x ∈ a :: t, r a x := by
          intro x hx
          rcases List.mem_cons.mp hx with rfl | hx
          · exact hrefl x
          · exact hfirst x hx
        have hmem : b ∈ a :: t := hperm.mem_iff.mpr List.mem_cons_self
        -- the two heads are tied, and nothing comes before the least member
        have hhead : a = b := by
          by_contra hne
          have hba : r b a := by
            rcases List.mem_cons.mp (hperm.mem_iff.mp List.mem_cons_self) with heq | ha
            · exact absurd heq hne
            · exact hfirst' a ha
          have hlate := h a List.mem_cons_self b hmem hne ⟨hleast b hmem, hba⟩
          have hnone : before r a (a :: t) = 0 := by
            rw [before, List.countP_eq_zero]
            intro x hx
            simp [hleast x hx]
          omega
        subst hhead
        -- a tie of the rest has lost one member before it, the head at most
        have hrest : LateTies r k t := by
          intro c hc d hd hne htied
          have hlate := h c (List.mem_cons_of_mem _ hc) d (List.mem_cons_of_mem _ hd) hne htied
          have hcount : before r c (a :: t) ≤ before r c t + 1 := by
            rw [before, List.countP_cons]
            split <;> exact Nat.add_le_add_left (by decide) _
          omega
        rw [List.take_succ_cons, List.take_succ_cons, ih ht ht' (List.Perm.cons_inv hperm) hrest]

section Stability

/-- In a sorted list the members before `a` are an initial run. -/
theorem length_takeWhile_of_sorted (htrans : ∀ a b c, r a b → r b c → r a c) (a : α) {s : List α}
    (hs : s.Pairwise r) : (s.takeWhile fun x => ¬ r a x).length = before r a s := by
  induction s with
  | nil => rfl
  | cons b t ih =>
    obtain ⟨hfirst, ht⟩ := List.pairwise_cons.mp hs
    by_cases hab : r a b
    · have hnone : before r a (b :: t) = 0 := by
        rw [before, List.countP_eq_zero]
        intro x hx
        rcases List.mem_cons.mp hx with rfl | hx
        · simp [hab]
        · simp [htrans a b x hab (hfirst x hx)]
      rw [hnone, List.takeWhile_cons_of_neg (by simp [hab]), List.length_nil]
    · have hone : before r a (b :: t) = before r a t + 1 := by
        rw [before, List.countP_cons_of_pos (by simp [hab])]
        rfl
      rw [List.takeWhile_cons_of_pos (by simp [hab]), List.length_cons, ih ht, hone]

/-- The sort is stable: the first of a list comes right after the members before it. -/
theorem getElem?_insertionSort_cons (htotal : ∀ a b, r a b ∨ r b a)
    (htrans : ∀ a b c, r a b → r b c → r a c) (a : α) (l : List α) :
    ((a :: l).insertionSort r)[before r a l]? = some a := by
  have : Std.Total r := ⟨htotal⟩
  have : IsTrans α r := ⟨htrans⟩
  have hlength : ((l.insertionSort r).takeWhile fun x => ¬ r a x).length = before r a l := by
    rw [length_takeWhile_of_sorted htrans a (List.pairwise_insertionSort r l)]
    exact before_eq_of_perm a (List.perm_insertionSort r l)
  rw [List.insertionSort_cons, List.orderedInsert_eq_take_drop, ← hlength]
  simp

/-- Where a tie is early, two orders of the list are sorted differently. -/
theorem exists_insertionSort_ne (htotal : ∀ a b, r a b ∨ r b a)
    (htrans : ∀ a b c, r a b → r b c → r a c) {k : ℕ} {l : List α} (h : ¬ LateTies r k l) :
    ∃ a ∈ l, ∃ b ∈ l, a ≠ b ∧ ∃ l₁ l₂ : List α, l₁.Perm l ∧ l₂.Perm l ∧ ∃ i < k,
      (l₁.insertionSort r)[i]? = some a ∧ (l₂.insertionSort r)[i]? = some b := by
  classical
  simp only [LateTies, not_forall, not_le, exists_prop] at h
  obtain ⟨a, ha, b, hb, hne, ⟨hab, hba⟩, hearly⟩ := h
  have hself : ∀ x : α, r x x := fun x => (htotal x x).elim id id
  have hcount : ∀ x ∈ l, before r x (l.erase x) = before r x l := by
    intro x hx
    have hperm := List.perm_cons_erase hx
    rw [before_eq_of_perm x hperm, before, before, List.countP_cons_of_neg (by simp [hself x])]
  have hsame : before r b l = before r a l := by
    refine List.countP_congr fun x _ => ?_
    simp only [decide_not, Bool.not_eq_true', decide_eq_false_iff_not]
    exact not_congr ⟨fun hbx => htrans a b x hab hbx, fun hax => htrans b a x hba hax⟩
  -- each of the two comes first in its list, and is sorted to the same place
  refine ⟨a, ha, b, hb, hne, a :: l.erase a, b :: l.erase b, (List.perm_cons_erase ha).symm,
    (List.perm_cons_erase hb).symm, before r a l, hearly, ?_, ?_⟩
  · rw [← hcount a ha]
    exact getElem?_insertionSort_cons htotal htrans a _
  · rw [← hsame, ← hcount b hb]
    exact getElem?_insertionSort_cons htotal htrans b _

end Stability

end SortedPrefixes
