import Mathlib.Data.List.Dedup
import Mathlib.Data.List.Sort
import Mathlib.Algebra.BigOperators.Group.List.Lemmas
import Mathlib.Algebra.GroupWithZero.Nat

/-! Lists in another order that keeps the members of each group in theirs, and what does not depend on
such an order: groups, their number, and sorted lists. -/
namespace Rearrangements

variable {α β κ τ : Type} [DecidableEq κ] [DecidableEq τ]

section Sorting

variable {r : α → α → Prop} [DecidableRel r]

/-- Sorting forgets the order of a list whose members are ordered in one way. -/
theorem insertionSort_eq_of_perm {l l' : List α} (htotal : ∀ a b, r a b ∨ r b a)
    (htrans : ∀ a b c, r a b → r b c → r a c) (hanti : ∀ a ∈ l, ∀ b ∈ l, r a b → r b a → a = b)
    (h : l.Perm l') : l.insertionSort r = l'.insertionSort r := by
  have : Std.Total r := ⟨htotal⟩
  have : IsTrans α r := ⟨htrans⟩
  have hperm : (l.insertionSort r).Perm (l'.insertionSort r) :=
    (List.perm_insertionSort r l).trans (h.trans (List.perm_insertionSort r l').symm)
  refine hperm.eq_of_pairwise ?_ (List.pairwise_insertionSort r l) (List.pairwise_insertionSort r l')
  intro a b ha hb hab hba
  have hal := (List.perm_insertionSort r l).mem_iff.mp ha
  have hbl := h.mem_iff.mpr ((List.perm_insertionSort r l').mem_iff.mp hb)
  exact hanti a hal b hbl hab hba

/-- In a linear order the sorted list depends on the members alone. -/
theorem insertionSort_le_eq_of_perm [LinearOrder β] {l l' : List β} (h : l.Perm l') :
    l.insertionSort (· ≤ ·) = l'.insertionSort (· ≤ ·) :=
  insertionSort_eq_of_perm le_total (fun _ _ _ => le_trans) (fun _ _ _ _ => le_antisymm) h

end Sorting

theorem eq_nil_iff_of_perm {l l' : List α} (h : l.Perm l') : l = [] ↔ l' = [] := by
  constructor
  · rintro rfl
    exact h.symm.eq_nil
  · rintro rfl
    exact h.eq_nil

section Groups

/-- The members of each group, in their order. -/
def groupsBy (key : α → κ) (l : List α) : List (List α) :=
  (l.map key).dedup.map fun k => l.filter fun a => key a = k

/-- The same members, and those of one group in the same order. -/
structure Rearranged (key : α → κ) (l l' : List α) : Prop where
  perm : l.Perm l'
  groups : ∀ k, l.filter (fun a => key a = k) = l'.filter fun a => key a = k

variable {key : α → κ} {l l' : List α}

/-- Lists with the same groups have the same members. -/
theorem Rearranged.of_groups (h : ∀ k, l.filter (fun a => key a = k) = l'.filter fun a => key a = k) :
    Rearranged key l l' := by
  classical
  refine ⟨List.perm_iff_count.mpr fun a => ?_, h⟩
  have hself : (decide (key a = key a)) = true := decide_eq_true rfl
  calc l.count a = (l.filter fun b => key b = key a).count a := (List.count_filter (p := fun b => key b = key a) hself).symm
    _ = (l'.filter fun b => key b = key a).count a := by rw [h (key a)]
    _ = l'.count a := List.count_filter (p := fun b => key b = key a) hself

theorem Rearranged.filter (h : Rearranged key l l') (p : α → Bool) :
    Rearranged key (l.filter p) (l'.filter p) := by
  refine ⟨h.perm.filter p, fun k => ?_⟩
  rw [List.filter_comm, h.groups k, List.filter_comm]

/-- Members are mapped one by one, and keep their groups. -/
theorem Rearranged.map (h : Rearranged key l l') (f : α → β) (key' : β → κ)
    (hkey : ∀ a, key' (f a) = key a) : Rearranged key' (l.map f) (l'.map f) := by
  refine ⟨h.perm.map f, fun k => ?_⟩
  have hcomp : ((fun b => decide (key' b = k)) ∘ f) = fun a => decide (key a = k) := by
    funext a
    simp [hkey]
  rw [List.filter_map, List.filter_map, hcomp, h.groups k]

/-- The groups themselves come in another order. -/
theorem Rearranged.groupsBy_perm (h : Rearranged key l l') : (groupsBy key l).Perm (groupsBy key l') := by
  have hgroups : (fun k => l.filter fun a => key a = k) = fun k => l'.filter fun a => key a = k :=
    funext h.groups
  rw [groupsBy, groupsBy, hgroups]
  exact ((h.perm.map key).dedup).map _

theorem Rearranged.countP_groupsBy (h : Rearranged key l l') (p : List α → Bool) :
    (groupsBy key l).countP p = (groupsBy key l').countP p :=
  h.groupsBy_perm.countP_eq p

theorem length_groupsBy : (groupsBy key l).length = (l.map key).dedup.length := List.length_map _

theorem ne_nil_of_mem_groupsBy {group : List α} (h : group ∈ groupsBy key l) : group ≠ [] := by
  obtain ⟨k, hk, rfl⟩ := List.mem_map.mp h
  obtain ⟨a, ha, rfl⟩ := List.mem_map.mp (List.mem_dedup.mp hk)
  exact List.ne_nil_of_mem (List.mem_filter.mpr ⟨ha, decide_eq_true rfl⟩)

variable {coarse : α → τ}

/-- Where the key of a member determines its class, the groups of a class are groups of the whole. -/
theorem groupsBy_filter (hcoarse : ∀ a ∈ l, ∀ b ∈ l, key a = key b → coarse a = coarse b) (t : τ) :
    groupsBy key (l.filter fun a => coarse a = t) =
      ((l.filter fun a => coarse a = t).map key).dedup.map fun k => l.filter fun a => key a = k := by
  rw [groupsBy]
  apply List.map_congr_left
  intro k hk
  obtain ⟨b, hb, rfl⟩ := List.mem_map.mp (List.mem_dedup.mp hk)
  obtain ⟨hb, hbt⟩ := List.mem_filter.mp hb
  rw [List.filter_filter]
  apply List.filter_congr
  intro a ha
  by_cases hkey : key a = key b
  · have hclass : coarse a = t := (hcoarse a ha b hb hkey).trans (of_decide_eq_true hbt)
    simp [hkey, hclass]
  · simp [hkey]

/-- The keys, class by class. -/
theorem keys_perm (hcoarse : ∀ a ∈ l, ∀ b ∈ l, key a = key b → coarse a = coarse b) :
    ((l.map coarse).dedup.flatMap fun t => ((l.filter fun a => coarse a = t).map key).dedup).Perm
      (l.map key).dedup := by
  have hmem : ∀ k t, k ∈ ((l.filter fun a => coarse a = t).map key).dedup ↔
      ∃ a ∈ l, coarse a = t ∧ key a = k := by
    intro k t
    simp [List.mem_dedup, and_assoc]
  apply (List.perm_ext_iff_of_nodup ?_ (List.nodup_dedup _)).mpr
  · intro k
    rw [List.mem_flatMap, List.mem_dedup, List.mem_map]
    constructor
    · rintro ⟨t, _, hk⟩
      obtain ⟨a, ha, _, hkey⟩ := (hmem k t).mp hk
      exact ⟨a, ha, hkey⟩
    · rintro ⟨a, ha, hkey⟩
      exact ⟨coarse a, List.mem_dedup.mpr (List.mem_map_of_mem ha), (hmem k _).mpr ⟨a, ha, rfl, hkey⟩⟩
  · apply List.nodup_flatMap.mpr
    refine ⟨fun t _ => List.nodup_dedup _, (List.nodup_dedup _).imp ?_⟩
    -- A key of two classes would put its members in both.
    intro t t' hne k hk hk'
    obtain ⟨a, ha, hat, hak⟩ := (hmem k t).mp hk
    obtain ⟨b, hb, hbt, hbk⟩ := (hmem k t').mp hk'
    exact hne (hat.symm.trans ((hcoarse a ha b hb (hak.trans hbk.symm)).trans hbt))

/-- The groups are those of the classes. -/
theorem groupsBy_classes_perm (hcoarse : ∀ a ∈ l, ∀ b ∈ l, key a = key b → coarse a = coarse b) :
    ((l.map coarse).dedup.flatMap fun t => groupsBy key (l.filter fun a => coarse a = t)).Perm
      (groupsBy key l) := by
  have hclasses : ((l.map coarse).dedup.flatMap fun t => groupsBy key (l.filter fun a => coarse a = t)) =
      ((l.map coarse).dedup.flatMap fun t => ((l.filter fun a => coarse a = t).map key).dedup).map
        fun k => l.filter fun a => key a = k := by
    rw [List.map_flatMap]
    apply List.flatMap_congr
    exact fun t _ => groupsBy_filter hcoarse t
  rw [hclasses]
  exact (keys_perm hcoarse).map _

/-- What is counted class by class is counted in all. -/
theorem sum_countP_classes (hcoarse : ∀ a ∈ l, ∀ b ∈ l, key a = key b → coarse a = coarse b)
    (p : List α → Bool) :
    ((l.map coarse).dedup.map fun t => (groupsBy key (l.filter fun a => coarse a = t)).countP p).sum =
      (groupsBy key l).countP p := by
  rw [← (groupsBy_classes_perm hcoarse).countP_eq p, List.countP_flatMap]
  rfl

/-- The groups hold every member once. -/
theorem sum_length_groupsBy : ((groupsBy key l).map List.length).sum = l.length := by
  have hcount : ∀ k, (l.filter fun a => key a = k).length = (l.map key).count k := by
    intro k
    rw [← List.countP_eq_length_filter, List.count, List.countP_map]
    rfl
  calc ((groupsBy key l).map List.length).sum
      = ((l.map key).dedup.map fun k => (l.map key).count k).sum := by
        rw [groupsBy, List.map_map]
        exact congrArg List.sum (List.map_congr_left fun k _ => hcount k)
    _ = (l.map key).length := List.sum_map_count_dedup_eq_length _
    _ = l.length := List.length_map _

end Groups

end Rearrangements
