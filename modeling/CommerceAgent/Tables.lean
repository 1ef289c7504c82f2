import Mathlib.Data.List.Basic

/-! Tables whose rows keep their uniqueness constraints, with the statements of a transaction on
them. -/
namespace Tables

/-- The rows of a table, in order of insertion. `clash` says which two rows violate a uniqueness
constraint together. -/
structure Table (ρ : Type) (clash : ρ → ρ → Prop) where
  rows : List ρ
  distinct : rows.Pairwise fun a b => ¬ clash a b

namespace Table

variable {ρ κ : Type} {clash : ρ → ρ → Prop}

def empty : Table ρ clash := ⟨[], List.Pairwise.nil⟩

def single (x : ρ) : Table ρ clash := ⟨[x], List.pairwise_singleton _ x⟩

def select (t : Table ρ clash) (p : ρ → Bool) : List ρ := t.rows.filter p

def lookup [DecidableEq κ] (t : Table ρ clash) (key : ρ → κ) (k : κ) : Option ρ :=
  t.rows.find? fun x => key x = k

/-- `INSERT`; `none` is a violation of a uniqueness constraint. -/
def insert? [DecidableRel clash] (t : Table ρ clash) (r : ρ) : Option (Table ρ clash) :=
  if h : ∀ x ∈ t.rows, ¬ clash x r then
    some ⟨t.rows ++ [r], List.pairwise_append.mpr
      ⟨t.distinct, List.pairwise_singleton _ _, by simpa using h⟩⟩
  else none

def changed (p : ρ → Bool) (f : ρ → ρ) (x : ρ) : ρ := if p x then f x else x

/-- `UPDATE` of the rows that satisfy `p`; `none` is a violation of a uniqueness constraint. -/
def update? [DecidableRel clash] (t : Table ρ clash) (p : ρ → Bool) (f : ρ → ρ) :
    Option (Table ρ clash) :=
  if h : (t.rows.map (changed p f)).Pairwise fun a b => ¬ clash a b then
    some ⟨t.rows.map (changed p f), h⟩
  else none

/-- A change of a row that no uniqueness constraint looks at. -/
def Neutral (clash : ρ → ρ → Prop) (f : ρ → ρ) : Prop :=
  ∀ a b, (clash (f a) b → clash a b) ∧ (clash a (f b) → clash a b)

def update (t : Table ρ clash) (p : ρ → Bool) (f : ρ → ρ) (hf : Neutral clash f) :
    Table ρ clash :=
  ⟨t.rows.map (changed p f), by
    refine List.pairwise_map.mpr (t.distinct.imp ?_)
    intro a b hab hc
    apply hab
    unfold changed at hc
    split at hc <;> split at hc
    · exact (hf a b).1 ((hf (f a) b).2 hc)
    · exact (hf a b).1 hc
    · exact (hf a b).2 hc
    · exact hc⟩

def count (t : Table ρ clash) (p : ρ → Bool) : ℕ := t.rows.countP p

@[simp] theorem rows_empty : (empty : Table ρ clash).rows = [] := rfl

@[simp] theorem rows_update (t : Table ρ clash) (p : ρ → Bool) (f : ρ → ρ)
    (hf : Neutral clash f) : (t.update p f hf).rows = t.rows.map (changed p f) := rfl

theorem insert?_eq_some [DecidableRel clash] {t t' : Table ρ clash} {r : ρ} :
    t.insert? r = some t' ↔ (∀ x ∈ t.rows, ¬ clash x r) ∧ t'.rows = t.rows ++ [r] := by
  obtain ⟨rows', hrows'⟩ := t'
  unfold insert?
  split
  · rename_i h
    simp only [Option.some.injEq, mk.injEq]
    exact ⟨fun he => ⟨h, he.symm⟩, fun he => he.2.symm⟩
  · rename_i h
    simp only [reduceCtorEq, false_iff]
    exact fun he => h he.1

theorem update?_eq_some [DecidableRel clash] {t t' : Table ρ clash} {p : ρ → Bool}
    {f : ρ → ρ} (h : t.update? p f = some t') : t'.rows = t.rows.map (changed p f) := by
  unfold update? at h
  split at h
  · exact congrArg rows (Option.some.inj h).symm
  · exact absurd h (by simp)

theorem changed_pos {p : ρ → Bool} {f : ρ → ρ} {x : ρ} (h : p x = true) : changed p f x = f x :=
  if_pos h

theorem changed_neg {p : ρ → Bool} {f : ρ → ρ} {x : ρ} (h : ¬ p x = true) : changed p f x = x :=
  if_neg h

theorem mem_update? [DecidableRel clash] {t t' : Table ρ clash} {p : ρ → Bool} {f : ρ → ρ}
    (h : t.update? p f = some t') {y : ρ} : y ∈ t'.rows ↔ ∃ x ∈ t.rows, changed p f x = y := by
  rw [update?_eq_some h]
  exact List.mem_map

theorem mem_insert? [DecidableRel clash] {t t' : Table ρ clash} {r : ρ} (h : t.insert? r = some t') {y : ρ} :
    y ∈ t'.rows ↔ y ∈ t.rows ∨ y = r := by
  rw [(insert?_eq_some.mp h).2]
  simp

section Keys

variable {key : ρ → κ}

theorem Keyed.eq (hk : ∀ a b, key a = key b → clash a b) {l : List ρ}
    (hl : l.Pairwise fun a b => ¬ clash a b) {x y : ρ} (hx : x ∈ l) (hy : y ∈ l)
    (h : key x = key y) : x = y := by
  induction hl with
  | nil => exact absurd hx (by simp)
  | @cons a l ha _ ih =>
    rcases List.mem_cons.mp hx with rfl | hx' <;> rcases List.mem_cons.mp hy with rfl | hy'
    · rfl
    · exact False.elim (ha y hy' (hk x y h))
    · exact False.elim (ha x hx' (hk y x h.symm))
    · exact ih hx' hy'

/-- A condition that holds of clashing rows only selects at most one. -/
theorem select_le_one (t : Table ρ clash) {p : ρ → Bool}
    (hp : ∀ a b, p a = true → p b = true → clash a b) : (t.select p).length ≤ 1 := by
  unfold select
  have hd := t.distinct.filter p
  match hl : t.rows.filter p with
  | [] => exact Nat.zero_le _
  | [_] => exact Nat.le_refl _
  | a :: b :: l =>
    have ha : p a = true := (List.mem_filter.mp (hl ▸ List.mem_cons_self)).2
    have hb : p b = true :=
      (List.mem_filter.mp (hl ▸ List.mem_cons_of_mem _ List.mem_cons_self)).2
    rw [hl] at hd
    have hab := List.rel_of_pairwise_cons hd List.mem_cons_self
    exact False.elim (hab (hp a b ha hb))

/-- A condition that fixes a unique key selects at most one row. -/
theorem count_le_one (hk : ∀ a b, key a = key b → clash a b) (t : Table ρ clash)
    {p : ρ → Bool} {k : κ} (hp : ∀ x, p x = true → key x = k) : t.count p ≤ 1 := by
  rw [count, List.countP_eq_length_filter]
  apply select_le_one
  intro a b ha hb
  exact hk a b ((hp a ha).trans (hp b hb).symm)

variable [DecidableEq κ]

theorem lookup_mem {t : Table ρ clash} {k : κ} {x : ρ} (h : t.lookup key k = some x) :
    x ∈ t.rows ∧ key x = k := by
  refine ⟨List.mem_of_find?_eq_some h, ?_⟩
  simpa using List.find?_some h

theorem lookup_eq_none {t : Table ρ clash} {k : κ} :
    t.lookup key k = none ↔ ∀ x ∈ t.rows, key x ≠ k := by
  simp [lookup]

/-- Under a uniqueness constraint on `key`, a lookup finds exactly the row with that key. -/
theorem lookup_eq_some (hk : ∀ a b, key a = key b → clash a b) {t : Table ρ clash} {k : κ}
    {x : ρ} : t.lookup key k = some x ↔ x ∈ t.rows ∧ key x = k := by
  refine ⟨lookup_mem, ?_⟩
  rintro ⟨hx, hkx⟩
  cases hl : t.lookup key k with
  | none => exact False.elim (lookup_eq_none.mp hl x hx hkx)
  | some y =>
    obtain ⟨hy, hky⟩ := lookup_mem hl
    rw [Keyed.eq hk t.distinct hx hy (hkx.trans hky.symm)]

theorem lookup_insert [DecidableRel clash] {t t' : Table ρ clash} {r : ρ} (k : κ)
    (h : t.insert? r = some t') :
    t'.lookup key k = (t.lookup key k).or (if key r = k then some r else none) := by
  unfold lookup
  rw [(insert?_eq_some.mp h).2, List.find?_append]
  by_cases hr : key r = k <;> simp [hr]

omit [DecidableEq κ] in
theorem key_changed {p : ρ → Bool} {f : ρ → ρ} (hf : ∀ x, key (f x) = key x) (x : ρ) :
    key (changed p f x) = key x := by
  unfold changed
  split
  · exact hf x
  · rfl

theorem lookup_changed {p : ρ → Bool} {f : ρ → ρ} (hf : ∀ x, key (f x) = key x)
    (l : List ρ) (k : κ) :
    (l.map (changed p f)).find? (fun x => key x = k) =
      (l.find? fun x => key x = k).map (changed p f) := by
  rw [List.find?_map]
  simp only [Function.comp_def, key_changed hf]

theorem lookup_update {t : Table ρ clash} {p : ρ → Bool} {f : ρ → ρ} (hn : Neutral clash f)
    (hf : ∀ x, key (f x) = key x) (k : κ) :
    (t.update p f hn).lookup key k = (t.lookup key k).map (changed p f) :=
  lookup_changed hf t.rows k

theorem lookup_update? [DecidableRel clash] {t t' : Table ρ clash} {p : ρ → Bool} {f : ρ → ρ}
    (hf : ∀ x, key (f x) = key x) (k : κ) (h : t.update? p f = some t') :
    t'.lookup key k = (t.lookup key k).map (changed p f) := by
  unfold lookup
  rw [update?_eq_some h]
  exact lookup_changed hf t.rows k

end Keys

end Table

end Tables
