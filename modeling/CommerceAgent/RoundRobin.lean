import Mathlib

/-! Columns dealt out in rounds: each round takes the next member of every column that has one, until
enough are taken or nothing is left. -/
namespace RoundRobin

variable {α κ : Type}

/-- One round over the columns; whether it took anything. -/
def round (n offset : ℕ) : List (κ × List α) → List α → Bool → List α × Bool
  | [], selected, progressed => (selected, progressed)
  | column :: columns, selected, progressed =>
    match column.2[offset]? with
    | some a =>
      if (selected ++ [a]).length = n then (selected ++ [a], true)
      else round n offset columns (selected ++ [a]) true
    | none => round n offset columns selected progressed

theorem round_length (n offset : ℕ) (columns : List (κ × List α)) (selected : List α)
    (progressed : Bool) :
    selected.length ≤ (round n offset columns selected progressed).1.length ∧
      (progressed = false → (round n offset columns selected progressed).2 = true →
        selected.length < (round n offset columns selected progressed).1.length) := by
  induction columns generalizing selected progressed with
  | nil =>
    refine ⟨le_rfl, fun hfalse htrue => ?_⟩
    rw [round, hfalse] at htrue
    exact nomatch htrue
  | cons column columns ih =>
    rw [round]
    cases column.2[offset]? with
    | none => exact ih _ _
    | some a =>
      have hlonger : selected.length < (selected ++ [a]).length := by simp
      dsimp only
      split_ifs
      · exact ⟨hlonger.le, fun _ _ => hlonger⟩
      · have hrest := (ih (selected ++ [a]) true).1
        exact ⟨hlonger.le.trans hrest, fun _ _ => hlonger.trans_le hrest⟩

theorem round_progressed (n offset : ℕ) (columns : List (κ × List α)) (selected : List α) :
    (round n offset columns selected true).2 = true := by
  induction columns generalizing selected with
  | nil => rfl
  | cons column columns ih =>
    rw [round]
    cases column.2[offset]? with
    | none => exact ih _
    | some a =>
      dsimp only
      split_ifs
      · rfl
      · exact ih _

/-- Round after round, from an offset on. -/
def deal (n : ℕ) (columns : List (κ × List α)) (offset : ℕ) (selected : List α) : List α :=
  if selected.length < n ∧ columns ≠ [] then
    if _hprogressed : (round n offset columns selected false).2 = true then
      deal n columns (offset + 1) (round n offset columns selected false).1
    else (round n offset columns selected false).1
  else selected
termination_by n - selected.length
decreasing_by
  have hlonger := (round_length n offset columns selected false).2 rfl _hprogressed
  omega

section Dealing

variable [DecidableEq κ]

/-- The first `m` members of each column are selected, in their order. -/
def Taken (key : α → κ) (m : ℕ) (columns : List (κ × List α)) (selected : List α) : Prop :=
  ∀ column ∈ columns, (selected.filter fun a => key a = column.1) = column.2.take m

/-- Columns with one key each that their members share. -/
structure Keyed (key : α → κ) (columns : List (κ × List α)) : Prop where
  keys : (columns.map Prod.fst).Nodup
  members : ∀ column ∈ columns, ∀ a ∈ column.2, key a = column.1

variable {key : α → κ} {n offset : ℕ} {columns : List (κ × List α)} {selected : List α}

theorem Taken.append {done rest : List (κ × List α)} :
    Taken key offset (done ++ rest) selected ↔
      Taken key offset done selected ∧ Taken key offset rest selected := by
  simp only [Taken, List.forall_mem_append]

/-- Selecting from another column leaves what is taken of these. -/
theorem Taken.snoc {m : ℕ} {a : α} (h : Taken key m columns selected)
    (hne : ∀ column ∈ columns, key a ≠ column.1) : Taken key m columns (selected ++ [a]) := by
  intro column hcolumn
  have hnone : [a].filter (fun b => key b = column.1) = [] := by
    rw [List.filter_cons_of_neg (by simpa using hne column hcolumn), List.filter_nil]
  rw [List.filter_append, hnone, List.append_nil]
  exact h column hcolumn

/-- A column that has no member at the offset has given all of them. -/
theorem take_of_getElem?_none {values : List α} (h : values[offset]? = none) :
    values.take (offset + 1) = values.take offset := by
  have hlength := List.getElem?_eq_none_iff.mp h
  rw [List.take_of_length_le hlength, List.take_of_length_le (by omega)]

/-- What a deal comes to: the columns before some point have given one member more than the
others. -/
structure Dealt (key : α → κ) (columns : List (κ × List α)) (offset : ℕ) (selected : List α) :
    Prop where
  split : ∃ done rest, columns = done ++ rest ∧ Taken key (offset + 1) done selected ∧
    Taken key offset rest selected
  known : ∀ a ∈ selected, key a ∈ columns.map Prod.fst

/-- A round goes on until enough are selected or every column was visited; a round that takes nothing
finds every column exhausted. -/
theorem round_dealt (progressed : Bool) {done rest : List (κ × List α)}
    (hkeyed : Keyed key (done ++ rest)) (hdone : Taken key (offset + 1) done selected)
    (hrest : Taken key offset rest selected)
    (hknown : ∀ a ∈ selected, key a ∈ (done ++ rest).map Prod.fst) (hlt : selected.length < n) :
    Dealt key (done ++ rest) offset (round n offset rest selected progressed).1 ∧
      ((round n offset rest selected progressed).1.length = n ∨
        (round n offset rest selected progressed).1.length < n ∧
        Taken key (offset + 1) (done ++ rest) (round n offset rest selected progressed).1) ∧
      ((round n offset rest selected progressed).2 = false →
        ∀ column ∈ rest, column.2.length ≤ offset) := by
  -- The columns move one by one from those still to be visited to those done.
  induction rest generalizing done selected progressed with
  | nil =>
    rw [List.append_nil] at hknown ⊢
    refine ⟨⟨⟨done, [], (List.append_nil _).symm, hdone, hrest⟩, hknown⟩, Or.inr ⟨hlt, hdone⟩, ?_⟩
    exact fun _ column hcolumn => absurd hcolumn List.not_mem_nil
  | cons column rest ih =>
    have hshift : done ++ column :: rest = (done ++ [column]) ++ rest := by simp
    obtain ⟨hcolumn, hothers⟩ := List.forall_mem_cons.mp hrest
    rw [round]
    cases ha : column.2[offset]? with
    | none =>
      have hmoved : Taken key (offset + 1) (done ++ [column]) selected := by
        refine Taken.append.mpr ⟨hdone, ?_⟩
        intro column' hcolumn'
        obtain rfl := List.mem_singleton.mp hcolumn'
        rw [hcolumn, take_of_getElem?_none ha]
      rw [hshift] at hkeyed hknown ⊢
      obtain ⟨hdealt, hend, hnothing⟩ := ih progressed hkeyed hmoved hothers hknown hlt
      refine ⟨hdealt, hend, fun hfalse => List.forall_mem_cons.mpr ⟨?_, hnothing hfalse⟩⟩
      exact List.getElem?_eq_none_iff.mp ha
    | some a =>
      have hkey : key a = column.1 :=
        hkeyed.members column (by simp) a (List.mem_of_getElem? ha)
      have hkeys := hkeyed.keys
      rw [List.map_append, List.map_cons] at hkeys
      have hnodup := List.nodup_append'.mp hkeys
      -- No other column counts this member among its own.
      have hnotDone : ∀ c ∈ done, key a ≠ c.1 := by
        intro c hc heq
        refine hnodup.2.2 (List.mem_map_of_mem hc) ?_
        rw [← heq, hkey]
        exact List.mem_cons_self
      have hnotRest : ∀ c ∈ rest, key a ≠ c.1 := by
        intro c hc heq
        refine (List.nodup_cons.mp hnodup.2.1).1 ?_
        rw [← hkey, heq]
        exact List.mem_map_of_mem hc
      have hmoved : Taken key (offset + 1) (done ++ [column]) (selected ++ [a]) := by
        refine Taken.append.mpr ⟨Taken.snoc hdone hnotDone, ?_⟩
        intro column' hcolumn'
        obtain rfl := List.mem_singleton.mp hcolumn'
        have hself : [a].filter (fun b => key b = column'.1) = [a] := by
          rw [List.filter_cons_of_pos (by simpa using hkey), List.filter_nil]
        rw [List.filter_append, hcolumn, hself, List.take_add_one, ha]
        rfl
      have hothers' : Taken key offset rest (selected ++ [a]) := Taken.snoc hothers hnotRest
      have hknown' : ∀ b ∈ selected ++ [a], key b ∈ ((done ++ [column]) ++ rest).map Prod.fst := by
        rw [← hshift]
        intro b hb
        rcases List.mem_append.mp hb with hb | hb
        · exact hknown b hb
        · obtain rfl := List.mem_singleton.mp hb
          rw [hkey]
          exact List.mem_map_of_mem (by simp)
      dsimp only
      rw [hshift] at hkeyed ⊢
      split_ifs with hfull
      · exact ⟨⟨⟨_, _, rfl, hmoved, hothers'⟩, hknown'⟩, Or.inl hfull, fun hfalse => nomatch hfalse⟩
      · have hlt' : (selected ++ [a]).length < n := by
          rw [List.length_append, List.length_singleton] at hfull ⊢
          omega
        obtain ⟨hdealt, hend, _⟩ := ih true hkeyed hmoved hothers' hknown' hlt'
        refine ⟨hdealt, hend, fun hfalse => ?_⟩
        rw [round_progressed] at hfalse
        exact nomatch hfalse

/-- The deal stops when enough are selected or every column is exhausted. -/
theorem deal_dealt (hkeyed : Keyed key columns) (htaken : Taken key offset columns selected)
    (hknown : ∀ a ∈ selected, key a ∈ columns.map Prod.fst) (hle : selected.length ≤ n) :
    ∃ offset', Dealt key columns offset' (deal n columns offset selected) ∧
      (deal n columns offset selected).length ≤ n ∧
      ((deal n columns offset selected).length = n ∨
        ∀ column ∈ columns, column.2.length ≤ offset') := by
  fun_induction deal n columns offset selected with
  | case1 offset selected hmore hprogressed ih =>
    obtain ⟨hdealt, hend, _⟩ := round_dealt false (show Keyed key ([] ++ columns) from hkeyed)
      (fun _ h => absurd h List.not_mem_nil) htaken hknown hmore.1
    rcases hend with hfull | ⟨hlt, hall⟩
    · rw [deal, if_neg (by omega)]
      exact ⟨offset, hdealt, hfull.le, Or.inl hfull⟩
    · exact ih hall hdealt.known hlt.le
  | case2 offset selected hmore hnothing =>
    obtain ⟨hdealt, hend, hexhausted⟩ := round_dealt false (show Keyed key ([] ++ columns) from hkeyed)
      (fun _ h => absurd h List.not_mem_nil) htaken hknown hmore.1
    refine ⟨offset, hdealt, ?_, Or.inr (hexhausted (Bool.eq_false_iff.mpr hnothing))⟩
    rcases hend with hfull | ⟨hlt, _⟩
    · exact hfull.le
    · exact hlt.le
  | case3 offset selected hstop =>
    refine ⟨offset, ⟨⟨[], columns, rfl, fun _ h => absurd h List.not_mem_nil, htaken⟩, hknown⟩, hle,
      ?_⟩
    rw [not_and_or, not_lt, not_not] at hstop
    rcases hstop with hfull | rfl
    · exact Or.inl (hle.antisymm hfull)
    · exact Or.inr fun _ h => absurd h List.not_mem_nil

/-- How many members of a column are selected. -/
def taken (key : α → κ) (selected : List α) (column : κ × List α) : ℕ :=
  (selected.filter fun a => key a = column.1).length

/-- The members of a list, counted by their keys. -/
theorem length_eq_sum {keys : List κ} {l : List α} (hnodup : keys.Nodup)
    (h : ∀ a ∈ l, key a ∈ keys) :
    l.length = (keys.map fun k => (l.filter fun a => key a = k).length).sum := by
  induction keys generalizing l with
  | nil =>
    have hnil : l = [] := List.eq_nil_iff_forall_not_mem.mpr fun a ha =>
      absurd (h a ha) List.not_mem_nil
    rw [hnil]
    rfl
  | cons k keys ih =>
    obtain ⟨hk, hkeys⟩ := List.nodup_cons.mp hnodup
    have hothers : ∀ a ∈ l.filter (fun a => !decide (key a = k)), key a ∈ keys := by
      intro a ha
      obtain ⟨ha, hne⟩ := List.mem_filter.mp ha
      exact (List.mem_cons.mp (h a ha)).resolve_left (by simpa using hne)
    have hsame : ∀ k' ∈ keys, ((l.filter fun a => !decide (key a = k)).filter fun a => key a = k') =
        l.filter fun a => key a = k' := by
      intro k' hk'
      rw [List.filter_filter]
      refine List.filter_congr fun a _ => ?_
      by_cases hkey : key a = k'
      · have hne : key a ≠ k := fun heq => hk (heq ▸ hkey ▸ hk')
        simp [hkey, hkey ▸ hne]
      · simp [hkey]
    have hsplit := (List.filter_append_perm (fun a => decide (key a = k)) l).length_eq
    rw [List.length_append, ih hkeys hothers] at hsplit
    rw [List.map_cons, List.sum_cons, ← hsplit]
    congr 2
    exact List.map_congr_left fun k' hk' => congrArg List.length (hsame k' hk')

section Results

variable (n) (hkeyed : Keyed key columns)
include hkeyed

/-- The deal starts with nothing selected. -/
theorem deal_start : ∃ offset, Dealt key columns offset (deal n columns 0 []) ∧
    (deal n columns 0 []).length ≤ n ∧
    ((deal n columns 0 []).length = n ∨ ∀ column ∈ columns, column.2.length ≤ offset) := by
  have hstart : Taken key 0 columns [] := fun column _ => (List.take_zero (l := column.2)).symm
  exact deal_dealt hkeyed hstart (fun _ h => absurd h List.not_mem_nil) n.zero_le

/-- Every column gives a prefix of it, of a length that the offset bounds from both sides. -/
theorem deal_columns : ∃ offset, ∀ column ∈ columns,
    ((deal n columns 0 []).filter fun a => key a = column.1) =
        column.2.take (taken key (deal n columns 0 []) column) ∧
      min offset column.2.length ≤ taken key (deal n columns 0 []) column ∧
      taken key (deal n columns 0 []) column ≤ min (offset + 1) column.2.length ∧
      ((deal n columns 0 []).length = n ∨
        taken key (deal n columns 0 []) column = column.2.length) := by
  obtain ⟨offset, ⟨⟨done, rest, hsplit, hdone, hrest⟩, hknown⟩, _, hend⟩ := deal_start n hkeyed
  refine ⟨offset, fun column hcolumn => ?_⟩
  have hprefix : ∃ m, (m = offset ∨ m = offset + 1) ∧
      ((deal n columns 0 []).filter fun a => key a = column.1) = column.2.take m := by
    rcases List.mem_append.mp (hsplit ▸ hcolumn) with h | h
    · exact ⟨offset + 1, Or.inr rfl, hdone column h⟩
    · exact ⟨offset, Or.inl rfl, hrest column h⟩
  obtain ⟨m, hm, hfilter⟩ := hprefix
  have htaken : taken key (deal n columns 0 []) column = min m column.2.length := by
    rw [taken, hfilter, List.length_take]
  refine ⟨?_, by omega, by omega, ?_⟩
  · rw [hfilter, htaken]
    exact List.take_eq_take_min
  · rcases hend with hfull | hexhausted
    · exact Or.inl hfull
    · have hlength := hexhausted column hcolumn
      exact Or.inr (by omega)

/-- Two columns give numbers that differ by one at most, unless the one that gives less is
exhausted. -/
theorem deal_fair {column column' : κ × List α} (h : column ∈ columns) (h' : column' ∈ columns) :
    taken key (deal n columns 0 []) column' ≤ taken key (deal n columns 0 []) column + 1 ∨
      taken key (deal n columns 0 []) column = column.2.length := by
  obtain ⟨offset, hcolumns⟩ := deal_columns n hkeyed
  obtain ⟨_, hlow, _, _⟩ := hcolumns column h
  obtain ⟨_, _, hhigh, _⟩ := hcolumns column' h'
  obtain ⟨_, _, hbound, _⟩ := hcolumns column h
  omega

theorem deal_known : ∀ a ∈ deal n columns 0 [], key a ∈ columns.map Prod.fst := by
  obtain ⟨_, hdealt, _⟩ := deal_start n hkeyed
  exact hdealt.known

theorem deal_length :
    (deal n columns 0 []).length = min n (columns.map fun column => column.2.length).sum := by
  obtain ⟨_, _, hle, _⟩ := deal_start n hkeyed
  obtain ⟨offset, hcolumns⟩ := deal_columns n hkeyed
  have hsum := length_eq_sum hkeyed.keys (deal_known n hkeyed)
  rw [List.map_map] at hsum
  have hbound : (deal n columns 0 []).length ≤ (columns.map fun column => column.2.length).sum := by
    rw [hsum]
    exact List.sum_le_sum fun column hcolumn => (hcolumns column hcolumn).2.2.1.trans (min_le_right _ _)
  -- Short of the number asked for, the deal has exhausted every column.
  by_cases hfull : (deal n columns 0 []).length = n
  · omega
  · have hall : (deal n columns 0 []).length = (columns.map fun column => column.2.length).sum := by
      rw [hsum]
      refine congrArg List.sum (List.map_congr_left fun column hcolumn => ?_)
      exact (hcolumns column hcolumn).2.2.2.resolve_left hfull
    omega

/-- Nothing is selected twice. -/
theorem deal_nodup [DecidableEq α] (h : ∀ column ∈ columns, column.2.Nodup) :
    (deal n columns 0 []).Nodup := by
  obtain ⟨offset, hcolumns⟩ := deal_columns n hkeyed
  refine List.nodup_iff_count_le_one.mpr fun a => ?_
  by_cases ha : a ∈ deal n columns 0 []
  · obtain ⟨column, hcolumn, hkey⟩ := List.mem_map.mp (deal_known n hkeyed a ha)
    have hself : (decide (key a = column.1)) = true := decide_eq_true hkey.symm
    rw [← List.count_filter (p := fun b => decide (key b = column.1)) hself,
      (hcolumns column hcolumn).1]
    exact List.nodup_iff_count_le_one.mp ((h column hcolumn).sublist (List.take_sublist _ _)) a
  · rw [List.count_eq_zero_of_not_mem ha]
    exact Nat.zero_le 1

end Results

end Dealing

end RoundRobin
