import Mathlib.Data.List.Basic
import Mathlib.Data.Int.Notation

/-! JSON values and the dictionaries of a dynamically typed program. -/
namespace Json

inductive Value where
  | null
  | bool (b : Bool)
  | int (i : ℤ)
  | str (s : String)
  | arr (l : List Value)
  | obj (l : List (String × Value))
  deriving Repr, Inhabited

/-- Key and value pairs in order of insertion. -/
abbrev Dict : Type := List (String × Value)

namespace Value

def asStr? : Value → Option String
  | str s => some s
  | _ => none

def asObj? : Value → Option Dict
  | obj d => some d
  | _ => none

/-- The truth value that a condition sees. -/
def truthy : Value → Bool
  | null => false
  | bool b => b
  | int i => i != 0
  | str s => s != ""
  | arr l => !l.isEmpty
  | obj l => !l.isEmpty

@[simp] theorem asStr?_str (s : String) : (str s).asStr? = some s := rfl

@[simp] theorem asObj?_obj (d : Dict) : (obj d).asObj? = some d := rfl

end Value

namespace Dict

def get? : Dict → String → Option Value
  | [], _ => none
  | (k', v) :: d, k => if k' = k then some v else get? d k

/-- `d[k] = v`: in place for a key that is there, at the end otherwise. -/
def set : Dict → String → Value → Dict
  | [], k, v => [(k, v)]
  | (k', v') :: d, k, v => if k' = k then (k', v) :: d else (k', v') :: set d k v

/-- `d.update(d')`. -/
def update (d d' : Dict) : Dict := d'.foldl (fun d kv => set d kv.1 kv.2) d

/-- `d.pop(k, None)`. -/
def pop (d : Dict) (k : String) : Dict := d.filter fun kv => kv.1 ≠ k

def getStr? (d : Dict) (k : String) : Option String := (get? d k).bind Value.asStr?

@[simp] theorem get?_nil (k : String) : get? [] k = none := rfl

@[simp] theorem get?_cons (k' : String) (v : Value) (d : Dict) (k : String) :
    get? ((k', v) :: d) k = if k' = k then some v else get? d k := rfl

theorem get?_set (d : Dict) (k : String) (v : Value) (k' : String) :
    get? (set d k v) k' = if k = k' then some v else get? d k' := by
  induction d with
  | nil => rfl
  | cons kv d ih =>
    obtain ⟨j, w⟩ := kv
    by_cases hj : j = k
    · subst hj
      simp only [set, if_true, get?_cons]
      split <;> rfl
    · simp only [set, if_neg hj, get?_cons, ih]
      by_cases hj' : j = k'
      · subst hj'
        simp [Ne.symm hj]
      · simp [hj']

@[simp] theorem get?_set_self (d : Dict) (k : String) (v : Value) :
    get? (set d k v) k = some v := by
  rw [get?_set, if_pos rfl]

@[simp] theorem get?_set_of_ne (d : Dict) {k k' : String} (v : Value) (h : k ≠ k') :
    get? (set d k v) k' = get? d k' := by
  rw [get?_set, if_neg h]

theorem pop_cons (j k : String) (v : Value) (d : Dict) :
    pop ((j, v) :: d) k = if j = k then pop d k else (j, v) :: pop d k := by
  unfold pop
  by_cases hj : j = k <;> simp [hj]

theorem get?_pop (d : Dict) {k k' : String} (h : k' ≠ k) : get? (pop d k) k' = get? d k' := by
  induction d with
  | nil => rfl
  | cons kv d ih =>
    obtain ⟨j, v⟩ := kv
    rw [pop_cons]
    split
    · rename_i hj
      rw [ih, get?_cons, if_neg (hj ▸ Ne.symm h)]
    · rw [get?_cons, get?_cons, ih]

@[simp] theorem update_nil (d : Dict) : update d [] = d := rfl

@[simp] theorem update_cons (d : Dict) (k : String) (v : Value) (d' : Dict) :
    update d ((k, v) :: d') = update (set d k v) d' := rfl

theorem get?_update_of_not_mem (d : Dict) {d' : Dict} {k : String}
    (h : k ∉ d'.map Prod.fst) : get? (update d d') k = get? d k := by
  induction d' generalizing d with
  | nil => rfl
  | cons kv d' ih =>
    simp only [List.map_cons, List.mem_cons, not_or] at h
    rw [update_cons, ih _ h.2, get?_set_of_ne _ _ (Ne.symm h.1)]

theorem mem_of_get? {d : Dict} {k : String} {v : Value} (h : get? d k = some v) : (k, v) ∈ d := by
  induction d with
  | nil => exact absurd h (by simp)
  | cons kv d ih =>
    obtain ⟨j, w⟩ := kv
    rw [get?_cons] at h
    split at h
    · rename_i hj
      obtain rfl := Option.some.inj h
      subst hj
      exact List.mem_cons_self
    · exact List.mem_cons_of_mem _ (ih h)

theorem get?_isSome {d : Dict} {k : String} : (get? d k).isSome ↔ k ∈ d.map Prod.fst := by
  induction d with
  | nil => simp
  | cons kv d ih =>
    obtain ⟨j, w⟩ := kv
    rw [get?_cons, List.map_cons, List.mem_cons, ← ih]
    by_cases hj : j = k
    · simp [hj]
    · simp [hj, Ne.symm hj]

theorem get?_append (d d' : Dict) (k : String) : get? (d ++ d') k = (get? d k).or (get? d' k) := by
  induction d with
  | nil => rfl
  | cons kv d ih =>
    obtain ⟨j, w⟩ := kv
    rw [List.cons_append, get?_cons, get?_cons, ih]
    split <;> rfl

/-- A key that an update mentions once has its value afterwards, the others keep theirs. -/
theorem get?_update (d : Dict) {d' : Dict} (hkeys : (d'.map Prod.fst).Nodup) (k : String) :
    get? (update d d') k = (get? d' k).or (get? d k) := by
  induction d' generalizing d with
  | nil => rfl
  | cons kv d' ih =>
    obtain ⟨j, w⟩ := kv
    obtain ⟨hj, hkeys⟩ := List.nodup_cons.mp hkeys
    rw [update_cons, ih _ hkeys, get?_cons, get?_set]
    by_cases hjk : j = k
    · subst hjk
      have hnone : get? d' j = none := by
        rw [← Option.not_isSome_iff_eq_none, get?_isSome]
        exact hj
      simp [hnone]
    · simp [hjk]

end Dict

end Json
