import CommerceAgent.JsonText
import Mathlib.Algebra.Order.BigOperators.Group.List
import Mathlib.Algebra.BigOperators.Group.List.Lemmas
import Mathlib.Algebra.GroupWithZero.Nat

/-! `json.dumps(ensure_ascii=False)` with its default separators, over values with floats, and how
long the text is that it writes. -/
namespace Json

/-- What a Python program hands to `json.dumps`. -/
inductive Payload where
  | null
  | bool (b : Bool)
  | int (i : ℤ)
  /-- A float, as the text that is written for it. -/
  | float (repr : String)
  | str (s : String)
  | arr (l : List Payload)
  | obj (l : List (String × Payload))
  deriving Repr, Inhabited

/-- Key and value pairs in order of insertion. -/
abbrev Members : Type := List (String × Payload)

namespace Members

def get? : Members → String → Option Payload
  | [], _ => none
  | (k', v) :: d, k => if k' = k then some v else get? d k

/-- `d[k] = v`. -/
def set : Members → String → Payload → Members
  | [], k, v => [(k, v)]
  | (k', v') :: d, k, v => if k' = k then (k', v) :: d else (k', v') :: set d k v

/-- `d.pop(k, None)`. -/
def pop (d : Members) (k : String) : Members := d.filter fun kv => kv.1 ≠ k

theorem get?_set (d : Members) (k : String) (v : Payload) (k' : String) :
    get? (set d k v) k' = if k = k' then some v else get? d k' := by
  induction d with
  | nil => rfl
  | cons kv d ih =>
    obtain ⟨j, w⟩ := kv
    by_cases hj : j = k
    · subst hj
      simp only [set, if_true, get?]
      split <;> rfl
    · simp only [set, if_neg hj, get?, ih]
      by_cases hj' : j = k'
      · subst hj'
        simp [Ne.symm hj]
      · simp [hj']

@[simp] theorem get?_set_self (d : Members) (k : String) (v : Payload) :
    get? (set d k v) k = some v := by
  rw [get?_set, if_pos rfl]

@[simp] theorem get?_set_of_ne (d : Members) {k k' : String} (v : Payload) (h : k ≠ k') :
    get? (set d k v) k' = get? d k' := by
  rw [get?_set, if_neg h]

theorem pop_cons (j k : String) (v : Payload) (d : Members) :
    pop ((j, v) :: d) k = if j = k then pop d k else (j, v) :: pop d k := by
  unfold pop
  by_cases hj : j = k <;> simp [hj]

theorem get?_pop (d : Members) {k k' : String} (h : k' ≠ k) :
    get? (pop d k) k' = get? d k' := by
  induction d with
  | nil => rfl
  | cons kv d ih =>
    obtain ⟨j, v⟩ := kv
    rw [pop_cons]
    split
    · rename_i hj
      rw [ih, get?, if_neg (hj ▸ Ne.symm h)]
    · rw [get?, get?, ih]

theorem set_ne_nil (d : Members) (k : String) (v : Payload) : set d k v ≠ [] := by
  cases d with
  | nil => exact List.cons_ne_nil _ _
  | cons kv d =>
    unfold set
    split <;> exact List.cons_ne_nil _ _

theorem mem_set_self (d : Members) (k : String) (v : Payload) : (k, v) ∈ set d k v := by
  induction d with
  | nil => exact List.mem_singleton.mpr rfl
  | cons kv d ih =>
    unfold set
    split
    · rename_i hk
      subst hk
      exact List.mem_cons_self
    · exact List.mem_cons_of_mem _ ih

end Members

namespace Payload

mutual

def encode : Payload → List Char
  | null => ['n', 'u', 'l', 'l']
  | bool true => ['t', 'r', 'u', 'e']
  | bool false => ['f', 'a', 'l', 's', 'e']
  | int i => i.repr.toList
  | float repr => repr.toList
  | str s => encodeStr s
  | arr l => '[' :: (encodeItems l ++ [']'])
  | obj d => '{' :: (encodeMembers d ++ ['}'])

def encodeItems : List Payload → List Char
  | [] => []
  | v :: l => encode v ++ encodeItemsTail l

/-- The items after the first, each with the separator before it. -/
def encodeItemsTail : List Payload → List Char
  | [] => []
  | v :: l => ',' :: ' ' :: (encode v ++ encodeItemsTail l)

def encodeMembers : List (String × Payload) → List Char
  | [] => []
  | (k, v) :: d => encodeStr k ++ ':' :: ' ' :: (encode v ++ encodeMembersTail d)

def encodeMembersTail : List (String × Payload) → List Char
  | [] => []
  | (k, v) :: d =>
    ',' :: ' ' :: (encodeStr k ++ ':' :: ' ' :: (encode v ++ encodeMembersTail d))

end

/-- `json.dumps(v, ensure_ascii=False)`. -/
def dumps (v : Payload) : String := String.ofList v.encode

mutual

/-- Every dictionary in the order of its keys. -/
def sorted : Payload → Payload
  | arr l => arr (sortedItems l)
  | obj d => obj ((sortedMembers d).insertionSort fun a b => a.1 ≤ b.1)
  | v => v

def sortedItems : List Payload → List Payload
  | [] => []
  | v :: l => sorted v :: sortedItems l

def sortedMembers : List (String × Payload) → List (String × Payload)
  | [] => []
  | (k, v) :: d => (k, sorted v) :: sortedMembers d

end

/-- The length of a quoted text. -/
def textSize (s : String) : ℕ := (s.toList.map fun c => (escapeChar c).length).sum + 2

mutual

/-- The length of the text of a value. A collection that is not empty has as many brackets as the
separator that its first item lacks has characters. -/
def size : Payload → ℕ
  | null => 4
  | bool true => 4
  | bool false => 5
  | int i => i.repr.length
  | float repr => repr.length
  | str s => textSize s
  | arr l => max 2 (itemsSize l)
  | obj d => max 2 (membersSize d)

def itemsSize : List Payload → ℕ
  | [] => 0
  | v :: l => size v + 2 + itemsSize l

def membersSize : List (String × Payload) → ℕ
  | [] => 0
  | (k, v) :: d => textSize k + 2 + size v + 2 + membersSize d

end

section Length

theorem length_encodeStr (s : String) : (encodeStr s).length = textSize s := by
  unfold encodeStr textSize
  simp only [List.length_cons, List.length_append, List.length_flatMap, List.length_nil]

mutual

/-- The sizes are the lengths of what is written. -/
theorem length_encode : ∀ v : Payload, v.encode.length = v.size
  | null => rfl
  | bool true => rfl
  | bool false => rfl
  | int _ => rfl
  | float _ => rfl
  | str s => length_encodeStr s
  | arr [] => rfl
  | arr (v :: l) => by
    have hv := length_encode v
    have hl := length_encodeItemsTail l
    simp only [encode, encodeItems, size, itemsSize, List.length_cons, List.length_append,
      List.length_nil]
    omega
  | obj [] => rfl
  | obj ((k, v) :: d) => by
    have hk := length_encodeStr k
    have hv := length_encode v
    have hd := length_encodeMembersTail d
    simp only [encode, encodeMembers, size, membersSize, List.length_cons, List.length_append,
      List.length_nil]
    omega

theorem length_encodeItemsTail : ∀ l : List Payload, (encodeItemsTail l).length = itemsSize l
  | [] => rfl
  | v :: l => by
    have hv := length_encode v
    have hl := length_encodeItemsTail l
    simp only [encodeItemsTail, itemsSize, List.length_cons, List.length_append]
    omega

theorem length_encodeMembersTail : ∀ d : List (String × Payload),
    (encodeMembersTail d).length = membersSize d
  | [] => rfl
  | (k, v) :: d => by
    have hk := length_encodeStr k
    have hv := length_encode v
    have hd := length_encodeMembersTail d
    simp only [encodeMembersTail, membersSize, List.length_cons, List.length_append]
    omega

end

@[simp] theorem length_dumps (v : Payload) : v.dumps.length = v.size := by
  rw [dumps, String.length_ofList, length_encode]

theorem membersSize_eq_sum (d : List (String × Payload)) :
    membersSize d = (d.map fun kv => textSize kv.1 + 2 + size kv.2 + 2).sum := by
  induction d with
  | nil => rfl
  | cons kv d ih => rw [membersSize, ih, List.map_cons, List.sum_cons]

theorem itemsSize_eq_sum (l : List Payload) : itemsSize l = (l.map fun v => size v + 2).sum := by
  induction l with
  | nil => rfl
  | cons v l ih => rw [itemsSize, ih, List.map_cons, List.sum_cons]

/-- The order of the keys does not matter. -/
theorem membersSize_perm {d d' : List (String × Payload)} (h : d.Perm d') :
    membersSize d = membersSize d' := by
  rw [membersSize_eq_sum, membersSize_eq_sum]
  exact (h.map _).sum_eq

mutual

@[simp] theorem size_sorted : ∀ v : Payload, v.sorted.size = v.size
  | null => rfl
  | bool _ => rfl
  | int _ => rfl
  | float _ => rfl
  | str _ => rfl
  | arr l => by rw [sorted, size, size, itemsSize_sorted l]
  | obj d => by
    rw [sorted, size, size, membersSize_perm (List.perm_insertionSort _ _), membersSize_sorted d]

theorem itemsSize_sorted : ∀ l : List Payload, itemsSize (sortedItems l) = itemsSize l
  | [] => rfl
  | v :: l => by rw [sortedItems, itemsSize, itemsSize, size_sorted v, itemsSize_sorted l]

theorem membersSize_sorted : ∀ d : List (String × Payload),
    membersSize (sortedMembers d) = membersSize d
  | [] => rfl
  | (k, v) :: d => by
    rw [sortedMembers, membersSize, membersSize, size_sorted v, membersSize_sorted d]

end

end Length

section Bounds

theorem one_le_length_escapeChar (c : Char) : 1 ≤ (escapeChar c).length := by
  have hne : escapeChar c ≠ [] := by
    intro h
    have hread := unescape_escapeChar c []
    rw [h] at hread
    exact absurd hread (by simp [unescape])
  exact List.length_pos_iff.mpr hne

/-- Escapes only make a text longer. -/
theorem length_le_textSize (s : String) : s.length + 2 ≤ textSize s := by
  unfold textSize
  have hsum : (s.toList.map fun _ => 1).sum ≤ (s.toList.map fun c => (escapeChar c).length).sum :=
    List.sum_le_sum fun c _ => one_le_length_escapeChar c
  simp only [List.map_const', List.sum_replicate, Nat.nsmul_eq_mul, mul_one,
    String.length_toList] at hsum
  omega

theorem size_le_membersSize {d : List (String × Payload)} {k : String} {v : Payload}
    (h : (k, v) ∈ d) : v.size ≤ membersSize d := by
  induction d with
  | nil => exact absurd h List.not_mem_nil
  | cons kv d ih =>
    obtain ⟨j, w⟩ := kv
    rw [membersSize]
    rcases List.mem_cons.mp h with heq | htail
    · obtain ⟨-, rfl⟩ := Prod.mk.inj heq
      omega
    · have hd := ih htail
      omega

/-- A dictionary is at least as long as each value in it. -/
theorem size_le_of_mem {d : List (String × Payload)} {k : String} {v : Payload}
    (h : (k, v) ∈ d) : v.size ≤ (obj d).size :=
  (size_le_membersSize h).trans (le_max_right _ _)

end Bounds

end Payload

section Values

namespace Payload

mutual

/-- A value without floats. -/
def ofValue : Value → Payload
  | .null => null
  | .bool b => bool b
  | .int i => int i
  | .str s => str s
  | .arr l => arr (ofItems l)
  | .obj d => obj (ofDict d)

def ofItems : List Value → List Payload
  | [] => []
  | v :: l => ofValue v :: ofItems l

def ofDict : List (String × Value) → Members
  | [] => []
  | (k, v) :: d => (k, ofValue v) :: ofDict d

end

@[simp] theorem ofDict_nil : ofDict [] = [] := rfl

@[simp] theorem ofDict_cons (k : String) (v : Value) (d : Dict) :
    ofDict ((k, v) :: d) = (k, ofValue v) :: ofDict d := rfl

theorem ofDict_append (d d' : Dict) : ofDict (d ++ d') = ofDict d ++ ofDict d' := by
  induction d with
  | nil => rfl
  | cons kv d ih =>
    obtain ⟨k, v⟩ := kv
    rw [List.cons_append, ofDict_cons, ofDict_cons, ih, List.cons_append]

theorem get?_ofDict (d : Dict) (k : String) :
    (ofDict d).get? k = (d.get? k).map ofValue := by
  induction d with
  | nil => rfl
  | cons kv d ih =>
    obtain ⟨j, v⟩ := kv
    rw [ofDict_cons, Members.get?, Dict.get?, ih]
    split <;> rfl

theorem ofDict_set (d : Dict) (k : String) (v : Value) :
    ofDict (d.set k v) = (ofDict d).set k (ofValue v) := by
  induction d with
  | nil => rfl
  | cons kv d ih =>
    obtain ⟨j, w⟩ := kv
    rw [ofDict_cons, Dict.set, Members.set]
    split
    · rfl
    · rw [ofDict_cons, ih]

theorem ofDict_pop (d : Dict) (k : String) : ofDict (d.pop k) = (ofDict d).pop k := by
  induction d with
  | nil => rfl
  | cons kv d ih =>
    obtain ⟨j, v⟩ := kv
    rw [Dict.pop_cons, ofDict_cons, Members.pop_cons]
    split
    · exact ih
    · rw [ofDict_cons, ih]

end Payload

end Values

end Json
