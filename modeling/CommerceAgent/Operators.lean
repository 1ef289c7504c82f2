import CommerceAgent.JsonText
import Mathlib.Data.List.Infix

/-! The operators that a dynamically typed program compares two values with, and the exceptions
that they raise. -/
namespace Operators

inductive Raised where
  | valueError
  | typeError
  | other
  deriving DecidableEq, Repr

inductive Comparison where
  | lt
  | lte
  | gt
  | gte
  deriving DecidableEq, Repr

def Comparison.holds : Comparison → Ordering → Bool
  | lt, o => o == .lt
  | lte, o => o != .gt
  | gt, o => o == .gt
  | gte, o => o != .lt

/-- The comparisons of a type of values. Each of them may raise. -/
class Comparable (V : Type) where
  eq : V → V → Except Raised Bool
  ne : V → V → Except Raised Bool
  order : Comparison → V → V → Except Raised Bool
  /-- `item in container`. -/
  isIn : V → V → Except Raised Bool
  isDictOrSet : V → Bool
  /-- The bytes of `json.dumps(..., sort_keys=True, default=str)`. -/
  dumps : List (String × V) → Except Raised String

section Json

open Json

/-- The number that a value stands for; `True` is 1. -/
def number? : Value → Option ℤ
  | .int i => some i
  | .bool b => some (if b then 1 else 0)
  | _ => none

mutual

/-- `==`. -/
def same : Value → Value → Bool
  | .null, .null => true
  | .str s, .str s' => s == s'
  | .arr l, .arr l' => sameItems l l'
  | .obj d, .obj d' => d.length == d'.length && sameMembers d d'
  | v, w => match number? v, number? w with
    | some i, some j => i == j
    | _, _ => false

def sameItems : List Value → List Value → Bool
  | [], [] => true
  | v :: l, w :: l' => same v w && sameItems l l'
  | _, _ => false

/-- Every member of the first dictionary is one of the second. -/
def sameMembers : List (String × Value) → List (String × Value) → Bool
  | [], _ => true
  | (k, v) :: d, d' => (match Dict.get? d' k with
    | some w => same v w
    | none => false) && sameMembers d d'

end

mutual

/-- `<`, `<=`, `>` and `>=`: of two numbers, of two strings and of two lists. -/
def compareValues (op : Comparison) : Value → Value → Except Raised Bool
  | .str s, .str s' => .ok (op.holds (compare s s'))
  | .arr l, .arr l' => compareItems op l l'
  | v, w => match number? v, number? w with
    | some i, some j => .ok (op.holds (compare i j))
    | _, _ => .error .typeError

/-- The first items that differ decide. -/
def compareItems (op : Comparison) : List Value → List Value → Except Raised Bool
  | v :: l, w :: l' => if same v w then compareItems op l l' else compareValues op v w
  | l, l' => .ok (op.holds (compare l.length l'.length))

end

/-- `item in container`. -/
def memberOf (item : Value) : Value → Except Raised Bool
  | .arr l => .ok (l.any (same item))
  | .str s => match item with
    | .str part => .ok (decide (part.toList <:+: s.toList))
    | _ => .error .typeError
  | .obj d => match item with
    | .arr _ => .error .typeError
    | .obj _ => .error .typeError
    | item => .ok (d.any fun kv => same item (.str kv.1))
  | _ => .error .typeError

instance : Comparable Value where
  eq v w := .ok (same v w)
  ne v w := .ok (!same v w)
  order := compareValues
  isIn := memberOf
  isDictOrSet v := v.asObj?.isSome
  dumps facts := .ok (dumps (.obj facts))

mutual

/-- Values of which one is less than the other, or not, without an exception. -/
def Ordered : Value → Value → Bool
  | .str _, .str _ => true
  | .arr l, .arr l' => OrderedItems l l'
  | v, w => (number? v).isSome && (number? w).isSome

def OrderedItems : List Value → List Value → Bool
  | v :: l, w :: l' => if same v w then OrderedItems l l' else Ordered v w
  | _, _ => true

end

mutual

/-- Such a comparison raises a `TypeError` or nothing. -/
theorem compareValues_eq_error (op : Comparison) (e : Raised) : ∀ v w : Value,
    compareValues op v w = .error e ↔ e = .typeError ∧ Ordered v w = false
  | .str s, w => by
    cases w <;> simp [compareValues, Ordered, number?, eq_comm]
  | .arr l, w => by
    cases w with
    | arr l' => simpa only [compareValues, Ordered] using compareItems_eq_error op e l l'
    | _ => simp [compareValues, Ordered, number?, eq_comm]
  | .null, w => by
    cases w <;> simp [compareValues, Ordered, number?, eq_comm]
  | .obj d, w => by
    cases w <;> simp [compareValues, Ordered, number?, eq_comm]
  | .int i, w => by
    cases w <;> simp [compareValues, Ordered, number?, eq_comm]
  | .bool b, w => by
    cases w <;> simp [compareValues, Ordered, number?, eq_comm]

theorem compareItems_eq_error (op : Comparison) (e : Raised) : ∀ l l' : List Value,
    compareItems op l l' = .error e ↔ e = .typeError ∧ OrderedItems l l' = false
  | [], l' => by simp [compareItems, OrderedItems]
  | v :: l, [] => by simp [compareItems, OrderedItems]
  | v :: l, w :: l' => by
    rw [compareItems, OrderedItems]
    split
    · exact compareItems_eq_error op e l l'
    · exact compareValues_eq_error op e v w

end

end Json

end Operators
