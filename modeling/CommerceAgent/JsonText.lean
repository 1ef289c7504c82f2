import CommerceAgent.Json
import Mathlib.Data.List.Sort
import Mathlib.Data.String.Basic

/-! `json.dumps(ensure_ascii=False, sort_keys=True, separators=(",", ":"))`, and that the text
determines the value up to the order of its keys. -/
namespace Json

/-- `ESCAPE_DCT` of the standard library; `\x22` is the quote and `\x5c` the backslash. -/
def escapeChar (c : Char) : List Char :=
  match c with
  | '\x22' => ['\x5c', '\x22']
  | '\x5c' => ['\x5c', '\x5c']
  | '\n' => ['\x5c', 'n']
  | '\r' => ['\x5c', 'r']
  | '\t' => ['\x5c', 't']
  | '\x08' => ['\x5c', 'b']
  | '\x0c' => ['\x5c', 'f']
  | c => if c.toNat < 32 then
      ['\x5c', 'u', '0', '0', Nat.digitChar (c.toNat / 16), Nat.digitChar (c.toNat % 16)]
    else [c]

def encodeStr (s : String) : List Char := '\x22' :: (s.toList.flatMap escapeChar ++ ['\x22'])

namespace Value

mutual

def encode : Value → List Char
  | null => ['n', 'u', 'l', 'l']
  | bool true => ['t', 'r', 'u', 'e']
  | bool false => ['f', 'a', 'l', 's', 'e']
  | int i => i.repr.toList
  | str s => encodeStr s
  | arr l => '[' :: (encodeItems l ++ [']'])
  | obj d => '{' :: (encodeMembers d ++ ['}'])

def encodeItems : List Value → List Char
  | [] => []
  | v :: l => encode v ++ encodeItemsTail l

/-- The items after the first, each with the separator before it. -/
def encodeItemsTail : List Value → List Char
  | [] => []
  | v :: l => ',' :: (encode v ++ encodeItemsTail l)

def encodeMembers : List (String × Value) → List Char
  | [] => []
  | (k, v) :: d => encodeStr k ++ ':' :: (encode v ++ encodeMembersTail d)

def encodeMembersTail : List (String × Value) → List Char
  | [] => []
  | (k, v) :: d => ',' :: (encodeStr k ++ ':' :: (encode v ++ encodeMembersTail d))

end

mutual

/-- Every dictionary in the order of its keys. -/
def sorted : Value → Value
  | arr l => arr (sortedItems l)
  | obj d => obj ((sortedMembers d).insertionSort fun a b => a.1 ≤ b.1)
  | v => v

def sortedItems : List Value → List Value
  | [] => []
  | v :: l => sorted v :: sortedItems l

def sortedMembers : List (String × Value) → List (String × Value)
  | [] => []
  | (k, v) :: d => (k, sorted v) :: sortedMembers d

end

end Value

def dumps (v : Value) : String := String.ofList v.sorted.encode

section Text

/-- What a digit stands for in an escape. -/
def hexValue (c : Char) : ℕ := if c.isDigit then c.toNat - 48 else c.toNat - 87

/-- The character that an escaped text begins with. -/
def unescape : List Char → Option (Char × List Char)
  | [] => none
  | c :: r =>
    if c ≠ '\x5c' then some (c, r)
    else match r with
      | 'u' :: _ :: _ :: a :: b :: r => some (Char.ofNat (16 * hexValue a + hexValue b), r)
      | 'n' :: r => some ('\n', r)
      | 'r' :: r => some ('\r', r)
      | 't' :: r => some ('\t', r)
      | 'b' :: r => some ('\x08', r)
      | 'f' :: r => some ('\x0c', r)
      | c :: r => some (c, r)
      | [] => none

theorem hexValue_digits : ∀ n < 32,
    16 * hexValue (Nat.digitChar (n / 16)) + hexValue (Nat.digitChar (n % 16)) = n := by
  decide

theorem unescape_escapeChar (c : Char) (r : List Char) :
    unescape (escapeChar c ++ r) = some (c, r) := by
  unfold escapeChar
  split
  · rfl
  · rfl
  · rfl
  · rfl
  · rfl
  · rfl
  · rfl
  · rename_i hslash _ _ _ _ _
    split
    · rename_i hlow
      simp only [unescape, List.cons_append, List.nil_append, ne_eq, not_true_eq_false, if_false,
        hexValue_digits _ hlow, Char.ofNat_toNat]
    · simp only [unescape, List.cons_append, List.nil_append]
      rw [if_pos hslash]

theorem escapeChar_append_inj {c c' : Char} {r r' : List Char}
    (h : escapeChar c ++ r = escapeChar c' ++ r') : c = c' ∧ r = r' := by
  have hsame := congrArg unescape h
  rw [unescape_escapeChar, unescape_escapeChar] at hsame
  exact Prod.mk.inj (Option.some.inj hsame)

/-- No escape begins with the quote that ends a string. -/
theorem quote_ne_escapeChar (c : Char) (r r' : List Char) :
    '\x22' :: r ≠ escapeChar c ++ r' := by
  intro h
  have hsame := congrArg unescape h
  rw [unescape_escapeChar] at hsame
  obtain ⟨rfl, rfl⟩ := Prod.mk.inj (Option.some.inj hsame)
  exact absurd (List.cons.inj h).1 (by decide)

theorem escaped_append_inj {l l' : List Char} {r r' : List Char}
    (h : l.flatMap escapeChar ++ '\x22' :: r = l'.flatMap escapeChar ++ '\x22' :: r') :
    l = l' ∧ r = r' := by
  induction l generalizing l' with
  | nil =>
    cases l' with
    | nil => exact ⟨rfl, (List.cons.inj h).2⟩
    | cons c' l' =>
      rw [List.flatMap_cons, List.append_assoc] at h
      exact absurd h (quote_ne_escapeChar c' _ _)
  | cons c l ih =>
    cases l' with
    | nil =>
      rw [List.flatMap_cons, List.append_assoc] at h
      exact absurd h.symm (quote_ne_escapeChar c _ _)
    | cons c' l' =>
      rw [List.flatMap_cons, List.flatMap_cons, List.append_assoc, List.append_assoc] at h
      obtain ⟨rfl, hrest⟩ := escapeChar_append_inj h
      obtain ⟨rfl, rfl⟩ := ih hrest
      exact ⟨rfl, rfl⟩

theorem encodeStr_append_inj {s s' : String} {r r' : List Char}
    (h : encodeStr s ++ r = encodeStr s' ++ r') : s = s' ∧ r = r' := by
  simp only [encodeStr, List.cons_append, List.append_assoc, List.nil_append] at h
  obtain ⟨hs, hr⟩ := escaped_append_inj (List.cons.inj h).2
  exact ⟨String.ext hs, hr⟩

/-- A text that does not go on with a digit. -/
def Ends (r : List Char) : Prop := ∀ c ∈ r.head?, c.isDigit = false

theorem digits_append_inj {l l' r r' : List Char} (hl : ∀ c ∈ l, c.isDigit = true)
    (hl' : ∀ c ∈ l', c.isDigit = true) (hr : Ends r) (hr' : Ends r')
    (h : l ++ r = l' ++ r') : l = l' ∧ r = r' := by
  induction l generalizing l' with
  | nil =>
    cases l' with
    | nil => exact ⟨rfl, h⟩
    | cons c' l' =>
      rw [List.nil_append] at h
      have hdigit := hr c' (by simp [h])
      exact absurd (hl' c' List.mem_cons_self) (by simp [hdigit])
  | cons c l ih =>
    cases l' with
    | nil =>
      rw [List.nil_append] at h
      have hdigit := hr' c (by simp [← h])
      exact absurd (hl c List.mem_cons_self) (by simp [hdigit])
    | cons c' l' =>
      obtain ⟨rfl, hrest⟩ := List.cons.inj h
      obtain ⟨rfl, rfl⟩ := ih (fun c hc => hl c (List.mem_cons_of_mem _ hc))
        (fun c hc => hl' c (List.mem_cons_of_mem _ hc)) hrest
      exact ⟨rfl, rfl⟩

theorem natRepr_append_inj {m n : ℕ} {r r' : List Char} (hr : Ends r) (hr' : Ends r')
    (h : m.repr.toList ++ r = n.repr.toList ++ r') : m = n ∧ r = r' := by
  have hdigits : ∀ k : ℕ, ∀ c ∈ k.repr.toList, c.isDigit = true := by
    intro k c hc
    rw [Nat.toList_repr] at hc
    exact Nat.isDigit_of_mem_toDigits (by decide) (by decide) hc
  obtain ⟨heq, hrest⟩ := digits_append_inj (hdigits m) (hdigits n) hr hr' h
  rw [Nat.toList_repr, Nat.toList_repr] at heq
  have hval := congrArg (fun l => Nat.ofDigitChars 10 l 0) heq
  simp only [Nat.ofDigitChars_ten_toDigits] at hval
  exact ⟨hval, hrest⟩

/-- The text of a number begins with a digit or with its sign. -/
theorem intRepr_toList (i : ℤ) :
    (0 ≤ i ∧ i.repr.toList = i.toNat.repr.toList) ∨
      (i < 0 ∧ i.repr.toList = '-' :: (-i).toNat.repr.toList) := by
  rw [Int.repr_eq_if]
  by_cases hi : 0 ≤ i
  · exact .inl ⟨hi, by rw [if_pos hi]⟩
  · refine .inr ⟨by omega, ?_⟩
    rw [if_neg hi, String.toList_append]
    rfl

theorem natRepr_head (n : ℕ) : ∃ c l, n.repr.toList = c :: l ∧ c.isDigit = true := by
  have hne : n.repr.toList ≠ [] := by
    rw [Nat.toList_repr]
    exact Nat.toDigits_ne_nil
  obtain ⟨c, l, hl⟩ := List.exists_cons_of_ne_nil hne
  refine ⟨c, l, hl, ?_⟩
  have hc : c ∈ Nat.toDigits 10 n := by
    rw [← Nat.toList_repr, hl]
    exact List.mem_cons_self
  exact Nat.isDigit_of_mem_toDigits (by decide) (by decide) hc

theorem intRepr_append_inj {i j : ℤ} {r r' : List Char} (hr : Ends r) (hr' : Ends r')
    (h : i.repr.toList ++ r = j.repr.toList ++ r') : i = j ∧ r = r' := by
  have hsign : ∀ (n : ℕ) (l l' : List Char), '-' :: l ≠ n.repr.toList ++ l' := by
    intro n l l' he
    obtain ⟨c, t, ht, hc⟩ := natRepr_head n
    rw [ht] at he
    obtain ⟨rfl, _⟩ := List.cons.inj he
    exact absurd hc (by decide)
  rcases intRepr_toList i with ⟨hi, hi'⟩ | ⟨hi, hi'⟩ <;>
    rcases intRepr_toList j with ⟨hj, hj'⟩ | ⟨hj, hj'⟩ <;> rw [hi', hj'] at h
  · obtain ⟨hn, hrest⟩ := natRepr_append_inj hr hr' h
    exact ⟨by omega, hrest⟩
  · exact absurd h.symm (hsign _ _ _)
  · exact absurd h (hsign _ _ _)
  · obtain ⟨hn, hrest⟩ := natRepr_append_inj hr hr' (List.cons.inj h).2
    exact ⟨by omega, hrest⟩

end Text

namespace Value

/-- Which constructor a text that begins with this character comes from. -/
def shapeOf (c : Char) : ℕ :=
  if c = 'n' then 0
  else if c = 't' ∨ c = 'f' then 1
  else if c.isDigit = true ∨ c = '-' then 2
  else if c = '\x22' then 3
  else if c = '[' then 4
  else if c = '{' then 5
  else 6

def shape : Value → ℕ
  | null => 0
  | bool _ => 1
  | int _ => 2
  | str _ => 3
  | arr _ => 4
  | obj _ => 5

theorem shapeOf_digit {c : Char} (h : c.isDigit = true) : shapeOf c = 2 := by
  have hn : c ≠ 'n' := by
    rintro rfl
    exact absurd h (by decide)
  have ht : ¬ (c = 't' ∨ c = 'f') := by
    rintro (rfl | rfl) <;> exact absurd h (by decide)
  rw [shapeOf, if_neg hn, if_neg ht, if_pos (.inl h)]

theorem encode_head (v : Value) : ∃ c l, v.encode = c :: l ∧ shapeOf c = v.shape := by
  cases v with
  | null => exact ⟨_, _, rfl, rfl⟩
  | bool b => cases b <;> exact ⟨_, _, rfl, rfl⟩
  | str s => exact ⟨_, _, rfl, rfl⟩
  | arr l => exact ⟨_, _, rfl, rfl⟩
  | obj d => exact ⟨_, _, rfl, rfl⟩
  | int i =>
    rcases intRepr_toList i with ⟨_, hi⟩ | ⟨_, hi⟩
    · obtain ⟨c, l, hl, hc⟩ := natRepr_head i.toNat
      exact ⟨c, l, hi.trans hl, shapeOf_digit hc⟩
    · exact ⟨_, _, hi, rfl⟩

theorem shape_eq {v w : Value} {r r' : List Char} (h : v.encode ++ r = w.encode ++ r') :
    v.shape = w.shape := by
  obtain ⟨c, l, hv, hc⟩ := v.encode_head
  obtain ⟨c', l', hw, hc'⟩ := w.encode_head
  rw [hv, hw] at h
  rw [← hc, ← hc', (List.cons.inj h).1]

theorem ends_cons {c : Char} (r : List Char) (hc : c.isDigit = false) : Ends (c :: r) := by
  intro c' hc'
  obtain rfl := Option.some.inj hc'
  exact hc

theorem ends_itemsTail (l : List Value) (r : List Char) : Ends (encodeItemsTail l ++ ']' :: r) := by
  cases l <;> exact ends_cons _ (by decide)

theorem ends_membersTail (d : List (String × Value)) (r : List Char) :
    Ends (encodeMembersTail d ++ '}' :: r) := by
  rcases d with _ | ⟨⟨k, v⟩, d⟩ <;> exact ends_cons _ (by decide)

/-- No value begins with the bracket that ends a list. -/
theorem bracket_ne_encode (v : Value) (r r' : List Char) : ']' :: r ≠ v.encode ++ r' := by
  intro h
  obtain ⟨c, l, hv, hc⟩ := v.encode_head
  rw [hv] at h
  rw [← (List.cons.inj h).1] at hc
  have hsix : shapeOf ']' = 6 := by decide
  cases v <;> exact absurd (hsix.symm.trans hc) (by simp [shape])

mutual

theorem encode_append_inj : ∀ (v w : Value) {r r' : List Char}, Ends r → Ends r' →
    v.encode ++ r = w.encode ++ r' → v = w ∧ r = r'
  | null, w, _, _, _, _, h => by
    have hs := shape_eq h
    cases w <;> simp_all [shape, encode]
  | bool b, w, _, _, _, _, h => by
    have hs := shape_eq h
    cases w with
    | bool b' => cases b <;> cases b' <;> simp_all [encode]
    | _ => simp [shape] at hs
  | int i, w, _, _, hr, hr', h => by
    have hs := shape_eq h
    cases w with
    | int j =>
      obtain ⟨rfl, hrest⟩ := intRepr_append_inj hr hr' h
      exact ⟨rfl, hrest⟩
    | _ => simp [shape] at hs
  | str s, w, _, _, _, _, h => by
    have hs := shape_eq h
    cases w with
    | str s' =>
      obtain ⟨rfl, hrest⟩ := encodeStr_append_inj h
      exact ⟨rfl, hrest⟩
    | _ => simp [shape] at hs
  | arr l, w, _, _, _, _, h => by
    have hs := shape_eq h
    cases w with
    | arr l' =>
      simp only [encode, List.cons_append, List.append_assoc, List.nil_append] at h
      obtain ⟨rfl, hrest⟩ := encodeItems_append_inj l l' (List.cons.inj h).2
      exact ⟨rfl, hrest⟩
    | _ => simp [shape] at hs
  | obj d, w, _, _, _, _, h => by
    have hs := shape_eq h
    cases w with
    | obj d' =>
      simp only [encode, List.cons_append, List.append_assoc, List.nil_append] at h
      obtain ⟨rfl, hrest⟩ := encodeMembers_append_inj d d' (List.cons.inj h).2
      exact ⟨rfl, hrest⟩
    | _ => simp [shape] at hs

theorem encodeItems_append_inj : ∀ (l l' : List Value) {r r' : List Char},
    encodeItems l ++ ']' :: r = encodeItems l' ++ ']' :: r' → l = l' ∧ r = r'
  | [], [], _, _, h => ⟨rfl, (List.cons.inj h).2⟩
  | [], v' :: l', _, _, h => by
    rw [encodeItems, encodeItems, List.append_assoc] at h
    exact absurd h (bracket_ne_encode v' _ _)
  | v :: l, [], _, _, h => by
    rw [encodeItems, encodeItems, List.append_assoc] at h
    exact absurd h.symm (bracket_ne_encode v _ _)
  | v :: l, v' :: l', _, _, h => by
    rw [encodeItems, encodeItems, List.append_assoc, List.append_assoc] at h
    obtain ⟨rfl, hrest⟩ := encode_append_inj v v' (ends_itemsTail _ _) (ends_itemsTail _ _) h
    obtain ⟨rfl, hend⟩ := encodeItemsTail_append_inj l l' hrest
    exact ⟨rfl, hend⟩

theorem encodeItemsTail_append_inj : ∀ (l l' : List Value) {r r' : List Char},
    encodeItemsTail l ++ ']' :: r = encodeItemsTail l' ++ ']' :: r' → l = l' ∧ r = r'
  | [], [], _, _, h => ⟨rfl, (List.cons.inj h).2⟩
  | [], v' :: l', _, _, h => absurd (List.cons.inj h).1 (by decide)
  | v :: l, [], _, _, h => absurd (List.cons.inj h).1 (by decide)
  | v :: l, v' :: l', _, _, h => by
    rw [encodeItemsTail, encodeItemsTail, List.cons_append, List.cons_append, List.append_assoc,
      List.append_assoc] at h
    obtain ⟨rfl, hrest⟩ := encode_append_inj v v' (ends_itemsTail _ _) (ends_itemsTail _ _)
      (List.cons.inj h).2
    obtain ⟨rfl, hend⟩ := encodeItemsTail_append_inj l l' hrest
    exact ⟨rfl, hend⟩

theorem encodeMembers_append_inj : ∀ (d d' : List (String × Value)) {r r' : List Char},
    encodeMembers d ++ '}' :: r = encodeMembers d' ++ '}' :: r' → d = d' ∧ r = r'
  | [], [], _, _, h => ⟨rfl, (List.cons.inj h).2⟩
  | [], (k', v') :: d', _, _, h => absurd (List.cons.inj h).1 (by decide)
  | (k, v) :: d, [], _, _, h => absurd (List.cons.inj h).1 (by decide)
  | (k, v) :: d, (k', v') :: d', _, _, h => by
    simp only [encodeMembers, List.append_assoc, List.cons_append] at h
    obtain ⟨rfl, hvalue⟩ := encodeStr_append_inj h
    obtain ⟨rfl, hrest⟩ := encode_append_inj v v' (ends_membersTail _ _) (ends_membersTail _ _)
      (List.cons.inj hvalue).2
    obtain ⟨rfl, hend⟩ := encodeMembersTail_append_inj d d' hrest
    exact ⟨rfl, hend⟩

theorem encodeMembersTail_append_inj : ∀ (d d' : List (String × Value)) {r r' : List Char},
    encodeMembersTail d ++ '}' :: r = encodeMembersTail d' ++ '}' :: r' → d = d' ∧ r = r'
  | [], [], _, _, h => ⟨rfl, (List.cons.inj h).2⟩
  | [], (k', v') :: d', _, _, h => absurd (List.cons.inj h).1 (by decide)
  | (k, v) :: d, [], _, _, h => absurd (List.cons.inj h).1 (by decide)
  | (k, v) :: d, (k', v') :: d', _, _, h => by
    simp only [encodeMembersTail, List.append_assoc, List.cons_append] at h
    obtain ⟨rfl, hvalue⟩ := encodeStr_append_inj (List.cons.inj h).2
    obtain ⟨rfl, hrest⟩ := encode_append_inj v v' (ends_membersTail _ _) (ends_membersTail _ _)
      (List.cons.inj hvalue).2
    obtain ⟨rfl, hend⟩ := encodeMembersTail_append_inj d d' hrest
    exact ⟨rfl, hend⟩

end

theorem encode_injective : Function.Injective encode := by
  intro v w h
  have hends : Ends [] := fun c hc => absurd hc (by simp)
  exact (encode_append_inj v w hends hends (by rw [h])).1

end Value

theorem dumps_eq_iff {v w : Value} : dumps v = dumps w ↔ v.sorted = w.sorted := by
  refine ⟨fun h => Value.encode_injective ?_, fun h => by rw [dumps, dumps, h]⟩
  simpa only [dumps, String.toList_ofList] using congrArg String.toList h

namespace Dict

theorem sortedMembers_eq_map (d : Dict) :
    Value.sortedMembers d = d.map fun kv => (kv.1, kv.2.sorted) := by
  induction d with
  | nil => rfl
  | cons kv d ih => rw [Value.sortedMembers, ih, List.map_cons]

theorem get?_eq_some_iff {d : Dict} (hd : (d.map Prod.fst).Nodup) {k : String} {v : Value} :
    get? d k = some v ↔ (k, v) ∈ d := by
  induction d with
  | nil => simp
  | cons kv d ih =>
    obtain ⟨k', v'⟩ := kv
    rw [List.map_cons, List.nodup_cons] at hd
    rw [get?_cons]
    split
    · rename_i hk
      subst hk
      simp only [Option.some.injEq, List.mem_cons, Prod.mk.injEq, true_and]
      refine ⟨fun h => .inl h.symm, ?_⟩
      rintro (h | h)
      · exact h.symm
      · exact absurd (List.mem_map_of_mem h) hd.1
    · rename_i hk
      rw [ih hd.2, List.mem_cons]
      simp [Ne.symm hk]

/-- The order of the keys does not matter to a lookup. -/
theorem get?_perm {d d' : Dict} (hp : d.Perm d') (hd : (d.map Prod.fst).Nodup) (k : String) :
    get? d k = get? d' k := by
  have hd' : (d'.map Prod.fst).Nodup := (hp.map Prod.fst).nodup_iff.mp hd
  refine Option.ext fun v => ?_
  rw [get?_eq_some_iff hd, get?_eq_some_iff hd', hp.mem_iff]

theorem get?_map (d : Dict) (f : Value → Value) (k : String) :
    get? (d.map fun kv => (kv.1, f kv.2)) k = (get? d k).map f := by
  induction d with
  | nil => rfl
  | cons kv d ih =>
    rw [List.map_cons, get?_cons, get?_cons, ih]
    split <;> rfl

/-- Dictionaries with the same text agree on every key. -/
theorem get?_of_dumps_eq {d d' : Dict} (hd : (d.map Prod.fst).Nodup)
    (hd' : (d'.map Prod.fst).Nodup) (h : dumps (.obj d) = dumps (.obj d')) (k : String) :
    (get? d k).map Value.sorted = (get? d' k).map Value.sorted := by
  have hlookup : ∀ {d : Dict}, (d.map Prod.fst).Nodup → get? ((Value.sortedMembers d).insertionSort
      fun a b => a.1 ≤ b.1) k = (get? d k).map Value.sorted := by
    intro d hd
    have hkeys : ((Value.sortedMembers d).map Prod.fst).Nodup := by
      rw [sortedMembers_eq_map, List.map_map]
      exact hd
    rw [← get?_perm (List.perm_insertionSort _ _).symm hkeys, sortedMembers_eq_map, get?_map]
  have hsorted := dumps_eq_iff.mp h
  simp only [Value.sorted, Value.obj.injEq] at hsorted
  rw [← hlookup hd, ← hlookup hd', hsorted]

end Dict

end Json
