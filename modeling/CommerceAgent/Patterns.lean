import Mathlib.Data.List.Basic

/-! Regular expressions as a backtracking matcher reads them: a pattern maps a place of the text
to the places after its matches, in order of preference. -/
namespace Patterns

/-- A place of a text: the character before it, and what follows. -/
structure Place where
  before : Option Char
  rest : List Char

abbrev Pattern : Type := Place → List Place

def one (p : Char → Bool) : Pattern
  | ⟨_, c :: l⟩ => if p c then [⟨some c, l⟩] else []
  | ⟨_, []⟩ => []

def none : Pattern := fun a => [a]

/-- The concatenation of patterns. -/
def all (ms : List Pattern) : Pattern :=
  ms.foldr (fun m next a => (m a).flatMap next) none

/-- The alternatives of a pattern, the first one preferred. -/
def anyOf (ms : List Pattern) : Pattern := fun a => ms.flatMap fun m => m a

def opt (m : Pattern) : Pattern := anyOf [m, none]

/-- `m{0,n}`, as often as possible. -/
def upTo (m : Pattern) : ℕ → Pattern
  | 0 => none
  | n + 1 => fun a => (m a).flatMap (upTo m n) ++ [a]

/-- `m{lo,lo+extra}`. -/
def times (m : Pattern) : ℕ → ℕ → Pattern
  | 0, extra => upTo m extra
  | lo + 1, extra => fun a => (m a).flatMap (times m lo extra)

/-- `m{lo,}`, for a pattern that matches no empty text. -/
def atLeast (lo : ℕ) (m : Pattern) : Pattern := fun a => times m lo a.rest.length a

def notBefore (p : Char → Bool) : Pattern := fun a => if a.before.any p then [] else [a]

def notAfter (p : Char → Bool) : Pattern := fun a => if a.rest.head?.any p then [] else [a]

/-- `\b`, for the characters of a word. -/
def boundary (isWord : Char → Bool) : Pattern := fun a =>
  if a.before.any isWord == a.rest.head?.any isWord then [] else [a]

def literal (same : Char → Char → Bool) (s : String) : Pattern :=
  all (s.toList.map fun c => one (same c))

/-- The case folding of `(?i)` on the letters of ASCII. -/
def fold (c : Char) : Char :=
  if c = 'ſ' then 's' else if c = 'K' then 'k' else if c = 'İ' ∨ c = 'ı' then 'i' else c.toLower

def ignoreCase (c d : Char) : Bool := fold d = c

/-- A match that begins at or after a place. -/
def searchFrom (m : Pattern) : Option Char → List Char → Bool
  | before, [] => !(m ⟨before, []⟩).isEmpty
  | before, c :: l => !(m ⟨before, c :: l⟩).isEmpty || searchFrom m (some c) l

/-- The first match at or after a place, and the place after it. -/
def findFrom (m : Pattern) : Option Char → List Char → Option (List Char × Place)
  | before, [] => (m ⟨before, []⟩).head?.map fun a => ([], a)
  | before, c :: l =>
    match m ⟨before, c :: l⟩ with
    | a :: _ => some ((c :: l).take ((c :: l).length - a.rest.length), a)
    | [] => findFrom m (some c) l

/-- `re.search` with `group(0)`. -/
def find? (m : Pattern) (s : String) : Option String :=
  (findFrom m Option.none s.toList).map fun found => String.ofList found.1

/-- `re.findall` from a place on; no match is empty, and `n` bounds their number. -/
def findAllFrom (m : Pattern) : ℕ → Place → List String
  | 0, _ => []
  | n + 1, a =>
    match findFrom m a.before a.rest with
    | some (matched, a') => String.ofList matched :: findAllFrom m n a'
    | Option.none => []

def findAll (m : Pattern) (s : String) : List String :=
  findAllFrom m s.toList.length ⟨Option.none, s.toList⟩

/-- `re.search` as a condition. -/
def search (m : Pattern) (s : String) : Bool := searchFrom m Option.none s.toList

/-- `re.sub` from a place on; no match is empty, and `n` bounds the characters that are left. -/
def subFrom (m : Pattern) (f : List Char → List Char) : ℕ → Option Char → List Char → List Char
  | n + 1, before, c :: l =>
    match m ⟨before, c :: l⟩ with
    | ⟨before', l'⟩ :: _ =>
      f ((c :: l).take ((c :: l).length - l'.length)) ++ subFrom m f n before' l'
    | [] => c :: subFrom m f n (some c) l
  | _, _, _ => []

/-- `re.sub` with a function of the matched text. -/
def sub (m : Pattern) (f : List Char → List Char) (s : String) : String :=
  String.ofList (subFrom m f s.toList.length Option.none s.toList)

section Lengths

/-- Every match is at least this long. -/
def Consumes (m : Pattern) (n : ℕ) : Prop := ∀ a, ∀ b ∈ m a, b.rest.length + n ≤ a.rest.length

theorem Consumes.mono {m : Pattern} {n k : ℕ} (h : Consumes m n) (hk : k ≤ n) : Consumes m k := by
  intro a b hb
  have hlength := h a b hb
  omega

theorem consumes_none : Consumes none 0 := by
  intro a b hb
  obtain rfl := List.mem_singleton.mp hb
  exact Nat.le_refl _

theorem consumes_one (p : Char → Bool) : Consumes (one p) 1 := by
  rintro ⟨before, rest⟩ b hb
  cases rest with
  | nil => exact absurd hb (by simp [one])
  | cons c l =>
    simp only [one] at hb
    split at hb
    · obtain rfl := List.mem_singleton.mp hb
      simp
    · exact absurd hb (by simp)

/-- One pattern after the other. -/
theorem Consumes.append {m m' : Pattern} {n k : ℕ} (h : Consumes m n) (h' : Consumes m' k) :
    Consumes (fun a => (m a).flatMap m') (n + k) := by
  intro a b hb
  obtain ⟨c, hc, hb⟩ := List.mem_flatMap.mp hb
  have hfirst := h a c hc
  have hsecond := h' c b hb
  omega

theorem consumes_all_nil : Consumes (all []) 0 := consumes_none

theorem Consumes.all_cons {m : Pattern} {ms : List Pattern} {n k : ℕ} (h : Consumes m n)
    (h' : Consumes (all ms) k) : Consumes (all (m :: ms)) (n + k) := h.append h'

theorem consumes_filter {p : Place → Bool} : Consumes (fun a => if p a then [] else [a]) 0 := by
  intro a b hb
  dsimp only at hb
  split at hb
  · exact absurd hb (by simp)
  · obtain rfl := List.mem_singleton.mp hb
    exact Nat.le_refl _

theorem Consumes.upTo {m : Pattern} (h : Consumes m 0) (n : ℕ) : Consumes (upTo m n) 0 := by
  induction n with
  | zero => exact consumes_none
  | succ n ih =>
    intro a b hb
    rcases List.mem_append.mp hb with hb | hb
    · exact h.append ih a b hb
    · obtain rfl := List.mem_singleton.mp hb
      exact Nat.le_refl _

theorem Consumes.times {m : Pattern} (h : Consumes m 1) (lo extra : ℕ) : Consumes (times m lo extra) lo := by
  induction lo with
  | zero => exact (h.mono (by omega)).upTo extra
  | succ lo ih => exact (h.append ih).mono (by omega)

theorem consumes_literal (same : Char → Char → Bool) (s : String) :
    Consumes (literal same s) s.toList.length := by
  unfold literal
  induction s.toList with
  | nil => exact consumes_none
  | cons c l ih => exact ((consumes_one (same c)).all_cons ih).mono (by rw [List.length_cons]; omega)

/-- A pattern that matches no empty text finds none. -/
theorem findFrom_ne_nil {m : Pattern} (h : Consumes m 1) {l : List Char} {before : Option Char}
    {found : List Char × Place} (hfound : findFrom m before l = some found) : found.1 ≠ [] := by
  induction l generalizing before with
  | nil =>
    simp only [findFrom, Option.map_eq_some_iff] at hfound
    obtain ⟨a, ha, rfl⟩ := hfound
    have hshort := h _ a (List.mem_of_mem_head? ha)
    exact absurd hshort (by simp)
  | cons c l ih =>
    rw [findFrom] at hfound
    split at hfound
    · rename_i a as hmatch
      obtain rfl := Option.some.inj hfound
      have hshort := h ⟨before, c :: l⟩ a (by rw [hmatch]; exact List.mem_cons_self)
      simp only [List.length_cons] at hshort
      intro hnil
      have hzero : (c :: l).length - a.rest.length = 0 := by
        rcases List.take_eq_nil_iff.mp hnil with hzero | hnil
        · exact hzero
        · exact absurd hnil (by simp)
      simp only [List.length_cons] at hzero
      omega
    · exact ih hfound

theorem find?_ne_empty {m : Pattern} (h : Consumes m 1) {s found : String} (hfound : find? m s = some found) :
    found ≠ "" := by
  obtain ⟨found', hfrom, rfl⟩ := Option.map_eq_some_iff.mp hfound
  intro hempty
  exact findFrom_ne_nil h hfrom (by simpa using congrArg String.toList hempty)

theorem findAll_ne_empty {m : Pattern} (h : Consumes m 1) {s found : String} (hfound : found ∈ findAll m s) :
    found ≠ "" := by
  unfold findAll at hfound
  generalize s.toList.length = n at hfound
  generalize (⟨Option.none, s.toList⟩ : Place) = a at hfound
  induction n generalizing a with
  | zero => exact absurd hfound (by simp [findAllFrom])
  | succ n ih =>
    rw [findAllFrom] at hfound
    split at hfound
    · rename_i matched a' hfrom
      rcases List.mem_cons.mp hfound with rfl | hfound
      · intro hempty
        exact findFrom_ne_nil h hfrom (by simpa using congrArg String.toList hempty)
      · exact ih _ hfound
    · exact absurd hfound (by simp)

end Lengths

end Patterns
