import Mathlib.Data.List.Infix

/-! The methods of Unicode strings that a program normalizes its input with. -/
namespace Texts

/-- `str.isspace` of one character. -/
def isSpace (c : Char) : Bool :=
  (9 ≤ c.toNat && c.toNat ≤ 13) || (28 ≤ c.toNat && c.toNat ≤ 32) || c.toNat == 0x85 ||
    c.toNat == 0xA0 || c.toNat == 0x1680 || (0x2000 ≤ c.toNat && c.toNat ≤ 0x200A) ||
    c.toNat == 0x2028 || c.toNat == 0x2029 || c.toNat == 0x202F || c.toNat == 0x205F ||
    c.toNat == 0x3000

/-- `s.strip(chars)`, for the characters that `p` holds of. -/
def stripBy (p : Char → Bool) (s : String) : String :=
  String.ofList ((s.toList.dropWhile p).reverse.dropWhile p).reverse

def strip (s : String) : String := stripBy isSpace s

/-- `s.split()`: the runs of characters that are not white space. -/
def words (s : String) : List (List Char) :=
  (s.toList.splitOnP isSpace).filter fun w => !w.isEmpty

/-- `" ".join(s.split())`. -/
def joinWords (s : String) : String := String.ofList (List.intercalate [' '] (words s))

/-- `part in s`. -/
def contains (s part : String) : Bool := decide (part.toList <:+: s.toList)

/-- `s[:n]`. -/
def take (s : String) (n : ℕ) : String := String.ofList (s.toList.take n)

/-- `s[-n:]`. -/
def takeEnd (s : String) (n : ℕ) : String :=
  String.ofList (s.toList.drop (s.toList.length - n))

/-- A text that begins and ends with a character that `p` does not hold of stays as it is. -/
theorem stripBy_self {p : Char → Bool} {s : String} (hfirst : ∀ c ∈ s.toList.head?, p c = false)
    (hlast : ∀ c ∈ s.toList.getLast?, p c = false) : stripBy p s = s := by
  have hdrop : ∀ l : List Char, (∀ c ∈ l.head?, p c = false) → l.dropWhile p = l := by
    intro l hl
    cases l with
    | nil => rfl
    | cons c l => simp [hl c rfl]
  have hrev : ∀ c ∈ s.toList.reverse.head?, p c = false := by simpa using hlast
  rw [stripBy, hdrop _ hfirst, hdrop _ hrev, List.reverse_reverse, String.ofList_toList]

/-- What begins and ends with a character that `p` does not hold of is not stripped. -/
theorem infix_stripBy {p : Char → Bool} {a v b : List Char} (hv : v ≠ [])
    (hfirst : ∀ c ∈ v.head?, p c = false) (hlast : ∀ c ∈ v.getLast?, p c = false) :
    ∃ a' b', stripBy p (String.ofList (a ++ v ++ b)) = String.ofList (a' ++ v ++ b') := by
  -- The characters before `v`, and after it, are all that can be dropped.
  have hdrop : ∀ a v : List Char, v ≠ [] → (∀ c ∈ v.head?, p c = false) → ∀ b,
      ∃ a', (a ++ v ++ b).dropWhile p = a' ++ v ++ b := by
    intro a v hv hfirst b
    obtain ⟨c, v', rfl⟩ := List.exists_cons_of_ne_nil hv
    have hc : p c = false := hfirst c rfl
    induction a with
    | nil => exact ⟨[], by simp [hc]⟩
    | cons x a ih =>
      by_cases hx : p x
      · obtain ⟨a', ha'⟩ := ih
        exact ⟨a', by simpa [hx] using ha'⟩
      · exact ⟨x :: a, by simp [hx]⟩
  obtain ⟨a', ha'⟩ := hdrop a v hv hfirst b
  have hrev : ∀ c ∈ v.reverse.head?, p c = false := by simpa using hlast
  obtain ⟨b', hb'⟩ := hdrop b.reverse v.reverse (by simpa using hv) hrev a'.reverse
  refine ⟨a', b'.reverse, ?_⟩
  have hreverse : (a' ++ v ++ b).reverse = b.reverse ++ v.reverse ++ a'.reverse := by simp
  simp only [stripBy, String.toList_ofList, ha', hreverse, hb']
  simp

end Texts
