import CommerceAgent.PatternMatches

/-! Where in a text a pattern matches: the text between two places, what the parts of a pattern read there,
and the spans that a search finds. -/
namespace Patterns

/-- `piece` is the text between two places. -/
structure Between (a : Place) (piece : List Char) (b : Place) : Prop where
  rest : a.rest = piece ++ b.rest
  before : b.before = piece.getLast?.or a.before

section Between

variable {a b c : Place} {piece piece' : List Char}

theorem Between.refl (a : Place) : Between a [] a := ⟨rfl, rfl⟩

theorem Between.one (before : Option Char) (d : Char) (l : List Char) :
    Between ⟨before, d :: l⟩ [d] ⟨some d, l⟩ := ⟨rfl, rfl⟩

theorem Between.trans (h : Between a piece b) (h' : Between b piece' c) : Between a (piece ++ piece') c where
  rest := by rw [h.rest, h'.rest, List.append_assoc]
  before := by rw [h'.before, h.before, List.getLast?_append, Option.or_assoc]

/-- A place is determined by the text up to it. -/
theorem Between.eq (h : Between a piece b) (h' : Between a piece c) : b = c := by
  obtain ⟨before, rest⟩ := b
  obtain ⟨before', rest'⟩ := c
  obtain rfl : before = before' := h.before.trans h'.before.symm
  obtain rfl : rest = rest' := List.append_cancel_left (h.rest.symm.trans h'.rest)
  rfl

theorem Between.piece_eq (h : Between a piece c) (h' : Between a piece' c) : piece = piece' :=
  List.append_cancel_right (h.rest.symm.trans h'.rest)

theorem Between.eq_of_length (h : Between a piece b) (h' : Between a piece' c)
    (hlength : piece.length = piece'.length) : piece = piece' ∧ b = c := by
  obtain ⟨rfl, _⟩ := List.append_inj (h.rest.symm.trans h'.rest) hlength
  exact ⟨rfl, h.eq h'⟩

theorem Between.nil_iff : Between a [] b ↔ b = a := by
  constructor
  · intro h
    exact h.eq (.refl a)
  · rintro rfl
    exact .refl b

/-- From one character on. -/
theorem between_cons {before : Option Char} {d : Char} {l : List Char} :
    Between ⟨before, d :: l⟩ (d :: piece) b ↔ Between ⟨some d, l⟩ piece b := by
  constructor
  · intro h
    refine ⟨List.cons_injective h.rest, ?_⟩
    rw [h.before, List.getLast?_cons]
    cases piece.getLast? <;> rfl
  · intro h
    exact (Between.one before d l).trans h

theorem Between.cons_inv {before : Option Char} {d : Char} {l : List Char}
    (h : Between ⟨before, d :: l⟩ piece b) :
    piece = [] ∧ b = ⟨before, d :: l⟩ ∨ ∃ piece', piece = d :: piece' ∧ Between ⟨some d, l⟩ piece' b := by
  cases piece with
  | nil => exact .inl ⟨rfl, Between.nil_iff.mp h⟩
  | cons e piece' =>
    obtain rfl : d = e := (List.cons.inj h.rest).1
    exact .inr ⟨piece', rfl, between_cons.mp h⟩

theorem Between.nil_inv {before : Option Char} (h : Between ⟨before, []⟩ piece b) :
    piece = [] ∧ b = ⟨before, []⟩ := by
  obtain rfl : piece = [] := (List.append_eq_nil_iff.mp h.rest.symm).1
  exact ⟨rfl, Between.nil_iff.mp h⟩

/-- The place between two pieces. -/
theorem Between.split (h : Between a (piece ++ piece') b) : ∃ c, Between a piece c ∧ Between c piece' b := by
  refine ⟨⟨piece.getLast?.or a.before, piece' ++ b.rest⟩, ⟨?_, rfl⟩, ⟨rfl, ?_⟩⟩
  · rw [h.rest, List.append_assoc]
  · rw [h.before, List.getLast?_append, Option.or_assoc]

end Between

/-- The character before a place of a text. -/
theorem Between.before_iff {l skipped : List Char} {a : Place} (h : Between ⟨Option.none, l⟩ skipped a) {d : Char} :
    a.before = some d ↔ ∃ i, i + 1 = skipped.length ∧ l[i]? = some d := by
  have hl : l = skipped ++ a.rest := h.rest
  have hbefore : a.before = skipped[skipped.length - 1]? := by
    rw [h.before, Option.or_none, List.getLast?_eq_getElem?]
  rw [hbefore, hl]
  constructor
  · intro hd
    have hlt := (List.getElem?_eq_some_iff.mp hd).1
    refine ⟨skipped.length - 1, by omega, ?_⟩
    rw [List.getElem?_append_left hlt, hd]
  · rintro ⟨i, hi, hd⟩
    rw [List.getElem?_append_left (by omega)] at hd
    rw [show skipped.length - 1 = i by omega, hd]

section Parts

variable {p : Char → Bool} {m : Pattern} {ms : List Pattern} {a b : Place}

theorem mem_one : b ∈ one p a ↔ ∃ c, p c = true ∧ Between a [c] b := by
  obtain ⟨before, rest⟩ := a
  cases rest with
  | nil =>
    refine ⟨fun h => absurd h List.not_mem_nil, ?_⟩
    rintro ⟨c, _, h⟩
    exact absurd h.rest (by simp)
  | cons d l =>
    simp only [one]
    constructor
    · intro h
      split at h
      · rename_i hd
        obtain rfl := List.mem_singleton.mp h
        exact ⟨d, hd, .one _ _ _⟩
      · exact absurd h List.not_mem_nil
    · rintro ⟨c, hc, h⟩
      obtain rfl : d = c := (List.cons.inj h.rest).1
      rw [if_pos hc, h.eq (.one _ _ _)]
      exact List.mem_singleton_self _

theorem mem_all_cons : b ∈ all (m :: ms) a ↔ ∃ c ∈ m a, b ∈ all ms c := List.mem_flatMap

theorem mem_all_nil : b ∈ all [] a ↔ b = a := List.mem_singleton

theorem mem_notBefore : b ∈ notBefore p a ↔ b = a ∧ a.before.any p = false := by
  unfold notBefore
  cases h : a.before.any p <;> simp

theorem mem_notAfter : b ∈ notAfter p a ↔ b = a ∧ a.rest.head?.any p = false := by
  unfold notAfter
  cases h : a.rest.head?.any p <;> simp

/-- A literal reads a text that is the same up to letter case. -/
theorem mem_literal {s : String} : b ∈ literal ignoreCase s a ↔
    ∃ piece, Between a piece b ∧ piece.map fold = s.toList := by
  unfold literal
  induction s.toList generalizing a with
  | nil =>
    rw [List.map_nil, mem_all_nil]
    constructor
    · rintro rfl
      exact ⟨[], .refl b, rfl⟩
    · rintro ⟨piece, h, hpiece⟩
      rw [List.map_eq_nil_iff.mp hpiece] at h
      exact Between.nil_iff.mp h
  | cons c l ih =>
    rw [List.map_cons, mem_all_cons]
    constructor
    · rintro ⟨a', ha', hb⟩
      obtain ⟨d, hd, hone⟩ := mem_one.mp ha'
      obtain ⟨piece, hpiece, hfold⟩ := ih.mp hb
      refine ⟨d :: piece, hone.trans hpiece, ?_⟩
      rw [List.map_cons, hfold, of_decide_eq_true hd]
    · rintro ⟨piece, hpiece, hfold⟩
      cases piece with
      | nil => exact absurd hfold (by simp)
      | cons d piece =>
        obtain ⟨hd, hfold⟩ := List.cons.inj hfold
        obtain ⟨before, rest⟩ := a
        obtain rfl : rest = d :: (piece ++ b.rest) := hpiece.rest
        refine ⟨⟨some d, piece ++ b.rest⟩, mem_one.mpr ⟨d, decide_eq_true hd, .one _ _ _⟩, ?_⟩
        exact ih.mpr ⟨piece, between_cons.mp hpiece, hfold⟩

theorem mem_upTo_one {n : ℕ} : b ∈ upTo (one p) n a ↔
    ∃ piece, Between a piece b ∧ (∀ c ∈ piece, p c = true) ∧ piece.length ≤ n := by
  induction n generalizing a with
  | zero =>
    constructor
    · intro h
      obtain rfl := List.mem_singleton.mp h
      exact ⟨[], .refl b, by simp, Nat.le_refl 0⟩
    · rintro ⟨piece, h, _, hlength⟩
      rw [List.eq_nil_of_length_eq_zero (Nat.le_zero.mp hlength)] at h
      exact List.mem_singleton.mpr (Between.nil_iff.mp h)
  | succ n ih =>
    rw [upTo, List.mem_append, List.mem_flatMap, List.mem_singleton]
    constructor
    · rintro (⟨a', ha', hb⟩ | rfl)
      · obtain ⟨c, hc, hone⟩ := mem_one.mp ha'
        obtain ⟨piece, hpiece, hall, hlength⟩ := ih.mp hb
        exact ⟨c :: piece, hone.trans hpiece, List.forall_mem_cons.mpr ⟨hc, hall⟩, by simpa using hlength⟩
      · exact ⟨[], .refl b, by simp, Nat.zero_le _⟩
    · rintro ⟨piece, hpiece, hall, hlength⟩
      cases piece with
      | nil => exact .inr (Between.nil_iff.mp hpiece)
      | cons c piece =>
        obtain ⟨hc, hall⟩ := List.forall_mem_cons.mp hall
        obtain ⟨before, rest⟩ := a
        obtain rfl : rest = c :: (piece ++ b.rest) := hpiece.rest
        refine .inl ⟨⟨some c, piece ++ b.rest⟩, mem_one.mpr ⟨c, hc, .one _ _ _⟩, ?_⟩
        exact ih.mpr ⟨piece, between_cons.mp hpiece, hall, by simpa using hlength⟩

/-- A repetition of one kind of characters. -/
theorem mem_times_one {lo extra : ℕ} : b ∈ times (one p) lo extra a ↔
    ∃ piece, Between a piece b ∧ (∀ c ∈ piece, p c = true) ∧ lo ≤ piece.length ∧
      piece.length ≤ lo + extra := by
  induction lo generalizing a with
  | zero => simp only [times, mem_upTo_one, Nat.zero_le, true_and, Nat.zero_add]
  | succ lo ih =>
    rw [times, List.mem_flatMap]
    constructor
    · rintro ⟨a', ha', hb⟩
      obtain ⟨c, hc, hone⟩ := mem_one.mp ha'
      obtain ⟨piece, hpiece, hall, hlo, hhi⟩ := ih.mp hb
      refine ⟨c :: piece, hone.trans hpiece, List.forall_mem_cons.mpr ⟨hc, hall⟩, ?_, ?_⟩ <;>
        rw [List.length_cons] <;> omega
    · rintro ⟨piece, hpiece, hall, hlo, hhi⟩
      cases piece with
      | nil => exact absurd hlo (by simp)
      | cons c piece =>
        obtain ⟨hc, hall⟩ := List.forall_mem_cons.mp hall
        obtain ⟨before, rest⟩ := a
        obtain rfl : rest = c :: (piece ++ b.rest) := hpiece.rest
        rw [List.length_cons] at hlo hhi
        refine ⟨⟨some c, piece ++ b.rest⟩, mem_one.mpr ⟨c, hc, .one _ _ _⟩, ?_⟩
        exact ih.mpr ⟨piece, between_cons.mp hpiece, hall, by omega, by omega⟩

end Parts

theorem upTo_succ (m : Pattern) (n : ℕ) (a : Place) :
    upTo m (n + 1) a = (m a).flatMap (upTo m n) ++ [a] := rfl

theorem times_succ (m : Pattern) (lo extra : ℕ) (a : Place) :
    times m (lo + 1) extra a = (m a).flatMap (times m lo extra) := rfl

section Heads

variable {p : Char → Bool} {a b : Place} {run piece : List Char}

theorem one_cons {c : Char} (h : Between a (c :: run) b) (hc : p c = true) :
    ∃ a', one p a = [a'] ∧ Between a' run b := by
  obtain ⟨before, rest⟩ := a
  obtain rfl : rest = c :: (run ++ b.rest) := h.rest
  exact ⟨_, if_pos hc, between_cons.mp h⟩

theorem one_eq (h : Between a (piece ++ run) b) {c : Char} (hpiece : piece = [c]) (hc : p c = true) :
    ∃ a', one p a = [a'] ∧ Between a' run b := by
  subst hpiece
  exact one_cons h hc

theorem one_eq_nil (h : ∀ d ∈ a.rest.head?, p d = false) : one p a = [] := by
  obtain ⟨before, rest⟩ := a
  cases rest with
  | nil => rfl
  | cons d l => exact if_neg (by rw [h d rfl]; exact Bool.false_ne_true)

/-- The preferred match of a repetition takes the whole run of its characters, if it may be that long. -/
theorem upTo_one_eq {n : ℕ} (h : Between a run b) (hrun : ∀ c ∈ run, p c = true)
    (hend : ∀ d ∈ b.rest.head?, p d = false) (hn : run.length ≤ n) : ∃ t, upTo (one p) n a = b :: t := by
  induction run generalizing a n with
  | nil =>
    obtain rfl := Between.nil_iff.mp h
    cases n with
    | zero => exact ⟨[], rfl⟩
    | succ n => exact ⟨[], by rw [upTo_succ, one_eq_nil hend]; rfl⟩
  | cons c run ih =>
    obtain ⟨hc, hrun⟩ := List.forall_mem_cons.mp hrun
    obtain ⟨a', ha', h'⟩ := one_cons h hc
    cases n with
    | zero => exact absurd hn (by simp)
    | succ n =>
      obtain ⟨t, ht⟩ := ih h' hrun (by simpa using hn)
      exact ⟨t ++ [a], by rw [upTo_succ, ha', List.flatMap_singleton, ht]; rfl⟩

theorem times_one_eq {lo extra : ℕ} (h : Between a run b) (hrun : ∀ c ∈ run, p c = true)
    (hend : ∀ d ∈ b.rest.head?, p d = false) (hlo : lo ≤ run.length) (hhi : run.length ≤ lo + extra) :
    ∃ t, times (one p) lo extra a = b :: t := by
  induction lo generalizing a run with
  | zero => exact upTo_one_eq h hrun hend (by omega)
  | succ lo ih =>
    cases run with
    | nil => exact absurd hlo (by simp)
    | cons c run =>
      obtain ⟨hc, hrun⟩ := List.forall_mem_cons.mp hrun
      obtain ⟨a', ha', h'⟩ := one_cons h hc
      rw [List.length_cons] at hlo hhi
      obtain ⟨t, ht⟩ := ih h' hrun (by omega) (by omega)
      exact ⟨t, by rw [times_succ, ha', List.flatMap_singleton, ht]⟩

/-- A literal matches in one way. -/
theorem literal_eq {s : String} (h : Between a piece b) (hpiece : piece.map fold = s.toList) :
    literal ignoreCase s a = [b] := by
  unfold literal
  generalize s.toList = letters at hpiece ⊢
  induction letters generalizing a piece with
  | nil =>
    rw [List.map_eq_nil_iff.mp hpiece] at h
    rw [Between.nil_iff.mp h]
    rfl
  | cons c l ih =>
    cases piece with
    | nil => exact absurd hpiece (by simp)
    | cons d piece =>
      obtain ⟨hd, hpiece⟩ := List.cons.inj hpiece
      obtain ⟨a', ha', h'⟩ := one_cons (p := ignoreCase c) h (decide_eq_true hd)
      change (one (ignoreCase c) a).flatMap (all (l.map fun c => one (ignoreCase c))) = [b]
      rw [ha', List.flatMap_singleton, ih h' hpiece]

end Heads

section Searches

/-- Every match ends at a place of the text. -/
def Moves (m : Pattern) : Prop := ∀ a, ∀ b ∈ m a, ∃ piece, Between a piece b

/-- `re.finditer` from a place on: what was matched, and the place after it. -/
def foundFrom (m : Pattern) : ℕ → Place → List (List Char × Place)
  | 0, _ => []
  | n + 1, a =>
    match findFrom m a.before a.rest with
    | some found => found :: foundFrom m n found.2
    | Option.none => []

def found (m : Pattern) (s : String) : List (List Char × Place) :=
  foundFrom m s.toList.length ⟨Option.none, s.toList⟩

/-- The first match of `re.search`. -/
def found? (m : Pattern) (s : String) : Option (List Char × Place) := findFrom m Option.none s.toList

structure Span where
  start : ℕ
  stop : ℕ
  deriving DecidableEq, Repr

/-- Where in a text a match is. -/
def spanIn (s : String) (match' : List Char × Place) : Span where
  start := s.toList.length - match'.2.rest.length - match'.1.length
  stop := s.toList.length - match'.2.rest.length

/-- The text of a span. -/
def spanText (s : String) (span : Span) : String :=
  String.ofList ((s.toList.drop span.start).take (span.stop - span.start))

/-- Two spans without a common character. -/
def Span.Apart (s t : Span) : Prop := s.stop ≤ t.start ∨ t.stop ≤ s.start

instance (s t : Span) : Decidable (s.Apart t) := inferInstanceAs (Decidable (_ ∨ _))

variable {m : Pattern} {a b : Place} {matched : List Char} {s : String}

theorem findAllFrom_eq (m : Pattern) (n : ℕ) (a : Place) :
    findAllFrom m n a = (foundFrom m n a).map fun found => String.ofList found.1 := by
  induction n generalizing a with
  | zero => rfl
  | succ n ih =>
    rw [findAllFrom, foundFrom]
    cases findFrom m a.before a.rest with
    | none => rfl
    | some found => exact congrArg (String.ofList found.1 :: ·) (ih found.2)

theorem findAll_eq (m : Pattern) (s : String) :
    findAll m s = (found m s).map fun found => String.ofList found.1 := findAllFrom_eq _ _ _

theorem find?_eq (m : Pattern) (s : String) :
    find? m s = (found? m s).map fun found => String.ofList found.1 := rfl

/-- A search that fails has found a match nowhere. -/
theorem findFrom_eq_none : findFrom m a.before a.rest = Option.none ↔
    ∀ skipped a', Between a skipped a' → m a' = [] := by
  obtain ⟨before, rest⟩ := a
  dsimp only
  induction rest generalizing before with
  | nil =>
    rw [findFrom, Option.map_eq_none_iff, List.head?_eq_none_iff]
    constructor
    · rintro h skipped a' ha'
      rw [ha'.nil_inv.2]
      exact h
    · exact fun h => h [] _ (.refl _)
  | cons c l ih =>
    rw [findFrom]
    constructor
    · intro h skipped a' ha'
      split at h
      · exact absurd h (by simp)
      · rename_i hnone
        rcases ha'.cons_inv with ⟨_, rfl⟩ | ⟨skipped', _, ha'⟩
        · exact hnone
        · exact (ih (some c)).mp h skipped' a' ha'
    · intro h
      rw [h [] _ (.refl _)]
      exact (ih (some c)).mpr fun skipped a' ha' => h (c :: skipped) a' (between_cons.mpr ha')

/-- What a search finds: the preferred match at the first place that has one. -/
theorem findFrom_eq_some (hm : Moves m) : findFrom m a.before a.rest = some (matched, b) ↔
    ∃ skipped a', Between a skipped a' ∧ (m a').head? = some b ∧ Between a' matched b ∧
      ∀ earlier c, Between a earlier c → earlier.length < skipped.length → m c = [] := by
  obtain ⟨before, rest⟩ := a
  dsimp only
  induction rest generalizing before with
  | nil =>
    rw [findFrom]
    constructor
    · intro h
      obtain ⟨b', hb', heq⟩ := Option.map_eq_some_iff.mp h
      obtain ⟨rfl, rfl⟩ := Prod.mk.inj heq
      obtain ⟨piece, hpiece⟩ := hm _ b' (List.mem_of_mem_head? hb')
      obtain ⟨rfl, _⟩ := hpiece.nil_inv
      exact ⟨[], _, .refl _, hb', hpiece, fun _ _ _ h => absurd h (by simp)⟩
    · rintro ⟨skipped, a', ha', hb, hmatched, _⟩
      obtain ⟨_, rfl⟩ := ha'.nil_inv
      rw [hb, hmatched.nil_inv.1]
      rfl
  | cons c l ih =>
    rw [findFrom]
    cases hhere : m ⟨before, c :: l⟩ with
    | cons b' t =>
      obtain ⟨piece, hpiece⟩ := hm _ b' (hhere ▸ List.mem_cons_self)
      have htaken : (c :: l).take ((c :: l).length - b'.rest.length) = piece := taken_piece hpiece.rest
      dsimp only
      rw [htaken]
      constructor
      · intro h
        obtain ⟨rfl, rfl⟩ := Prod.mk.inj (Option.some.inj h)
        refine ⟨[], _, .refl _, ?_, hpiece, fun _ _ _ h => absurd h (by simp)⟩
        rw [hhere]
        rfl
      · rintro ⟨skipped, a', ha', hb, hmatched, hearlier⟩
        -- No earlier place than this one has a match, so that the match is here.
        rcases ha'.cons_inv with ⟨_, rfl⟩ | ⟨skipped', rfl, _⟩
        · rw [hhere] at hb
          obtain rfl := Option.some.inj hb
          rw [hpiece.piece_eq hmatched]
        · have hnone := hearlier [] _ (.refl _) (by simp)
          rw [hhere] at hnone
          exact absurd hnone (by simp)
    | nil =>
      dsimp only
      rw [ih (some c)]
      constructor
      · rintro ⟨skipped, a', ha', hb, hmatched, hearlier⟩
        refine ⟨c :: skipped, a', between_cons.mpr ha', hb, hmatched, fun earlier d hd hlt => ?_⟩
        rcases hd.cons_inv with ⟨_, rfl⟩ | ⟨earlier', rfl, hd'⟩
        · exact hhere
        · exact hearlier earlier' d hd' (by simpa using hlt)
      · rintro ⟨skipped, a', ha', hb, hmatched, hearlier⟩
        rcases ha'.cons_inv with ⟨_, rfl⟩ | ⟨skipped', rfl, hnext⟩
        · rw [hhere] at hb
          exact absurd hb (by simp)
        · refine ⟨skipped', a', hnext, hb, hmatched, fun earlier d hd hlt => ?_⟩
          exact hearlier (c :: earlier) d (between_cons.mpr hd) (by simpa using hlt)

/-- What is found from a place on lies behind it. -/
theorem foundFrom_behind (hm : Moves m) {n : ℕ} {match' : List Char × Place} (h : match' ∈ foundFrom m n a) :
    ∃ skipped a', Between a skipped a' ∧ (m a').head? = some match'.2 ∧ Between a' match'.1 match'.2 := by
  induction n generalizing a with
  | zero => exact absurd h List.not_mem_nil
  | succ n ih =>
    rw [foundFrom] at h
    cases hfirst : findFrom m a.before a.rest with
    | none =>
      rw [hfirst] at h
      exact absurd h List.not_mem_nil
    | some first =>
      rw [hfirst] at h
      obtain ⟨skipped, a', ha', hhead, hmatched, _⟩ := (findFrom_eq_some hm).mp hfirst
      rcases List.mem_cons.mp h with rfl | h
      · exact ⟨skipped, a', ha', hhead, hmatched⟩
      · obtain ⟨skipped', a'', ha'', hhead', hmatched'⟩ := ih h
        exact ⟨_, a'', (ha'.trans hmatched).trans ha'', hhead', hmatched'⟩

/-- The matches of a text follow one another. -/
theorem foundFrom_pairwise (hm : Moves m) (n : ℕ) (a : Place) :
    (foundFrom m n a).Pairwise fun x y => y.2.rest.length + y.1.length ≤ x.2.rest.length := by
  induction n generalizing a with
  | zero => exact .nil
  | succ n ih =>
    rw [foundFrom]
    cases findFrom m a.before a.rest with
    | none => exact .nil
    | some first =>
      refine List.pairwise_cons.mpr ⟨fun y hy => ?_, ih first.2⟩
      obtain ⟨skipped, a', ha', _, hmatched⟩ := foundFrom_behind hm hy
      rw [ha'.rest, hmatched.rest, List.length_append, List.length_append]
      omega

/-- A match of a text, by the characters before it. -/
theorem spanIn_eq {skipped : List Char} {a' : Place} (ha' : Between ⟨Option.none, s.toList⟩ skipped a')
    (hmatched : Between a' matched b) :
    spanIn s (matched, b) = ⟨skipped.length, skipped.length + matched.length⟩ := by
  have hlength : s.toList.length = skipped.length + (matched.length + b.rest.length) := by
    have htext : s.toList = skipped ++ (matched ++ b.rest) := by rw [← hmatched.rest]; exact ha'.rest
    rw [htext, List.length_append, List.length_append]
  rw [spanIn, hlength, Span.mk.injEq]
  dsimp only
  omega

theorem spanText_spanIn {skipped : List Char} {a' : Place} (ha' : Between ⟨Option.none, s.toList⟩ skipped a')
    (hmatched : Between a' matched b) : spanText s (spanIn s (matched, b)) = String.ofList matched := by
  have htext : s.toList = skipped ++ (matched ++ b.rest) := by
    rw [← hmatched.rest]
    exact ha'.rest
  rw [spanIn_eq ha' hmatched, spanText, htext, List.drop_left, Nat.add_sub_cancel_left, List.take_left]

/-- What a search gives is the text of its span. -/
theorem find?_spans (hm : Moves m) (s : String) :
    find? m s = ((found? m s).map (spanIn s)).map (spanText s) := by
  rw [find?_eq, Option.map_map]
  refine Option.map_congr fun match' hfound => ?_
  obtain ⟨skipped, a', ha', _, hmatched, _⟩ := (findFrom_eq_some (a := ⟨Option.none, s.toList⟩) hm).mp hfound
  exact (spanText_spanIn ha' hmatched).symm

theorem findAll_spans (hm : Moves m) (s : String) :
    findAll m s = ((found m s).map (spanIn s)).map (spanText s) := by
  rw [findAll_eq, List.map_map]
  refine List.map_congr_left fun match' hfound => ?_
  obtain ⟨skipped, a', ha', _, hmatched⟩ := foundFrom_behind hm hfound
  exact (spanText_spanIn ha' hmatched).symm

/-- The spans of the matches follow one another. -/
theorem spans_pairwise (hm : Moves m) (s : String) :
    ((found m s).map (spanIn s)).Pairwise fun x y => x.stop ≤ y.start := by
  rw [List.pairwise_map]
  refine (foundFrom_pairwise hm _ _).imp fun {x y} hxy => ?_
  unfold spanIn
  dsimp only
  omega

end Searches

end Patterns
