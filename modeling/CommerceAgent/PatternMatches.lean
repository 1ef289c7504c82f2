import CommerceAgent.Patterns

/-! What the matches of a pattern consist of, and what a substitution leaves of a text. -/
namespace Patterns

/-- A match is a piece of the text at its place. -/
def Splits (m : Pattern) : Prop := ∀ a, ∀ b ∈ m a, ∃ piece, a.rest = piece ++ b.rest

/-- Every match holds a character that `P` is true of. -/
def Finds (P : Char → Bool) (m : Pattern) : Prop :=
  ∀ a, ∀ b ∈ m a, ∃ piece, a.rest = piece ++ b.rest ∧ ∃ c ∈ piece, P c = true

section Pieces

variable {P : Char → Bool} {m m' : Pattern} {ms : List Pattern}

theorem Finds.splits (h : Finds P m) : Splits m := by
  intro a b hb
  obtain ⟨piece, hpiece, _⟩ := h a b hb
  exact ⟨piece, hpiece⟩

theorem splits_none : Splits none := by
  intro a b hb
  obtain rfl := List.mem_singleton.mp hb
  exact ⟨[], rfl⟩

theorem finds_one {p : Char → Bool} (hp : ∀ c, p c = true → P c = true) : Finds P (one p) := by
  rintro ⟨before, rest⟩ b hb
  cases rest with
  | nil => exact absurd hb List.not_mem_nil
  | cons c l =>
    simp only [one] at hb
    split at hb
    · rename_i hc
      obtain rfl := List.mem_singleton.mp hb
      exact ⟨[c], rfl, c, List.mem_singleton_self c, hp c hc⟩
    · exact absurd hb List.not_mem_nil

theorem splits_one (p : Char → Bool) : Splits (one p) :=
  Finds.splits (P := p) (finds_one fun _ hc => hc)

theorem splits_filter {p : Place → Bool} : Splits (fun a => if p a then [] else [a]) := by
  intro a b hb
  dsimp only at hb
  split at hb
  · exact absurd hb List.not_mem_nil
  · obtain rfl := List.mem_singleton.mp hb
    exact ⟨[], rfl⟩

theorem splits_notBefore (p : Char → Bool) : Splits (notBefore p) := splits_filter

theorem splits_notAfter (p : Char → Bool) : Splits (notAfter p) := splits_filter

theorem splits_boundary (p : Char → Bool) : Splits (boundary p) := splits_filter

theorem Splits.append (h : Splits m) (h' : Splits m') : Splits (fun a => (m a).flatMap m') := by
  intro a b hb
  obtain ⟨c, hc, hb⟩ := List.mem_flatMap.mp hb
  obtain ⟨piece, hpiece⟩ := h a c hc
  obtain ⟨piece', hpiece'⟩ := h' c b hb
  exact ⟨piece ++ piece', by rw [hpiece, hpiece', List.append_assoc]⟩

theorem Finds.append (h : Finds P m) (h' : Splits m') :
    Finds P (fun a => (m a).flatMap m') := by
  intro a b hb
  obtain ⟨c, hc, hb⟩ := List.mem_flatMap.mp hb
  obtain ⟨piece, hpiece, d, hd, hP⟩ := h a c hc
  obtain ⟨piece', hpiece'⟩ := h' c b hb
  exact ⟨piece ++ piece', by rw [hpiece, hpiece', List.append_assoc], d,
    List.mem_append_left _ hd, hP⟩

theorem Splits.append_finds (h : Splits m) (h' : Finds P m') :
    Finds P (fun a => (m a).flatMap m') := by
  intro a b hb
  obtain ⟨c, hc, hb⟩ := List.mem_flatMap.mp hb
  obtain ⟨piece, hpiece⟩ := h a c hc
  obtain ⟨piece', hpiece', d, hd, hP⟩ := h' c b hb
  exact ⟨piece ++ piece', by rw [hpiece, hpiece', List.append_assoc], d,
    List.mem_append_right _ hd, hP⟩

/-- The parts of a concatenation, one after the other. -/
theorem Splits.cons (h : Splits m) (h' : Splits (all ms)) : Splits (all (m :: ms)) := h.append h'

/-- One part that finds such a character is enough. -/
theorem Finds.cons (h : Finds P m) (h' : Splits (all ms)) : Finds P (all (m :: ms)) := h.append h'

theorem Splits.cons_finds (h : Splits m) (h' : Finds P (all ms)) : Finds P (all (m :: ms)) :=
  h.append_finds h'

theorem splits_nil : Splits (all []) := splits_none

theorem splits_anyOf (h : ∀ m ∈ ms, Splits m) : Splits (anyOf ms) := by
  intro a b hb
  obtain ⟨m, hm, hb⟩ := List.mem_flatMap.mp hb
  exact h m hm a b hb

theorem Splits.opt (h : Splits m) : Splits (opt m) := by
  refine splits_anyOf fun m' hm' => ?_
  rcases List.mem_pair.mp hm' with rfl | rfl
  · exact h
  · exact splits_none

theorem Splits.upTo (h : Splits m) (n : ℕ) : Splits (upTo m n) := by
  induction n with
  | zero => exact splits_none
  | succ n ih =>
    intro a b hb
    -- Once more, or not at all.
    rcases List.mem_append.mp hb with hb | hb
    · exact h.append ih a b hb
    · obtain rfl := List.mem_singleton.mp hb
      exact ⟨[], rfl⟩

theorem Splits.times (h : Splits m) (lo extra : ℕ) : Splits (times m lo extra) := by
  induction lo with
  | zero => exact h.upTo extra
  | succ lo ih => exact h.append ih

theorem Splits.atLeast (h : Splits m) (lo : ℕ) : Splits (atLeast lo m) :=
  fun a b hb => h.times lo a.rest.length a b hb

theorem Finds.times (h : Finds P m) (lo extra : ℕ) : Finds P (times m (lo + 1) extra) :=
  h.append (h.splits.times lo extra)

theorem Finds.atLeast (h : Finds P m) (lo : ℕ) : Finds P (atLeast (lo + 1) m) :=
  fun a b hb => h.times lo a.rest.length a b hb

theorem splits_literal (same : Char → Char → Bool) (s : String) : Splits (literal same s) := by
  unfold literal
  induction s.toList with
  | nil => exact splits_nil
  | cons c l ih => exact (splits_one _).cons ih

end Pieces

section Substitution

variable {P : Char → Bool} {m : Pattern} {f : List Char → List Char} {before : Option Char}
  {l : List Char}

/-- A text without a match stays as it is. -/
theorem subFrom_of_unmatched (h : searchFrom m before l = false) :
    subFrom m f l.length before l = l := by
  induction l generalizing before with
  | nil => rfl
  | cons c l ih =>
    rw [searchFrom, Bool.or_eq_false_iff] at h
    obtain ⟨hhere, hlater⟩ := h
    have hnone : m ⟨before, c :: l⟩ = [] := by simpa using hhere
    rw [List.length_cons, subFrom, hnone]
    exact congrArg (c :: ·) (ih hlater)

theorem sub_of_unmatched {s : String} (h : search m s = false) : sub m f s = s := by
  unfold sub
  rw [subFrom_of_unmatched h, String.ofList_toList]

/-- Where no such character stands, nothing is found. -/
theorem searchFrom_of_absent (hm : Finds P m) (h : ∀ c ∈ l, P c = false) :
    searchFrom m before l = false := by
  -- A match would hold such a character, and be a piece of the text.
  have hnone : ∀ before' l', (∀ c ∈ l', P c = false) → m ⟨before', l'⟩ = [] := by
    intro before' l' habsent
    refine List.eq_nil_iff_forall_not_mem.mpr fun b hb => ?_
    obtain ⟨piece, hpiece, c, hc, hP⟩ := hm _ b hb
    have hrest : l' = piece ++ b.rest := hpiece
    have hfalse := habsent c (hrest ▸ List.mem_append_left _ hc)
    exact absurd hP (hfalse ▸ Bool.false_ne_true)
  induction l generalizing before with
  | nil => rw [searchFrom, hnone before [] h, List.isEmpty_nil, Bool.not_true]
  | cons c l ih =>
    rw [searchFrom, hnone before (c :: l) h, List.isEmpty_nil, Bool.not_true, Bool.false_or]
    exact ih fun d hd => h d (List.mem_cons_of_mem _ hd)

theorem search_of_absent {s : String} (hm : Finds P m) (h : ∀ c ∈ s.toList, P c = false) :
    search m s = false := searchFrom_of_absent hm h

/-- The piece that a substitution replaces. -/
theorem taken_piece {piece l' : List Char} (h : l = piece ++ l') :
    l.take (l.length - l'.length) = piece := by
  subst h
  rw [List.length_append, Nat.add_sub_cancel, List.take_left]

/-- A substitution that adds no character of a kind leaves no more of them. -/
theorem countP_subFrom_le (hm : Splits m) (hf : ∀ piece, (f piece).countP P ≤ piece.countP P)
    (n : ℕ) :
    (subFrom m f n before l).countP P ≤ l.countP P := by
  induction n generalizing before l with
  | zero => simp [subFrom]
  | succ n ih =>
    cases l with
    | nil => simp [subFrom]
    | cons c l =>
      rw [subFrom]
      split
      -- The substitution goes on behind the match, with the fuel that is left.
      · rename_i before' l' _ hmatch
        obtain ⟨piece, hpiece⟩ := hm ⟨before, c :: l⟩ ⟨before', l'⟩ (hmatch ▸ List.mem_cons_self)
        have hsplit : c :: l = piece ++ l' := hpiece
        rw [taken_piece hsplit, hsplit, List.countP_append, List.countP_append]
        exact Nat.add_le_add (hf piece) ih
      · rw [List.countP_cons, List.countP_cons]
        exact Nat.add_le_add_right ih _

/-- A substitution that takes such characters away leaves fewer, if it finds a match at all. -/
theorem countP_subFrom_lt (hm : Finds P m) (hf : ∀ piece, (f piece).countP P = 0)
    (hmatch : searchFrom m before l = true) :
    (subFrom m f l.length before l).countP P < l.countP P := by
  have hle : ∀ piece, (f piece).countP P ≤ piece.countP P := fun piece => by
    rw [hf piece]
    exact Nat.zero_le _
  induction l generalizing before with
  | nil =>
    rw [searchFrom, Bool.not_eq_true', List.isEmpty_eq_false_iff] at hmatch
    obtain ⟨b, hb⟩ := List.exists_mem_of_ne_nil _ hmatch
    obtain ⟨piece, hpiece, c, hc, _⟩ := hm ⟨before, []⟩ b hb
    have hnil : piece = [] := (List.append_eq_nil_iff.mp hpiece.symm).1
    rw [hnil] at hc
    exact absurd hc List.not_mem_nil
  | cons c l ih =>
    rw [List.length_cons, subFrom]
    split
    · rename_i before' l' _ hfound
      obtain ⟨piece, hpiece, d, hd, hP⟩ :=
        hm ⟨before, c :: l⟩ ⟨before', l'⟩ (hfound ▸ List.mem_cons_self)
      have hsplit : c :: l = piece ++ l' := hpiece
      have hone : 0 < piece.countP P := List.countP_pos_iff.mpr ⟨d, hd, hP⟩
      have hrest := @countP_subFrom_le P m f before' l' hm.splits hle l.length
      rw [taken_piece hsplit, hsplit, List.countP_append, List.countP_append, hf piece]
      omega
    · rename_i hnone
      rw [searchFrom, hnone] at hmatch
      have hlater : searchFrom m (some c) l = true := by simpa using hmatch
      rw [List.countP_cons, List.countP_cons]
      exact Nat.add_lt_add_right (ih hlater) _

end Substitution

section Readings

variable {P p : Char → Bool} {m m' : Pattern} {a b : Place} {t : List Place}

/-- Every match reads nothing but characters that `P` is true of. -/
def Reads (P : Char → Bool) (m : Pattern) : Prop :=
  ∀ a, ∀ b ∈ m a, ∃ piece, a.rest = piece ++ b.rest ∧ ∀ c ∈ piece, P c = true

theorem reads_none : Reads P none := by
  intro a b hb
  obtain rfl := List.mem_singleton.mp hb
  exact ⟨[], rfl, fun _ hc => absurd hc List.not_mem_nil⟩

theorem reads_one : Reads p (one p) := by
  rintro ⟨before, rest⟩ b hb
  cases rest with
  | nil => exact absurd hb List.not_mem_nil
  | cons c l =>
    simp only [one] at hb
    split at hb
    · rename_i hc
      obtain rfl := List.mem_singleton.mp hb
      exact ⟨[c], rfl, fun d hd => by rw [List.mem_singleton.mp hd]; exact hc⟩
    · exact absurd hb List.not_mem_nil

theorem Reads.append (h : Reads P m) (h' : Reads P m') :
    Reads P (fun a => (m a).flatMap m') := by
  intro a b hb
  obtain ⟨c, hc, hb⟩ := List.mem_flatMap.mp hb
  obtain ⟨piece, hpiece, hP⟩ := h a c hc
  obtain ⟨piece', hpiece', hP'⟩ := h' c b hb
  refine ⟨piece ++ piece', by rw [hpiece, hpiece', List.append_assoc], fun d hd => ?_⟩
  exact (List.mem_append.mp hd).elim (hP d) (hP' d)

theorem Reads.upTo (h : Reads P m) (n : ℕ) : Reads P (upTo m n) := by
  induction n with
  | zero => exact reads_none
  | succ n ih =>
    intro a b hb
    rcases List.mem_append.mp hb with hb | hb
    · exact h.append ih a b hb
    · obtain rfl := List.mem_singleton.mp hb
      exact ⟨[], rfl, fun _ hc => absurd hc List.not_mem_nil⟩

theorem Reads.any (h : Reads P m) : Reads P (atLeast 0 m) := fun a => h.upTo a.rest.length a

theorem exists_of_flatMap_eq_cons {α β : Type} {f : α → List β} {l : List α} {b : β} {t : List β}
    (h : l.flatMap f = b :: t) : ∃ a ∈ l, ∃ t', f a = b :: t' := by
  induction l with
  | nil => cases h
  | cons a l ih =>
    rw [List.flatMap_cons] at h
    cases hfirst : f a with
    | nil =>
      rw [hfirst, List.nil_append] at h
      obtain ⟨a', ha', t', ht'⟩ := ih h
      exact ⟨a', List.mem_cons_of_mem _ ha', t', ht'⟩
    | cons b' t' =>
      rw [hfirst, List.cons_append] at h
      exact ⟨a, List.mem_cons_self, t', by rw [hfirst, (List.cons.inj h).1]⟩

theorem upTo_ne_nil (m : Pattern) (n : ℕ) (a : Place) : upTo m n a ≠ [] := by
  cases n with
  | zero => exact List.cons_ne_nil _ _
  | succ n => exact List.append_ne_nil_of_right_ne_nil _ (List.cons_ne_nil _ _)

/-- The preferred match of a repetition ends where no further character can be read. -/
theorem upTo_one_head {n : ℕ} (hn : a.rest.length ≤ n) (h : upTo (one p) n a = b :: t) :
    (∃ v, a.rest = v ++ b.rest ∧ ∀ c ∈ v, p c = true) ∧ ∀ d ∈ b.rest.head?, p d = false := by
  induction n generalizing a b t with
  | zero =>
    have hnil : a.rest = [] := List.eq_nil_of_length_eq_zero (Nat.le_zero.mp hn)
    obtain rfl : a = b := (List.cons.inj h).1
    refine ⟨⟨[], rfl, fun _ hc => absurd hc List.not_mem_nil⟩, fun d hd => ?_⟩
    rw [hnil] at hd
    cases hd
  | succ n ih =>
    obtain ⟨before, rest⟩ := a
    cases rest with
    | nil =>
      obtain rfl : Place.mk before [] = b := (List.cons.inj h).1
      exact ⟨⟨[], rfl, fun _ hc => absurd hc List.not_mem_nil⟩, fun d hd => nomatch hd⟩
    | cons c l =>
      by_cases hc : p c = true
      -- The alternatives that read one more come first, and there always is one.
      · have hone : one p ⟨before, c :: l⟩ = [⟨some c, l⟩] := if_pos hc
        rw [Patterns.upTo] at h
        dsimp only at h
        rw [hone, List.flatMap_singleton] at h
        obtain ⟨b', t', hfirst⟩ := List.exists_cons_of_ne_nil (upTo_ne_nil (one p) n ⟨some c, l⟩)
        rw [hfirst, List.cons_append] at h
        obtain rfl := (List.cons.inj h).1
        obtain ⟨⟨v, hv, hP⟩, hend⟩ := ih (Nat.le_of_succ_le_succ hn) hfirst
        refine ⟨⟨c :: v, congrArg (c :: ·) hv, fun d hd => ?_⟩, hend⟩
        rcases List.mem_cons.mp hd with rfl | hd
        · exact hc
        · exact hP d hd
      · have hone : one p ⟨before, c :: l⟩ = [] := if_neg hc
        rw [Patterns.upTo] at h
        dsimp only at h
        rw [hone] at h
        obtain rfl : Place.mk before (c :: l) = b := (List.cons.inj h).1
        refine ⟨⟨[], rfl, fun _ hd => absurd hd List.not_mem_nil⟩, fun d hd => ?_⟩
        obtain rfl := Option.some.inj hd
        exact Bool.eq_false_iff.mpr hc

theorem atLeast_one_head (h : atLeast 1 (one p) a = b :: t) :
    (∃ v, a.rest = v ++ b.rest ∧ ∀ c ∈ v, p c = true) ∧ ∀ d ∈ b.rest.head?, p d = false := by
  obtain ⟨c, hc, t', hrest⟩ := exists_of_flatMap_eq_cons h
  obtain ⟨v, hv, hP⟩ := reads_one a c hc
  have hlength : c.rest.length ≤ a.rest.length := by
    rw [hv, List.length_append]
    exact Nat.le_add_left _ _
  obtain ⟨⟨v', hv', hP'⟩, hend⟩ := upTo_one_head hlength hrest
  refine ⟨⟨v ++ v', by rw [hv, hv', List.append_assoc], fun d hd => ?_⟩, hend⟩
  exact (List.mem_append.mp hd).elim (hP d) (hP' d)

/-- A text splits in one way into characters of a kind and a rest that begins with another. -/
theorem span_unique {v u r r' : List Char} (hv : ∀ c ∈ v, p c = true) (hu : ∀ c ∈ u, p c = true)
    (hr : ∀ d ∈ r.head?, p d = false) (hr' : ∀ d ∈ r'.head?, p d = false)
    (h : v ++ r = u ++ r') : v = u := by
  have hnone : ∀ l : List Char, (∀ d ∈ l.head?, p d = false) → l.takeWhile p = [] := by
    intro l hl
    cases l with
    | nil => rfl
    | cons d l => rw [List.takeWhile_cons, hl d rfl, if_neg Bool.false_ne_true]
  have hboth := congrArg (List.takeWhile p) h
  rwa [List.takeWhile_append_of_pos hv, List.takeWhile_append_of_pos hu, hnone r hr, hnone r' hr',
    List.append_nil, List.append_nil] at hboth

end Readings

section Fixed

variable {P : Char → Bool} {m : Pattern} {f : List Char → List Char} {before : Option Char}
  {l : List Char} {n : ℕ}

/-- The pieces that a substitution replaces. -/
def replacedFrom (m : Pattern) : ℕ → Option Char → List Char → List (List Char)
  | n + 1, before, c :: l =>
    match m ⟨before, c :: l⟩ with
    | ⟨before', l'⟩ :: _ =>
      (c :: l).take ((c :: l).length - l'.length) :: replacedFrom m n before' l'
    | [] => replacedFrom m n (some c) l
  | _, _, _ => []

/-- `re.finditer`: the matches of a pattern. -/
def matchesIn (m : Pattern) (s : String) : List (List Char) :=
  replacedFrom m s.toList.length Option.none s.toList

/-- A substitution that leaves each match alone leaves the text alone. -/
theorem subFrom_of_fixed (hm : Finds P m) (hn : l.length ≤ n)
    (h : ∀ piece ∈ replacedFrom m n before l, f piece = piece) : subFrom m f n before l = l := by
  induction n generalizing before l with
  | zero =>
    obtain rfl := List.eq_nil_of_length_eq_zero (Nat.le_zero.mp hn)
    rfl
  | succ n ih =>
    cases l with
    | nil => rfl
    | cons c l =>
      rw [replacedFrom] at h
      rw [subFrom]
      cases hmatch : m ⟨before, c :: l⟩ with
      | nil =>
        rw [hmatch] at h
        exact congrArg (c :: ·) (ih (Nat.le_of_succ_le_succ hn) h)
      | cons b t =>
        rw [hmatch] at h
        obtain ⟨piece, hpiece, d, hd, _⟩ := hm _ b (hmatch ▸ List.mem_cons_self)
        have hsplit : c :: l = piece ++ b.rest := hpiece
        have hpos : 0 < piece.length := List.length_pos_of_mem hd
        have hlength := congrArg List.length hsplit
        rw [List.length_append] at hlength
        rw [List.forall_mem_cons] at h
        obtain ⟨hfirst, hlater⟩ := h
        dsimp only
        rw [hfirst, taken_piece hsplit, ih (by omega) hlater]
        exact hsplit.symm

/-- A substitution that leaves the text alone leaves each match alone, if no match begins where
another ends, and a match that is not replaced by itself shows. -/
theorem fixed_of_subFrom (hm : Finds P m)
    (hend : ∀ a b t, m a = b :: t → ∀ d ∈ b.rest.head?, m b = [])
    (hfix : ∀ a b t piece rest, m a = b :: t → a.rest = piece ++ b.rest →
      piece ++ b.rest = f piece ++ rest → rest.head? = b.rest.head? → f piece = piece)
    (hn : l.length ≤ n) (h : subFrom m f n before l = l) :
    ∀ piece ∈ replacedFrom m n before l, f piece = piece := by
  induction n generalizing before l with
  | zero => exact fun _ hpiece => absurd hpiece List.not_mem_nil
  | succ n ih =>
    cases l with
    | nil => exact fun _ hpiece => absurd hpiece List.not_mem_nil
    | cons c l =>
      rw [subFrom] at h
      rw [replacedFrom]
      cases hmatch : m ⟨before, c :: l⟩ with
      | nil =>
        rw [hmatch] at h
        exact ih (Nat.le_of_succ_le_succ hn) (List.cons.inj h).2
      | cons b t =>
        rw [hmatch] at h
        obtain ⟨piece, hpiece, d, hd, _⟩ := hm _ b (hmatch ▸ List.mem_cons_self)
        have hsplit : c :: l = piece ++ b.rest := hpiece
        have hpos : 0 < piece.length := List.length_pos_of_mem hd
        have hlength := congrArg List.length hsplit
        rw [List.length_append, List.length_cons] at hlength
        rw [List.length_cons] at hn
        dsimp only at h ⊢
        rw [taken_piece hsplit] at h ⊢
        -- The text goes on with the same character after the match and after its replacement.
        have hhead : (subFrom m f n b.before b.rest).head? = b.rest.head? := by
          cases hrest : b.rest with
          | nil => cases n <;> rfl
          | cons e l' =>
            have hnone : m ⟨b.before, e :: l'⟩ = [] := by
              rw [← hrest]
              exact hend _ _ _ hmatch e (by rw [hrest]; rfl)
            have hn' : 0 < n := by
              rw [hrest, List.length_cons] at hlength
              omega
            cases n with
            | zero => exact absurd hn' (Nat.lt_irrefl 0)
            | succ k =>
              rw [subFrom, hnone]
              rfl
        -- So the match is its own replacement, and what follows is left alone too.
        have hfirst := hfix _ b t piece _ hmatch hsplit (hsplit.symm.trans h.symm) hhead
        rw [hfirst, hsplit] at h
        exact List.forall_mem_cons.mpr
          ⟨hfirst, ih (by omega) (List.append_cancel_left h)⟩

end Fixed

end Patterns
