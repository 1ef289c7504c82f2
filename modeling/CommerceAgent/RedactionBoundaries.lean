import CommerceAgent.PatternMatches
import CommerceAgent.Admission
import CommerceAgent.TerminalResponse
import CommerceAgent.JsonText
import CommerceAgent.SafetyBlock

/-! `_sanitize` where messages are stored and where a prompt is sent, and what it leaves of them. -/
namespace CommerceAgent

open Json Programs Patterns Texts

variable (π : Platform)

/-- What an assignment is replaced by. -/
def assignmentMarker (matched : List Char) : List Char :=
  secretName matched ++ "=[REDACTED]".toList

/-- The five substitutions of `_sanitize`. -/
def redact (value : String) : String :=
  let value := sub (PHONE π) (fun _ => "[PHONE_REDACTED]".toList) value
  let value := sub SECRET_ASSIGNMENT assignmentMarker value
  let value := sub (EMAIL π) (fun _ => "[EMAIL_REDACTED]".toList) value
  let value := sub (CARD π) (fun _ => "[PAYMENT_REDACTED]".toList) value
  sub (ADDRESS π) (fun _ => "[ADDRESS_REDACTED]".toList) value

theorem sanitize_eq (value : String) : sanitize π value = take (redact π value) MAX_TEXT := rfl

/-- `\d` reads ASCII as it stands. -/
def Platform.ReadsAscii : Prop := ∀ c : Char, c.toNat < 0x80 → π.isDecimal c = c.isDigit

section Pieces

theorem finds_phone : Finds (· == '1') (PHONE π) := by
  have hcountry : Splits (all [opt (one (· == '+')), literal (· == ·) "86",
      opt (one (· ∈ ['-', ' ']))]) :=
    (splits_one _).opt.cons ((splits_literal _ _).cons ((splits_one _).opt.cons splits_nil))
  have hrest : Splits (all [times (one π.isDecimal) 10 0, notAfter π.isDecimal]) :=
    ((splits_one _).times _ _).cons ((splits_notAfter _).cons splits_nil)
  apply (splits_notBefore _).cons_finds
  apply hcountry.opt.cons_finds
  exact (finds_one fun _ hc => hc).cons hrest

theorem splits_secretName : Splits SECRET_NAME := by
  have hkey : Splits (all [literal ignoreCase "api", opt (one (· ∈ ['_', '-'])),
      literal ignoreCase "key"]) :=
    (splits_literal _ _).cons ((splits_one _).opt.cons ((splits_literal _ _).cons splits_nil))
  apply splits_anyOf
  simp only [List.forall_mem_cons]
  exact ⟨hkey, splits_literal _ _, splits_literal _ _, splits_literal _ _, splits_literal _ _,
    fun _ hm => absurd hm List.not_mem_nil⟩

theorem finds_secret : Finds (fun c => decide (c ∈ [':', '='])) SECRET_ASSIGNMENT := by
  have hrest : Splits (all [atLeast 0 (one isSpace),
      atLeast 1 (one fun c => c != ',' && !isSpace c)]) :=
    ((splits_one _).atLeast _).cons (((splits_one _).atLeast _).cons splits_nil)
  apply splits_secretName.cons_finds
  apply ((splits_one _).atLeast _).cons_finds
  exact (finds_one fun _ hc => hc).cons hrest

theorem finds_email : Finds (· == '@') (EMAIL π) := by
  apply (splits_boundary _).cons_finds
  apply ((splits_one _).atLeast _).cons_finds
  apply (finds_one fun _ hc => hc).cons
  -- What follows the sign is split like what precedes it.
  exact ((splits_one _).atLeast _).cons ((splits_one _).cons
    (((splits_one _).atLeast _).cons ((splits_boundary _).cons splits_nil)))

theorem finds_card : Finds π.isDecimal (CARD π) := by
  have hdigit : Finds π.isDecimal (all [one π.isDecimal, opt (one (· ∈ [' ', '-']))]) :=
    (finds_one fun _ hc => hc).cons ((splits_one _).opt.cons splits_nil)
  apply (splits_notBefore _).cons_finds
  exact (hdigit.times 12 6).cons ((splits_notAfter _).cons splits_nil)

theorem finds_address : Finds isCjk (ADDRESS π) := by
  have hrest : Splits (all [one (· ∈ ['省', '市', '区', '县']),
      times (one fun c => isCjk c || π.isDecimal c || isSpace c) 0 24,
      one (· ∈ ['路', '街', '巷', '弄', '号', '栋']), atLeast 0 (one isSpace),
      atLeast 0 (one π.isDecimal),
      times (one fun c => isCjk c || π.isDecimal c || isSpace c || c == '-') 0 12]) :=
    (splits_one _).cons (((splits_one _).times _ _).cons ((splits_one _).cons
      (((splits_one _).atLeast _).cons (((splits_one _).atLeast _).cons
        (((splits_one _).times _ _).cons splits_nil)))))
  apply (splits_notBefore _).cons_finds
  exact (Finds.atLeast (finds_one fun _ hc => hc) 1).cons hrest

end Pieces

section Assignments

/-- What `SECRET_NAME` reads, in lower case. -/
def SECRET_WORDS : List (List Char) :=
  ["apikey", "api_key", "api-key", "authorization", "token", "password", "secret"].map String.toList

theorem folds_literal (cs : List Char) (a b : Place)
    (hb : b ∈ all (cs.map fun c => one (ignoreCase c)) a) :
    ∃ piece, a.rest = piece ++ b.rest ∧ piece.map fold = cs := by
  -- Letter by letter: each place that a literal goes on from has read one of them.
  induction cs generalizing a with
  | nil =>
    obtain rfl := List.mem_singleton.mp hb
    exact ⟨[], rfl, rfl⟩
  | cons c cs ih =>
    obtain ⟨d, hd, hb⟩ := List.mem_flatMap.mp hb
    obtain ⟨piece, hpiece, hfold⟩ := ih d hb
    obtain ⟨e, he, hsame⟩ : ∃ e, a.rest = e :: d.rest ∧ fold e = c := by
      obtain ⟨before, rest⟩ := a
      cases rest with
      | nil => exact absurd hd List.not_mem_nil
      | cons e l =>
        simp only [one] at hd
        split at hd
        · rename_i hsame
          obtain rfl := List.mem_singleton.mp hd
          exact ⟨e, rfl, of_decide_eq_true hsame⟩
        · exact absurd hd List.not_mem_nil
    exact ⟨e :: piece, by rw [he, hpiece, List.cons_append], by rw [List.map_cons, hsame, hfold]⟩

theorem folds_word {word : String} {a b : Place} (hword : word.toList ∈ SECRET_WORDS)
    (hb : b ∈ literal ignoreCase word a) :
    ∃ piece, a.rest = piece ++ b.rest ∧ piece.map fold ∈ SECRET_WORDS := by
  obtain ⟨piece, hpiece, hfold⟩ := folds_literal _ a b hb
  exact ⟨piece, hpiece, hfold ▸ hword⟩

/-- The three spellings of the first name. -/
theorem folds_apiKey {a b : Place} (hb : b ∈ all [literal ignoreCase "api",
    opt (one (· ∈ ['_', '-'])), literal ignoreCase "key"] a) :
    ∃ piece, a.rest = piece ++ b.rest ∧ piece.map fold ∈ SECRET_WORDS := by
  obtain ⟨c, hc, hb⟩ := List.mem_flatMap.mp hb
  obtain ⟨d, hd, hb⟩ := List.mem_flatMap.mp hb
  obtain ⟨e, he, hb⟩ := List.mem_flatMap.mp hb
  obtain rfl := List.mem_singleton.mp hb
  obtain ⟨api, hapi, hfold⟩ := folds_literal _ a c hc
  obtain ⟨key, hkey, hfold'⟩ := folds_literal _ d b he
  have hmiddle : ∃ middle, c.rest = middle ++ d.rest ∧
      (middle = [] ∨ middle = ['_'] ∨ middle = ['-']) := by
    obtain ⟨m, hm, hd⟩ := List.mem_flatMap.mp hd
    rcases List.mem_pair.mp hm with rfl | rfl
    · obtain ⟨before, rest⟩ := c
      cases rest with
      | nil => exact absurd hd List.not_mem_nil
      | cons x l =>
        simp only [one] at hd
        split at hd
        · rename_i hx
          obtain rfl := List.mem_singleton.mp hd
          refine ⟨[x], rfl, .inr ?_⟩
          rcases List.mem_pair.mp (of_decide_eq_true hx) with rfl | rfl
          · exact .inl rfl
          · exact .inr rfl
        · exact absurd hd List.not_mem_nil
    · obtain rfl := List.mem_singleton.mp hd
      exact ⟨[], rfl, .inl rfl⟩
  obtain ⟨middle, hrest, hchoice⟩ := hmiddle
  refine ⟨api ++ (middle ++ key), ?_, ?_⟩
  · rw [hapi, hrest, hkey, List.append_assoc, List.append_assoc]
  · rw [List.map_append, List.map_append, hfold, hfold']
    rcases hchoice with rfl | rfl | rfl
    · decide +kernel
    · decide +kernel
    · decide +kernel

theorem folds_secretName {a b : Place} (hb : b ∈ SECRET_NAME a) :
    ∃ piece, a.rest = piece ++ b.rest ∧ piece.map fold ∈ SECRET_WORDS := by
  obtain ⟨m, hm, hb⟩ := List.mem_flatMap.mp hb
  have hwords : (["authorization", "token", "password", "secret"].all fun word =>
      decide (word.toList ∈ SECRET_WORDS)) = true := by decide +kernel
  have hplain : ∀ word ∈ ["authorization", "token", "password", "secret"],
      m = literal ignoreCase word → ∃ piece, a.rest = piece ++ b.rest ∧
        piece.map fold ∈ SECRET_WORDS := by
    rintro word hword rfl
    exact folds_word (of_decide_eq_true (List.all_eq_true.mp hwords word hword)) hb
  rcases List.mem_cons.mp hm with rfl | hm
  · exact folds_apiKey hb
  · obtain ⟨word, hword, rfl⟩ := List.mem_map (f := literal ignoreCase)
      (l := ["authorization", "token", "password", "secret"]).mp hm
    exact hplain word hword rfl

/-- No word begins another. -/
theorem secret_words_code {x y : List Char} (hx : x ∈ SECRET_WORDS) (hy : y ∈ SECRET_WORDS)
    (h : x <+: y) : x = y := by
  have hcode : (SECRET_WORDS.all fun x => SECRET_WORDS.all fun y => !x.isPrefixOf y || x == y) =
      true := by decide +kernel
  have hboth := List.all_eq_true.mp (List.all_eq_true.mp hcode x hx) y hy
  rw [List.isPrefixOf_iff_prefix.mpr h, Bool.not_true, Bool.false_or] at hboth
  exact eq_of_beq hboth

/-- A text begins with one name at most. -/
theorem name_unique {n n' r r' : List Char} (hn : n.map fold ∈ SECRET_WORDS)
    (hn' : n'.map fold ∈ SECRET_WORDS) (h : n ++ r = n' ++ r') : n = n' := by
  have hlength : n.length = n'.length := by
    rcases List.prefix_or_prefix_of_prefix ⟨r, h⟩ ⟨r', rfl⟩ with hpre | hpre
    · have hsame := secret_words_code hn hn' (hpre.map fold)
      simpa using congrArg List.length hsame
    · have hsame := secret_words_code hn' hn (hpre.map fold)
      simpa using (congrArg List.length hsame).symm
  exact (List.append_inj h hlength).1

theorem isSpace_of_fold {c : Char} (h : isSpace (fold c) = false) : isSpace c = false := by
  unfold fold at h
  split at h
  · rename_i hc
    subst hc
    decide
  · split at h
    · rename_i hc
      subst hc
      decide
    · split at h
      · rename_i hc
        rcases hc with rfl | rfl
        · decide
        · decide
      · exact isSpace_of_toLower h

/-- A name begins with a letter. -/
theorem name_head {n r t : List Char} {c : Char} (hn : n.map fold ∈ SECRET_WORDS)
    (h : n ++ r = c :: t) : isSpace c = false ∧ c ≠ ',' ∧ c ≠ '=' := by
  have hletters : (SECRET_WORDS.all fun word => word.head?.any fun d =>
      !isSpace d && (d != ',' && d != '=')) = true := by decide +kernel
  have hword := List.all_eq_true.mp hletters _ hn
  cases n with
  | nil => cases hword
  | cons d n =>
    obtain rfl := (List.cons.inj h).1
    rw [List.map_cons, List.head?_cons, Option.any_some, Bool.and_eq_true, Bool.and_eq_true,
      Bool.not_eq_true', bne_iff_ne, bne_iff_ne] at hword
    refine ⟨isSpace_of_fold hword.1, fun hd => hword.2.1 ?_, fun hd => hword.2.2 ?_⟩
    · rw [hd]
      decide
    · rw [hd]
      decide

/-- What the value of an assignment consists of. -/
def isValue (c : Char) : Bool := c != ',' && !isSpace c

/-- The parts of the preferred match. -/
theorem secret_shape {a b : Place} {t : List Place} (h : SECRET_ASSIGNMENT a = b :: t) :
    ∃ n w x w' v, a.rest = n ++ (w ++ x :: (w' ++ (v ++ b.rest))) ∧ n.map fold ∈ SECRET_WORDS ∧
      (∀ c ∈ w, isSpace c = true) ∧ (∀ c ∈ w', isSpace c = true) ∧ (∀ c ∈ v, isValue c = true) ∧
      ∀ d ∈ b.rest.head?, isValue d = false := by
  -- The preferred match of a sequence takes the preferred match of its last part.
  obtain ⟨a₁, h₁, t₁, h⟩ := exists_of_flatMap_eq_cons h
  obtain ⟨a₂, h₂, t₂, h⟩ := exists_of_flatMap_eq_cons h
  obtain ⟨a₃, h₃, t₃, h⟩ := exists_of_flatMap_eq_cons h
  obtain ⟨a₄, h₄, t₄, h⟩ := exists_of_flatMap_eq_cons h
  change (atLeast 1 (one isValue) a₄).flatMap (fun a => [a]) = b :: t₄ at h
  rw [List.flatMap_singleton'] at h
  obtain ⟨n, hn, hword⟩ := folds_secretName h₁
  obtain ⟨w, hw, hspace⟩ := reads_one.any a₁ a₂ h₂
  obtain ⟨w', hw', hspace'⟩ := reads_one.any a₃ a₄ h₄
  obtain ⟨⟨v, hv, hvalue⟩, hend⟩ := atLeast_one_head h
  obtain ⟨x, hx⟩ : ∃ x, a₂.rest = x :: a₃.rest := by
    obtain ⟨before, rest⟩ := a₂
    cases rest with
    | nil => exact absurd h₃ List.not_mem_nil
    | cons x l =>
      simp only [one] at h₃
      split at h₃
      · obtain rfl := List.mem_singleton.mp h₃
        exact ⟨x, rfl⟩
      · exact absurd h₃ List.not_mem_nil
  exact ⟨n, w, x, w', v, by rw [hn, hw, hx, hw', hv], hword, hspace, hspace', hvalue, hend⟩

/-- The name at the start of a match, whatever follows it. -/
theorem secretName_match {n r : List Char} (hn : n.map fold ∈ SECRET_WORDS) :
    secretName (n ++ r) = n ∨ secretName (n ++ r) = [] := by
  unfold secretName
  split
  · rename_i before rest _ hmatch
    left
    obtain ⟨n', hsplit, hn'⟩ := folds_secretName (a := ⟨none, n ++ r⟩) (hmatch ▸ List.mem_cons_self)
    have hrest : n ++ r = n' ++ rest := hsplit
    rw [taken_piece hrest]
    exact (name_unique hn hn' hrest).symm
  · exact .inr rfl

/-- An assignment that shows its own marker after the substitution is that marker. -/
theorem assignment_fixed {a b : Place} {t : List Place} {piece rest : List Char}
    (hmatch : SECRET_ASSIGNMENT a = b :: t) (hpiece : a.rest = piece ++ b.rest)
    (h : piece ++ b.rest = assignmentMarker piece ++ rest)
    (hhead : rest.head? = b.rest.head?) : assignmentMarker piece = piece := by
  obtain ⟨n, w, x, w', v, hsplit, hword, hspace, hspace', hvalue, hend⟩ := secret_shape hmatch
  have hparts : piece = n ++ (w ++ x :: (w' ++ v)) := by
    refine @List.append_cancel_right _ piece b.rest _ ?_
    rw [← hpiece, hsplit]
    simp
  have hmarker : "=[REDACTED]".toList = '=' :: "[REDACTED]".toList := by decide
  rcases secretName_match (r := w ++ x :: (w' ++ v)) hword with hname | hname
  · rw [assignmentMarker, hparts, hname, hmarker, List.append_assoc n, List.append_assoc n] at h
    have h := List.append_cancel_left h
    -- No space stands between the name, the sign and the value.
    have hw : w = [] := by
      cases w with
      | nil => rfl
      | cons c w =>
        have hc := hspace c List.mem_cons_self
        rw [(List.cons.inj h).1] at hc
        exact absurd hc (by decide)
    subst hw
    rw [List.nil_append] at h
    obtain ⟨hx, htail⟩ := List.cons.inj h
    have hw' : w' = [] := by
      cases w' with
      | nil => rfl
      | cons c w' =>
        have hc := hspace' c List.mem_cons_self
        have hfirst : c = '[' := (List.cons.inj htail).1
        rw [hfirst] at hc
        exact absurd hc (by decide)
    subst hw'
    -- Both values end where the text that follows begins, so they are the same.
    have hv : v = "[REDACTED]".toList := by
      refine span_unique hvalue ?_ hend (fun d hd => hend d (hhead ▸ hd)) htail
      exact List.all_eq_true.mp (by decide)
    rw [assignmentMarker, hparts, hname, hv, hmarker, hx]
    rfl
  · -- Without a name the text would begin with the sign.
    rw [assignmentMarker, hparts, hname, hmarker] at h
    have hhead' := name_head (r := w ++ x :: (w' ++ v) ++ b.rest) hword
      ((List.append_assoc _ _ _).symm.trans h)
    exact absurd rfl hhead'.2.2

/-- The substitution leaves a text alone if and only if each assignment is its own marker. -/
theorem sub_secret_eq_self_iff (s : String) : sub SECRET_ASSIGNMENT assignmentMarker s = s ↔
    ∀ matched ∈ matchesIn SECRET_ASSIGNMENT s, assignmentMarker matched = matched := by
  constructor
  · intro h
    have hlist := congrArg String.toList h
    rw [sub, String.toList_ofList] at hlist
    refine fixed_of_subFrom finds_secret ?_ ?_ (le_refl _) hlist
    · intro a b t hmatch d hd
      obtain ⟨_, _, _, _, _, _, _, _, _, _, hend⟩ := secret_shape hmatch
      -- Right after a value comes a comma or a space, and no name begins with one.
      cases hnext : SECRET_ASSIGNMENT b with
      | nil => rfl
      | cons c t' =>
        obtain ⟨n, w, x, w', v, hsplit, hword, _⟩ := secret_shape hnext
        obtain ⟨l, hl⟩ : ∃ l, b.rest = d :: l := by
          cases hrest : b.rest with
          | nil =>
            rw [hrest] at hd
            cases hd
          | cons e l =>
            rw [hrest] at hd
            exact ⟨l, by rw [Option.some.inj hd]⟩
        obtain ⟨hspace, hcomma, _⟩ := name_head hword (hsplit.symm.trans hl)
        have hvalue := hend d hd
        rw [isValue, hspace, Bool.not_false, Bool.and_true, bne_eq_false_iff_eq] at hvalue
        exact absurd hvalue hcomma
    · intro a b t piece rest hmatch hpiece h hhead
      exact assignment_fixed hmatch hpiece h hhead
  · intro h
    rw [sub, subFrom_of_fixed finds_secret (le_refl _) h, String.ofList_toList]

end Assignments

section Unchanged

variable {π}

/-- The characters of the markers, none of which a pattern takes for one of its own. -/
def MARKERS : List String :=
  ["[PHONE_REDACTED]", "=[REDACTED]", "[EMAIL_REDACTED]", "[PAYMENT_REDACTED]",
    "[ADDRESS_REDACTED]"]

/-- No marker holds a character of this kind. -/
def Unmarked (P : Char → Bool) : Prop := ∀ marker ∈ MARKERS, marker.toList.countP P = 0

theorem unmarked_one : Unmarked (· == '1') := by
  unfold Unmarked
  decide

theorem unmarked_at : Unmarked (· == '@') := by
  unfold Unmarked
  decide

theorem unmarked_cjk : Unmarked isCjk := by
  unfold Unmarked
  decide +kernel

theorem unmarked_decimal (hπ : π.ReadsAscii) : Unmarked π.isDecimal := by
  -- As a Boolean the search goes over the members, and not over all characters.
  have hascii : (MARKERS.all fun marker => marker.toList.all fun c =>
      decide (c.toNat < 0x80) && !c.isDigit) = true := by
    decide +kernel
  intro marker hmarker
  refine List.countP_eq_zero.mpr fun c hc => ?_
  have hboth := List.all_eq_true.mp (List.all_eq_true.mp hascii marker hmarker) c hc
  rw [Bool.and_eq_true, decide_eq_true_eq, Bool.not_eq_true'] at hboth
  rw [hπ c hboth.1, hboth.2]
  exact Bool.false_ne_true

/-- The name at the start of an assignment is a piece of it. -/
theorem countP_secretName_le (P : Char → Bool) (matched : List Char) :
    (secretName matched).countP P ≤ matched.countP P := by
  unfold secretName
  split
  · exact (List.take_sublist _ _).countP_le
  · exact Nat.zero_le _

section Counts

variable {P : Char → Bool}

def countOf (P : Char → Bool) (s : String) : ℕ := s.toList.countP P

theorem countOf_marker_le {m : Pattern} (hm : Splits m) {marker : String}
    (hmarker : marker ∈ MARKERS) (h : Unmarked P) (s : String) :
    countOf P (sub m (fun _ => marker.toList) s) ≤ countOf P s := by
  unfold countOf sub
  rw [String.toList_ofList]
  refine countP_subFrom_le hm (fun piece => ?_) _
  rw [h marker hmarker]
  exact Nat.zero_le _

theorem countOf_assignments_le (h : Unmarked P) (s : String) :
    countOf P (sub SECRET_ASSIGNMENT assignmentMarker s) ≤ countOf P s := by
  unfold countOf sub
  rw [String.toList_ofList]
  refine countP_subFrom_le finds_secret.splits (fun piece => ?_) _
  have hmarker := h "=[REDACTED]" (by decide)
  have hname := countP_secretName_le P piece
  rw [assignmentMarker, List.countP_append, hmarker]
  exact hname

theorem countOf_marker_lt {m : Pattern} (hm : Finds P m) {marker : String}
    (hmarker : marker ∈ MARKERS) (h : Unmarked P) {s : String} (hfound : search m s = true) :
    countOf P (sub m (fun _ => marker.toList) s) < countOf P s := by
  unfold countOf sub
  rw [String.toList_ofList]
  exact countP_subFrom_lt hm (fun _ => h marker hmarker) hfound

/-- A substitution that takes no character of this kind away has found nothing. -/
theorem unfound_of_kept {m : Pattern} (hm : Finds P m) {marker : String} (hmarker : marker ∈ MARKERS)
    (h : Unmarked P) {s : String}
    (hkept : countOf P s ≤ countOf P (sub m (fun _ => marker.toList) s)) : search m s = false := by
  by_contra hfound
  have hlt := countOf_marker_lt hm hmarker h (Bool.not_eq_false _ ▸ hfound)
  exact absurd hlt (Nat.not_lt.mpr hkept)

end Counts

/-- A text without a match of the patterns, beyond assignments that are markers already. -/
structure Clean (π : Platform) (s : String) : Prop where
  phone : search (PHONE π) s = false
  secret : ∀ matched ∈ matchesIn SECRET_ASSIGNMENT s, assignmentMarker matched = matched
  email : search (EMAIL π) s = false
  card : search (CARD π) s = false
  address : search (ADDRESS π) s = false

/-- A match takes a character away that no marker brings back. -/
theorem redact_eq_self_iff (hπ : π.ReadsAscii) {s : String} : redact π s = s ↔ Clean π s := by
  constructor
  · intro h
    have hmarkers : "[PHONE_REDACTED]" ∈ MARKERS ∧ "[EMAIL_REDACTED]" ∈ MARKERS ∧
        "[PAYMENT_REDACTED]" ∈ MARKERS ∧ "[ADDRESS_REDACTED]" ∈ MARKERS := by decide
    obtain ⟨mphone, memail, mcard, maddress⟩ := hmarkers
    unfold redact at h
    dsimp only at h
    -- Each pattern is undone from the first to the last, by the count of its own character.
    have hphone : search (PHONE π) s = false := by
      have hle := ((countOf_marker_le (finds_address π).splits maddress unmarked_one _).trans
        (countOf_marker_le (finds_card π).splits mcard unmarked_one _)).trans
        ((countOf_marker_le (finds_email π).splits memail unmarked_one _).trans
          (countOf_assignments_le unmarked_one
            (sub (PHONE π) (fun _ => "[PHONE_REDACTED]".toList) s)))
      rw [h] at hle
      exact unfound_of_kept (finds_phone π) mphone unmarked_one hle
    rw [sub_of_unmatched hphone] at h
    have hemail : search (EMAIL π) (sub SECRET_ASSIGNMENT assignmentMarker s) = false := by
      have hle := (countOf_marker_le (finds_address π).splits maddress unmarked_at _).trans
        (countOf_marker_le (finds_card π).splits mcard unmarked_at
          (sub (EMAIL π) (fun _ => "[EMAIL_REDACTED]".toList)
            (sub SECRET_ASSIGNMENT assignmentMarker s)))
      rw [h] at hle
      exact unfound_of_kept (finds_email π) memail unmarked_at
        ((countOf_assignments_le unmarked_at s).trans hle)
    rw [sub_of_unmatched hemail] at h
    have hcard : search (CARD π) (sub SECRET_ASSIGNMENT assignmentMarker s) = false := by
      have hle := countOf_marker_le (finds_address π).splits maddress (unmarked_decimal hπ)
        (sub (CARD π) (fun _ => "[PAYMENT_REDACTED]".toList)
          (sub SECRET_ASSIGNMENT assignmentMarker s))
      rw [h] at hle
      exact unfound_of_kept (finds_card π) mcard (unmarked_decimal hπ)
        ((countOf_assignments_le (unmarked_decimal hπ) s).trans hle)
    rw [sub_of_unmatched hcard] at h
    have haddress : search (ADDRESS π) (sub SECRET_ASSIGNMENT assignmentMarker s) = false := by
      apply unfound_of_kept (finds_address π) maddress unmarked_cjk
      rw [h]
      exact countOf_assignments_le unmarked_cjk s
    rw [sub_of_unmatched haddress] at h
    -- The other substitutions have found nothing, so the assignments alone leave the text as it is.
    rw [h] at hemail hcard haddress
    exact ⟨hphone, (sub_secret_eq_self_iff s).mp h, hemail, hcard, haddress⟩
  · intro h
    unfold redact
    dsimp only
    rw [sub_of_unmatched h.phone, (sub_secret_eq_self_iff s).mpr h.secret,
      sub_of_unmatched h.email, sub_of_unmatched h.card, sub_of_unmatched h.address]

/-- A cut leaves a text alone if and only if the text is short enough. -/
theorem take_eq_self_iff (s : String) (n : ℕ) : take s n = s ↔ s.length ≤ n := by
  rw [← String.length_toList]
  constructor
  · intro h
    have hlist := congrArg String.toList h
    rw [take, String.toList_ofList] at hlist
    have hlength := congrArg List.length hlist
    rw [List.length_take] at hlength
    omega
  · intro h
    rw [take, List.take_of_length_le h, String.ofList_toList]

end Unchanged

section Values

def FORBIDDEN_KEYS : List String :=
  ["api_key", "authorization", "secret", "password", "confirmation_token", "chain_of_thought",
    "reasoning", "hidden_reasoning", "address", "new_address", "phone", "mobile", "email",
    "card_number", "payment_data"]

def isForbidden (key : String) : Bool := decide (π.lower key ∈ FORBIDDEN_KEYS)

mutual

/-- `_sanitize` on a value, with what it does to the texts and which keys it hides. -/
def redactWith (text : String → String) (hidden : String → Bool) : Value → Value
  | .str s => .str (text s)
  | .arr l => .arr (redactItems text hidden l)
  | .obj d => .obj (redactMembers text hidden d)
  | v => v

def redactItems (text : String → String) (hidden : String → Bool) : List Value → List Value
  | [] => []
  | v :: l => redactWith text hidden v :: redactItems text hidden l

def redactMembers (text : String → String) (hidden : String → Bool) :
    List (String × Value) → List (String × Value)
  | [] => []
  | (key, item) :: d =>
    -- A forbidden key hides its value whole, whatever it is.
    (key, if hidden key then .str "[REDACTED]" else redactWith text hidden item) ::
      redactMembers text hidden d

end

mutual

/-- The texts of a value that no forbidden key hides. -/
def openTexts (hidden : String → Bool) : Value → List String
  | .str s => [s]
  | .arr l => openTextsOfItems hidden l
  | .obj d => openTextsOfMembers hidden d
  | _ => []

def openTextsOfItems (hidden : String → Bool) : List Value → List String
  | [] => []
  | v :: l => openTexts hidden v ++ openTextsOfItems hidden l

def openTextsOfMembers (hidden : String → Bool) : List (String × Value) → List String
  | [] => []
  | (key, item) :: d =>
    (if hidden key then [] else openTexts hidden item) ++ openTextsOfMembers hidden d

end

def sanitizeValue : Value → Value := redactWith (sanitize π) (isForbidden π)

section Agree

variable {f g : String → String} {hidden : String → Bool}

mutual

/-- Two treatments of a value agree if and only if they agree on its texts. -/
theorem redactWith_eq_iff : ∀ v : Value,
    redactWith f hidden v = redactWith g hidden v ↔ ∀ s ∈ openTexts hidden v, f s = g s
  | .null => by simp [redactWith, openTexts]
  | .bool b => by simp [redactWith, openTexts]
  | .int i => by simp [redactWith, openTexts]
  | .str s => by simp [redactWith, openTexts]
  | .arr l => by
    rw [redactWith, redactWith, openTexts, Value.arr.injEq]
    exact redactItems_eq_iff l
  | .obj d => by
    rw [redactWith, redactWith, openTexts, Value.obj.injEq]
    exact redactMembers_eq_iff d

theorem redactItems_eq_iff : ∀ l : List Value,
    redactItems f hidden l = redactItems g hidden l ↔ ∀ s ∈ openTextsOfItems hidden l, f s = g s
  | [] => by simp [redactItems, openTextsOfItems]
  | v :: l => by
    rw [redactItems, redactItems, openTextsOfItems, List.cons.injEq, redactWith_eq_iff v,
      redactItems_eq_iff l, List.forall_mem_append]

theorem redactMembers_eq_iff : ∀ d : List (String × Value),
    redactMembers f hidden d = redactMembers g hidden d ↔
      ∀ s ∈ openTextsOfMembers hidden d, f s = g s
  | [] => by simp [redactMembers, openTextsOfMembers]
  | (key, item) :: d => by
    rw [redactMembers, redactMembers, openTextsOfMembers, List.cons.injEq, redactMembers_eq_iff d,
      List.forall_mem_append, Prod.mk.injEq]
    apply and_congr_left'
    cases hkey : hidden key with
    | true => simp
    | false => simpa using redactWith_eq_iff item

end

end Agree

end Values

namespace Boundaries

inductive SlotSource where
  | user
  | tool
  | policy
  | system
  deriving DecidableEq, Repr

def SlotSource.value : SlotSource → String
  | .user => "user"
  | .tool => "tool"
  | .policy => "policy"
  | .system => "system"

structure SlotValue where
  value : Value
  source : SlotSource
  verified : Bool := false

structure Message where
  role : String
  content : String
  content_bounds : 1 ≤ content.length ∧ content.length ≤ 8000

structure PromptView where
  systemPolicyVersion : String
  workflowId : String
  workflowVersion : String
  currentStep : String
  allowedDecisions : List String
  conversation : List Message
  knownSlots : List (String × SlotValue)
  requiredSlots : List String
  allowedTools : List String
  evidenceIds : List String
  remainingSteps : ℕ
  remainingSteps_le : remainingSteps ≤ 6

def strings (l : List String) : Value := .arr (l.map .str)

def SCHEMA_VERSION : String := "1.0"

def SlotValue.dump (slot : SlotValue) : Value :=
  .obj [("schema_version", .str SCHEMA_VERSION), ("value", slot.value),
    ("source", .str slot.source.value), ("verified", .bool slot.verified)]

def Message.dump (message : Message) : Value :=
  .obj [("schema_version", .str SCHEMA_VERSION), ("role", .str message.role),
    ("content", .str message.content)]

/-- `model_dump(mode="json")`. -/
def PromptView.dump (prompt : PromptView) : Dict :=
  [("schema_version", .str SCHEMA_VERSION),
    ("system_policy_version", .str prompt.systemPolicyVersion),
    ("workflow_id", .str prompt.workflowId), ("workflow_version", .str prompt.workflowVersion),
    ("current_step", .str prompt.currentStep),
    ("allowed_decisions", strings prompt.allowedDecisions),
    ("conversation", .arr (prompt.conversation.map Message.dump)),
    ("known_slots", .obj (prompt.knownSlots.map fun slot => (slot.1, slot.2.dump))),
    ("required_slots", strings prompt.requiredSlots),
    ("allowed_tools", strings prompt.allowedTools), ("evidence_ids", strings prompt.evidenceIds),
    ("remaining_steps", .int prompt.remainingSteps)]

/-- `json.dumps(names, ensure_ascii=False)`. -/
def jsonList (names : List String) : String :=
  "[" ++ String.intercalate ", " (names.map fun name => String.ofList (encodeStr name)) ++ "]"

/-- The system message of `_request`. -/
def instruction (prompt : PromptView) (repair : Bool) : String :=
  "Return exactly one JSON object and no prose or markdown. " ++
    "Required fields: type, intent, route, confidence. " ++
    "route must equal the locked workflow route '" ++ prompt.workflowId ++ "'. " ++
    "Optional fields: missing_slots, tool, args, evidence_ids, response, handoff_reason. " ++
    "type must be one of " ++ jsonList prompt.allowedDecisions ++
    "; tool must be null or one of " ++ jsonList prompt.allowedTools ++ "; " ++
    "confidence must be a number from 0 through 1; args must be one JSON object. " ++
    "evidence_ids must be a subset of exactly " ++ jsonList prompt.evidenceIds ++
    "; never invent or " ++
    "copy identifiers that are not listed there. " ++
    "Never include tenant_id, actor_id, owner_id, scopes, idempotency_key, " ++
    "confirmation_token, or policy_version in args." ++
    if repair then " This is the single format-repair attempt; output valid JSON only." else ""

/-- The dictionary that the user message of `_request` holds as compact JSON. -/
def sentPrompt (prompt : PromptView) : Dict :=
  redactMembers (sanitize π) (isForbidden π) prompt.dump

/-- The `messages` of a request, each with its role. -/
def requestMessages (prompt : PromptView) (repair : Bool) : List (String × String) :=
  [("system", instruction prompt repair),
    ("user", String.ofList (sanitizeValue π (.obj prompt.dump)).encode)]

variable {π}

/-- What the repository stores of a user message. -/
def userInput (π : Platform) (conversationId : Uuid) (actorId content clientMessageId : String)
    (runId : Uuid) : Except Exc UserMessageInput :=
  if strip content = "" ∨ 8000 < content.length then
    .error (.valueError "message content is invalid")
  else if clientMessageId = "" ∨ 128 < clientMessageId.length then
    .error (.valueError "client_message_id is invalid")
  else .ok {
    conversationId := conversationId
    tenantId := DEMO_TENANT_ID
    actorId := actorId
    clientMessageId := clientMessageId
    runId := some runId
    contentRedacted := sanitize π content
    -- The hash is the one of the full content.
    contentHash := hashSecret π content }

theorem appendUser_eq (conversationId : Uuid) (actorId content clientMessageId : String)
    (runId : Uuid) : appendUser π conversationId actorId content clientMessageId runId =
      Prog.ofExcept (userInput π conversationId actorId content clientMessageId runId) >>=
        fun input => Prog.perform (.messages (.appendUser input)) := by
  unfold appendUser userInput
  split
  · rfl
  · split <;> rfl

/-- A content that the repository takes. -/
def Accepted (content : String) : Prop := strip content ≠ "" ∧ content.length ≤ 8000

/-- Nothing but what is sensitive is replaced, in the store and in the request. -/
structure LosesNothingElse (π : Platform) (content : String) (prompt : PromptView) : Prop where
  user : ∀ conversationId actorId clientMessageId runId input,
    userInput π conversationId actorId content clientMessageId runId = .ok input →
      input.contentRedacted = redact π content
  assistant : ∀ context input, assistantInput π context content = .ok input →
    input.contentRedacted = redact π content
  sent : ∀ repair, requestMessages π prompt repair = [("system", instruction prompt repair),
    ("user", String.ofList (redactWith (redact π) (isForbidden π) (.obj prompt.dump)).encode)]
  route : (sentPrompt π prompt).get? "workflow_id" = some (.str prompt.workflowId)
  tools : (sentPrompt π prompt).get? "allowed_tools" = some (strings prompt.allowedTools)
  evidence : (sentPrompt π prompt).get? "evidence_ids" = some (strings prompt.evidenceIds)

/-- The texts fit into a trace, and no name looks sensitive. -/
structure Fits (π : Platform) (content : String) (prompt : PromptView) : Prop where
  content : (redact π content).length ≤ MAX_TEXT
  texts : ∀ s ∈ openTexts (isForbidden π) (.obj prompt.dump), (redact π s).length ≤ MAX_TEXT
  names : ∀ name ∈ prompt.workflowId :: (prompt.allowedTools ++ prompt.evidenceIds), Clean π name

theorem sanitize_eq_redact_iff (s : String) :
    sanitize π s = redact π s ↔ (redact π s).length ≤ MAX_TEXT := by
  rw [sanitize_eq]
  exact take_eq_self_iff _ _

theorem requestMessages_eq_iff (π : Platform) (prompt : PromptView) :
    (∀ repair, requestMessages π prompt repair = [("system", instruction prompt repair),
      ("user", String.ofList (redactWith (redact π) (isForbidden π) (.obj prompt.dump)).encode)]) ↔
      ∀ s ∈ openTexts (isForbidden π) (.obj prompt.dump),
        (redact π s).length ≤ MAX_TEXT := by
  have hvalue : (∀ repair, requestMessages π prompt repair =
      [("system", instruction prompt repair), ("user", String.ofList
        (redactWith (redact π) (isForbidden π) (.obj prompt.dump)).encode)]) ↔
      sanitizeValue π (.obj prompt.dump) =
        redactWith (redact π) (isForbidden π) (.obj prompt.dump) := by
    constructor
    · intro h
      have htext := (Prod.mk.inj (List.cons.inj (List.cons.inj (h false)).2).1).2
      apply Value.encode_injective
      have hlist := congrArg String.toList htext
      rwa [String.toList_ofList, String.toList_ofList] at hlist
    · intro h repair
      rw [requestMessages, h]
  rw [hvalue, sanitizeValue, redactWith_eq_iff]
  exact forall₂_congr fun s _ => sanitize_eq_redact_iff s

theorem redactItems_strings (f : String → String) (hidden : String → Bool) (l : List String) :
    redactItems f hidden (l.map Value.str) = l.map fun s => .str (f s) := by
  induction l with
  | nil => rfl
  | cons s l ih => rw [List.map_cons, redactItems, ih, redactWith, List.map_cons]

theorem redactWith_strings_eq_iff {f : String → String} {hidden : String → Bool}
    (l : List String) : redactWith f hidden (strings l) = strings l ↔ ∀ s ∈ l, f s = s := by
  rw [strings, redactWith, redactItems_strings, Value.arr.injEq]
  induction l with
  | nil => simp
  | cons s l ih => simp [ih]

/-- A key in lower case that is not forbidden is not taken for one. -/
theorem isForbidden_eq_false (hπ : π.LowersPlainly) {key : String}
    (hkey : (key.toList.all plain && decide (key.toList.map Char.toLower = key.toList) &&
      !decide (key ∈ FORBIDDEN_KEYS)) = true) : isForbidden π key = false := by
  simp only [Bool.and_eq_true, decide_eq_true_eq, Bool.not_eq_true',
    decide_eq_false_iff_not] at hkey
  obtain ⟨⟨hletters, hlower⟩, hout⟩ := hkey
  have hplain : ∀ c ∈ key.toList, plain c := List.all_eq_true.mp hletters
  have hsame : π.lower key = key := by
    have hchars := hπ.alone key.toList hplain
    rw [String.ofList_toList, hlower] at hchars
    exact String.toList_injective hchars
  rw [isForbidden, hsame]
  exact decide_eq_false hout

/-- The keys of the fields that hold names are open. -/
theorem names_open (hπ : π.LowersPlainly) : isForbidden π "workflow_id" = false ∧
    isForbidden π "allowed_tools" = false ∧ isForbidden π "evidence_ids" = false := by
  refine ⟨isForbidden_eq_false hπ ?_, isForbidden_eq_false hπ ?_, isForbidden_eq_false hπ ?_⟩
  · decide +kernel
  · decide +kernel
  · decide +kernel

/-- The three fields that hold names, as they are sent. -/
theorem sent_names (hπ : π.LowersPlainly) (prompt : PromptView) :
    (sentPrompt π prompt).get? "workflow_id" = some (.str (sanitize π prompt.workflowId)) ∧
      (sentPrompt π prompt).get? "allowed_tools" =
        some (redactWith (sanitize π) (isForbidden π) (strings prompt.allowedTools)) ∧
      (sentPrompt π prompt).get? "evidence_ids" =
        some (redactWith (sanitize π) (isForbidden π) (strings prompt.evidenceIds)) := by
  obtain ⟨hroute, htools, hevidence⟩ := names_open hπ
  simp [sentPrompt, PromptView.dump, redactMembers, hroute, htools, hevidence, redactWith]

theorem names_sent_iff (hπ : π.LowersPlainly) (prompt : PromptView) :
    ((sentPrompt π prompt).get? "workflow_id" = some (.str prompt.workflowId) ∧
      (sentPrompt π prompt).get? "allowed_tools" = some (strings prompt.allowedTools) ∧
      (sentPrompt π prompt).get? "evidence_ids" = some (strings prompt.evidenceIds)) ↔
      ∀ name ∈ prompt.workflowId :: (prompt.allowedTools ++ prompt.evidenceIds),
        sanitize π name = name := by
  obtain ⟨hroute, htools, hevidence⟩ := sent_names hπ prompt
  rw [hroute, htools, hevidence, Option.some.injEq, Option.some.injEq, Option.some.injEq,
    Value.str.injEq, redactWith_strings_eq_iff, redactWith_strings_eq_iff, List.forall_mem_cons,
    List.forall_mem_append]

theorem mem_openTextsOfMembers {hidden : String → Bool} {d : Dict} (key : String) (item : Value)
    {s : String} (hmem : (key, item) ∈ d) (hkey : hidden key = false)
    (hs : s ∈ openTexts hidden item) : s ∈ openTextsOfMembers hidden d := by
  induction d with
  | nil => exact absurd hmem List.not_mem_nil
  | cons member d ih =>
    rw [openTextsOfMembers, List.mem_append]
    rcases List.mem_cons.mp hmem with rfl | hmem
    · left
      rw [hkey]
      exact hs
    · exact .inr (ih hmem)

theorem mem_openTexts_strings {hidden : String → Bool} {l : List String} {s : String} (h : s ∈ l) :
    s ∈ openTexts hidden (strings l) := by
  rw [strings, openTexts]
  induction l with
  | nil => exact absurd h List.not_mem_nil
  | cons s' l ih =>
    rw [List.map_cons, openTextsOfItems, openTexts, List.singleton_append, List.mem_cons]
    exact (List.mem_cons.mp h).imp id ih

theorem mem_openTexts_of_name (hπ : π.LowersPlainly) {prompt : PromptView} {name : String}
    (h : name ∈ prompt.workflowId :: (prompt.allowedTools ++ prompt.evidenceIds)) :
    name ∈ openTexts (isForbidden π) (.obj prompt.dump) := by
  obtain ⟨hroute, htools, hevidence⟩ := names_open hπ
  rw [openTexts]
  rcases List.mem_cons.mp h with rfl | h
  · exact mem_openTextsOfMembers "workflow_id" (.str _) (by simp [PromptView.dump]) hroute
      (List.mem_singleton_self _)
  · rcases List.mem_append.mp h with h | h
    · exact mem_openTextsOfMembers "allowed_tools" _ (by simp [PromptView.dump]) htools
        (mem_openTexts_strings h)
    · exact mem_openTextsOfMembers "evidence_ids" _ (by simp [PromptView.dump]) hevidence
        (mem_openTexts_strings h)

theorem userInput_content {conversationId : Uuid} {actorId content clientMessageId : String}
    {runId : Uuid} {input : UserMessageInput}
    (h : userInput π conversationId actorId content clientMessageId runId = .ok input) :
    input.contentRedacted = sanitize π content := by
  unfold userInput at h
  split at h
  · cases h
  · split at h
    · cases h
    · cases h
      rfl

theorem assistantInput_content {context : RunContext} {content : String}
    {input : AssistantMessageInput} (h : assistantInput π context content = .ok input) :
    input.contentRedacted = sanitize π content := by
  unfold assistantInput at h
  split at h
  · cases h
  · cases h
    rfl

theorem assistantInput_accepted {content : String} (h : Accepted content) (context : RunContext) :
    ∃ input, assistantInput π context content = .ok input :=
  ⟨_, if_neg (not_or.mpr ⟨h.1, Nat.not_lt.mpr h.2⟩)⟩

end Boundaries

open Boundaries

attribute [local irreducible] redact sanitize isForbidden

/-- What is stored and sent loses nothing else exactly when the texts fit into 512 characters and
the names hold nothing that a pattern matches. -/
theorem loses_nothing_else_iff (hπ : π.ReadsAscii) (hlower : π.LowersPlainly) {content : String}
    (haccepted : Accepted content) (prompt : PromptView) :
    LosesNothingElse π content prompt ↔ Fits π content prompt := by
  have hsent := requestMessages_eq_iff π prompt
  constructor
  · intro h
    have hshort := hsent.mp h.sent
    -- A name that survives is not cut, so it is the substitutions that leave it alone.
    have hname : ∀ name, sanitize π name = name →
        name ∈ prompt.workflowId :: (prompt.allowedTools ++ prompt.evidenceIds) →
        Clean π name := by
      intro name hkept hmem
      have hsame := (sanitize_eq_redact_iff name).mpr
        (hshort name (mem_openTexts_of_name hlower hmem))
      exact (redact_eq_self_iff hπ).mp (hsame ▸ hkept)
    have hkept := (names_sent_iff hlower prompt).mp ⟨h.route, h.tools, h.evidence⟩
    refine ⟨?_, hshort, fun name hmem => hname name (hkept name hmem) hmem⟩
    -- The assistant's copy of the content is the one that every context may ask for.
    obtain ⟨input, hinput⟩ := @assistantInput_accepted π content haccepted
      { runId := "", conversationId := "", tenantId := "", actorId := "", status := .created }
    apply (sanitize_eq_redact_iff content).mp
    rw [← assistantInput_content hinput]
    exact h.assistant _ _ hinput
  · intro h
    have hcontent := (sanitize_eq_redact_iff content).mpr h.content
    have hkept : ∀ name ∈ prompt.workflowId :: (prompt.allowedTools ++ prompt.evidenceIds),
        sanitize π name = name := by
      intro name hmem
      rw [(sanitize_eq_redact_iff name).mpr (h.texts name (mem_openTexts_of_name hlower hmem))]
      exact (redact_eq_self_iff hπ).mpr (h.names name hmem)
    obtain ⟨hroute, htools, hevidence⟩ := (names_sent_iff hlower prompt).mpr hkept
    refine ⟨fun _ _ _ _ input hinput => ?_, fun _ input hinput => ?_, hsent.mpr h.texts, hroute,
      htools, hevidence⟩
    · rw [← hcontent]
      exact userInput_content hinput
    · rw [← hcontent]
      exact assistantInput_content hinput

section Demo

/-- No pattern matches anywhere. -/
def untouched (π : Platform) (s : String) : Bool :=
  !search (PHONE π) s && !search SECRET_ASSIGNMENT s && !search (EMAIL π) s &&
    !search (CARD π) s && !search (ADDRESS π) s

variable {π} in
theorem clean_of_untouched {s : String} (h : untouched π s = true) : Clean π s := by
  unfold untouched at h
  simp only [Bool.and_eq_true, Bool.not_eq_true'] at h
  obtain ⟨⟨⟨⟨hphone, hsecret⟩, hemail⟩, hcard⟩, haddress⟩ := h
  exact ⟨hphone, (sub_secret_eq_self_iff s).mp (sub_of_unmatched hsecret), hemail, hcard, haddress⟩

theorem demoPlatform_readsAscii : demoPlatform.ReadsAscii := fun _ _ => rfl

/-- A prompt with one system message and one identifier. -/
def productPrompt (evidenceId : String) : PromptView where
  systemPolicyVersion := "phase3-readonly-v1"
  workflowId := "product_query"
  workflowVersion := "1"
  currentStep := "retrieve"
  allowedDecisions := ["call_tool", "respond"]
  conversation := [⟨"system", "The route is locked.", by decide⟩]
  knownSlots := []
  requiredSlots := []
  allowedTools := ["retrieve_knowledge", "get_product_detail"]
  evidenceIds := [evidenceId]
  remainingSteps := 6
  remainingSteps_le := Nat.le_refl 6

instance accepted_demo : Fact (Accepted "你好") := by
  unfold Accepted
  exact ⟨by decide +kernel⟩

def letterId : String :=
  "knowledge:3f2a9c1e-aaaa-4bbb-8ccc-0d1e2f3a4b5c:5e2a9c1e-aaaa-4bbb-8ccc-0d1e2f3a4b5c"

/-- The texts of a short product prompt are clean. -/
instance productPrompt_quiet :
    Fact ((openTexts (isForbidden demoPlatform) (.obj (productPrompt letterId).dump)).all
      (fun s => untouched demoPlatform s && decide (s.length ≤ MAX_TEXT)) = true) :=
  ⟨by decide +kernel⟩

theorem loses_nothing_else_short :
    LosesNothingElse demoPlatform "你好" (productPrompt letterId) := by
  have hquiet := productPrompt_quiet.out
  have hopen : ∀ s ∈ openTexts (isForbidden demoPlatform) (.obj (productPrompt letterId).dump),
      Clean demoPlatform s ∧ s.length ≤ MAX_TEXT := by
    intro s hs
    have hboth := List.all_eq_true.mp hquiet s hs
    rw [Bool.and_eq_true, decide_eq_true_eq] at hboth
    exact ⟨clean_of_untouched hboth.1, hboth.2⟩
  have hcontent : untouched demoPlatform "你好" = true := by decide +kernel
  have hshort : ∀ {s}, Clean demoPlatform s → s.length ≤ MAX_TEXT →
      (redact demoPlatform s).length ≤ MAX_TEXT := by
    intro s hclean hlength
    rwa [(redact_eq_self_iff demoPlatform_readsAscii).mpr hclean]
  refine (loses_nothing_else_iff demoPlatform demoPlatform_readsAscii demoPlatform_lowersPlainly
    accepted_demo.out (productPrompt letterId)).mpr ⟨?_, fun s hs => ?_, fun name hname => ?_⟩
  · exact hshort (clean_of_untouched hcontent) (by decide)
  · exact hshort (hopen s hs).1 (hopen s hs).2
  · exact (hopen name (mem_openTexts_of_name demoPlatform_lowersPlainly hname)).1

def digitId : String :=
  "knowledge:12345678-1234-4123-8123-0d1e2f3a4b5c:5e2a9c1e-aaaa-4bbb-8ccc-0d1e2f3a4b5c"

/-- A text of the letter `a` alone. -/
def answer (n : ℕ) : String := String.ofList (List.replicate n 'a')

theorem answer_length (n : ℕ) : (answer n).length = n := by
  rw [← String.length_toList, answer, String.toList_ofList, List.length_replicate]

theorem accepted_answer {n : ℕ} (hpos : 0 < n) (hn : n ≤ 8000) : Accepted (answer n) := by
  refine ⟨fun h => ?_, (answer_length n).trans_le hn⟩
  have hletter : ∀ c ∈ (answer n).toList, isSpace c = false := by
    intro c hc
    rw [answer, String.toList_ofList] at hc
    rw [List.eq_of_mem_replicate hc]
    decide
  have hsame : strip (answer n) = answer n :=
    stripBy_self (fun c hc => hletter c (List.mem_of_mem_head? hc))
      fun c hc => hletter c (List.mem_of_mem_getLast? hc)
  have hlength := answer_length n
  rw [hsame] at h
  rw [h, String.length_empty] at hlength
  omega

/-- No pattern finds its character among the letters. -/
theorem redact_answer (n : ℕ) : redact demoPlatform (answer n) = answer n := by
  have habsent : ∀ P : Char → Bool, P 'a' = false → ∀ c ∈ (answer n).toList, P c = false := by
    intro P hP c hc
    rw [answer, String.toList_ofList] at hc
    rw [List.eq_of_mem_replicate hc, hP]
  apply (redact_eq_self_iff demoPlatform_readsAscii).mpr
  exact ⟨search_of_absent (finds_phone _) (habsent _ (by decide)),
    (sub_secret_eq_self_iff _).mp
      (sub_of_unmatched (search_of_absent finds_secret (habsent _ (by decide)))),
    search_of_absent (finds_email _) (habsent _ (by decide)),
    search_of_absent (finds_card _) (habsent _ (by decide)),
    search_of_absent (finds_address _) (habsent _ (by decide +kernel))⟩

/-- An answer loses its end, and an identifier the digits that read like a card. -/
theorem texts_cut_off : ¬ LosesNothingElse demoPlatform (answer 513) (productPrompt letterId) ∧
    ¬ LosesNothingElse demoPlatform "你好" (productPrompt digitId) ∧
    Accepted (answer 513) ∧ Accepted "你好" := by
  have haccepted : Accepted (answer 513) := accepted_answer (by decide) (by decide)
  refine ⟨fun h => ?_, fun h => ?_, haccepted, accepted_demo.out⟩
  · obtain ⟨input, hinput⟩ := @assistantInput_accepted demoPlatform (answer 513) haccepted
      { runId := "", conversationId := "", tenantId := "", actorId := "", status := .created }
    have hstored := h.assistant _ _ hinput
    rw [assistantInput_content hinput, sanitize_eq_redact_iff, redact_answer,
      answer_length] at hstored
    exact absurd hstored (by decide)
  · have hkept := (names_sent_iff demoPlatform_lowersPlainly (productPrompt digitId)).mp
      ⟨h.route, h.tools, h.evidence⟩
    have hmem : digitId ∈ (productPrompt digitId).workflowId ::
        ((productPrompt digitId).allowedTools ++ (productPrompt digitId).evidenceIds) := by
      simp [productPrompt]
    have hshort := (requestMessages_eq_iff _ _).mp h.sent digitId
      (mem_openTexts_of_name demoPlatform_lowersPlainly hmem)
    have hclean := (redact_eq_self_iff demoPlatform_readsAscii).mp
      (((sanitize_eq_redact_iff digitId).mpr hshort).symm.trans (hkept digitId hmem))
    have hfound : search (CARD demoPlatform) digitId = true := by decide +kernel
    exact absurd (hfound.symm.trans hclean.card) (by decide)

end Demo

end CommerceAgent
