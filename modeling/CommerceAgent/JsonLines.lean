import CommerceAgent.SkillDefinitions

/-! Files with one JSON record on a line: the writer ends a line with a newline only, and the readers split
at every line boundary of Unicode, three of which JSON leaves as they are. -/
namespace Lines

open Texts

/-- The line boundaries of `str.splitlines`. -/
def isBoundary (c : Char) : Bool :=
  (10 ≤ c.toNat && c.toNat ≤ 13) || (28 ≤ c.toNat && c.toNat ≤ 30) || c.toNat == 0x85 ||
    c.toNat == 0x2028 || c.toNat == 0x2029

/-- `\r\n` is one boundary. -/
def joinCrlf : List Char → List Char
  | '\r' :: '\n' :: l => '\n' :: joinCrlf l
  | c :: l => c :: joinCrlf l
  | [] => []

/-- The lines of a text, after the characters `line` of the first, in reverse. -/
def splitFrom (line : List Char) : List Char → List (List Char)
  | [] => if line = [] then [] else [line.reverse]
  | c :: l => if isBoundary c then line.reverse :: splitFrom [] l else splitFrom (c :: line) l

/-- `text.splitlines()`. -/
def splitlines (text : List Char) : List (List Char) := splitFrom [] (joinCrlf text)

/-- `not line.strip()`. -/
def isBlank (line : List Char) : Bool := line.all isSpace

def nonblank (lines : List (List Char)) : List (List Char) := lines.filter fun line => !isBlank line

theorem joinCrlf_eq_self {l : List Char} (h : ∀ c ∈ l, c ≠ '\r') : joinCrlf l = l := by
  induction l with
  | nil => rfl
  | cons c l ih =>
    have htail := ih fun d hd => h d (List.mem_cons_of_mem _ hd)
    unfold joinCrlf
    split
    · rename_i heq
      obtain ⟨rfl, rfl⟩ := List.cons.inj heq
      exact absurd rfl (h '\r' List.mem_cons_self)
    · rename_i heq
      obtain ⟨rfl, rfl⟩ := List.cons.inj heq
      rw [htail]
    · rename_i heq
      cases heq

/-- A line without boundaries is one line. -/
theorem splitFrom_line {l : List Char} (h : ∀ c ∈ l, isBoundary c = false) (line rest : List Char) :
    splitFrom line (l ++ '\n' :: rest) = (line.reverse ++ l) :: splitFrom [] rest := by
  induction l generalizing line with
  | nil =>
    have hnewline : isBoundary '\n' = true := rfl
    rw [List.nil_append, splitFrom, if_pos hnewline, List.append_nil]
  | cons c l ih =>
    rw [List.cons_append, splitFrom, if_neg (by simp [h c List.mem_cons_self]),
      ih fun d hd => h d (List.mem_cons_of_mem _ hd)]
    simp

variable {closing : Char}

theorem isBlank_eq_false {l : List Char} {c : Char} (hc : c ∈ l) (h : isSpace c = false) :
    isBlank l = false := by
  rw [isBlank, List.all_eq_false]
  exact ⟨c, hc, by simp [h]⟩

theorem length_nonblank_cons (line : List Char) (lines : List (List Char)) :
    (nonblank lines).length ≤ (nonblank (line :: lines)).length := by
  rw [nonblank, nonblank, List.filter_cons]
  split <;> simp

theorem length_nonblank_cons_of {line : List Char} (h : isBlank line = false) (lines : List (List Char)) :
    (nonblank (line :: lines)).length = (nonblank lines).length + 1 := by
  rw [nonblank, List.filter_cons_of_pos (by simp [h]), List.length_cons]
  rfl

/-- A line that closes with a visible character has a last piece that is not blank. -/
theorem one_piece (hvisible : isSpace closing = false) (hclosing : isBoundary closing = false)
    (line l rest : List Char) : (nonblank (splitFrom [] rest)).length + 1 ≤
      (nonblank (splitFrom line (l ++ closing :: '\n' :: rest))).length := by
  induction l generalizing line with
  | nil =>
    have hnewline : isBoundary '\n' = true := rfl
    have hpiece : isBlank (closing :: line).reverse = false :=
      isBlank_eq_false (List.mem_reverse.mpr List.mem_cons_self) hvisible
    rw [List.nil_append, splitFrom, if_neg (by simp [hclosing]), splitFrom, if_pos hnewline,
      length_nonblank_cons_of hpiece]
  | cons c l ih =>
    rw [List.cons_append, splitFrom]
    split
    · exact (ih []).trans (length_nonblank_cons _ _)
    · exact ih _

/-- A boundary after a visible character makes a second one. -/
theorem two_pieces (hvisible : isSpace closing = false) (hclosing : isBoundary closing = false)
    {line l : List Char} (rest : List Char) (hline : isBlank line = false)
    (hl : ∃ c ∈ l, isBoundary c = true) : (nonblank (splitFrom [] rest)).length + 2 ≤
      (nonblank (splitFrom line (l ++ closing :: '\n' :: rest))).length := by
  induction l generalizing line with
  | nil =>
    obtain ⟨c, hc, -⟩ := hl
    cases hc
  | cons c l ih =>
    rw [List.cons_append, splitFrom]
    split
    · have hpiece : isBlank line.reverse = false := by rwa [isBlank, List.all_reverse]
      rw [length_nonblank_cons_of hpiece]
      have hlast := one_piece hvisible hclosing [] l rest
      omega
    · rename_i hplain
      obtain ⟨d, hd, hboundary⟩ := hl
      rcases List.mem_cons.mp hd with rfl | hd
      · exact absurd hboundary hplain
      · refine ih ?_ ⟨d, hd, hboundary⟩
        simp [isBlank, List.all_cons] at hline ⊢
        exact fun _ => hline

end Lines

namespace Json

open Lines

/-- The line boundaries that JSON leaves unescaped. -/
def isSeparator (c : Char) : Bool := c.toNat == 0x85 || c.toNat == 0x2028 || c.toNat == 0x2029

/-- The characters of the texts of floats, `NaN` and `Infinity` among them. -/
def FLOAT_CHARS : List Char :=
  ['0', '1', '2', '3', '4', '5', '6', '7', '8', '9', '.', '+', '-', 'e', 'E', 'I', 'N', 'a', 'f', 'i', 'n',
    't', 'y']

/-- The characters that a text has besides those of its strings. -/
def MARKS : List Char :=
  FLOAT_CHARS ++ ['u', 'l', 'r', 's', '[', ']', '\x7b', '\x7d', ',', ':', ' ', '\x22']

/-- Of what `p` holds, a text has in it what its strings have of `q`. -/
structure Leaves (p q : Char → Bool) : Prop where
  marks : (MARKS.all fun c => !p c) = true
  escaped : ∀ c, (escapeChar c).any p = q c

theorem Leaves.mark {p q : Char → Bool} (h : Leaves p q) {c : Char} (hc : c ∈ MARKS) : p c = false := by
  have hmark := List.all_eq_true.mp h.marks c hc
  rwa [Bool.not_eq_true'] at hmark

theorem isBoundary_digitChar : ∀ n < 16, isBoundary (Nat.digitChar n) = false := by decide

/-- Escaping leaves the separators, and makes no boundary. -/
theorem any_escapeChar (c : Char) : (escapeChar c).any isBoundary = isSeparator c := by
  unfold escapeChar
  split
  all_goals try rfl
  split
  · rename_i hsmall
    have hhigh := isBoundary_digitChar (c.toNat / 16) (by omega)
    have hlow := isBoundary_digitChar (c.toNat % 16) (by omega)
    have hstart : (['\x5c', 'u', '0', '0'].any isBoundary) = false := rfl
    have hnone : isSeparator c = false := by
      simp only [isSeparator, Bool.or_eq_false_iff, beq_eq_false_iff_ne]
      omega
    rw [hnone]
    show ((['\x5c', 'u', '0', '0'] ++ [Nat.digitChar (c.toNat / 16), Nat.digitChar (c.toNat % 16)]).any
      isBoundary) = false
    rw [List.any_append, hstart]
    simp [hhigh, hlow]
  · rename_i hlarge
    have hcontrol : (decide (10 ≤ c.toNat) && decide (c.toNat ≤ 13) ||
        decide (28 ≤ c.toNat) && decide (c.toNat ≤ 30)) = false := by
      simp only [Bool.or_eq_false_iff, Bool.and_eq_false_iff, decide_eq_false_iff_not]
      omega
    simp only [List.any_cons, List.any_nil, Bool.or_false, isBoundary, isSeparator, hcontrol,
      Bool.false_or]

theorem leaves_separators : Leaves isBoundary isSeparator := ⟨by decide, any_escapeChar⟩

/-- Carriage returns are escaped. -/
theorem leaves_no_return : Leaves (· == '\r') fun _ => false := by
  refine ⟨by decide, fun c => ?_⟩
  have hdigit : ∀ n < 16, (Nat.digitChar n == '\r') = false := by decide
  unfold escapeChar
  split
  all_goals try rfl
  split
  · rename_i hsmall
    have hhigh := hdigit (c.toNat / 16) (by omega)
    have hlow := hdigit (c.toNat % 16) (by omega)
    simp only [List.any_cons, List.any_nil, hhigh, hlow]
    rfl
  · rename_i hreturn _ _ _ _
    simpa using hreturn

section Leaving

variable {p q : Char → Bool} (hp : Leaves p q)

include hp

theorem any_marks {l : List Char} (h : (l.all fun c => decide (c ∈ MARKS)) = true) : l.any p = false := by
  rw [List.any_eq_false]
  intro c hc
  rw [hp.mark (of_decide_eq_true (List.all_eq_true.mp h c hc))]
  exact Bool.false_ne_true

theorem any_encodeStr (s : String) : (encodeStr s).any p = s.toList.any q := by
  have hquote : p '\x22' = false := hp.mark (by decide)
  have hchars : ∀ l : List Char, (l.flatMap escapeChar).any p = l.any q := by
    intro l
    induction l with
    | nil => rfl
    | cons c l ih => rw [List.flatMap_cons, List.any_append, hp.escaped, ih, List.any_cons]
  rw [encodeStr, List.any_cons, List.any_append, hchars]
  simp [hquote]

theorem any_repr (i : ℤ) : i.repr.toList.any p = false := by
  have hmarks : ∀ c : Char, c.isDigit = true → c ∈ MARKS := by
    intro c hc
    have hdigit := Char.isDigit_iff_toNat.mp hc
    have hall : ∀ n < 58, 48 ≤ n → Char.ofNat n ∈ MARKS := by decide
    have hmem := hall c.toNat (Nat.lt_succ_of_le hdigit.2) hdigit.1
    rwa [Char.ofNat_toNat] at hmem
  have hdigits : ∀ n : ℕ, (n.repr.toList.all fun c => decide (c ∈ MARKS)) = true := by
    intro n
    rw [List.all_eq_true]
    intro c hc
    rw [Nat.toList_repr] at hc
    exact decide_eq_true (hmarks c (Nat.isDigit_of_mem_toDigits (by decide) (by decide) hc))
  rcases intRepr_toList i with ⟨-, h⟩ | ⟨-, h⟩
  · rw [h, any_marks hp (hdigits _)]
  · rw [h, List.any_cons, any_marks hp (hdigits _), hp.mark (by decide)]
    rfl

end Leaving

namespace Payload

mutual

/-- Every float has the text of a float. -/
def plainFloats : Payload → Bool
  | .float repr => repr.toList.all fun c => decide (c ∈ FLOAT_CHARS)
  | .arr l => itemsPlain l
  | .obj d => membersPlain d
  | _ => true

def itemsPlain : List Payload → Bool
  | [] => true
  | v :: l => plainFloats v && itemsPlain l

def membersPlain : List (String × Payload) → Bool
  | [] => true
  | (_, v) :: d => plainFloats v && membersPlain d

end

theorem all_marks_of_plain {l : List Char} (h : (l.all fun c => decide (c ∈ FLOAT_CHARS)) = true) :
    (l.all fun c => decide (c ∈ MARKS)) = true := by
  rw [List.all_eq_true] at h ⊢
  exact fun c hc => decide_eq_true (List.mem_append_left _ (of_decide_eq_true (h c hc)))

section Encoding

variable {p q : Char → Bool} (hp : Leaves p q)

include hp

mutual

/-- The text of a value has a character of `p` in it exactly if one of its strings has one of `q`. -/
theorem any_encode : ∀ v : Payload, v.plainFloats = true →
    v.encode.any p = ((v.keys.any fun s => s.toList.any q) || v.texts.any fun s => s.toList.any q)
  | .null, _ | .bool true, _ | .bool false, _ => any_marks hp (by decide)
  | .int i, _ => by
    rw [encode, any_repr hp]
    rfl
  | .float repr, h => by
    rw [plainFloats] at h
    rw [encode, any_marks hp (all_marks_of_plain h)]
    rfl
  | .str s, _ => by
    rw [encode, any_encodeStr hp]
    simp [keys, texts]
  | .arr l, h => by
    have hopen : p '[' = false := hp.mark (by decide)
    have hclose : p ']' = false := hp.mark (by decide)
    rw [plainFloats] at h
    rw [encode, keys, texts, ← any_encodeItems l h]
    simp [hopen, hclose]
  | .obj d, h => by
    have hopen : p '\x7b' = false := hp.mark (by decide)
    have hclose : p '\x7d' = false := hp.mark (by decide)
    rw [plainFloats] at h
    rw [encode, keys, texts, ← any_encodeMembers d h]
    simp [hopen, hclose]

theorem any_encodeItems : ∀ l : List Payload, itemsPlain l = true →
    (encodeItems l).any p = (((itemKeys l).any fun s => s.toList.any q) || (itemTexts l).any fun s => s.toList.any q)
  | [], _ => rfl
  | v :: l, h => by
    rw [itemsPlain, Bool.and_eq_true] at h
    rw [encodeItems, itemKeys, itemTexts, List.any_append, List.any_append, List.any_append,
      any_encode v h.1, any_encodeItemsTail l h.2]
    ac_rfl

theorem any_encodeItemsTail : ∀ l : List Payload, itemsPlain l = true →
    (encodeItemsTail l).any p = (((itemKeys l).any fun s => s.toList.any q) || (itemTexts l).any fun s => s.toList.any q)
  | [], _ => rfl
  | v :: l, h => by
    have hcomma : p ',' = false := hp.mark (by decide)
    have hblank : p ' ' = false := hp.mark (by decide)
    rw [itemsPlain, Bool.and_eq_true] at h
    rw [encodeItemsTail, itemKeys, itemTexts, List.any_cons, List.any_cons, List.any_append,
      List.any_append, List.any_append, any_encode v h.1, any_encodeItemsTail l h.2, hcomma, hblank,
      Bool.false_or, Bool.false_or]
    ac_rfl

theorem any_encodeMembers : ∀ d : List (String × Payload), membersPlain d = true →
    (encodeMembers d).any p = (((memberKeys d).any fun s => s.toList.any q) || (memberTexts d).any fun s => s.toList.any q)
  | [], _ => rfl
  | (k, v) :: d, h => by
    have hcolon : p ':' = false := hp.mark (by decide)
    have hblank : p ' ' = false := hp.mark (by decide)
    rw [membersPlain, Bool.and_eq_true] at h
    rw [encodeMembers, memberKeys, memberTexts, List.any_append, List.any_cons, List.any_cons,
      List.any_append, List.any_cons, List.any_append, List.any_append, any_encodeStr hp,
      any_encode v h.1, any_encodeMembersTail d h.2, hcolon, hblank, Bool.false_or, Bool.false_or]
    ac_rfl

theorem any_encodeMembersTail : ∀ d : List (String × Payload), membersPlain d = true →
    (encodeMembersTail d).any p =
      (((memberKeys d).any fun s => s.toList.any q) || (memberTexts d).any fun s => s.toList.any q)
  | [], _ => rfl
  | (k, v) :: d, h => by
    have hcomma : p ',' = false := hp.mark (by decide)
    have hcolon : p ':' = false := hp.mark (by decide)
    have hblank : p ' ' = false := hp.mark (by decide)
    rw [membersPlain, Bool.and_eq_true] at h
    rw [encodeMembersTail, memberKeys, memberTexts, List.any_cons, List.any_cons, List.any_append,
      List.any_cons, List.any_cons, List.any_append, List.any_cons, List.any_append, List.any_append,
      any_encodeStr hp, any_encode v h.1, any_encodeMembersTail d h.2, hcomma, hcolon, hblank,
      Bool.false_or, Bool.false_or, Bool.false_or, Bool.false_or]
    ac_rfl

end

end Encoding

end Payload

end Json

namespace CommerceAgent.Jsonl

open Json Lines

/-- The text that is written for a record, without its newline. -/
def recordLine (record : Members) : List Char := (Payload.obj record).encode

/-- The file: a line for each record. -/
def writeJsonl (records : List Members) : List Char :=
  records.flatMap fun record => recordLine record ++ ['\n']

section Readers

-- `json.loads`
variable (loads : List Char → Option Payload)

/-- The items that `ingest_jsonl` goes through; blank lines are skipped. -/
def ingestItems (text : List Char) : Option (List Payload) := (nonblank (splitlines text)).mapM loads

/-- The lines that `CaseLoader.load` parses, or the number of a blank one. -/
def caseLines (text : List Char) : Except ℕ (List (List Char)) :=
  match (splitlines text).findIdx? isBlank with
  | some number => .error (number + 1)
  | none => .ok (splitlines text)

/-- The lines that `load_human_safety_labels` validates. -/
def labelLines (text : List Char) : List (List Char) := nonblank (splitlines text)

/-- Each reader has the records again, in their order. -/
structure ReadsBack (records : List Members) : Prop where
  items : ingestItems loads (writeJsonl records) = some (records.map .obj)
  cases : caseLines (writeJsonl records) = .ok (records.map recordLine)
  labels : labelLines (writeJsonl records) = records.map recordLine

end Readers

section RoundTrip

variable {loads : List Char → Option Payload} {records : List Members}

/-- No string of a record has a line boundary in it that JSON leaves. -/
def Unseparated (record : Members) : Prop :=
  ∀ s ∈ Payload.memberKeys record ++ Payload.memberTexts record, ∀ c ∈ s.toList, isSeparator c = false

theorem recordLine_boundary {record : Members} (hplain : Payload.membersPlain record = true) :
    (recordLine record).any isBoundary = false ↔ Unseparated record := by
  rw [recordLine, Payload.any_encode leaves_separators (.obj record) hplain, Bool.or_eq_false_iff,
    List.any_eq_false, List.any_eq_false]
  simp only [Payload.keys, Payload.texts, Unseparated, List.forall_mem_append, Bool.not_eq_true,
    List.any_eq_false]

theorem recordLine_no_return {record : Members} (hplain : Payload.membersPlain record = true) :
    ∀ c ∈ recordLine record, c ≠ '\r' := by
  have hnone := Payload.any_encode leaves_no_return (.obj record) hplain
  have hfalse : ∀ l : List String, (l.any fun s => s.toList.any fun _ => false) = false := by simp
  rw [hfalse, hfalse, Bool.or_false, List.any_eq_false] at hnone
  exact fun c hc heq => hnone c hc (beq_iff_eq.mpr heq)

/-- A record is between braces. -/
theorem recordLine_frame (record : Members) :
    ∃ middle, recordLine record = '\x7b' :: (middle ++ ['\x7d']) := ⟨_, rfl⟩

theorem isBlank_recordLine (record : Members) : isBlank (recordLine record) = false := by
  obtain ⟨middle, hline⟩ := recordLine_frame record
  rw [hline]
  exact isBlank_eq_false List.mem_cons_self rfl

theorem splitlines_writeJsonl (hplain : ∀ record ∈ records, Payload.membersPlain record = true) :
    splitlines (writeJsonl records) = splitFrom [] (writeJsonl records) := by
  rw [splitlines, joinCrlf_eq_self]
  intro c hc
  obtain ⟨record, hrecord, hc⟩ := List.mem_flatMap.mp hc
  rcases List.mem_append.mp hc with hc | hc
  · exact recordLine_no_return (hplain record hrecord) c hc
  · rw [List.mem_singleton.mp hc]
    decide

/-- Records without separators are one line each. -/
theorem splitFrom_of_unseparated (hplain : ∀ record ∈ records, Payload.membersPlain record = true)
    (h : ∀ record ∈ records, Unseparated record) :
    splitFrom [] (writeJsonl records) = records.map recordLine := by
  induction records with
  | nil => rfl
  | cons record records ih =>
    have hline := (recordLine_boundary (hplain record List.mem_cons_self)).mpr (h record List.mem_cons_self)
    rw [List.any_eq_false] at hline
    rw [writeJsonl, List.flatMap_cons, List.append_assoc, List.singleton_append,
      splitFrom_line fun c hc => Bool.not_eq_true _ ▸ hline c hc, List.map_cons]
    exact congrArg _ (ih (fun r hr => hplain r (List.mem_cons_of_mem _ hr))
      fun r hr => h r (List.mem_cons_of_mem _ hr))

/-- A record makes one piece at least, and two with a separator in it. -/
theorem pieces_of_record {record : Members} (hplain : Payload.membersPlain record = true)
    (rest : List Char) :
    (nonblank (splitFrom [] rest)).length + 1 ≤
      (nonblank (splitFrom [] (recordLine record ++ '\n' :: rest))).length ∧
    (¬ Unseparated record → (nonblank (splitFrom [] rest)).length + 2 ≤
      (nonblank (splitFrom [] (recordLine record ++ '\n' :: rest))).length) := by
  have hboundary := recordLine_boundary hplain
  obtain ⟨middle, hline⟩ := recordLine_frame record
  rw [hline] at hboundary ⊢
  have hopen : isBoundary '\x7b' = false := rfl
  have hclose : isBoundary '\x7d' = false := rfl
  have hstart : splitFrom [] ('\x7b' :: (middle ++ ['\x7d']) ++ '\n' :: rest) =
      splitFrom ['\x7b'] (middle ++ '\x7d' :: '\n' :: rest) := by
    rw [List.cons_append, splitFrom, if_neg (by simp [hopen]), List.append_assoc, List.singleton_append]
  rw [hstart]
  refine ⟨one_piece rfl hclose _ _ _, fun hseparated => two_pieces rfl hclose rest rfl ?_⟩
  by_contra hnone
  refine hseparated (hboundary.mp ?_)
  rw [List.any_cons, List.any_append, hopen, List.any_eq_false.mpr]
  · simp [hclose]
  · exact fun c hc hc' => hnone ⟨c, hc, hc'⟩

theorem length_pieces (hplain : ∀ record ∈ records, Payload.membersPlain record = true) :
    records.length ≤ (nonblank (splitFrom [] (writeJsonl records))).length ∧
      ((∃ record ∈ records, ¬ Unseparated record) →
        records.length < (nonblank (splitFrom [] (writeJsonl records))).length) := by
  induction records with
  | nil => exact ⟨Nat.zero_le _, fun ⟨_, h, _⟩ => nomatch h⟩
  | cons record records ih =>
    obtain ⟨hle, hlt⟩ := ih fun r hr => hplain r (List.mem_cons_of_mem _ hr)
    obtain ⟨hone, htwo⟩ := pieces_of_record (hplain record List.mem_cons_self) (writeJsonl records)
    have htext : writeJsonl (record :: records) = recordLine record ++ '\n' :: writeJsonl records := by
      rw [writeJsonl, List.flatMap_cons, List.append_assoc, List.singleton_append]
      rfl
    rw [htext, List.length_cons]
    refine ⟨by omega, ?_⟩
    rintro ⟨r, hr, hseparated⟩
    rcases List.mem_cons.mp hr with rfl | hr
    · have hfirst := htwo hseparated
      omega
    · have hrest := hlt ⟨r, hr, hseparated⟩
      omega

/-- The readers have the records again exactly if no string of a record has a next line, a line separator
or a paragraph separator in it. -/
theorem readsBack_iff (hplain : ∀ record ∈ records, Payload.membersPlain record = true)
    (hloads : ∀ record ∈ records, loads (recordLine record) = some (.obj record)) :
    ReadsBack loads records ↔ ∀ record ∈ records, Unseparated record := by
  constructor
  · intro h
    by_contra hnot
    simp only [not_forall, exists_prop] at hnot
    have hlonger := (length_pieces hplain).2 hnot
    have hlabels := congrArg List.length h.labels
    rw [labelLines, splitlines_writeJsonl hplain, List.length_map] at hlabels
    omega
  · intro h
    have hlines : splitlines (writeJsonl records) = records.map recordLine := by
      rw [splitlines_writeJsonl hplain, splitFrom_of_unseparated hplain h]
    have hfull : nonblank (records.map recordLine) = records.map recordLine := by
      rw [nonblank, List.filter_eq_self]
      intro line hline
      obtain ⟨record, -, rfl⟩ := List.mem_map.mp hline
      rw [isBlank_recordLine]
      rfl
    constructor
    · rw [ingestItems, hlines, hfull]
      clear hplain h hlines hfull
      induction records with
      | nil => rfl
      | cons record records ih =>
        rw [List.map_cons, List.mapM_cons, hloads record List.mem_cons_self,
          ih fun r hr => hloads r (List.mem_cons_of_mem _ hr)]
        rfl
    · have hnone : (records.map recordLine).findIdx? isBlank = none := by
        rw [List.findIdx?_eq_none_iff]
        intro line hline
        obtain ⟨record, -, rfl⟩ := List.mem_map.mp hline
        exact isBlank_recordLine record
      rw [caseLines, hlines, hnone]
    · rw [labelLines, hlines, hfull]

end RoundTrip

section Demo

def demoJsonl (text : String) : Members := [("id", .str text)]

/-- `json.loads`, on the lines of the two records of the demonstration. -/
def demoLoads (line : List Char) : Option Payload :=
  if line = recordLine (demoJsonl "a") then some (.obj (demoJsonl "a"))
  else if line = recordLine (demoJsonl "a\u2028b") then some (.obj (demoJsonl "a\u2028b"))
  else none

instance demo_lines : Fact (recordLine (demoJsonl "a\u2028b") ≠ recordLine (demoJsonl "a") ∧
    (labelLines (writeJsonl [demoJsonl "a\u2028b"])).length = 2 ∧
    (["id", "a"].all fun s => s.toList.all fun c => !isSeparator c) = true) :=
  ⟨by decide +kernel⟩

theorem readsBack_iff_demo : ReadsBack demoLoads [demoJsonl "a"] := by
  refine (readsBack_iff ?_ ?_).mpr ?_
  · intro record hrecord
    rw [List.mem_singleton.mp hrecord]
    rfl
  · intro record hrecord
    rw [List.mem_singleton.mp hrecord, demoLoads, if_pos rfl]
  · intro record hrecord
    rw [List.mem_singleton.mp hrecord]
    intro s hs c hc
    have hquiet := List.all_eq_true.mp (List.all_eq_true.mp demo_lines.out.2.2 s hs) c hc
    rwa [Bool.not_eq_true'] at hquiet

/-- A line separator in a string is a line boundary of the file. -/
theorem separator_splits_record :
    demoLoads (recordLine (demoJsonl "a\u2028b")) = some (.obj (demoJsonl "a\u2028b")) ∧
      ¬ ReadsBack demoLoads [demoJsonl "a\u2028b"] := by
  obtain ⟨hne, hlines, -⟩ := demo_lines.out
  refine ⟨by rw [demoLoads, if_neg hne, if_pos rfl], fun h => ?_⟩
  have hlength := congrArg List.length h.labels
  rw [hlines] at hlength
  exact absurd hlength (by decide)

end Demo

end CommerceAgent.Jsonl
