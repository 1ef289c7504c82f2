import CommerceAgent.Patterns
import CommerceAgent.Protocols
import CommerceAgent.SortedPrefixes
import CommerceAgent.Texts
import Mathlib.Algebra.Order.Field.Rat
import Mathlib.Data.Finset.Card
import Mathlib.Data.Prod.Lex
import Mathlib.Data.String.Basic
import Mathlib.Tactic.Positivity

/-! The lexical retriever: the terms of a text, the rows that share some with a query, and what of their
ranking the order of the rows decides. -/
namespace CommerceAgent.Knowledge

open Patterns Texts

structure KnowledgeSearchRow where
  chunkId : Uuid
  documentId : Uuid
  chunkNo : ℤ
  text : String
  topic : String
  productRef : Option String
  sourceUri : String
  version : String
  deriving DecidableEq

structure Evidence where
  evidenceId : String
  documentId : String
  sourceUri : String
  version : String
  excerpt : String
  score : ℚ
  deriving DecidableEq

structure EvidencePack where
  query : String
  evidence : List Evidence
  deriving DecidableEq

inductive PackError where
  | value (message : String)
  | validation
  deriving DecidableEq

section Ranking

-- `unicodedata.normalize("NFKC", value).casefold()`
variable (normalize : String → String)

def WORD : Pattern := atLeast 1 (one fun c => let c := fold c; ('a' ≤ c && c ≤ 'z') || c.isDigit)

/-- The pieces of `width` characters, at every place. -/
def grams (width : ℕ) (compact : List Char) : List String :=
  (List.range (compact.length + 1 - width)).map fun i => String.ofList ((compact.drop i).take width)

def lexicalTerms (value : String) : Finset String :=
  let normalized := normalize value
  let compact := normalized.toList.filter fun c => !isSpace c
  ((findAll WORD normalized ++ grams 2 compact ++ grams 3 compact).toFinset).filter (· ≠ "")

def KnowledgeSearchRow.terms (row : KnowledgeSearchRow) : Finset String :=
  lexicalTerms normalize (row.text ++ " " ++ row.topic ++ " " ++ row.productRef.getD "")

def overlap (query : String) (row : KnowledgeSearchRow) : ℕ :=
  (lexicalTerms normalize query ∩ row.terms normalize).card

def score (query : String) (row : KnowledgeSearchRow) : ℚ :=
  overlap normalize query row / max 1 (lexicalTerms normalize query).card

/-- The order of the sort keys, best first. -/
def Precedes (query : String) (a b : KnowledgeSearchRow) : Prop :=
  toLex (-score normalize query a, toLex (a.sourceUri, a.chunkNo)) ≤
    toLex (-score normalize query b, toLex (b.sourceUri, b.chunkNo))

instance (query : String) : DecidableRel (Precedes normalize query) :=
  fun _ _ => inferInstanceAs (Decidable (_ ≤ _))

def ranked (query : String) (rows : List KnowledgeSearchRow) : List KnowledgeSearchRow :=
  (rows.filter fun row => overlap normalize query row ≠ 0).insertionSort (Precedes normalize query)

def KnowledgeSearchRow.evidence (query : String) (row : KnowledgeSearchRow) : Evidence where
  evidenceId := "knowledge:" ++ row.documentId ++ ":" ++ row.chunkId
  documentId := row.documentId
  sourceUri := row.sourceUri
  version := row.version
  excerpt := String.ofList (row.text.toList.take 1200)
  score := score normalize query row

/-- The field constraints of the model. -/
def Evidence.valid (e : Evidence) : Bool :=
  decide (1 ≤ e.evidenceId.length ∧ e.evidenceId.length ≤ 160) &&
    decide (1 ≤ e.documentId.length ∧ e.documentId.length ≤ 64) &&
    decide (1 ≤ e.sourceUri.length ∧ e.sourceUri.length ≤ 500) &&
    decide (1 ≤ e.version.length ∧ e.version.length ≤ 64) &&
    decide (1 ≤ e.excerpt.length ∧ e.excerpt.length ≤ 1200) && decide (0 ≤ e.score)

def buildPack (query : String) (rows : List KnowledgeSearchRow) (topK : ℤ) :
    Except PackError EvidencePack :=
  if ¬ (1 ≤ topK ∧ topK ≤ 5) then .error (.value "top_k must be between 1 and 5")
  else
    let evidence := ((ranked normalize query rows).take topK.toNat).map
      (KnowledgeSearchRow.evidence normalize query)
    if ¬ evidence.all Evidence.valid then .error .validation
    else if ¬ (1 ≤ query.length ∧ query.length ≤ 512) then .error .validation
    else .ok ⟨query, evidence⟩

end Ranking

section Order

variable {normalize : String → String} {query : String} {rows rows' : List KnowledgeSearchRow} {topK : ℤ}

theorem precedes_total (a b : KnowledgeSearchRow) :
    Precedes normalize query a b ∨ Precedes normalize query b a := le_total _ _

theorem precedes_trans (a b c : KnowledgeSearchRow) (h : Precedes normalize query a b)
    (h' : Precedes normalize query b c) : Precedes normalize query a c := le_trans h h'

theorem score_le_of_precedes {a b : KnowledgeSearchRow} (h : Precedes normalize query a b) :
    score normalize query b ≤ score normalize query a := by
  rcases Prod.Lex.toLex_le_toLex.mp h with hlt | ⟨heq, -⟩
  · exact (neg_lt_neg_iff.mp hlt).le
  · exact (neg_inj.mp heq).ge

theorem score_nonneg (row : KnowledgeSearchRow) : 0 ≤ score normalize query row := by
  unfold score
  positivity

theorem ranked_perm : (ranked normalize query rows).Perm
    (rows.filter fun row => overlap normalize query row ≠ 0) := List.perm_insertionSort _ _

theorem ranked_sorted : (ranked normalize query rows).Pairwise (Precedes normalize query) := by
  have : Std.Total (Precedes normalize query) := ⟨precedes_total⟩
  have : IsTrans KnowledgeSearchRow (Precedes normalize query) := ⟨precedes_trans⟩
  exact List.pairwise_insertionSort _ _

variable (normalize query) in
/-- Rows that share terms with the query and are equal in score, source and number have at least `k`
others before them. -/
def LateTies (k : ℕ) (rows : List KnowledgeSearchRow) : Prop :=
  SortedPrefixes.LateTies (Precedes normalize query) k
    (rows.filter fun row => overlap normalize query row ≠ 0)

theorem ranked_take_eq {k : ℕ} (hperm : rows'.Perm rows) (h : LateTies normalize query k rows) :
    (ranked normalize query rows').take k = (ranked normalize query rows).take k := by
  have hfilter := hperm.filter fun row => overlap normalize query row ≠ 0
  have hsorted : (ranked normalize query rows').Perm (ranked normalize query rows) :=
    ranked_perm.trans (hfilter.trans ranked_perm.symm)
  exact SortedPrefixes.take_eq_of_sorted (fun a => (precedes_total a a).elim id id) ranked_sorted
    ranked_sorted hsorted (SortedPrefixes.LateTies.of_perm h (hfilter.symm.trans ranked_perm.symm))

/-- What a pack cites: rows in the order of their scores, above all that it leaves out. -/
structure Cites (normalize : String → String) (query : String) (rows : List KnowledgeSearchRow)
    (pack : EvidencePack) (cited : List KnowledgeSearchRow) : Prop where
  evidence : pack.evidence = cited.map (KnowledgeSearchRow.evidence normalize query)
  among : cited.Subperm rows
  descending : cited.Pairwise fun a b => score normalize query b ≤ score normalize query a
  omitted : ∀ row ∈ rows, row ∉ cited → ∀ c ∈ cited, score normalize query row ≤ score normalize query c

theorem buildPack_ok {pack : EvidencePack} (h : buildPack normalize query rows topK = .ok pack) :
    pack = ⟨query, ((ranked normalize query rows).take topK.toNat).map
      (KnowledgeSearchRow.evidence normalize query)⟩ := by
  unfold buildPack at h
  split at h
  · cases h
  dsimp only at h
  split at h
  · cases h
  split at h
  · cases h
  · exact (Except.ok.inj h).symm

theorem buildPack_cites {pack : EvidencePack} (h : buildPack normalize query rows topK = .ok pack) :
    Cites normalize query rows pack ((ranked normalize query rows).take topK.toNat) := by
  obtain rfl := buildPack_ok h
  constructor
  · rfl
  · exact ((List.take_sublist _ _).subperm.trans ranked_perm.subperm).trans
      (List.filter_sublist).subperm
  · exact (ranked_sorted.imp score_le_of_precedes).take
  · intro row hrow homitted c hc
    -- A row that shares no term scores nothing, any other was ranked behind the cited ones.
    by_cases hoverlap : overlap normalize query row = 0
    · rw [score, hoverlap, Nat.cast_zero, zero_div]
      exact score_nonneg c
    · have hranked : row ∈ ranked normalize query rows :=
        ranked_perm.mem_iff.mpr (List.mem_filter.mpr ⟨hrow, decide_eq_true hoverlap⟩)
      have hsplit : (ranked normalize query rows).Pairwise (Precedes normalize query) := ranked_sorted
      rw [← List.take_append_drop topK.toNat (ranked normalize query rows), List.pairwise_append] at hsplit
      rw [← List.take_append_drop topK.toNat (ranked normalize query rows), List.mem_append] at hranked
      exact score_le_of_precedes (hsplit.2.2 c hc row (hranked.resolve_left homitted))

variable (normalize query rows topK) in
/-- The same pack for every order of the rows, with the best of them. -/
structure Fair : Prop where
  same : ∀ rows' : List KnowledgeSearchRow, rows'.Perm rows →
    buildPack normalize query rows' topK = buildPack normalize query rows topK
  cites : ∀ pack, buildPack normalize query rows topK = .ok pack →
    ∃ cited, Cites normalize query rows pack cited

variable (normalize query rows topK) in
/-- What the models of a pack and of its evidence accept, for identifiers of 36 characters. -/
structure Citeable : Prop where
  bounds : 1 ≤ topK ∧ topK ≤ 5
  question : 1 ≤ query.length ∧ query.length ≤ 512
  valid : ∀ row ∈ rows, overlap normalize query row ≠ 0 → (row.evidence normalize query).valid = true
  uuids : ∀ row ∈ rows, row.documentId.length = 36 ∧ row.chunkId.length = 36

theorem buildPack_citeable (h : Citeable normalize query rows topK) (hperm : rows'.Perm rows) :
    buildPack normalize query rows' topK = .ok ⟨query, ((ranked normalize query rows').take
      topK.toNat).map (KnowledgeSearchRow.evidence normalize query)⟩ := by
  have hall : (((ranked normalize query rows').take topK.toNat).map
      (KnowledgeSearchRow.evidence normalize query)).all Evidence.valid = true := by
    rw [List.all_eq_true]
    intro e he
    obtain ⟨row, hrow, rfl⟩ := List.mem_map.mp he
    have hranked : row ∈ ranked normalize query rows' := List.mem_of_mem_take hrow
    obtain ⟨hrow, hoverlap⟩ := List.mem_filter.mp (ranked_perm.mem_iff.mp hranked)
    exact h.valid row (hperm.mem_iff.mp hrow) (of_decide_eq_true hoverlap)
  unfold buildPack
  rw [if_neg (not_not.mpr h.bounds)]
  dsimp only
  rw [if_neg (not_not.mpr hall), if_neg (not_not.mpr h.question)]

/-- Identifiers of one length are read off the id of the evidence. -/
theorem evidenceId_injective {a b : KnowledgeSearchRow} (hlength : a.documentId.length = b.documentId.length)
    (h : (a.evidence normalize query).evidenceId = (b.evidence normalize query).evidenceId) :
    a.chunkId = b.chunkId := by
  have hchars := congrArg String.toList h
  simp only [KnowledgeSearchRow.evidence, String.toList_append, List.append_assoc,
    List.append_cancel_left_eq] at hchars
  have hsplit := List.append_inj hchars (by rw [String.length_toList, String.length_toList, hlength])
  exact String.toList_inj.mp (List.append_cancel_left hsplit.2)

/-- Every order of the rows that share terms with the query is the order of such rows in some order of all. -/
theorem exists_ranked_eq {l : List KnowledgeSearchRow}
    (h : l.Perm (rows.filter fun row => overlap normalize query row ≠ 0)) :
    ∃ rows' : List KnowledgeSearchRow, rows'.Perm rows ∧
      ranked normalize query rows' = l.insertionSort (Precedes normalize query) := by
  let p : KnowledgeSearchRow → Bool := fun row => overlap normalize query row ≠ 0
  have hkept : l.filter p = l := by
    rw [List.filter_eq_self]
    exact fun row hrow => (List.mem_filter.mp (h.mem_iff.mp hrow)).2
  have hdropped : (rows.filter fun row => !p row).filter p = [] := by
    rw [List.filter_eq_nil_iff]
    intro row hrow
    simpa using (List.mem_filter.mp hrow).2
  refine ⟨l ++ rows.filter fun row => !p row, ?_, ?_⟩
  · exact (h.append_right _).trans (List.filter_append_perm p rows)
  · show ((l ++ rows.filter fun row => !p row).filter p).insertionSort _ = _
    rw [List.filter_append, hkept, hdropped, List.append_nil]

/-- The pack is the same for every order of the rows as long as ties come late; and on rows that can be
cited only then. Its order and what it leaves out are right in any case. -/
theorem pack_fair_iff (hdistinct : (rows.map KnowledgeSearchRow.chunkId).Nodup) :
    (LateTies normalize query topK.toNat rows → Fair normalize query rows topK) ∧
    (Citeable normalize query rows topK →
      (Fair normalize query rows topK ↔ LateTies normalize query topK.toNat rows)) := by
  have hfair (hlate : LateTies normalize query topK.toNat rows) : Fair normalize query rows topK := by
    refine ⟨fun rows' hperm => ?_, fun pack hpack => ⟨_, buildPack_cites hpack⟩⟩
    rw [buildPack, buildPack, ranked_take_eq hperm hlate]
  refine ⟨hfair, fun hciteable => ⟨fun h => ?_, hfair⟩⟩
  -- An early tie is a place at which two orders of the rows cite different chunks.
  by_contra hearly
  obtain ⟨a, ha, b, hb, hne, l₁, l₂, hl₁, hl₂, i, hi, hfirst, hsecond⟩ :=
    SortedPrefixes.exists_insertionSort_ne precedes_total precedes_trans hearly
  obtain ⟨ha, -⟩ := List.mem_filter.mp ha
  obtain ⟨hb, -⟩ := List.mem_filter.mp hb
  obtain ⟨rows₁, hrows₁, hranked₁⟩ := exists_ranked_eq hl₁
  obtain ⟨rows₂, hrows₂, hranked₂⟩ := exists_ranked_eq hl₂
  have hsame := (h.same rows₁ hrows₁).trans (h.same rows₂ hrows₂).symm
  rw [buildPack_citeable hciteable hrows₁, buildPack_citeable hciteable hrows₂, hranked₁, hranked₂] at hsame
  have hevidence := congrArg (fun l => l[i]?) (EvidencePack.mk.inj (Except.ok.inj hsame)).2
  simp only [List.getElem?_map, List.getElem?_take_of_lt hi, hfirst, hsecond, Option.map_some,
    Option.some.injEq] at hevidence
  have hchunk : a.chunkId = b.chunkId := evidenceId_injective
    ((hciteable.uuids a ha).1.trans (hciteable.uuids b hb).1.symm) (congrArg Evidence.evidenceId hevidence)
  exact hne (List.inj_on_of_nodup_map hdistinct ha hb hchunk)

end Order

section Demo

/-- The only chunk of a document, of which two versions are active. -/
def demoRow (version chunkId documentId : String) : KnowledgeSearchRow where
  chunkId := chunkId
  documentId := documentId
  chunkNo := 0
  text := "ab"
  topic := "t"
  productRef := none
  sourceUri := "kb"
  version := version

def versions : List KnowledgeSearchRow :=
  [demoRow "1" "00000000-0000-4000-8000-000000000001" "00000000-0000-4000-8000-00000000000a",
    demoRow "2" "00000000-0000-4000-8000-000000000002" "00000000-0000-4000-8000-00000000000b"]

/-- The identity folds and normalizes the text of the demonstration. -/
instance versions_packed : Fact (
    buildPack id "ab" versions 1 ≠ buildPack id "ab" versions.reverse 1 ∧
    (∀ row ∈ versions, overlap id "ab" row ≠ 0 ∧ (row.evidence id "ab").valid = true ∧
      row.documentId.length = 36 ∧ row.chunkId.length = 36) ∧
    (versions.map KnowledgeSearchRow.chunkId).Nodup) :=
  ⟨by decide +kernel⟩

theorem pack_fair_iff_demo : ¬ LateTies id "ab" 1 versions := by
  obtain ⟨hdiffer, hvalid, hdistinct⟩ := versions_packed.out
  have hciteable : Citeable id "ab" versions 1 :=
    ⟨by decide, by decide, fun row hrow _ => (hvalid row hrow).2.1, fun row hrow => (hvalid row hrow).2.2⟩
  intro hlate
  have hfair := ((pack_fair_iff hdistinct).2 hciteable).mpr hlate
  exact hdiffer (hfair.same _ (List.reverse_perm versions)).symm

/-- Which version is cited is the order of the rows. -/
theorem versions_cited_by_order :
    ¬ ∀ (query : String) (rows rows' : List KnowledgeSearchRow) (topK : ℤ),
      (rows.map KnowledgeSearchRow.chunkId).Nodup → rows'.Perm rows →
        buildPack id query rows' topK = buildPack id query rows topK :=
  fun h => versions_packed.out.1
    (h "ab" versions versions.reverse 1 versions_packed.out.2.2 (List.reverse_perm versions)).symm

end Demo

end CommerceAgent.Knowledge
