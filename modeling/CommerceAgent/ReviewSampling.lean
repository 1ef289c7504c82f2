import CommerceAgent.JsonSizes
import CommerceAgent.RoundRobin
import Mathlib.Data.List.DropRight
import Mathlib.Data.List.Sort
import Mathlib.Data.String.Basic

/-! The sample of a multi-turn report for human review: families of scenarios take turns. -/
namespace CommerceAgent.Review

open Json

section Sampling

variable (sanitize : Payload → Payload) (str : Payload → String) (isDecimal : Char → Bool)

/-- A turn as the queue shows it, if there is something to show. -/
def projectedTurn (turn : Payload) : Option Payload :=
  match turn with
  | .obj turn => match Members.get? turn "user_action", Members.get? turn "agent_trace" with
    | some (.obj action), some (.obj trace) =>
      let shown (members : Members) (key : String) : Payload :=
        sanitize ((Members.get? members key).getD .null)
      some (.obj [("turn_id", shown turn "turn_id"), ("user_message", shown action "message"),
        ("agent_response", shown trace "response"), ("agent_route", shown trace "route"),
        ("agent_next_action", shown trace "next_action"),
        ("tools_called", sanitize ((Members.get? trace "tools_called").getD (.arr []))),
        ("agent_status", shown trace "status")])
    | _, _ => none
  | _ => none

/-- `_projected_turns`. -/
def projectedTurns (row : Members) : List Payload :=
  match Members.get? row "turns" with
  | some (.arr turns) => turns.filterMap (projectedTurn sanitize)
  | _ => []

/-- `_scenario_family`; `str` is the text of a value that is no string, empty for one that counts as
false. -/
def scenarioFamily (value : Option Payload) : String :=
  let scenarioId := match value with
    | some (.str s) => s
    | some v => str v
    | none => ""
  let parts := (scenarioId.toList.splitOn '_').rdropWhile fun part =>
    part = "v1".toList || (!part.isEmpty && part.all isDecimal)
  let family := ['_'].intercalate parts
  if family = [] then scenarioId else String.ofList family

/-- The family of a row. -/
def familyOf (row : Members) : String := scenarioFamily str isDecimal (Members.get? row "scenario_id")

def turnCount (row : Members) : ℕ := (projectedTurns sanitize row).length

/-- The rows that can be reviewed, with their places in the report. -/
def reviewable (rows : List Members) : List (Members × ℕ) :=
  rows.zipIdx.filter fun item => !(projectedTurns sanitize item.1).isEmpty

/-- The order in which a family gives its rows. -/
abbrev Before (a b : Members × ℕ) : Prop :=
  turnCount sanitize b.1 < turnCount sanitize a.1 ∨
    turnCount sanitize a.1 = turnCount sanitize b.1 ∧ a.2 ≤ b.2

/-- The families by name, each with its rows. -/
def families (rows : List Members) : List (String × List (Members × ℕ)) :=
  let items := reviewable sanitize rows
  ((items.map fun item => familyOf str isDecimal item.1).dedup.insertionSort (· ≤ ·)).map fun name =>
    (name, (items.filter fun item => familyOf str isDecimal item.1 = name).insertionSort
      (Before sanitize))

/-- `_stable_review_sample`. -/
def stableReviewSample (rows : List Members) (sampleSize : ℕ) : List Members :=
  (RoundRobin.deal sampleSize (families sanitize str isDecimal rows) 0 []).map Prod.fst

/-- How many of these rows are of a family. -/
def countOf (name : String) (items : List (Members × ℕ)) : ℕ :=
  items.countP fun item => familyOf str isDecimal item.1 = name

/-- A sample that takes from every family in turn. -/
structure FairSample (rows : List Members) (sampleSize : ℕ) (picks : List (Members × ℕ)) : Prop where
  reviewable : ∀ item ∈ picks, item ∈ reviewable sanitize rows
  distinct : picks.Nodup
  size : picks.length = min sampleSize (rows.countP fun row => !(projectedTurns sanitize row).isEmpty)
  fair : ∀ item ∈ Review.reviewable sanitize rows, ∀ item' ∈ Review.reviewable sanitize rows,
    countOf str isDecimal (familyOf str isDecimal item'.1) picks ≤
        countOf str isDecimal (familyOf str isDecimal item.1) picks + 1 ∨
      countOf str isDecimal (familyOf str isDecimal item.1) picks =
        countOf str isDecimal (familyOf str isDecimal item.1) (Review.reviewable sanitize rows)
  longerFirst : ∀ item ∈ picks, ∀ item' ∈ Review.reviewable sanitize rows, item' ∉ picks →
    familyOf str isDecimal item'.1 = familyOf str isDecimal item.1 →
    turnCount sanitize item'.1 ≤ turnCount sanitize item.1
  ordered : ∀ name, (picks.filter fun item => familyOf str isDecimal item.1 = name).Pairwise
    fun item item' => turnCount sanitize item'.1 ≤ turnCount sanitize item.1

end Sampling

section Families

variable {sanitize : Payload → Payload} {str : Payload → String} {isDecimal : Char → Bool}
  {rows : List Members}

theorem mem_families {column : String × List (Members × ℕ)} :
    column ∈ families sanitize str isDecimal rows ↔
      (∃ item ∈ reviewable sanitize rows, familyOf str isDecimal item.1 = column.1) ∧
      column.2 = ((reviewable sanitize rows).filter fun item =>
        familyOf str isDecimal item.1 = column.1).insertionSort (Before sanitize) := by
  simp only [families, List.mem_map, List.mem_insertionSort, List.mem_dedup]
  constructor
  · rintro ⟨name, ⟨item, hitem, rfl⟩, rfl⟩
    exact ⟨⟨item, hitem, rfl⟩, rfl⟩
  · rintro ⟨⟨item, hitem, hname⟩, hvalues⟩
    exact ⟨column.1, ⟨item, hitem, hname⟩, Prod.ext rfl hvalues.symm⟩

theorem families_keyed : RoundRobin.Keyed (fun item => familyOf str isDecimal item.1)
    (families sanitize str isDecimal rows) := by
  constructor
  · have hnames : (families sanitize str isDecimal rows).map Prod.fst =
        ((reviewable sanitize rows).map fun item => familyOf str isDecimal item.1).dedup.insertionSort
          (· ≤ ·) := by
      simp only [families, List.map_map]
      exact List.map_id _
    rw [hnames, (List.perm_insertionSort _ _).nodup_iff]
    exact List.nodup_dedup _
  · intro column hcolumn item hitem
    rw [(mem_families.mp hcolumn).2, List.mem_insertionSort] at hitem
    exact of_decide_eq_true (List.mem_filter.mp hitem).2

theorem families_nodup : ∀ column ∈ families sanitize str isDecimal rows, column.2.Nodup := by
  intro column hcolumn
  rw [(mem_families.mp hcolumn).2, (List.perm_insertionSort _ _).nodup_iff]
  have hindices : (rows.zipIdx.map Prod.snd).Nodup := by
    rw [List.zipIdx_map_snd]
    exact List.nodup_range'
  exact ((hindices.of_map _).filter _).filter _

theorem mem_column {column : String × List (Members × ℕ)} {item : Members × ℕ}
    (h : column ∈ families sanitize str isDecimal rows) :
    item ∈ column.2 ↔
      item ∈ reviewable sanitize rows ∧ familyOf str isDecimal item.1 = column.1 := by
  rw [(mem_families.mp h).2, List.mem_insertionSort, List.mem_filter, decide_eq_true_eq]

/-- Within a family a row with more turns comes before one with fewer. -/
theorem column_sorted {column : String × List (Members × ℕ)}
    (h : column ∈ families sanitize str isDecimal rows) :
    column.2.Pairwise fun item item' => turnCount sanitize item'.1 ≤ turnCount sanitize item.1 := by
  have : Std.Total (Before sanitize) := ⟨fun a b => by unfold Before; omega⟩
  have : IsTrans (Members × ℕ) (Before sanitize) := ⟨fun a b c hab hbc => by
    unfold Before at hab hbc ⊢
    omega⟩
  rw [(mem_families.mp h).2]
  refine (List.pairwise_insertionSort (Before sanitize) _).imp fun {a b} hab => ?_
  unfold Before at hab
  omega

theorem sum_families : ((families sanitize str isDecimal rows).map fun column => column.2.length).sum =
    rows.countP fun row => !(projectedTurns sanitize row).isEmpty := by
  have hnames : (((reviewable sanitize rows).map fun item => familyOf str isDecimal item.1).dedup.insertionSort
      (· ≤ ·)).Nodup := (List.perm_insertionSort _ _).nodup_iff.mpr (List.nodup_dedup _)
  have hknown : ∀ item ∈ reviewable sanitize rows, familyOf str isDecimal item.1 ∈
      ((reviewable sanitize rows).map fun item => familyOf str isDecimal item.1).dedup.insertionSort
        (· ≤ ·) := by
    intro item hitem
    rw [List.mem_insertionSort, List.mem_dedup]
    exact List.mem_map_of_mem hitem
  have hsum := RoundRobin.length_eq_sum hnames hknown
  -- The indices that tell equal rows apart do not change how many there are.
  have hlength : (reviewable sanitize rows).length =
      rows.countP fun row => !(projectedTurns sanitize row).isEmpty := by
    rw [reviewable, ← List.countP_eq_length_filter]
    conv_rhs => rw [← List.zipIdx_map_fst 0 rows, List.countP_map]
    rfl
  rw [← hlength, hsum, families, List.map_map]
  refine congrArg List.sum (List.map_congr_left fun name _ => ?_)
  exact List.length_insertionSort _ _

/-- Every row of a sample stands in the column of its family. -/
theorem column_of_reviewable {item : Members × ℕ} (h : item ∈ reviewable sanitize rows) :
    ∃ column ∈ families sanitize str isDecimal rows, column.1 = familyOf str isDecimal item.1 := by
  have hname : familyOf str isDecimal item.1 ∈
      ((reviewable sanitize rows).map fun item => familyOf str isDecimal item.1).dedup.insertionSort
        (· ≤ ·) := by
    rw [List.mem_insertionSort, List.mem_dedup]
    exact List.mem_map_of_mem h
  exact ⟨_, List.mem_map_of_mem hname, rfl⟩

end Families

/-- The sample takes turns among the families, whatever their sizes are and wherever it ends. -/
theorem review_sample_fair (sanitize : Payload → Payload) (str : Payload → String)
    (isDecimal : Char → Bool) (rows : List Members) (sampleSize : ℕ) :
    ∃ picks, stableReviewSample sanitize str isDecimal rows sampleSize = picks.map Prod.fst ∧
      FairSample sanitize str isDecimal rows sampleSize picks := by
  classical
  have hkeyed : RoundRobin.Keyed (fun item => familyOf str isDecimal item.1)
      (families sanitize str isDecimal rows) := families_keyed
  obtain ⟨offset, hcolumns⟩ := RoundRobin.deal_columns sampleSize hkeyed
  have hknown := RoundRobin.deal_known sampleSize hkeyed
  have hnodup := RoundRobin.deal_nodup sampleSize hkeyed families_nodup
  have hlength := RoundRobin.deal_length sampleSize hkeyed
  have hfair {column column'} (h : column ∈ families sanitize str isDecimal rows)
      (h' : column' ∈ families sanitize str isDecimal rows) :=
    RoundRobin.deal_fair sampleSize hkeyed h h'
  refine ⟨_, rfl, ?_⟩
  generalize RoundRobin.deal sampleSize (families sanitize str isDecimal rows) 0 [] = picks at *
  have hreviewable : ∀ item ∈ picks, item ∈ reviewable sanitize rows := by
    intro item hitem
    obtain ⟨column, hcolumn, hkey⟩ := List.mem_map.mp (hknown item hitem)
    have hfilter : item ∈ picks.filter fun item => familyOf str isDecimal item.1 = column.1 :=
      List.mem_filter.mpr ⟨hitem, decide_eq_true hkey.symm⟩
    rw [(hcolumns column hcolumn).1] at hfilter
    exact ((mem_column hcolumn).mp (List.mem_of_mem_take hfilter)).1
  refine ⟨hreviewable, hnodup, ?_, ?_, ?_, ?_⟩
  · rw [hlength, sum_families]
  · intro item hitem item' hitem'
    obtain ⟨column, hcolumn, hname⟩ := column_of_reviewable hitem
    obtain ⟨column', hcolumn', hname'⟩ := column_of_reviewable hitem'
    -- A family that gave fewer than its share has given all its rows.
    have htakes := hfair hcolumn hcolumn'
    have hall : column.2.length =
        countOf str isDecimal (familyOf str isDecimal item.1) (reviewable sanitize rows) := by
      rw [(mem_families.mp hcolumn).2, List.length_insertionSort, countOf, List.countP_eq_length_filter,
        hname]
    rw [countOf, countOf, List.countP_eq_length_filter, List.countP_eq_length_filter, ← hall, ← hname,
      ← hname']
    exact htakes
  · intro item hitem item' hitem' hnot hfamily
    obtain ⟨column, hcolumn, hname⟩ := column_of_reviewable (hreviewable item hitem)
    have hmem : item ∈ picks.filter fun item => familyOf str isDecimal item.1 = column.1 :=
      List.mem_filter.mpr ⟨hitem, decide_eq_true hname.symm⟩
    have hmem' : item' ∈ column.2 := (mem_column hcolumn).mpr ⟨hitem', hfamily.trans hname.symm⟩
    have hinitial := (hcolumns column hcolumn).1
    rw [hinitial] at hmem
    rw [← List.take_append_drop _ column.2] at hmem'
    -- What is not among the selected members of the column comes after all of them.
    rcases List.mem_append.mp hmem' with htaken | hleft
    · exact absurd (List.mem_filter.mp (hinitial ▸ htaken)).1 hnot
    · have hsorted := column_sorted hcolumn
      rw [← List.take_append_drop _ column.2] at hsorted
      exact (List.pairwise_append.mp hsorted).2.2 item hmem item' hleft
  · intro name
    by_cases hname : ∃ item ∈ reviewable sanitize rows, familyOf str isDecimal item.1 = name
    · obtain ⟨item, hitem, rfl⟩ := hname
      obtain ⟨column, hcolumn, hname⟩ := column_of_reviewable hitem
      rw [← hname, (hcolumns column hcolumn).1]
      exact (column_sorted hcolumn).sublist (List.take_sublist _ _)
    · have hnone : picks.filter (fun item => familyOf str isDecimal item.1 = name) = [] := by
        rw [List.filter_eq_nil_iff]
        intro item hitem hfamily
        exact hname ⟨item, hreviewable item hitem, of_decide_eq_true hfamily⟩
      rw [hnone]
      exact List.Pairwise.nil

end CommerceAgent.Review
