import CommerceAgent.ReportAggregates

/-! The report of an evaluation counts every attempt of a known case once, and does not depend on the
order in which the cases are driven. -/
namespace CommerceAgent.Harness

open Rounding Rearrangements

section Attempts

variable {π : Platform} {e : FullEvaluation}

theorem base_caseOf (id : String) : e.base.caseOf id = (e.caseOf id).map FullCase.toEvalCase := by
  rw [Evaluation.caseOf, FullEvaluation.caseOf, FullEvaluation.base, ← List.map_reverse, List.find?_map]
  rfl

theorem base_judgeAt (key : String) : e.base.judgeAt key = (e.judgeAt key).map FullJudge.toJudgeResult := by
  rw [Evaluation.judgeAt, FullEvaluation.judgeAt, FullEvaluation.base, List.find?_map, Option.map_map,
    Option.map_map]
  rfl

theorem base_judgeOf (caseId : String) (attemptIndex : ℕ) :
    e.base.judgeOf caseId attemptIndex = (e.judgeOf caseId attemptIndex).map FullJudge.toJudgeResult := by
  rw [Evaluation.judgeOf, FullEvaluation.judgeOf, base_judgeAt, base_judgeAt]
  cases e.judgeAt (caseId ++ "#" ++ toString attemptIndex) <;> rfl

theorem base_attemptsAfter (before : List FullAttempt) (results : List FullDriven) :
    e.base.attemptsAfter (before.map FullAttempt.base) (results.map FullDriven.toDrivenCase) =
      (e.attemptsAfter before results).map FullAttempt.base := by
  induction results generalizing before with
  | nil => rfl
  | cons driven results ih =>
    rw [List.map_cons, Evaluation.attemptsAfter, FullEvaluation.attemptsAfter, base_caseOf]
    cases e.caseOf driven.caseId with
    | none => exact ih before
    | some case =>
      have hindex : (before.map FullAttempt.base).countP (fun a => a.case.id = case.id) =
          before.countP fun a => a.case.id = case.id := by
        rw [List.countP_map]
        rfl
      simp only [Option.map_some, List.map_cons]
      rw [hindex, base_judgeOf, ← ih, List.map_append]
      rfl

/-- The gate reads the rows of the report. -/
theorem base_rows : e.base.rows π = (e.rows π).map FullRow.toCaseReport := by
  have hattempts : e.base.attempts = e.attempts.map FullAttempt.base := base_attemptsAfter [] e.results
  have hrequested : e.base.judgeRequested = e.judgeRequested := by
    rw [Evaluation.judgeRequested, FullEvaluation.judgeRequested, FullEvaluation.base, List.isEmpty_map]
  rw [Evaluation.rows, FullEvaluation.rows, hattempts, hrequested, List.map_map, List.map_map]
  rfl

theorem id_of_caseOf {id : String} {case : FullCase} (h : e.caseOf id = some case) : case.id = id := by
  simpa using List.find?_some h

/-- A result of an unknown case is as if it was not there. -/
theorem attemptsAfter_known (before : List FullAttempt) (results : List FullDriven) :
    e.attemptsAfter before (results.filter fun driven => (e.caseOf driven.caseId).isSome) =
      e.attemptsAfter before results := by
  induction results generalizing before with
  | nil => rfl
  | cons driven results ih =>
    cases hcase : e.caseOf driven.caseId with
    | none =>
      rw [List.filter_cons_of_neg (by simp [hcase]), FullEvaluation.attemptsAfter, hcase]
      exact ih before
    | some case =>
      rw [List.filter_cons_of_pos (by simp [hcase]), FullEvaluation.attemptsAfter,
        FullEvaluation.attemptsAfter, hcase]
      exact congrArg _ (ih _)

/-- The attempts of a case depend on its own results alone. -/
theorem attemptsAfter_filter (id : String) (before : List FullAttempt) (results : List FullDriven) :
    (e.attemptsAfter before results).filter (fun a => a.case.id = id) =
      e.attemptsAfter (before.filter fun a => a.case.id = id)
        (results.filter fun driven => driven.caseId = id) := by
  induction results generalizing before with
  | nil => rfl
  | cons driven results ih =>
    cases hcase : e.caseOf driven.caseId with
    | none =>
      rw [FullEvaluation.attemptsAfter, hcase]
      dsimp only
      rw [ih before, List.filter_cons]
      split
      · rw [FullEvaluation.attemptsAfter, hcase]
      · rfl
    | some case =>
      have hid := id_of_caseOf hcase
      rw [FullEvaluation.attemptsAfter, hcase]
      dsimp only
      by_cases h : driven.caseId = id
      · have hown : decide (case.id = id) = true := decide_eq_true (hid.trans h)
        have hindex : (before.filter fun a => a.case.id = id).countP (fun a => a.case.id = case.id) =
            before.countP fun a => a.case.id = case.id := by
          rw [List.countP_filter]
          apply List.countP_congr
          intro a _
          simp [hid, h]
        have hresults : (driven :: results).filter (fun driven => driven.caseId = id) =
            driven :: results.filter fun driven => driven.caseId = id :=
          List.filter_cons_of_pos (decide_eq_true h)
        have hattempt : ∀ (judge : Option FullJudge) (rest : List FullAttempt),
            (⟨case, driven, judge⟩ :: rest).filter (fun a => a.case.id = id) =
              ⟨case, driven, judge⟩ :: rest.filter fun a => a.case.id = id :=
          fun judge rest => List.filter_cons_of_pos hown
        rw [hattempt, ih, List.filter_append, hresults, hattempt, List.filter_nil,
          FullEvaluation.attemptsAfter, hcase]
        dsimp only
        rw [hindex]
      · have hother : ¬ decide (case.id = id) = true := by simpa [hid] using h
        have hresults : (driven :: results).filter (fun driven => driven.caseId = id) =
            results.filter fun driven => driven.caseId = id :=
          List.filter_cons_of_neg (by simpa using h)
        have hattempt : ∀ (judge : Option FullJudge) (rest : List FullAttempt),
            (⟨case, driven, judge⟩ :: rest).filter (fun a => a.case.id = id) =
              rest.filter fun a => a.case.id = id :=
          fun judge rest => List.filter_cons_of_neg hother
        rw [hattempt, ih, List.filter_append, hresults, hattempt, List.filter_nil, List.append_nil]

/-- Which attempts there are depends on the results alone, given the cases and the judges. -/
theorem attemptsAfter_results {results : List FullDriven} (before : List FullAttempt) (l : List FullDriven) :
    FullEvaluation.attemptsAfter { e with results } before l = e.attemptsAfter before l := by
  induction l generalizing before with
  | nil => rfl
  | cons driven l ih =>
    have hcase : FullEvaluation.caseOf { e with results } driven.caseId = e.caseOf driven.caseId := rfl
    rw [FullEvaluation.attemptsAfter, FullEvaluation.attemptsAfter, hcase]
    cases e.caseOf driven.caseId with
    | none => exact ih before
    | some case => exact congrArg _ (ih _)

/-- Results whose cases keep the order of their attempts leave rows that do. -/
theorem rows_rearranged {results : List FullDriven}
    (h : Rearranged (fun driven => driven.caseId) e.results results) :
    Rearranged (fun row : FullRow => row.caseId) (e.rows π) (FullEvaluation.rows π { e with results }) := by
  have hattempts : Rearranged (fun a : FullAttempt => a.case.id) e.attempts (e.attemptsAfter [] results) := by
    apply Rearranged.of_groups
    intro id
    rw [FullEvaluation.attempts, attemptsAfter_filter, attemptsAfter_filter, h.groups id]
  have hrows : FullEvaluation.rows π { e with results } =
      (e.attemptsAfter [] results).map (FullAttempt.row π e.judgeRequested) := by
    rw [FullEvaluation.rows, FullEvaluation.attempts, attemptsAfter_results]
    rfl
  rw [hrows]
  exact hattempts.map (FullAttempt.row π e.judgeRequested) (fun row => row.caseId) fun _ => rfl

end Attempts

section Orders

variable {rows rows' : List FullRow}

theorem scopeRows_perm (h : rows.Perm rows') (scope : String) :
    (scopeRows rows scope).Perm (scopeRows rows' scope) :=
  h.flatMap_right _

theorem meanStats_perm {scores scores' : List ℚ} (h : scores.Perm scores') :
    meanStats scores = meanStats scores' := by
  rw [meanStats, meanStats, h.sum_eq, h.length_eq]
  simp only [eq_nil_iff_of_perm h]

theorem distribution_perm {values values' : List ℚ} (h : values.Perm values') :
    distribution values = distribution values' := by
  rw [distribution, distribution, insertionSort_le_eq_of_perm h]
  simp only [eq_nil_iff_of_perm h]

theorem judgeDimensionStats_perm (h : rows.Perm rows') :
    judgeDimensionStats rows = judgeDimensionStats rows' := by
  funext scope name
  exact meanStats_perm ((scopeRows_perm h scope).flatMap_right _)

theorem judgeScoreStats_perm (h : rows.Perm rows') : judgeScoreStats rows = judgeScoreStats rows' := by
  funext scope
  exact meanStats_perm (((scopeRows_perm h scope).filter _).filterMap _)

theorem performanceStats_perm (h : rows.Perm rows') : performanceStats rows = performanceStats rows' := by
  funext scope name
  have hscope := scopeRows_perm h scope
  have hmetric : ∀ metric : FullRow → Option ℚ, distribution ((scopeRows rows scope).filterMap metric) =
      distribution ((scopeRows rows' scope).filterMap metric) :=
    fun metric => distribution_perm (hscope.filterMap metric)
  rw [performanceStats, performanceStats]
  simp only [eq_nil_iff_of_perm hscope, hmetric]

theorem safetyStats_perm (h : rows.Perm rows') : safetyStats rows = safetyStats rows' := by
  have hsafety := h.filter fun row => decide (row.track = "safety_response_v2")
  rw [safetyStats, safetyStats]
  simp only [eq_nil_iff_of_perm hsafety, hsafety.countP_eq, hsafety.length_eq]

theorem longTailStats_perm (h : rows.Perm rows') : longTailStats rows = longTailStats rows' := by
  have hlong := h.filter fun row => decide (row.track = "long_tail_response_v1")
  rw [longTailStats, longTailStats]
  simp only [eq_nil_iff_of_perm hlong, hlong.countP_eq, hlong.length_eq]

theorem hardDimensionStats_perm (h : rows.Perm rows') :
    hardDimensionStats rows = hardDimensionStats rows' := by
  funext track name
  have hvalues := (h.filter fun row => decide (row.track = track)).flatMap_right fun row =>
    (row.dimensions.filter fun dimension => dimension.1 = name).map Prod.snd
  rw [hardDimensionStats, hardDimensionStats]
  simp only [eq_nil_iff_of_perm hvalues, hvalues.count_eq, hvalues.length_eq]

theorem failureReasonStats_perm (h : rows.Perm rows') :
    failureReasonStats rows = failureReasonStats rows' := by
  funext reason
  exact (h.flatMap_right FullRow.hardFailReasons).count_eq reason

theorem ragStats_perm (h : rows.Perm rows') : ragStats rows = ragStats rows' := by
  have hrag := h.filter fun row => decide (row.track = "rag_grounding")
  have hsum : ∀ f : FullRow → ℕ, ((rows.filter fun row => decide (row.track = "rag_grounding")).map f).sum =
      ((rows'.filter fun row => decide (row.track = "rag_grounding")).map f).sum :=
    fun f => (hrag.map f).sum_eq
  rw [ragStats, ragStats]
  simp only [eq_nil_iff_of_perm hrag, hrag.countP_eq, hrag.length_eq, hsum]

theorem judgeModels_perm (h : rows.Perm rows') :
    ((rows.filterMap FullRow.judgeModel).filter (· ≠ "")).dedup.insertionSort (· ≤ ·) =
      ((rows'.filterMap FullRow.judgeModel).filter (· ≠ "")).dedup.insertionSort (· ≤ ·) :=
  insertionSort_le_eq_of_perm (((h.filterMap _).filter _).dedup)

end Orders

section Groups

variable {cases cases' : List CaseReport}

theorem grouped_eq : grouped cases = groupsBy CaseReport.caseId cases := rfl

theorem countP_grouped (h : Rearranged CaseReport.caseId cases cases') (p : List CaseReport → Bool) :
    (grouped cases).countP p = (grouped cases').countP p :=
  h.countP_groupsBy p

theorem length_grouped (h : Rearranged CaseReport.caseId cases cases') :
    (grouped cases).length = (grouped cases').length :=
  h.groupsBy_perm.length_eq

theorem caseShare_rearranged (h : Rearranged CaseReport.caseId cases cases') (p : List CaseReport → Bool) :
    caseShare cases p = caseShare cases' p := by
  have hnil : grouped cases = [] ↔ grouped cases' = [] := eq_nil_iff_of_perm h.groupsBy_perm
  rw [caseShare, caseShare, countP_grouped h, length_grouped h]
  simp only [hnil]

theorem trackStats_rearranged (h : Rearranged CaseReport.caseId cases cases') (repetitions : ℤ) :
    trackStats repetitions cases = trackStats repetitions cases' := by
  have hattempts : ((grouped cases).map List.length).sum = ((grouped cases').map List.length).sum :=
    (h.groupsBy_perm.map List.length).sum_eq
  rw [trackStats, trackStats]
  simp only [countP_grouped h, length_grouped h, hattempts]

/-- The tracks come in another order, with the same items. -/
theorem tracks_rearranged (h : Rearranged CaseReport.caseId cases cases') (repetitions : ℤ) :
    (tracks repetitions cases).Perm (tracks repetitions cases') := by
  have hitems : (fun name => (name, trackStats repetitions (cases.filter fun row => row.track = name))) =
      fun name => (name, trackStats repetitions (cases'.filter fun row => row.track = name)) := by
    funext name
    rw [trackStats_rearranged (h.filter fun row => decide (row.track = name))]
  rw [tracks, tracks, hitems]
  exact ((h.perm.map CaseReport.track).dedup).map _

end Groups

section Reports

variable {π : Platform} {e : FullEvaluation} {cases cases' : List CaseReport}

theorem reviewedSafetyStats_perm {rate : Rate} {labels : List (String × HumanSafetyLabel)}
    {thresholds : Option ReviewThresholds} (h : cases.Perm cases') :
    reviewedSafetyStats rate cases labels thresholds = reviewedSafetyStats rate cases' labels thresholds := by
  have hselected := h.filter fun row => decide (row.track ∈ REVIEWED_TRACKS)
  have hmissing : ∀ p : CaseReport → Bool,
      (((cases.filter fun row => decide (row.track ∈ REVIEWED_TRACKS)).filter p).map CaseReport.caseId).Perm
        (((cases'.filter fun row => decide (row.track ∈ REVIEWED_TRACKS)).filter p).map CaseReport.caseId) :=
    fun p => (hselected.filter p).map _
  have hempty : ∀ p : CaseReport → Bool,
      (((cases.filter fun row => decide (row.track ∈ REVIEWED_TRACKS)).filter p).map
        CaseReport.caseId).isEmpty =
      (((cases'.filter fun row => decide (row.track ∈ REVIEWED_TRACKS)).filter p).map
        CaseReport.caseId).isEmpty :=
    fun p => (hmissing p).isEmpty_eq
  have hsorted : ∀ p : CaseReport → Bool,
      (((cases.filter fun row => decide (row.track ∈ REVIEWED_TRACKS)).filter p).map
        CaseReport.caseId).dedup.insertionSort (· ≤ ·) =
      (((cases'.filter fun row => decide (row.track ∈ REVIEWED_TRACKS)).filter p).map
        CaseReport.caseId).dedup.insertionSort (· ≤ ·) :=
    fun p => insertionSort_le_eq_of_perm (hmissing p).dedup
  rw [reviewedSafetyStats, reviewedSafetyStats]
  simp only [hselected.countP_eq, hselected.isEmpty_eq, hempty, hsorted]

theorem judgeIncomplete_perm (h : cases.Perm cases') (requested : Bool) :
    judgeIncomplete requested cases = judgeIncomplete requested cases' := by
  rw [judgeIncomplete, judgeIncomplete, h.any_eq, h.any_eq]

/-- The gate's report over the same rows in another order. -/
theorem buildReport_rearranged (rate : Rate) {e e' : Evaluation} {results : List DrivenCase}
    (he : e' = { e with results }) (h : Rearranged CaseReport.caseId (e.rows π) (e'.rows π)) :
    buildReport π rate e' =
      (buildReport π rate e).map fun report => { report with results := e'.rows π } := by
  have hrequested : e'.judgeRequested = e.judgeRequested := by rw [he]; rfl
  have hmode : e'.mode = e.mode := by rw [he]
  have hrepetitions : e'.repetitions = e.repetitions := by rw [he]
  have hcancelled : e'.cancelled = e.cancelled := by rw [he]
  have hlabels : e'.humanSafetyLabels = e.humanSafetyLabels := by rw [he]
  have hthresholds : e'.reviewThresholds = e.reviewThresholds := by rw [he]
  rw [buildReport, buildReport, hrequested, hmode, hrepetitions, hcancelled, hlabels, hthresholds]
  simp only [← judgeIncomplete_perm h.perm, ← reviewedSafetyStats_perm h.perm, ← h.perm.any_eq,
    ← h.perm.all_eq, ← countP_grouped h, ← length_grouped h, ← h.perm.length_eq]
  cases e.humanSafetyLabels with
  | none => rfl
  | some labels =>
    dsimp only
    cases reviewedSafetyStats rate (e.rows π) labels e.reviewThresholds with
    | error message => rfl
    | ok stats => rfl

theorem base_results (results : List FullDriven) : FullEvaluation.base { e with results } =
    { e.base with results := results.map FullDriven.toDrivenCase } := rfl

/-- The rows of the gate keep the groups of the rows. -/
theorem base_rows_rearranged {results : List FullDriven}
    (h : Rearranged (fun row : FullRow => row.caseId) (e.rows π) (FullEvaluation.rows π { e with results })) :
    Rearranged CaseReport.caseId (e.base.rows π) (Evaluation.rows π (FullEvaluation.base { e with results })) := by
  rw [base_rows, base_rows]
  exact h.map FullRow.toCaseReport CaseReport.caseId fun _ => rfl

/-- The report over rows in an order that keeps that of each case: the tracks and the rows come in
another order, and nothing else changes. -/
theorem report_rearranged {results : List FullDriven}
    (h : Rearranged (fun row : FullRow => row.caseId) (e.rows π) (FullEvaluation.rows π { e with results })) :
    FullEvaluation.report π { e with results } = (e.report π).map fun report =>
      { report with
        results := Evaluation.rows π (FullEvaluation.base { e with results })
        tracks := tracks e.repetitions (Evaluation.rows π (FullEvaluation.base { e with results })) } := by
  have hrows := h.perm
  have hcases := base_rows_rearranged h
  have hbase := buildReport_rearranged roundedRate (base_results results) hcases
  have hreviewed : FullEvaluation.reviewed π { e with results } = e.reviewed π := by
    simp only [FullEvaluation.reviewed, ← reviewedSafetyStats_perm hcases.perm]
  rw [FullEvaluation.report, FullEvaluation.report, hbase, hreviewed]
  simp only [← judgeDimensionStats_perm hrows, ← judgeScoreStats_perm hrows, ← performanceStats_perm hrows,
    ← safetyStats_perm hrows, ← longTailStats_perm hrows, ← hardDimensionStats_perm hrows,
    ← failureReasonStats_perm hrows, ← ragStats_perm hrows, ← judgeModels_perm hrows,
    ← caseShare_rearranged hcases, ← countP_grouped hcases]
  cases buildReport π roundedRate e.base with
  | error message => rfl
  | ok base =>
    cases e.reviewed π with
    | error message => rfl
    | ok reviewed => rfl

end Reports

section Conservation

variable {π : Platform} {e : FullEvaluation} {report : FullReport}

theorem caseOf_of_mem_attemptsAfter {a : FullAttempt} {before : List FullAttempt} {results : List FullDriven}
    (h : a ∈ e.attemptsAfter before results) : e.caseOf a.driven.caseId = some a.case := by
  induction results generalizing before with
  | nil => exact absurd h List.not_mem_nil
  | cons driven results ih =>
    rw [FullEvaluation.attemptsAfter] at h
    cases hcase : e.caseOf driven.caseId with
    | none =>
      rw [hcase] at h
      exact ih h
    | some case =>
      rw [hcase] at h
      rcases List.mem_cons.mp h with rfl | h
      · exact hcase
      · exact ih h

/-- Rows of one case are rows of one track. -/
theorem track_of_caseId : ∀ row ∈ e.base.rows π, ∀ row' ∈ e.base.rows π,
    row.caseId = row'.caseId → row.track = row'.track := by
  have hmem : ∀ row ∈ e.base.rows π, ∃ case, e.caseOf row.caseId = some case ∧ row.track = case.taskType := by
    intro row hrow
    rw [base_rows] at hrow
    obtain ⟨full, hfull, rfl⟩ := List.mem_map.mp hrow
    obtain ⟨a, ha, rfl⟩ := List.mem_map.mp hfull
    have hcase := caseOf_of_mem_attemptsAfter ha
    have hid : (a.row π e.judgeRequested).caseId = a.driven.caseId := id_of_caseOf hcase
    exact ⟨a.case, hid ▸ hcase, rfl⟩
  intro row hrow row' hrow' hid
  obtain ⟨case, hcase, htrack⟩ := hmem row hrow
  obtain ⟨case', hcase', htrack'⟩ := hmem row' hrow'
  rw [← hid, hcase] at hcase'
  rw [htrack, htrack', Option.some.inj hcase']

theorem buildReport_counts {rate : Rate} {base : Evaluation} {report : Report}
    (h : buildReport π rate base = .ok report) :
    report.selectedCases = (grouped (base.rows π)).length ∧
    report.attempts = (base.rows π).length ∧
    report.passedCases = (grouped (base.rows π)).countP (repeatedPass base.repetitions) ∧
    report.failedCases = (grouped (base.rows π)).countP (fun values => !repeatedPass base.repetitions values) ∧
    report.results = base.rows π := by
  unfold buildReport at h
  cases hlabels : base.humanSafetyLabels with
  | none =>
    rw [hlabels] at h
    obtain rfl := Except.ok.inj h
    exact ⟨rfl, rfl, rfl, rfl, rfl⟩
  | some labels =>
    rw [hlabels] at h
    dsimp only at h
    cases hstats : reviewedSafetyStats rate (base.rows π) labels base.reviewThresholds with
    | error message =>
      rw [hstats] at h
      exact nomatch h
    | ok stats =>
      rw [hstats] at h
      obtain rfl := Except.ok.inj h
      exact ⟨rfl, rfl, rfl, rfl, rfl⟩

/-- The gate's part of a report, and its tracks. -/
theorem report_ok (h : e.report π = .ok report) :
    buildReport π roundedRate e.base = .ok report.toReport ∧
      report.tracks = tracks e.repetitions (e.base.rows π) ∧ report.results = e.base.rows π := by
  rw [FullEvaluation.report] at h
  cases hbase : buildReport π roundedRate e.base with
  | error message =>
    rw [hbase] at h
    exact nomatch h
  | ok base =>
    cases hreviewed : e.reviewed π with
    | error message =>
      rw [hbase, hreviewed] at h
      exact nomatch h
    | ok reviewed =>
      rw [hbase, hreviewed] at h
      obtain rfl := Except.ok.inj h
      exact ⟨rfl, rfl, (buildReport_counts hbase).2.2.2.2⟩

/-- The counts of a report agree: the cases with their verdicts, and the tracks with the whole. -/
structure Conserved (report : FullReport) : Prop where
  verdicts : report.passedCases + report.failedCases = report.selectedCases
  selected : (report.tracks.map fun track => track.2.selected).sum = report.selectedCases
  attempts : (report.tracks.map fun track => track.2.attempts).sum = report.attempts
  finalPass : (report.tracks.map fun track => track.2.finalPass).sum = report.passedCases

theorem report_conserved (h : e.report π = .ok report) : Conserved report := by
  obtain ⟨hbase, htracks, _⟩ := report_ok h
  obtain ⟨hselected, hattempts, hpassed, hfailed, _⟩ := buildReport_counts hbase
  have hclasses := sum_countP_classes (track_of_caseId (π := π) (e := e))
  refine ⟨?_, ?_, ?_, ?_⟩
  · rw [hpassed, hfailed, hselected]
    have hlength := List.length_eq_countP_add_countP (repeatedPass e.repetitions)
      (l := grouped (e.base.rows π))
    simp only [decide_not, Bool.decide_eq_true] at hlength
    exact hlength.symm
  · rw [htracks, hselected, tracks, List.map_map]
    have hgroups := hclasses fun _ => true
    simp only [List.countP_true] at hgroups
    exact hgroups
  · rw [htracks, hattempts, tracks, List.map_map]
    calc (((e.base.rows π).map CaseReport.track).dedup.map fun name =>
          ((grouped ((e.base.rows π).filter fun row => row.track = name)).map List.length).sum).sum
        = ((groupsBy CaseReport.track (e.base.rows π)).map List.length).sum := by
          rw [groupsBy, List.map_map]
          exact congrArg List.sum (List.map_congr_left fun name _ => sum_length_groupsBy)
      _ = (e.base.rows π).length := sum_length_groupsBy
  · rw [htracks, hpassed, tracks, List.map_map]
    exact hclasses (repeatedPass e.repetitions)

/-- The results of unknown cases are as if they were not there. -/
theorem report_known : FullEvaluation.report π { e with
    results := e.results.filter fun driven => (e.caseOf driven.caseId).isSome } = e.report π := by
  have hrows : FullEvaluation.rows π { e with
      results := e.results.filter fun driven => (e.caseOf driven.caseId).isSome } = e.rows π := by
    rw [FullEvaluation.rows, FullEvaluation.attempts, attemptsAfter_results, attemptsAfter_known]
    rfl
  have hcases : Evaluation.rows π (FullEvaluation.base { e with
      results := e.results.filter fun driven => (e.caseOf driven.caseId).isSome }) = e.base.rows π := by
    rw [base_rows, base_rows, hrows]
  rw [report_rearranged (hrows ▸ ⟨.refl _, fun _ => rfl⟩), hcases]
  cases hreport : e.report π with
  | error message => rfl
  | ok report =>
    obtain ⟨_, htracks, hresults⟩ := report_ok hreport
    rw [← htracks, ← hresults]
    rfl

/-- A report in which nothing but the order of the rows and of the tracks differs. -/
def SameAggregates (x y : Except String FullReport) : Prop :=
  ∃ results tracks, y = x.map (fun report => { report with results, tracks }) ∧
    ∀ report, x = .ok report → report.results.Perm results ∧ report.tracks.Perm tracks

/-- A report conserves its counts, takes nothing from the results of unknown cases, and aggregates the
same from the results in any order that keeps the attempts of each case in theirs. -/
theorem report_conservation (π : Platform) (e : FullEvaluation) :
    (∀ report, e.report π = .ok report → Conserved report) ∧
    FullEvaluation.report π { e with
      results := e.results.filter fun driven => (e.caseOf driven.caseId).isSome } = e.report π ∧
    ∀ results, Rearranged (fun driven : FullDriven => driven.caseId) e.results results →
      SameAggregates (e.report π) (FullEvaluation.report π { e with results }) := by
  refine ⟨fun report => report_conserved, report_known, ?_⟩
  intro results h
  have hcases := base_rows_rearranged (rows_rearranged (π := π) h)
  refine ⟨_, _, report_rearranged (rows_rearranged h), ?_⟩
  intro report hreport
  obtain ⟨_, htracks, hresults⟩ := report_ok hreport
  rw [htracks, hresults]
  exact ⟨hcases.perm, tracks_rearranged hcases e.repetitions⟩

end Conservation

section Demo

def demoDriven (caseId : String) (passed : Bool) : FullDriven where
  caseId := caseId
  passed := passed

/-- Two attempts of one case, with one of another case between them. -/
def demoInterleaved : FullEvaluation where
  cases := [{ id := "order_case", taskType := "order_status" }, { id := "rag_case", taskType := "rag_grounding" }]
  results := [demoDriven "order_case" true, demoDriven "rag_case" true, demoDriven "order_case" false]

/-- The other case may as well come last. -/
theorem report_conservation_interleaved :
    SameAggregates (demoInterleaved.report demoPlatform) (FullEvaluation.report demoPlatform
      { demoInterleaved with results := [demoDriven "order_case" true, demoDriven "order_case" false,
        demoDriven "rag_case" true] }) := by
  apply (report_conservation demoPlatform demoInterleaved).2.2
  apply Rearranged.of_groups
  intro id
  by_cases horder : "order_case" = id
  · subst horder
    rfl
  · simp [demoInterleaved, demoDriven, List.filter_cons, horder]

end Demo

end CommerceAgent.Harness
