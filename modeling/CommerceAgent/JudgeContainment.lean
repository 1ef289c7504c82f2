import CommerceAgent.RubricJudges

/-! Which responses the judges survive, and what a case has passed by that they let pass. -/
namespace CommerceAgent.Judging

open Json Provider

/-- A response out of whose body this object is parsed. -/
def Answers (π : Codec) (attempt : HttpOutcome) (body : Payload) (parsed : Members) : Prop :=
  ∃ status text, attempt = .response status (.value body) ∧ isSuccess status ∧
    HasContent body (.str text) ∧ parseJsonObject π text = .ok parsed

/-- The responses out of which `_call` raises what is not caught. -/
inductive Crash (π : Codec) : HttpOutcome → Prop
  | deepBody {status : ℕ} (success : isSuccess status) : Crash π (.response status .tooDeep)
  | noChoice {status : ℕ} {body : Payload} (success : isSuccess status) (none : NoChoice body) :
      Crash π (.response status (.value body))
  | deepText {status : ℕ} {body : Payload} {text : String} (success : isSuccess status)
      (found : HasContent body (.str text))
      (deep : parseJsonObject π text = .error .recursionError) :
      Crash π (.response status (.value body))

/-- The identity, the dimensions and the range that `_normalize` checks. -/
structure Fits (subjectId : String) (rubric : Rubric) (output : JudgeOutput) : Prop where
  subject_eq : output.subjectId = subjectId
  rubric_eq : output.rubricId = rubric.id
  names : ∀ name, name ∈ output.dimensionScores.map Prod.fst ↔ name ∈ rubric.names
  range : ∀ score ∈ output.dimensionScores, 0 ≤ score.2 ∧ score.2 ≤ 4

/-- What lets an output pass. -/
structure Passes (minimum : ℚ) (rubric : Rubric) (output : JudgeOutput) : Prop where
  reaches : minimum ≤ rubric.weighted output
  critical : ∀ d ∈ byName rubric.dimensions, d.critical = true → 2 ≤ output.score d.name
  clean : output.criticalViolations = []

/-- What `body.get("usage")` leaves in the parsed object. -/
def providerUsage (body : Payload) : Payload := (rawUsage body).getD .null

/-- An object that validates as an output that `_normalize` accepts. -/
def Yields (π : Codec) (coerce : Members → Members) (subjectId : String) (rubric : Rubric)
    (attempt : HttpOutcome) (output : JudgeOutput) : Prop :=
  ∃ body parsed, Answers π attempt body parsed ∧
    π.validate (Members.pop (coerce parsed) PROVIDER_USAGE) = some output ∧
    Fits subjectId rubric output

/-- The charge of a count has more digits than a `Decimal` keeps. -/
def Overflows (pricing : Option Costs.ModelPricing) (usage : Option Payload) : Prop :=
  ∃ p ∈ pricing, ∃ u ∈ normalizeUsage usage, ∃ line ∈ lines u p, ∃ tokens ∈ line.1,
    10 ^ 28 ≤ decimal (line.2 * tokens)

/-- An answer whose usage cannot be charged. -/
def Overcharged (π : Codec) (pricing : Option Costs.ModelPricing) (attempt : HttpOutcome) : Prop :=
  ∃ body parsed, Answers π attempt body parsed ∧ Overflows pricing (some (providerUsage body))

section Calls

variable {π : Codec} {coerce : Members → Members} {attempt : HttpOutcome} {e : Fault}

theorem firstObject_error {rawDecode : String → Decoded} {text : List Char}
    (h : firstObject rawDecode text = .error e) : e.Malformed ∨ e = .recursionError := by
  induction text with
  | nil => exact Or.inl (Except.error.inj h ▸ trivial)
  | cons c rest ih =>
    rw [firstObject] at h
    split_ifs at h
    · split at h
      · exact nomatch h
      · exact ih h
      · exact ih h
      · exact Or.inl (Except.error.inj h ▸ trivial)
      · exact Or.inr (Except.error.inj h).symm
    · exact ih h

theorem parseJsonObject_error {content : String} (h : parseJsonObject π content = .error e) :
    e.Malformed ∨ e = .recursionError := by
  unfold parseJsonObject at h
  dsimp only at h
  split at h
  · exact nomatch h
  · exact Or.inl (Except.error.inj h ▸ trivial)
  · exact firstObject_error h
  · exact Or.inl (Except.error.inj h ▸ trivial)
  · exact Or.inr (Except.error.inj h).symm

theorem bodyOf_eq_ok {body : Payload} : bodyOf attempt = .ok body ↔
    ∃ status, attempt = .response status (.value body) ∧ isSuccess status := by
  cases attempt with
  | response status delivered =>
    by_cases hsuccess : isSuccess status
    · simp only [bodyOf, if_pos hsuccess, HttpOutcome.response.injEq]
      constructor
      · intro h
        exact ⟨status, ⟨rfl, eq_value_of_get h⟩, hsuccess⟩
      · rintro ⟨_, ⟨rfl, rfl⟩, _⟩
        rfl
    · simp only [bodyOf, if_neg hsuccess, HttpOutcome.response.injEq, reduceCtorEq, false_iff]
      rintro ⟨_, ⟨rfl, -⟩, h⟩
      exact hsuccess h
  | _ => simp [bodyOf]

theorem bodyOf_error (π : Codec) (h : bodyOf attempt = .error e) :
    e.Handled ∨ e = .recursionError ∧ Crash π attempt := by
  cases attempt with
  | response status delivered =>
    simp only [bodyOf] at h
    split_ifs at h with hsuccess
    · rcases get_error h with hmalformed | ⟨rfl, rfl⟩
      · exact Or.inl (Or.inl hmalformed)
      · exact Or.inr ⟨rfl, .deepBody hsuccess⟩
    · exact Or.inl (Or.inr (Except.error.inj h).symm)
  | _ => exact Or.inl (Or.inr (Except.error.inj h).symm)

theorem call_eq_ok {raw : Members} : call π coerce attempt = .ok raw ↔
    ∃ body parsed, Answers π attempt body parsed ∧
      raw = Members.set (coerce parsed) PROVIDER_USAGE (providerUsage body) := by
  constructor
  · intro h
    obtain ⟨body, hbody, hindexed⟩ := Except.bind_eq_ok.mp h
    obtain ⟨content, hcontent, hread⟩ := Except.bind_eq_ok.mp hindexed
    obtain ⟨status, heq, hsuccess⟩ := bodyOf_eq_ok.mp hbody
    have hfound := contentOf_eq_ok.mp hcontent
    split at hread
    · obtain ⟨parsed, hparsed, hdone⟩ := Except.bind_eq_ok.mp hread
      exact ⟨body, parsed, ⟨status, _, heq, hsuccess, hfound, hparsed⟩, (Except.ok.inj hdone).symm⟩
    · exact nomatch hread
  · rintro ⟨body, parsed, ⟨status, text, rfl, hsuccess, hfound, hparsed⟩, rfl⟩
    have hbody : bodyOf (.response status (.value body)) = .ok body :=
      bodyOf_eq_ok.mpr ⟨status, rfl, hsuccess⟩
    simp only [call, hbody, bind, Except.bind, contentOf_eq_ok.mpr hfound, hparsed, providerUsage]
    rfl

theorem call_error (h : call π coerce attempt = .error e) :
    e.Handled ∨ e.Escapes ∧ Crash π attempt := by
  rcases Except.bind_eq_error h with hbody | ⟨body, hbody, hindexed⟩
  · rcases bodyOf_error π hbody with hhandled | ⟨rfl, hcrash⟩
    · exact Or.inl hhandled
    · exact Or.inr ⟨trivial, hcrash⟩
  obtain ⟨status, rfl, hsuccess⟩ := bodyOf_eq_ok.mp hbody
  rcases Except.bind_eq_error hindexed with hcontent | ⟨content, hcontent, hread⟩
  · rcases contentOf_error hcontent with hmalformed | ⟨rfl, hnone⟩
    · exact Or.inl (Or.inl hmalformed)
    · exact Or.inr ⟨trivial, .noChoice hsuccess hnone⟩
  split at hread
  · rcases Except.bind_eq_error hread with hparsed | ⟨parsed, _, hdone⟩
    · rcases parseJsonObject_error hparsed with hmalformed | rfl
      · exact Or.inl (Or.inl hmalformed)
      · exact Or.inr ⟨trivial, .deepText hsuccess (contentOf_eq_ok.mp hcontent) hparsed⟩
    · exact nomatch hdone
  · exact Or.inl (Or.inl (Except.error.inj hread ▸ trivial))

variable (coerce) in
theorem call_crash (h : Crash π attempt) :
    ∃ e, call π coerce attempt = .error e ∧ e.Escapes := by
  cases h with
  | deepBody hsuccess =>
    refine ⟨.recursionError, ?_, trivial⟩
    simp only [call, bodyOf, if_pos hsuccess, Decoded.get, bind, Except.bind]
  | noChoice hsuccess hnone =>
    refine ⟨.indexError, ?_, trivial⟩
    simp only [call, bodyOf, if_pos hsuccess, Decoded.get, bind, Except.bind,
      contentOf_noChoice hnone]
  | deepText hsuccess hfound hdeep =>
    refine ⟨.recursionError, ?_, trivial⟩
    simp only [call, bodyOf, if_pos hsuccess, Decoded.get, bind, Except.bind,
      contentOf_eq_ok.mpr hfound, hdeep]

end Calls

section Scores

variable {keep : List String → List String} {minimum : ℚ} {subjectId : String} {rubric : Rubric}
  {output : JudgeOutput}

theorem mem_byName_names {name : String} : ∀ {l : List Dimension},
    name ∈ (byName l).map Dimension.name ↔ name ∈ l.map Dimension.name
  | [] => Iff.rfl
  | d :: rest => by
    rw [byName, List.map_cons, List.mem_cons, ← mem_byName_names (l := rest)]
    split_ifs with hany
    · refine ⟨Or.inr, ?_⟩
      rintro (rfl | hrest)
      · obtain ⟨d', hd', hname⟩ := List.any_eq_true.mp hany
        rw [mem_byName_names]
        exact List.mem_map.mpr ⟨d', hd', of_decide_eq_true hname⟩
      · exact hrest
    · rw [List.map_cons, List.mem_cons]

theorem nodup_byName : ∀ {l : List Dimension}, ((byName l).map Dimension.name).Nodup
  | [] => List.nodup_nil
  | d :: rest => by
    rw [byName]
    split_ifs with hany
    · exact nodup_byName
    · refine List.nodup_cons.mpr ⟨fun hmem => hany ?_, nodup_byName⟩
      obtain ⟨d', hd', hname⟩ := List.mem_map.mp (mem_byName_names.mp hmem)
      exact List.any_eq_true.mpr ⟨d', hd', decide_eq_true hname⟩

/-- A dimension is the one that its name is looked up with. -/
theorem find?_byName {ds : List Dimension} (hnodup : (ds.map Dimension.name).Nodup)
    {d : Dimension} (hd : d ∈ ds) : ds.find? (·.name = d.name) = some d := by
  induction ds with
  | nil => exact nomatch hd
  | cons d' ds ih =>
    obtain ⟨hnot, hrest⟩ := List.nodup_cons.mp hnodup
    rcases List.mem_cons.mp hd with rfl | hd
    · simp
    · have hne : d'.name ≠ d.name := fun heq => hnot (heq ▸ List.mem_map_of_mem hd)
      rw [List.find?_cons_of_neg (by simp [hne])]
      exact ih hrest hd

theorem lookup_score {scores : List (String × ℤ)} (hnodup : (scores.map Prod.fst).Nodup)
    {name : String} {value : ℤ} (h : (name, value) ∈ scores) : scores.lookup name = some value := by
  induction scores with
  | nil => exact nomatch h
  | cons head scores ih =>
    obtain ⟨hnot, hrest⟩ := List.nodup_cons.mp hnodup
    rcases List.mem_cons.mp h with rfl | hmem
    · simp
    · have hne : name ≠ head.1 := fun heq => hnot (heq ▸ List.mem_map_of_mem hmem)
      rw [List.lookup_cons, beq_eq_false_iff_ne.mpr hne]
      exact ih hrest hmem

theorem score_of_mem {name : String} {value : ℤ} (h : (name, value) ∈ output.dimensionScores) :
    output.score name = value := by
  rw [JudgeOutput.score, lookup_score output.nodup_dimensionScores h, Option.getD_some]

/-- The check of the critical dimensions goes over the scores, which have the names of the rubric. -/
theorem criticalLow_eq_false (hfits : Fits subjectId rubric output) :
    (output.dimensionScores.any fun score =>
        ((byName rubric.dimensions).find? (·.name = score.1)).any Dimension.critical &&
          score.2 < 2) = false ↔
      ∀ d ∈ byName rubric.dimensions, d.critical = true → 2 ≤ output.score d.name := by
  rw [List.any_eq_false]
  constructor
  · intro hnone d hd hcritical
    have hname : d.name ∈ rubric.names := mem_byName_names.mp (List.mem_map_of_mem hd)
    obtain ⟨⟨name, value⟩, hscore, rfl⟩ := List.mem_map.mp ((hfits.names d.name).mpr hname)
    have hlow := hnone _ hscore
    rw [find?_byName nodup_byName hd, Option.any_some, hcritical, Bool.true_and,
      decide_eq_true_iff, not_lt] at hlow
    rw [score_of_mem hscore]
    exact hlow
  · rintro hall ⟨name, value⟩ hscore hlow
    obtain ⟨hany, hlow⟩ := Bool.and_eq_true_iff.mp hlow
    cases hfind : (byName rubric.dimensions).find? (·.name = name) with
    | none => exact Bool.false_ne_true (by rwa [hfind] at hany)
    | some d =>
      have hname := List.find?_some hfind
      obtain rfl : d.name = name := of_decide_eq_true hname
      have hcritical : d.critical = true := by rwa [hfind] at hany
      have htwo := hall d (List.mem_of_find?_eq_some hfind) hcritical
      rw [score_of_mem hscore] at htwo
      exact absurd (of_decide_eq_true hlow) (not_lt.mpr htwo)

theorem normalize_eq_ok {judgement : Judgement}
    (h : normalize keep minimum subjectId rubric output = .ok judgement) :
    Fits subjectId rubric output ∧ judgement.passed = (decide (minimum ≤ rubric.weighted output) &&
      !(output.dimensionScores.any fun score =>
        ((byName rubric.dimensions).find? (·.name = score.1)).any Dimension.critical &&
          score.2 < 2) && (keep output.criticalViolations).isEmpty) := by
  unfold normalize at h
  split_ifs at h with hidentity hnames hrange
  obtain rfl := Except.ok.inj h
  rw [not_or, not_not, not_not] at hidentity
  refine ⟨⟨hidentity.1, hidentity.2, fun name => ?_, fun score hscore => ?_⟩, rfl⟩
  · rw [← List.mem_toFinset, not_not.mp hnames, List.mem_toFinset]
  · have hall := List.any_eq_false.mp (Bool.eq_false_iff.mpr hrange) score hscore
    rw [Bool.or_eq_true, not_or, decide_eq_true_iff, decide_eq_true_iff] at hall
    omega

variable (keep minimum) in
theorem exists_normalize (hfits : Fits subjectId rubric output) :
    ∃ judgement, normalize keep minimum subjectId rubric output = .ok judgement := by
  have hidentity : ¬(output.subjectId ≠ subjectId ∨ output.rubricId ≠ rubric.id) := by
    rw [not_or, not_not, not_not]
    exact ⟨hfits.subject_eq, hfits.rubric_eq⟩
  have hnames : (output.dimensionScores.map Prod.fst).toFinset = rubric.names.toFinset := by
    ext name
    rw [List.mem_toFinset, List.mem_toFinset, hfits.names]
  have hrange : ¬(output.dimensionScores.any fun score => score.2 < 0 || 4 < score.2) = true := by
    rw [Bool.not_eq_true, List.any_eq_false]
    intro score hscore hout
    rw [Bool.or_eq_true, decide_eq_true_iff, decide_eq_true_iff] at hout
    have := hfits.range score hscore
    omega
  rw [normalize, if_neg hidentity, if_neg (not_not.mpr hnames), if_neg hrange]
  exact ⟨_, rfl⟩

theorem normalize_error {e : Fault}
    (h : normalize keep minimum subjectId rubric output = .error e) : e = .valueError := by
  unfold normalize at h
  split_ifs at h <;> exact (Except.error.inj h).symm

/-- Keeping only some of the violations is no matter: what counts is whether there is one. -/
theorem passes_of_normalize (hkeep : ∀ violations, keep violations = [] → violations = [])
    {judgement : Judgement} (h : normalize keep minimum subjectId rubric output = .ok judgement)
    (hpassed : judgement.passed = true) : Passes minimum rubric output := by
  obtain ⟨hfits, heq⟩ := normalize_eq_ok h
  rw [heq, Bool.and_eq_true, Bool.and_eq_true, decide_eq_true_iff, Bool.not_eq_true'] at hpassed
  obtain ⟨⟨hreaches, hcritical⟩, hclean⟩ := hpassed
  exact ⟨hreaches, (criticalLow_eq_false hfits).mp hcritical,
    hkeep _ (List.isEmpty_iff.mp hclean)⟩

end Scores

section Charges

variable {pricing : Option Costs.ModelPricing} {usage : Option Payload}

/-- The charge of this line is too large. -/
def TooLarge (line : Option ℕ × ℚ≥0) : Prop :=
  ∃ tokens ∈ line.1, 10 ^ 28 ≤ decimal (line.2 * tokens)

theorem charge_tooLarge {line : Option ℕ × ℚ≥0} (h : TooLarge line) :
    charge line.1 line.2 = .error .arithmeticError := by
  obtain ⟨tokens, htokens, hlarge⟩ := h
  rw [Option.mem_def.mp htokens, charge]
  exact if_pos hlarge

theorem exists_charge {line : Option ℕ × ℚ≥0} (h : ¬TooLarge line) :
    ∃ amount, charge line.1 line.2 = .ok amount := by
  obtain ⟨count, price⟩ := line
  cases count with
  | none => exact ⟨0, rfl⟩
  | some tokens =>
    rw [charge]
    exact ⟨_, if_neg fun hlarge => h ⟨tokens, rfl, hlarge⟩⟩

theorem mapM_charge_tooLarge {ls : List (Option ℕ × ℚ≥0)} (h : ∃ line ∈ ls, TooLarge line) :
    ls.mapM (fun line => charge line.1 line.2) = .error .arithmeticError := by
  induction ls with
  | nil => simp at h
  | cons line ls ih =>
    rw [List.mapM_cons]
    by_cases hline : TooLarge line
    · rw [charge_tooLarge hline]
      rfl
    · obtain ⟨amount, hamount⟩ := exists_charge hline
      obtain ⟨other, hother, hlarge⟩ := h
      have hrest : ∃ line ∈ ls, TooLarge line := by
        rcases List.mem_cons.mp hother with rfl | hmem
        · exact absurd hlarge hline
        · exact ⟨other, hmem, hlarge⟩
      rw [hamount, ih hrest]
      rfl

theorem exists_mapM_charge {ls : List (Option ℕ × ℚ≥0)} (h : ∀ line ∈ ls, ¬TooLarge line) :
    ∃ amounts, ls.mapM (fun line => charge line.1 line.2) = .ok amounts := by
  induction ls with
  | nil => exact ⟨[], rfl⟩
  | cons line ls ih =>
    obtain ⟨amount, hamount⟩ := exists_charge (h line List.mem_cons_self)
    obtain ⟨amounts, hamounts⟩ := ih fun l hl => h l (List.mem_cons_of_mem _ hl)
    rw [List.mapM_cons, hamount, hamounts]
    exact ⟨amount :: amounts, rfl⟩

/-- A line with a count is one that is billed. -/
theorem billable_of_line {u : Costs.TokenUsage} {p : Costs.ModelPricing}
    {line : Option ℕ × ℚ≥0} (hline : line ∈ lines u p) {tokens : ℕ} (htokens : tokens ∈ line.1) :
    Costs.usageHasBillableTokens u = true := by
  have hsome : line.1.isSome = true := Option.isSome_iff_exists.mpr ⟨tokens, htokens⟩
  simp only [lines, List.mem_cons, List.not_mem_nil, or_false] at hline
  rcases hline with rfl | rfl | rfl | rfl <;> dsimp only at hsome <;>
    simp [Costs.usageHasBillableTokens, hsome]

theorem totalMicrousd_overflows (h : Overflows pricing usage) :
    totalMicrousd (normalizeUsage usage) pricing = .error .arithmeticError := by
  obtain ⟨p, hp, u, hu, line, hline, tokens, htokens, hlarge⟩ := h
  rw [Option.mem_def.mp hp, Option.mem_def.mp hu, totalMicrousd,
    if_pos (billable_of_line hline htokens),
    mapM_charge_tooLarge ⟨line, hline, tokens, htokens, hlarge⟩]
  rfl

theorem exists_totalMicrousd (h : ¬Overflows pricing usage) :
    ∃ cost, totalMicrousd (normalizeUsage usage) pricing = .ok cost := by
  cases hu : normalizeUsage usage with
  | none => exact ⟨none, rfl⟩
  | some u =>
    cases hp : pricing with
    | none => exact ⟨none, rfl⟩
    | some p =>
      rw [totalMicrousd]
      split_ifs
      · obtain ⟨amounts, hamounts⟩ := exists_mapM_charge fun line hline hlarge =>
          h ⟨p, hp, u, hu, line, hline, hlarge⟩
        rw [hamounts]
        exact ⟨_, rfl⟩
      · exact ⟨none, rfl⟩

end Charges

theorem pop_set (members : Members) (key : String) (value : Payload) :
    Members.pop (Members.set members key value) key = Members.pop members key := by
  induction members with
  | nil => simp [Members.set, Members.pop]
  | cons kv members ih =>
    obtain ⟨k, v⟩ := kv
    rw [Members.set]
    split_ifs with hk
    · rw [Members.pop_cons, if_pos hk, Members.pop_cons, if_pos hk]
    · rw [Members.pop_cons, if_neg hk, Members.pop_cons, if_neg hk, ih]

theorem Answers.unique {π : Codec} {attempt : HttpOutcome} {body body' : Payload}
    {parsed parsed' : Members} (h : Answers π attempt body parsed)
    (h' : Answers π attempt body' parsed') : body = body' ∧ parsed = parsed' := by
  obtain ⟨status, text, rfl, -, hfound, hparsed⟩ := h
  obtain ⟨status', text', heq, -, hfound', hparsed'⟩ := h'
  obtain ⟨rfl, hbody⟩ := HttpOutcome.response.inj heq
  obtain rfl := Decoded.value.inj hbody
  obtain rfl := Payload.str.inj (hfound.unique hfound')
  exact ⟨rfl, Except.ok.inj (hparsed.symm.trans hparsed')⟩

/-- An attempt of either judge: `account` takes the usage, and `result` is made of what it says and
of the judgement. -/
def answer {γ : Type} (π : Codec) (coerce : Members → Members)
    (keep : List String → List String) (minimum : ℚ) (subjectId : String) (rubric : Rubric)
    (account : Option Payload → Except Fault γ) (result : γ → Judgement → JudgeResult)
    (attempt : HttpOutcome) : Except Fault JudgeResult := do
  let raw ← call π coerce attempt
  let accounted ← account (Members.get? raw PROVIDER_USAGE)
  let parsed ← (π.validate (Members.pop raw PROVIDER_USAGE)).elim (.error .valueError) .ok
  let judgement ← normalize keep minimum subjectId rubric parsed
  pure (result accounted judgement)

section Answers

variable {γ : Type} {π : Codec} {coerce : Members → Members}
  {keep : List String → List String} {minimum : ℚ} {subjectId : String} {rubric : Rubric}
  {account : Option Payload → Except Fault γ} {result : γ → Judgement → JudgeResult}
  {attempt : HttpOutcome}

theorem answer_of_answers {body : Payload} {parsed : Members} (h : Answers π attempt body parsed) :
    answer π coerce keep minimum subjectId rubric account result attempt = (do
      let accounted ← account (some (providerUsage body))
      let output ← (π.validate (Members.pop (coerce parsed) PROVIDER_USAGE)).elim
        (.error .valueError) .ok
      let judgement ← normalize keep minimum subjectId rubric output
      pure (result accounted judgement)) := by
  have hcall : call π coerce attempt =
      .ok (Members.set (coerce parsed) PROVIDER_USAGE (providerUsage body)) :=
    call_eq_ok.mpr ⟨body, parsed, h, rfl⟩
  rw [answer, hcall]
  simp only [bind, Except.bind, Members.get?_set_self, pop_set]

theorem answer_eq_ok {r : JudgeResult}
    (h : answer π coerce keep minimum subjectId rubric account result attempt = .ok r) :
    ∃ output judgement accounted, Yields π coerce subjectId rubric attempt output ∧
      normalize keep minimum subjectId rubric output = .ok judgement ∧
      r = result accounted judgement ∧
      ∃ body parsed, Answers π attempt body parsed ∧
        account (some (providerUsage body)) = .ok accounted := by
  obtain ⟨raw, hcall, -⟩ := Except.bind_eq_ok.mp h
  obtain ⟨body, parsed, hanswers, -⟩ := call_eq_ok.mp hcall
  rw [answer_of_answers hanswers] at h
  obtain ⟨accounted, haccount, hvalidated⟩ := Except.bind_eq_ok.mp h
  obtain ⟨output, hvalid, hnormalized⟩ := Except.bind_eq_ok.mp hvalidated
  obtain ⟨judgement, hjudgement, hdone⟩ := Except.bind_eq_ok.mp hnormalized
  have houtput : π.validate (Members.pop (coerce parsed) PROVIDER_USAGE) = some output := by
    cases hv : π.validate (Members.pop (coerce parsed) PROVIDER_USAGE) with
    | none => exact nomatch hv ▸ hvalid
    | some other =>
      rw [hv] at hvalid
      exact congrArg some (Except.ok.inj hvalid)
  exact ⟨output, judgement, accounted,
    ⟨body, parsed, hanswers, houtput, (normalize_eq_ok hjudgement).1⟩, hjudgement,
    (Except.ok.inj hdone).symm, body, parsed, hanswers, haccount⟩

theorem exists_answer {output : JudgeOutput}
    (h : Yields π coerce subjectId rubric attempt output)
    (haccount : ∀ body parsed, Answers π attempt body parsed →
      ∃ accounted, account (some (providerUsage body)) = .ok accounted) :
    ∃ r, answer π coerce keep minimum subjectId rubric account result attempt = .ok r := by
  obtain ⟨body, parsed, hanswers, hvalid, hfits⟩ := h
  obtain ⟨accounted, haccounted⟩ := haccount body parsed hanswers
  obtain ⟨judgement, hjudgement⟩ := exists_normalize keep minimum hfits
  rw [answer_of_answers hanswers, haccounted, hvalid]
  simp only [bind, Except.bind, Option.elim_some, hjudgement]
  exact ⟨_, rfl⟩

/-- What is not handled comes out of the call or out of the account of the usage. -/
theorem answer_error {e : Fault}
    (h : answer π coerce keep minimum subjectId rubric account result attempt = .error e) :
    e.Handled ∨ e.Escapes ∧ Crash π attempt ∨
      ∃ body parsed, Answers π attempt body parsed ∧
        account (some (providerUsage body)) = .error e := by
  rcases Except.bind_eq_error h with hcall | ⟨raw, hcall, -⟩
  · rcases call_error hcall with hhandled | hcrash
    · exact Or.inl hhandled
    · exact Or.inr (Or.inl hcrash)
  obtain ⟨body, parsed, hanswers, -⟩ := call_eq_ok.mp hcall
  rw [answer_of_answers hanswers] at h
  rcases Except.bind_eq_error h with haccount | ⟨accounted, _, hvalidated⟩
  · exact Or.inr (Or.inr ⟨body, parsed, hanswers, haccount⟩)
  rcases Except.bind_eq_error hvalidated with hvalid | ⟨output, _, hnormalized⟩
  · cases hv : π.validate (Members.pop (coerce parsed) PROVIDER_USAGE) with
    | none =>
      rw [hv] at hvalid
      exact Or.inl (Or.inl (Except.error.inj hvalid ▸ trivial))
    | some output => exact nomatch hv ▸ hvalid
  rcases Except.bind_eq_error hnormalized with hjudgement | ⟨judgement, _, hdone⟩
  · exact Or.inl (Or.inl (normalize_error hjudgement ▸ trivial))
  · exact nomatch hdone

end Answers

/-- A result, which passes only for an output that passes, and which is an error if no attempt
yields an output. -/
def Contained (yields : Rubric → HttpOutcome → JudgeOutput → Prop) (minimum : ℚ)
    (selected : Option Rubric) (attempts : List HttpOutcome)
    (judgement : Except Fault JudgeResult) : Prop :=
  ∃ result, judgement = .ok result ∧
    (result.judgePass = some true → ∃ rubric ∈ selected, ∃ attempt ∈ attempts, ∃ output,
      yields rubric attempt output ∧ Passes minimum rubric output) ∧
    ∀ rubric ∈ selected, (∀ attempt ∈ attempts, ∀ output, ¬yields rubric attempt output) →
      result.errorCode = some "judge_error" ∧ result.judgePass = none

/-- No attempt crashes that is made, which are those before which none was accepted. -/
def Spared (accepted crashes : Rubric → HttpOutcome → Prop) (selected : Option Rubric)
    (attempts : List HttpOutcome) : Prop :=
  ∀ rubric ∈ selected, ∀ attempt, Attempts.Reached (accepted rubric) attempts attempt →
    ¬crashes rubric attempt

/-- The loop of either judge, from what it does with one attempt. -/
theorem judged_contained_iff {σ : Type} {step : Rubric → σ → HttpOutcome → σ × Except Fault JudgeResult}
    {accepted crashes : Rubric → HttpOutcome → Prop}
    {yields : Rubric → HttpOutcome → JudgeOutput → Prop} {minimum : ℚ}
    (hjudges : ∀ rubric,
      Attempts.Judges (step rubric) Fault.Handled (accepted rubric) (crashes rubric))
    (hyields : ∀ rubric attempt, accepted rubric attempt → ∃ output, yields rubric attempt output)
    (hpass : ∀ rubric s attempt result, (step rubric s attempt).2 = .ok result →
      result.judgePass = some true →
        ∃ output, yields rubric attempt output ∧ Passes minimum rubric output)
    (start : σ) (subjectId : String) (selected : Option Rubric) (attempts : List HttpOutcome) :
    Contained yields minimum selected attempts (judged step start subjectId selected attempts) ↔
      Spared accepted crashes selected attempts := by
  cases selected with
  | none =>
    have hno : ∀ rubric, rubric ∉ (none : Option Rubric) := fun _ h => nomatch h
    refine iff_of_true ?_ fun rubric h => absurd h (hno rubric)
    refine ⟨{ subjectId, errorCode := some "rubric_unavailable" }, rfl, fun h => ?_, ?_⟩
    · exact nomatch h
    · exact fun rubric h => absurd h (hno rubric)
  | some rubric =>
    have hspared : Spared accepted crashes (some rubric) attempts ↔
        ¬∃ e, Attempts.firstOk (step rubric) Fault.Handled start attempts = .error e := by
      rw [Attempts.firstOk_error_iff (hjudges rubric)]
      constructor
      · rintro h ⟨attempt, hreached, hcrash⟩
        exact h rubric rfl attempt hreached hcrash
      · rintro h _ ⟨⟩ attempt hreached hcrash
        exact h ⟨attempt, hreached, hcrash⟩
    rw [hspared, judged]
    cases hrun : Attempts.firstOk (step rubric) Fault.Handled start attempts with
    | error e =>
      refine iff_of_false ?_ fun h => h ⟨e, rfl⟩
      rintro ⟨result, hresult, -⟩
      exact nomatch hresult
    | ok found =>
      refine iff_of_true ?_ fun ⟨_, h⟩ => nomatch h
      cases found with
      | none =>
        refine ⟨{ subjectId, rubricId := some rubric.id, errorCode := some "judge_error" }, rfl,
          fun h => ?_, fun _ _ _ => ⟨rfl, rfl⟩⟩
        exact nomatch h
      | some result =>
        obtain ⟨s, attempt, hmem, hstep⟩ := Attempts.exists_of_firstOk_some hrun
        refine ⟨result, rfl, fun hpassed => ?_, ?_⟩
        · exact ⟨rubric, rfl, attempt, hmem, hpass rubric s attempt result hstep hpassed⟩
        · rintro _ ⟨⟩ hnone
          have haccepted := ((hjudges rubric).accepted_iff s attempt).mpr ⟨result, hstep⟩
          obtain ⟨output, houtput⟩ := hyields rubric attempt haccepted
          exact absurd houtput (hnone attempt hmem output)

namespace RubricJudge

variable {π : Codec} {pricing : Option Costs.ModelPricing} {minimum : ℚ} {caseId : String}
  {rubric : Rubric} {observed : Observed} {attempt : HttpOutcome}

/-- The outputs of an attempt, shorthand included. -/
def Yields (π : Codec) (caseId : String) (rubric : Rubric) : HttpOutcome → JudgeOutput → Prop :=
  Judging.Yields π (coerceDimensionOnlyOutput caseId rubric) caseId rubric

variable (π pricing minimum caseId rubric observed attempt) in
/-- An attempt, with what its result says beside the judgement left open. -/
theorem attemptOnce_snd : ∃ result : Option ℤ → Judgement → JudgeResult,
    (∀ cost judgement, (result cost judgement).judgePass = some judgement.passed) ∧
    (attemptOnce π pricing minimum caseId rubric observed attempt).2 =
      answer π (coerceDimensionOnlyOutput caseId rubric) id minimum caseId rubric
        (fun usage => totalMicrousd (normalizeUsage usage) pricing) result attempt := by
  cases hcall : call π (coerceDimensionOnlyOutput caseId rubric) attempt with
  | error e =>
    refine ⟨fun _ judgement => { subjectId := caseId, judgePass := some judgement.passed },
      fun _ _ => rfl, ?_⟩
    simp only [attemptOnce, answer, hcall]
    rfl
  | ok raw =>
    refine ⟨fun cost judgement => {
      subjectId := caseId
      rubricId := some rubric.id
      dimensionScores := judgement.scores
      weightedScore := some judgement.weighted
      criticalViolations := judgement.violations
      judgePass := some judgement.passed
      usageTokens :=
        completeSum (observed.usage ++ [totalTokens (Members.get? raw PROVIDER_USAGE)])
      rationale := judgement.rationale
      judgeCostMicrousd := completeSum (observed.costs ++ [cost])
      evidence := judgement.evidence }, fun _ _ => rfl, ?_⟩
    simp only [attemptOnce, answer, hcall]
    cases hcost : totalMicrousd (normalizeUsage (Members.get? raw PROVIDER_USAGE)) pricing with
    | error e => simp [bind, Except.bind, hcost]
    | ok cost => simp [bind, Except.bind, hcost]

/-- An output whose usage can be charged. -/
def Accepts (π : Codec) (pricing : Option Costs.ModelPricing) (caseId : String) (rubric : Rubric)
    (attempt : HttpOutcome) : Prop :=
  (∃ output, Yields π caseId rubric attempt output) ∧ ¬Overcharged π pricing attempt

theorem attemptOnce_judges (π : Codec) (pricing : Option Costs.ModelPricing) (minimum : ℚ)
    (caseId : String) (rubric : Rubric) :
    Attempts.Judges (attemptOnce π pricing minimum caseId rubric) Fault.Handled
      (Accepts π pricing caseId rubric)
      (fun attempt => Crash π attempt ∨ Overcharged π pricing attempt) where
  accepted_iff observed attempt := by
    obtain ⟨result, -, hstep⟩ :=
      attemptOnce_snd π pricing minimum caseId rubric observed attempt
    rw [hstep]
    constructor
    · rintro ⟨⟨output, hyields⟩, hnot⟩
      refine exists_answer hyields fun body parsed hanswers => ?_
      exact exists_totalMicrousd fun hover => hnot ⟨body, parsed, hanswers, hover⟩
    · rintro ⟨r, hr⟩
      obtain ⟨output, _, cost, hyields, -, -, body, parsed, hanswers, hcost⟩ := answer_eq_ok hr
      refine ⟨⟨output, hyields⟩, ?_⟩
      rintro ⟨body', parsed', hanswers', hover⟩
      obtain ⟨rfl, -⟩ := hanswers.unique hanswers'
      exact nomatch hcost.symm.trans (totalMicrousd_overflows hover)
  crashes_iff observed attempt := by
    obtain ⟨result, -, hstep⟩ :=
      attemptOnce_snd π pricing minimum caseId rubric observed attempt
    rw [hstep]
    constructor
    · rintro (hcrash | ⟨body, parsed, hanswers, hover⟩)
      · obtain ⟨e, he, hescapes⟩ :=
          call_crash (coerceDimensionOnlyOutput caseId rubric) hcrash
        refine ⟨e, ?_, hescapes.not_handled⟩
        rw [answer, he]
        rfl
      · refine ⟨.arithmeticError, ?_, by decide⟩
        rw [answer_of_answers hanswers, totalMicrousd_overflows hover]
        rfl
    · rintro ⟨e, he, hnot⟩
      rcases answer_error he with hhandled | ⟨-, hcrash⟩ | ⟨body, parsed, hanswers, hcost⟩
      · exact absurd hhandled hnot
      · exact Or.inl hcrash
      · refine Or.inr ⟨body, parsed, hanswers, ?_⟩
        by_contra hover
        obtain ⟨cost, hok⟩ := exists_totalMicrousd hover
        exact nomatch hok.symm.trans hcost

theorem passes_of_attemptOnce {result : JudgeResult}
    (h : (attemptOnce π pricing minimum caseId rubric observed attempt).2 = .ok result)
    (hpassed : result.judgePass = some true) :
    ∃ output, Yields π caseId rubric attempt output ∧ Passes minimum rubric output := by
  obtain ⟨make, hmake, hstep⟩ := attemptOnce_snd π pricing minimum caseId rubric observed attempt
  rw [hstep] at h
  obtain ⟨output, judgement, cost, hyields, hjudgement, rfl, -⟩ := answer_eq_ok h
  rw [hmake] at hpassed
  exact ⟨output, hyields,
    passes_of_normalize (fun _ h => h) hjudgement (Option.some.inj hpassed)⟩

end RubricJudge

namespace MultiTurnJudge

variable {π : Codec} {minimum : ℚ} {scenarioId : String} {rubric : Rubric}
  {attempt : HttpOutcome}

def Yields (π : Codec) (scenarioId : String) (rubric : Rubric) :
    HttpOutcome → JudgeOutput → Prop :=
  Judging.Yields π id scenarioId rubric

variable (π minimum scenarioId rubric attempt) in
theorem attemptOnce_snd (s : Unit) : ∃ result : Option ℤ → Judgement → JudgeResult,
    (∀ usage judgement, (result usage judgement).judgePass = some judgement.passed) ∧
    (attemptOnce π minimum scenarioId rubric s attempt).2 =
      answer π id keep minimum scenarioId rubric (fun usage => .ok (totalTokens usage)) result
        attempt :=
  ⟨fun usage judgement => {
    subjectId := scenarioId
    rubricId := some rubric.id
    dimensionScores := judgement.scores
    weightedScore := some judgement.weighted
    criticalViolations := judgement.violations
    judgePass := some judgement.passed
    usageTokens := usage
    rationale := judgement.rationale
    evidence := judgement.evidence }, fun _ _ => rfl, rfl⟩

theorem keep_eq_nil {violations : List String} (h : keep violations = []) : violations = [] := by
  cases violations with
  | nil => rfl
  | cons v vs => exact nomatch h

theorem attemptOnce_judges (π : Codec) (minimum : ℚ) (scenarioId : String) (rubric : Rubric) :
    Attempts.Judges (attemptOnce π minimum scenarioId rubric) Fault.Handled
      (fun attempt => ∃ output, Yields π scenarioId rubric attempt output) (Crash π) where
  accepted_iff s attempt := by
    obtain ⟨result, -, hstep⟩ := attemptOnce_snd π minimum scenarioId rubric attempt s
    rw [hstep]
    constructor
    · rintro ⟨output, hyields⟩
      exact exists_answer hyields fun _ _ _ => ⟨_, rfl⟩
    · rintro ⟨r, hr⟩
      obtain ⟨output, _, _, hyields, -⟩ := answer_eq_ok hr
      exact ⟨output, hyields⟩
  crashes_iff s attempt := by
    obtain ⟨result, -, hstep⟩ := attemptOnce_snd π minimum scenarioId rubric attempt s
    rw [hstep]
    constructor
    · intro hcrash
      obtain ⟨e, he, hescapes⟩ := call_crash id hcrash
      refine ⟨e, ?_, hescapes.not_handled⟩
      rw [answer, he]
      rfl
    · rintro ⟨e, he, hnot⟩
      rcases answer_error he with hhandled | ⟨-, hcrash⟩ | ⟨_, _, _, hcost⟩
      · exact absurd hhandled hnot
      · exact hcrash
      · exact nomatch hcost

theorem passes_of_attemptOnce {s : Unit} {result : JudgeResult}
    (h : (attemptOnce π minimum scenarioId rubric s attempt).2 = .ok result)
    (hpassed : result.judgePass = some true) :
    ∃ output, Yields π scenarioId rubric attempt output ∧ Passes minimum rubric output := by
  obtain ⟨make, hmake, hstep⟩ := attemptOnce_snd π minimum scenarioId rubric attempt s
  rw [hstep] at h
  obtain ⟨output, judgement, cost, hyields, hjudgement, rfl, -⟩ := answer_eq_ok h
  rw [hmake] at hpassed
  exact ⟨output, hyields,
    passes_of_normalize (fun _ => keep_eq_nil) hjudgement (Option.some.inj hpassed)⟩

end MultiTurnJudge

/-- Each judge returns what it should if and only if no attempt crashes that it makes. -/
theorem judges_contained_iff (π dialogueCodec : Codec) (config : JudgeConfig)
    (rubrics dialogueRubrics : Rubrics) (pricing : Option Costs.ModelPricing)
    (caseId taskType scenarioId : String) (outcomes : ℕ → HttpOutcome) :
    (Contained (RubricJudge.Yields π caseId) rubrics.minimumAverageToPass
        (rubrics.ofTask taskType) (config.attempts outcomes)
        (RubricJudge.evaluate π config rubrics pricing caseId taskType outcomes) ↔
      Spared (RubricJudge.Accepts π pricing caseId)
        (fun _ attempt => Crash π attempt ∨ Overcharged π pricing attempt)
        (rubrics.ofTask taskType) (config.attempts outcomes)) ∧
    (Contained (MultiTurnJudge.Yields dialogueCodec scenarioId)
        dialogueRubrics.minimumAverageToPass dialogueRubrics.ofDialogue (config.attempts outcomes)
        (MultiTurnJudge.evaluate dialogueCodec config dialogueRubrics scenarioId outcomes) ↔
      Spared (fun rubric attempt =>
          ∃ output, MultiTurnJudge.Yields dialogueCodec scenarioId rubric attempt output)
        (fun _ => Crash dialogueCodec) dialogueRubrics.ofDialogue (config.attempts outcomes)) := by
  constructor
  · refine judged_contained_iff ?_ (fun _ _ haccepted => haccepted.1) ?_ _ _ _ _
    · exact fun rubric => RubricJudge.attemptOnce_judges π pricing _ caseId rubric
    · exact fun _ _ _ _ hstep hpassed => RubricJudge.passes_of_attemptOnce hstep hpassed
  · refine judged_contained_iff ?_ (fun _ _ haccepted => haccepted) ?_ _ _ _ _
    · exact fun rubric => MultiTurnJudge.attemptOnce_judges dialogueCodec _ scenarioId rubric
    · exact fun _ _ _ _ hstep hpassed => MultiTurnJudge.passes_of_attemptOnce hstep hpassed

/-- A rubric for every task and for dialogues, and a provider whose responses have no choices. -/
def oneRubric : Rubrics where
  rubrics := [{ id := "multiturn_response_v1", appliesTo := ["tool_workflow"]
                dimensions := [{ name := "clarity", weight := 1 }] }]

def unread : Codec where
  loads _ := .notJson
  rawDecode _ := .notJson
  validate _ := none

def threeAttempts : JudgeConfig where
  one_le_maxAttempts := by decide
  maxAttempts_le := by decide

def withoutChoices : ℕ → HttpOutcome :=
  fun _ => .response 200 (.value (.obj [("choices", .arr [])]))

/-- No choices: the index error of the first attempt leaves both judges. -/
theorem empty_choices_crash :
    RubricJudge.evaluate unread threeAttempts oneRubric none "case" "tool_workflow" withoutChoices =
        .error .indexError ∧
      MultiTurnJudge.evaluate unread threeAttempts oneRubric "scenario" withoutChoices =
        .error .indexError ∧
      ¬(∀ (π : Codec) (config : JudgeConfig) (rubrics : Rubrics) (caseId taskType : String)
        (outcomes : ℕ → HttpOutcome),
          ∃ result, RubricJudge.evaluate π config rubrics none caseId taskType outcomes =
            .ok result) := by
  have hcrash : RubricJudge.evaluate unread threeAttempts oneRubric none "case" "tool_workflow"
      withoutChoices = .error .indexError := by rfl
  refine ⟨hcrash, by rfl, fun h => ?_⟩
  obtain ⟨result, hresult⟩ :=
    h unread threeAttempts oneRubric "case" "tool_workflow" withoutChoices
  exact nomatch hresult.symm.trans hcrash

end CommerceAgent.Judging
