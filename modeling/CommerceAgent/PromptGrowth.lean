import CommerceAgent.PromptBuilding

/-! What a readonly run shows the model of its own tool results: `reduce_step` keeps them, the
prompt of the next step has to hold them, and `KnowledgeToolAdapter` can return more than it
holds. -/
namespace CommerceAgent.Prompt

open Json Texts

section Reducer

/-- A tool result with the attempts that it took, as `reduce_step` reads them. -/
structure ToolCall where
  toolName : String
  toolVersion : String
  attempts : ℕ
  /-- The error code and whether the error may be retried. -/
  error : Option (String × Bool) := none
  data : Option Members := none

structure StepReport where
  status : StepStatus
  reason : Option String := none
  call : Option ToolCall := none

def isText : Payload → Bool
  | .str _ => true
  | _ => false

/-- The identifiers of a list that holds nothing but strings. -/
def evidenceList (data : Members) : Option (List Payload) :=
  match data.get? "evidence_ids" with
  | some (.arr ids) => if ids.all isText then some ids else none
  | _ => none

/-- What a tool call leaves in the state. -/
def ToolCall.observe (call : ToolCall) (state : Members) : Members :=
  let outcome := if call.error.isSome then "failed" else "succeeded"
  let observed : Members :=
    [("tool_name", .str call.toolName), ("tool_version", .str call.toolVersion),
      ("attempts", .int call.attempts), ("outcome", .str outcome)]
  match call.error, call.data with
  | some (code, retryable), _ =>
    state.set "last_observation" (.obj (observed ++
      [("error_code", .str code), ("retryable", .bool retryable)]))
  | none, some data =>
    let state := (state.set "last_tool_data" (.obj data)).set "tool_data_by_name"
      (.obj ((toolDataByName state).set call.toolName (.obj data)))
    let state := match evidenceList data with
      | some ids => state.set "evidence_ids" (.arr ids)
      | none => state
    state.set "last_observation" (.obj observed)
  | none, none => state.set "last_observation" (.obj observed)

/-- The state with the status and the reason of a step. -/
def StepReport.noted (report : StepReport) (state : Members) : Members :=
  let state := (state.set "last_step_status" (.str report.status.value)).pop "last_step_reason"
  match report.reason with
  | some reason => state.set "last_step_reason" (.str reason)
  | none => state

/-- The state that `reduce_step` persists. -/
def StepReport.reduce (report : StepReport) (state : Members) : Members :=
  match report.call with
  | some call => call.observe (report.noted state)
  | none => report.noted state

/-- The state after the steps of a run. -/
def afterSteps (state : Members) (reports : List StepReport) : Members :=
  reports.foldl (fun state report => report.reduce state) state

end Reducer

section Embedding

/-- A tool call whose data has no floats. -/
def ToolCall.of (execution : ToolExecution) : ToolCall where
  toolName := execution.toolName
  toolVersion := execution.toolVersion
  attempts := execution.attempts
  error := execution.error
  data := execution.data.map Payload.ofDict

def StepReport.of (result : LoopResult) : StepReport where
  status := result.status
  reason := result.reason
  call := result.execution.map ToolCall.of

theorem isText_ofValue (v : Value) : isText (Payload.ofValue v) = v.asStr?.isSome := by
  cases v <;> rfl

theorem ofItems_all_isText (l : List Value) :
    (Payload.ofItems l).all isText = l.all fun v => v.asStr?.isSome := by
  induction l with
  | nil => rfl
  | cons v l ih => rw [Payload.ofItems, List.all_cons, List.all_cons, ih, isText_ofValue]

theorem evidenceList_ofDict (data : Dict) : evidenceList (Payload.ofDict data) =
    (CommerceAgent.evidenceIds data).map Payload.ofItems := by
  unfold evidenceList CommerceAgent.evidenceIds
  rw [Payload.get?_ofDict]
  cases data.get? "evidence_ids" with
  | none => rfl
  | some v =>
    cases v with
    | arr l =>
      simp only [Option.map_some, Payload.ofValue, ofItems_all_isText]
      split <;> rfl
    | _ => rfl

theorem toolDataByName_ofDict (state : Dict) : toolDataByName (Payload.ofDict state) =
    Payload.ofDict (((state.get? "tool_data_by_name").bind Value.asObj?).getD []) := by
  unfold toolDataByName
  rw [Payload.get?_ofDict]
  cases state.get? "tool_data_by_name" with
  | none => rfl
  | some v => cases v <;> rfl

theorem observe_of (execution : ToolExecution) (state : Dict) :
    (ToolCall.of execution).observe (Payload.ofDict state) =
      Payload.ofDict (execution.observe state) := by
  obtain ⟨name, version, attempts, error, data⟩ := execution
  cases error with
  | some e =>
    simp only [ToolCall.of, ToolCall.observe, ToolExecution.observe, Payload.ofDict_set,
      Payload.ofValue, List.cons_append, List.nil_append, Payload.ofDict_cons, Payload.ofDict_nil,
      Option.isSome_some, if_true]
  | none =>
    cases data with
    | none =>
      simp only [ToolCall.of, ToolCall.observe, ToolExecution.observe, Option.map_none,
        Payload.ofDict_set, Payload.ofValue, Payload.ofDict_cons, Payload.ofDict_nil,
        Option.isSome_none]
      rfl
    | some data =>
      simp only [ToolCall.of, ToolCall.observe, ToolExecution.observe, Option.map_some,
        evidenceList_ofDict, toolDataByName_ofDict]
      -- whether the data names evidence or not, the same keys are written
      cases CommerceAgent.evidenceIds data <;>
        simp only [Option.map_none, Option.map_some, Payload.ofDict_set, Payload.ofValue,
          Payload.ofDict_cons, Payload.ofDict_nil, Option.isSome_none] <;> rfl

/-- On data without floats this is the reducer of the readonly loop. -/
theorem reduce_of (context : RunContext) (result : LoopResult) :
    (StepReport.of result).reduce (Payload.ofDict context.state) =
      Payload.ofDict (reduceState context result) := by
  obtain ⟨status, response, decision, execution, reason, usage⟩ := result
  have hstatus : ((Payload.ofDict context.state).set "last_step_status"
      (.str status.value)).pop "last_step_reason" =
      Payload.ofDict ((context.state.set "last_step_status" (.str status.value)).pop
        "last_step_reason") := by
    rw [Payload.ofDict_pop, Payload.ofDict_set, Payload.ofValue]
  cases reason with
  | none =>
    cases execution with
    | none => exact hstatus
    | some execution => exact (congrArg _ hstatus).trans (observe_of execution _)
  | some reason =>
    have hreason := (congrArg (Members.set · "last_step_reason" (.str reason)) hstatus).trans
      (Payload.ofDict_set _ "last_step_reason" (.str reason)).symm
    cases execution with
    | none => exact hreason
    | some execution => exact (congrArg _ hreason).trans (observe_of execution _)

end Embedding

section Runs

/-- The tool and the data of a call that succeeded with data. -/
def ToolCall.result? (call : ToolCall) : Option (String × Members) :=
  match call.error, call.data with
  | none, some data => some (call.toolName, data)
  | _, _ => none

/-- The results of a run, in order. -/
def results (reports : List StepReport) : List (String × Members) :=
  reports.filterMap fun report => report.call.bind ToolCall.result?

/-- The latest data of each tool. -/
def latest (byTool : Members) (results : List (String × Members)) : Members :=
  results.foldl (fun byTool result => byTool.set result.1 (.obj result.2)) byTool

/-- The data of the last result. -/
def last (shown : Payload) (results : List (String × Members)) : Payload :=
  results.foldl (fun _ result => .obj result.2) shown

/-- Whether one of the results names evidence. -/
def NamesEvidence (results : List (String × Members)) : Prop :=
  ∃ result ∈ results, (evidenceList result.2).isSome

/-- What results leave under the keys that the prompt is built from. -/
structure Observed (state after : Members) (results : List (String × Members)) : Prop where
  byTool : toolDataByName after = latest (toolDataByName state) results
  last : lastToolData after = last (lastToolData state) results
  ids : Returns (evidenceIds after) ↔ NamesEvidence results ∨ Returns (evidenceIds state)

theorem Observed.trans {state after final : Members} {l l' : List (String × Members)}
    (h : Observed state after l) (h' : Observed after final l') :
    Observed state final (l ++ l') := by
  refine ⟨?_, ?_, ?_⟩
  · rw [h'.byTool, h.byTool, latest, latest, latest, List.foldl_append]
  · rw [h'.last, h.last, Prompt.last, Prompt.last, Prompt.last, List.foldl_append]
  · rw [h'.ids, h.ids]
    unfold NamesEvidence
    simp only [List.mem_append]
    grind

/-- A key that the prompt is not built from. -/
theorem observed_of_get? {state after : Members}
    (hbyTool : after.get? "tool_data_by_name" = state.get? "tool_data_by_name")
    (hlast : after.get? "last_tool_data" = state.get? "last_tool_data")
    (hids : after.get? "evidence_ids" = state.get? "evidence_ids") :
    Observed state after [] := by
  refine ⟨?_, ?_, ?_⟩
  · unfold toolDataByName
    rw [hbyTool]
    rfl
  · unfold lastToolData
    rw [hlast]
    rfl
  · unfold evidenceIds NamesEvidence
    rw [hids]
    simp

theorem observed_set (state : Members) (v : Payload) {k : String}
    (hk : k ∉ ["tool_data_by_name", "last_tool_data", "evidence_ids"]) :
    Observed state (state.set k v) [] := by
  simp only [List.mem_cons, List.not_mem_nil, or_false, not_or] at hk
  obtain ⟨hbyTool, hlast, hids⟩ := hk
  exact observed_of_get? (Members.get?_set_of_ne _ _ hbyTool) (Members.get?_set_of_ne _ _ hlast)
    (Members.get?_set_of_ne _ _ hids)

theorem observed_noted (report : StepReport) (state : Members) :
    Observed state (report.noted state) [] := by
  have hstatus := observed_set state (.str report.status.value) (k := "last_step_status")
    (by decide)
  have hpop (d : Members) : Observed d (d.pop "last_step_reason") [] :=
    observed_of_get? (Members.get?_pop _ (by decide)) (Members.get?_pop _ (by decide))
      (Members.get?_pop _ (by decide))
  unfold StepReport.noted
  cases report.reason with
  | none => exact hstatus.trans (hpop _)
  | some reason =>
    exact (hstatus.trans (hpop _)).trans
      (observed_set _ (.str reason) (k := "last_step_reason") (by decide))

/-- The three keys that a result is kept under. -/
theorem observed_result (state : Members) (name : String) (data : Members) :
    Observed state
      (let state := (state.set "last_tool_data" (.obj data)).set "tool_data_by_name"
          (.obj ((toolDataByName state).set name (.obj data)))
       match evidenceList data with
       | some ids => state.set "evidence_ids" (.arr ids)
       | none => state) [(name, data)] := by
  have hnames : NamesEvidence [(name, data)] ↔ (evidenceList data).isSome := by
    simp [NamesEvidence]
  cases hevidence : evidenceList data with
  | some ids =>
    refine ⟨?_, ?_, ?_⟩
    · simp [toolDataByName, latest]
    · simp [lastToolData, last]
    · rw [hnames, hevidence]
      simp [evidenceIds]
  | none =>
    refine ⟨?_, ?_, ?_⟩
    · simp [toolDataByName, latest]
    · simp [lastToolData, last]
    · rw [hnames, hevidence]
      simp [evidenceIds]

theorem observed_observe (call : ToolCall) (state : Members) :
    Observed state (call.observe state) call.result?.toList := by
  obtain ⟨name, version, attempts, error, data⟩ := call
  cases error with
  | some e => exact observed_set _ _ (k := "last_observation") (by decide)
  | none =>
    cases data with
    | none => exact observed_set _ _ (k := "last_observation") (by decide)
    | some data =>
      exact (observed_result state name data).trans
        (observed_set _ _ (k := "last_observation") (by decide))

theorem observed_reduce (report : StepReport) (state : Members) :
    Observed state (report.reduce state) (results [report]) := by
  have hnoted := observed_noted report state
  unfold StepReport.reduce results
  cases hcall : report.call with
  | none => simpa [hcall] using hnoted
  | some call =>
    have hboth := hnoted.trans (observed_observe call _)
    cases hresult : call.result? <;> simpa [hcall, hresult] using hboth

/-- Over a run, each tool's latest result and the last one of all are what the state keeps. -/
theorem observed_afterSteps (reports : List StepReport) (state : Members) :
    Observed state (afterSteps state reports) (results reports) := by
  induction reports generalizing state with
  | nil => exact observed_of_get? rfl rfl rfl
  | cons report reports ih =>
    have hboth := (observed_reduce report state).trans (ih (report.reduce state))
    rwa [results, results, ← List.filterMap_append, List.singleton_append] at hboth

end Runs

section Knowledge

/-- A row of the knowledge base and its score, as the retriever ranks them. -/
structure RankedRow where
  documentId : String
  chunkId : String
  sourceUri : String
  version : String
  text : String
  /-- The text of the score. -/
  score : String

/-- `Evidence`, with what its validation promises. -/
structure Evidence where
  evidenceId : String
  documentId : String
  sourceUri : String
  version : String
  excerpt : String
  score : String
  evidenceId_bounds : 1 ≤ evidenceId.length ∧ evidenceId.length ≤ 160
  documentId_bounds : 1 ≤ documentId.length ∧ documentId.length ≤ 64
  sourceUri_bounds : 1 ≤ sourceUri.length ∧ sourceUri.length ≤ 500
  version_bounds : 1 ≤ version.length ∧ version.length ≤ 64
  excerpt_bounds : 1 ≤ excerpt.length ∧ excerpt.length ≤ 1200

def RankedRow.evidenceId (row : RankedRow) : String :=
  "knowledge:" ++ row.documentId ++ ":" ++ row.chunkId

/-- `row.text[:1200]`. -/
def RankedRow.excerpt (row : RankedRow) : String := String.ofList (row.text.toList.take 1200)

def RankedRow.evidence (row : RankedRow) : Option Evidence :=
  if h : ((1 ≤ row.evidenceId.length ∧ row.evidenceId.length ≤ 160) ∧
      1 ≤ row.documentId.length ∧ row.documentId.length ≤ 64) ∧
      ((1 ≤ row.sourceUri.length ∧ row.sourceUri.length ≤ 500) ∧
      1 ≤ row.version.length ∧ row.version.length ≤ 64) ∧
      1 ≤ row.excerpt.length ∧ row.excerpt.length ≤ 1200 then
    some ⟨row.evidenceId, row.documentId, row.sourceUri, row.version, row.excerpt, row.score,
      h.1.1, h.1.2, h.2.1.1, h.2.1.2, h.2.2⟩
  else none

/-- `build_pack`, for rows in the order of their ranks; every error of it is a `ValueError`. -/
def buildPack (query : String) (rows : List RankedRow) (topK : ℤ) : Option (List Evidence) :=
  if ¬ (1 ≤ topK ∧ topK ≤ 5) then none
  else if ¬ (1 ≤ query.length ∧ query.length ≤ 512) then none
  else (rows.take topK.toNat).mapM RankedRow.evidence

/-- `model_dump`. -/
def Evidence.dump (evidence : Evidence) : Payload :=
  .obj [("evidence_id", .str evidence.evidenceId), ("document_id", .str evidence.documentId),
    ("source_uri", .str evidence.sourceUri), ("version", .str evidence.version),
    ("excerpt", .str evidence.excerpt), ("score", .float evidence.score)]

def packData (pack : List Evidence) : Members :=
  [("evidence_ids", .arr (pack.map fun evidence => .str evidence.evidenceId)),
    ("evidence", .arr (pack.map Evidence.dump))]

/-- `metadata_filter`, if it is a dictionary with keys that are known. -/
def metadataFilter (arguments : Dict) : Option Dict :=
  match arguments.get? "metadata_filter" with
  | none => some []
  | some (.obj metadata) =>
    if metadata.any (·.1 ∉ ["topic", "product_ref"]) then none else some metadata
  | some _ => none

def topK (arguments : Dict) : ℤ :=
  match arguments.get? "top_k" with
  | some (.int k) => k
  | _ => 3

/-- `KnowledgeToolAdapter.__call__`, for what the repository finds and the retriever ranks; an
error of the adapter is an invalid argument. -/
def knowledgeToolAdapter (search : String → Option String → Option String → List RankedRow)
    (arguments : Dict) : Option Members :=
  match arguments.getStr? "query", metadataFilter arguments with
  | some query, some metadata =>
    if strip query = "" then none
    else (buildPack query (search query (metadata.getStr? "topic")
      (metadata.getStr? "product_ref")) (topK arguments)).map packData
  | _, _ => none

end Knowledge

section Accepted

/-- The output schema that `_spec` gives a readonly tool. -/
def outputSchema (required : List String) : Dict :=
  [("type", .str "object"), ("properties", .obj (required.map fun name => (name, .obj []))),
    ("required", .arr (required.map .str)), ("additionalProperties", .bool false)]

/-- `_valid_object` of such a schema, which gives its keys no types. -/
def answers (required : List String) (data : Members) : Bool :=
  (required.all fun name => (data.get? name).isSome) && data.all fun kv => kv.1 ∈ required

theorem get?_properties (required : List String) (name : String) :
    Dict.get? (required.map fun name => (name, Value.obj [])) name =
      if name ∈ required then some (.obj []) else none := by
  induction required with
  | nil => rfl
  | cons other required ih =>
    rw [List.map_cons, Dict.get?_cons, ih]
    by_cases hother : other = name
    · subst hother
      simp
    · rw [if_neg hother]
      simp [Ne.symm hother]

theorem declaredType_properties (required : List String) (name : String) :
    Agent.declaredType (required.map fun name => (name, Value.obj [])) name = none := by
  unfold Agent.declaredType
  rw [get?_properties]
  split <;> rfl

theorem all_ofDict (data : Dict) (p : String → Bool) :
    (data.all fun kv => p kv.1) = (Payload.ofDict data).all fun kv => p kv.1 := by
  induction data with
  | nil => rfl
  | cons kv data ih =>
    obtain ⟨k, v⟩ := kv
    rw [Payload.ofDict_cons, List.all_cons, List.all_cons, ih]

/-- The check of the executor, on data without floats. -/
theorem validObject_outputSchema (required : List String) (data : Dict) :
    Agent.validObject (some data) (outputSchema required) =
      answers required (Payload.ofDict data) := by
  have hshape : Agent.schemaShape (outputSchema required) =
      some (required.map .str, required.map fun name => (name, .obj [])) := rfl
  have hclosed : (outputSchema required).get? "additionalProperties" = some (.bool false) := rfl
  have hrequired : ((required.map Value.str).all fun name =>
      (name.asStr?.bind data.get?).isSome) =
      required.all fun name => ((Payload.ofDict data).get? name).isSome := by
    rw [List.all_map]
    refine congrArg _ (funext fun name => ?_)
    simp [Payload.get?_ofDict]
  have hkeys : (!data.any fun kv =>
      (Dict.get? (required.map fun name => (name, Value.obj [])) kv.1).isNone) =
      (Payload.ofDict data).all fun kv => decide (kv.1 ∈ required) := by
    rw [← all_ofDict data fun name => decide (name ∈ required), List.not_any_eq_all_not]
    refine congrArg _ (funext fun kv => ?_)
    rw [get?_properties]
    split <;> simp_all
  unfold Agent.validObject answers
  simp only [hshape, hclosed, declaredType_properties, hrequired, ← hkeys]
  simp

end Accepted

section Overflow

theorem length_le_size_dump (evidence : Evidence) :
    evidence.excerpt.length ≤ evidence.dump.size := by
  have htext := Payload.length_le_textSize evidence.excerpt
  have hmem : ("excerpt", Payload.str evidence.excerpt) ∈
      [("evidence_id", Payload.str evidence.evidenceId),
        ("document_id", .str evidence.documentId), ("source_uri", .str evidence.sourceUri),
        ("version", .str evidence.version), ("excerpt", .str evidence.excerpt),
        ("score", .float evidence.score)] := by
    simp
  have hsize := Payload.size_le_of_mem hmem
  rw [Payload.size] at hsize
  unfold Evidence.dump
  omega

theorem excerpts_le_itemsSize (pack : List Evidence) :
    (pack.map fun evidence => evidence.excerpt.length).sum ≤
      Payload.itemsSize (pack.map Evidence.dump) := by
  induction pack with
  | nil => exact Nat.zero_le _
  | cons evidence pack ih =>
    have hone := length_le_size_dump evidence
    simp only [List.map_cons, List.sum_cons, Payload.itemsSize]
    omega

/-- The data of a pack is longer than its excerpts are together. -/
theorem excerpts_le_size (pack : List Evidence) :
    (pack.map fun evidence => evidence.excerpt.length).sum ≤
      (Payload.obj (packData pack)).size := by
  have hitems := excerpts_le_itemsSize pack
  have hdata : (Payload.arr (pack.map Evidence.dump)).size ≤
      (Payload.obj (packData pack)).size :=
    Payload.size_le_of_mem (List.mem_cons_of_mem _ List.mem_cons_self)
  rw [Payload.size] at hdata
  omega

/-- Both the latest results and the last one show a result, so that it counts twice. -/
theorem observedSize_of_result (byTool : Members) (name : String) (data : Members) :
    50 + 2 * (Payload.obj data).size ≤
      observedSize (byTool.set name (.obj data)) (.obj data) := by
  have hmem := Payload.size_le_of_mem (Members.mem_set_self byTool name (.obj data))
  cases hset : byTool.set name (.obj data) with
  | nil => exact absurd hset (Members.set_ne_nil _ _ _)
  | cons kv d =>
    rw [← hset, observedSize]
    · omega
    · intro h
      exact Members.set_ne_nil _ _ _ h
    · intro h
      exact absurd h (Members.set_ne_nil _ _ _)

end Overflow

section Totality

variable (builder : ApiPromptBuilder) (records : List MessageRecord)
variable (preferences : List (String × Members))

/-- The prompt of the next step is built if and only if what the builder and the conversation hold
is within bounds and the latest result of each tool, together with a second copy of the last
result, fits into one message. -/
theorem prompt_built_iff (start : Members) (reports : List StepReport) (stepCount : ℕ) :
    (∃ prompt, builder.build records preferences (afterSteps start reports) stepCount =
        .ok prompt) ↔
      builder.Fits records ∧
      observedSize (latest (toolDataByName start) (results reports))
        (last (lastToolData start) (results reports)) ≤ 8000 ∧
      (NamesEvidence (results reports) ∨ Returns (evidenceIds start)) := by
  have hobserved := observed_afterSteps reports start
  rw [← hobserved.byTool, ← hobserved.last, ← hobserved.ids]
  exact returns_build builder records preferences (afterSteps start reports) stepCount

/-- A result of some 4000 characters ends the run: the next prompt shows it twice. -/
theorem build_after_result (start : Members) {report : StepReport} {call : ToolCall}
    (stepCount : ℕ) {data : Members} (hcall : report.call = some call)
    (hresult : call.result? = some (call.toolName, data))
    (hlong : 3976 ≤ (Payload.obj data).size) :
    builder.build records preferences (report.reduce start) stepCount =
      .error .validationError := by
  have hobserved := observed_reduce report start
  have hresults : results [report] = [(call.toolName, data)] := by
    simp [results, hcall, hresult]
  have hsize := observedSize_of_result (toolDataByName start) call.toolName data
  refine build_of_large builder records preferences stepCount ?_
  rw [hobserved.byTool, hobserved.last, hresults]
  change 8000 < observedSize ((toolDataByName start).set call.toolName (.obj data)) (.obj data)
  omega

end Totality

section FiveExcerpts

def chunkIds : List String :=
  ["00000000-0000-4000-8000-000000000001", "00000000-0000-4000-8000-000000000002",
    "00000000-0000-4000-8000-000000000003", "00000000-0000-4000-8000-000000000004",
    "00000000-0000-4000-8000-000000000005"]

/-- A chunk of a policy on refunds, as long as an excerpt may be. -/
def refundRow (chunkId : String) : RankedRow where
  documentId := "00000000-0000-4000-8000-000000000000"
  chunkId := chunkId
  sourceUri := "kb://refund-policy"
  version := "1"
  text := String.ofList ("refund ".toList ++ List.replicate 1193 'x')
  score := "1.0"

theorem length_refund_excerpt (chunkId : String) : (refundRow chunkId).excerpt.length = 1200 := by
  have hhead : "refund ".toList.length = 7 := by decide
  unfold RankedRow.excerpt refundRow
  rw [String.length_ofList, String.toList_ofList, List.length_take, List.length_append, hhead,
    List.length_replicate]
  rfl

theorem refund_evidence {chunkId : String} (h : chunkId.length = 36) :
    ∃ evidence, (refundRow chunkId).evidence = some evidence ∧ evidence.excerpt.length = 1200 := by
  have hexcerpt := length_refund_excerpt chunkId
  have hid : (refundRow chunkId).evidenceId.length = 83 := by
    have hhead : ("knowledge:" ++ "00000000-0000-4000-8000-000000000000" ++ ":").length = 47 := by
      decide +kernel
    change (("knowledge:" ++ "00000000-0000-4000-8000-000000000000" ++ ":") ++ chunkId).length = 83
    rw [String.length_append, hhead, h]
  have hdocument : "00000000-0000-4000-8000-000000000000".length = 36 := by decide +kernel
  have hsource : "kb://refund-policy".length = 18 := by decide +kernel
  have hversion : "1".length = 1 := by decide +kernel
  change (refundRow chunkId).documentId.length = 36 at hdocument
  change (refundRow chunkId).sourceUri.length = 18 at hsource
  change (refundRow chunkId).version.length = 1 at hversion
  unfold RankedRow.evidence
  rw [dif_pos (by omega)]
  exact ⟨_, rfl, hexcerpt⟩

theorem refund_pack {ids : List String} (h : ∀ id ∈ ids, id.length = 36) :
    ∃ pack, (ids.map refundRow).mapM RankedRow.evidence = some pack ∧
      (pack.map fun evidence => evidence.excerpt.length).sum = 1200 * ids.length := by
  induction ids with
  | nil => exact ⟨[], rfl, rfl⟩
  | cons id ids ih =>
    obtain ⟨evidence, hevidence, hlength⟩ := refund_evidence (h id List.mem_cons_self)
    obtain ⟨pack, hpack, hsum⟩ := ih fun id hid => h id (List.mem_cons_of_mem _ hid)
    refine ⟨evidence :: pack, ?_, ?_⟩
    · rw [List.map_cons, List.mapM_cons, hevidence, hpack]
      rfl
    · rw [List.map_cons, List.sum_cons, hlength, hsum, List.length_cons]
      omega

def refundBuilder : ApiPromptBuilder where
  workflowId := "refund_policy"
  workflowVersion := "1"
  toolNames := ["retrieve_knowledge"]

def refundArguments : Dict := [("query", .str "refund"), ("top_k", .int 5)]

/-- A step that called the knowledge base with success. -/
def retrieved (data : Members) : StepReport where
  status := .continue
  call := some { toolName := "retrieve_knowledge", toolVersion := "1", attempts := 1,
                 data := some data }

theorem length_le_utf8ByteSize (s : String) : s.length ≤ s.utf8ByteSize := by
  have hlist : ∀ l : List Char, l.length ≤ String.utf8Len l := by
    intro l
    induction l with
    | nil => exact Nat.le_refl _
    | cons c l ih =>
      have hc := c.utf8Size_pos
      rw [List.length_cons, String.utf8Len_cons]
      omega
  have hs := hlist s.toList
  rwa [← String.utf8ByteSize_ofList, String.ofList_toList, String.length_toList] at hs

theorem length_RUNTIME_RULES_le : RUNTIME_RULES.length ≤ 900 := by
  have hbytes : RUNTIME_RULES.utf8ByteSize ≤ 900 := by decide +kernel
  exact (length_le_utf8ByteSize RUNTIME_RULES).trans hbytes

theorem rulesSize_le (builder : ApiPromptBuilder)
    (h : (builder.toolNames.map ruleSize).sum - 1 + strategySize builder.skillStrategy ≤ 7100) :
    builder.rulesSize ≤ 8000 := by
  unfold ApiPromptBuilder.rulesSize
  rw [Nat.add_assoc]
  exact Nat.add_le_add length_RUNTIME_RULES_le h

theorem refundBuilder_fits : refundBuilder.Fits [⟨"user", "refund"⟩] := by
  have hcontent : 1 ≤ "refund".length ∧ "refund".length ≤ 8000 := by decide
  refine ⟨rulesSize_le refundBuilder (by decide +kernel), ?_, by decide, by decide⟩
  intro record hrecord
  obtain rfl := List.mem_singleton.mp hrecord
  exact ⟨by decide, hcontent⟩

/-- The first prompt of a run is built. The knowledge base answers with five excerpts, which the
executor accepts, and the next prompt is not built any more. -/
theorem five_excerpts_overflow : ∃ data,
    knowledgeToolAdapter (fun _ _ _ => chunkIds.map refundRow) refundArguments = some data ∧
      answers ["evidence_ids", "evidence"] data = true ∧
      (∃ prompt, refundBuilder.build [⟨"user", "refund"⟩] [] [] 0 = .ok prompt) ∧
      refundBuilder.build [⟨"user", "refund"⟩] [] ((retrieved data).reduce []) 1 =
        .error .validationError := by
  have hids : ∀ id ∈ chunkIds, id.length = 36 := by decide +kernel
  obtain ⟨pack, hpack, hsum⟩ := refund_pack hids
  have hlong := excerpts_le_size pack
  rw [hsum] at hlong
  refine ⟨packData pack, ?_, ?_, ?_, ?_⟩
  · have hbuild : buildPack "refund" (chunkIds.map refundRow) 5 = some pack := hpack
    change (buildPack "refund" (chunkIds.map refundRow) 5).map packData = some (packData pack)
    rw [hbuild]
    rfl
  · rfl
  · exact (returns_build refundBuilder _ [] [] 0).mpr
      ⟨refundBuilder_fits, Nat.zero_le _, returns_ok _⟩
  · exact build_after_result refundBuilder _ [] [] 1 rfl rfl (le_trans (by decide) hlong)

end FiveExcerpts

end CommerceAgent.Prompt
