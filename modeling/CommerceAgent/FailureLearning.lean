import Mathlib.Data.List.Dedup
import CommerceAgent.Interleaving
import CommerceAgent.Json
import CommerceAgent.Protocols
import CommerceAgent.SkillRepository
import CommerceAgent.Tables
import CommerceAgent.Texts

/-! Failure cases: which signals, events and categories they hold while any number of runs, evaluations and
reviews write to them, and what tells an automatic attribution from a human one. -/
namespace CommerceAgent.Failures

open Json Programs Tables Texts

section Signals

inductive FailureSignal where
  | runFailed
  | humanHandoff
  | expired
  | lowConfidence
  | userDownvote
  | evalFail
  | costExceeded
  | humanRejected
  deriving DecidableEq

def FailureSignal.value : FailureSignal → String
  | .runFailed => "run_failed"
  | .humanHandoff => "human_handoff"
  | .expired => "expired"
  | .lowConfidence => "low_confidence"
  | .userDownvote => "user_downvote"
  | .evalFail => "eval_fail"
  | .costExceeded => "cost_exceeded"
  | .humanRejected => "human_rejected"

inductive AttributionCategory where
  | intentError
  | policyError
  | toolError
  | retrievalError
  | safetyError
  | modelError
  | responseError
  | unknown
  deriving DecidableEq

def AttributionCategory.value : AttributionCategory → String
  | .intentError => "intent_error"
  | .policyError => "policy_error"
  | .toolError => "tool_error"
  | .retrievalError => "retrieval_error"
  | .safetyError => "safety_error"
  | .modelError => "model_error"
  | .responseError => "response_error"
  | .unknown => "unknown"

structure SignalObservation where
  signal : FailureSignal
  severity : String
  source : String
  reasonCode : String

/-- A text that is present and not empty, else the default. -/
def orElse (value : Option String) (default : String) : String :=
  match value with
  | some s => if s = "" then default else s
  | none => default

-- `str.upper`, and the digest as a text of hexadecimal digits
variable (upper sha256 : String → String)

def signalsForRun (status : String) (terminalReason : Option String) (evalFailed humanRejected : Bool) :
    List SignalObservation :=
  let reason := take (upper (orElse terminalReason "UNKNOWN")) 64
  (if status = "failed" then [⟨.runFailed, "p1", "runtime", reason⟩] else []) ++
  (if status = "waiting_human" then [⟨.humanHandoff, "p1", "runtime", reason⟩] else []) ++
  (if status = "expired" then [⟨.expired, "p1", "runtime", reason⟩] else []) ++
  (if contains reason "LOW_CLASSIFICATION_CONFIDENCE" then [⟨.lowConfidence, "p2", "router", reason⟩] else []) ++
  (if contains reason "COST" then [⟨.costExceeded, "p1", "budget", reason⟩] else []) ++
  (if evalFailed then [⟨.evalFail, "p1", "evaluation", reason⟩] else []) ++
  (if humanRejected then [⟨.humanRejected, "p1", "human_review", reason⟩] else [])

/-- A missing cost or budget is not zero. -/
def signalsForEvaluation (evalFailed : Bool) (costMicrousd costBudgetMicrousd : Option ℤ) (failureReason : String) :
    List SignalObservation :=
  let reason := take (upper (orElse (some failureReason) "EVALUATION_FAILED")) 64
  (if evalFailed then [⟨.evalFail, "p1", "evaluation", reason⟩] else []) ++
  (match costMicrousd, costBudgetMicrousd with
  | some cost, some budget =>
    if 0 ≤ budget ∧ budget < cost then [⟨.costExceeded, "p1", "budget", "EVAL_CASE_COST_EXCEEDED"⟩] else []
  | _, _ => [])

def deterministicCategory (reasonCode : String) (eventTypes : List String) : AttributionCategory :=
  let reason := upper reasonCode
  let has := contains reason
  if has "SAFETY" || has "INJECTION" || has "CREDENTIAL" then .safetyError
  else if has "TOOL" || has "MUTATION" || eventTypes.any fun t => take t 5 = "tool_" then .toolError
  else if has "RETRIEV" || has "EVIDENCE" then .retrievalError
  else if has "CONFIDENCE" || has "INTENT" || has "ROUTE" then .intentError
  else if has "POLICY" || has "CONFIRM" then .policyError
  else if has "MODEL" || has "CLASSIFIER" then .modelError
  else if has "RESPONSE" || has "PUBLISH" ||
    eventTypes.any fun t => t ∈ ["assistant_response", "terminal_response_publish_failed"] then .responseError
  else .unknown

def clusterKey (category : String) (route reasonCode : Option String) : String :=
  let material := "|".intercalate
    [take category 64, take (orElse route "unknown") 128, take (orElse reasonCode "unknown") 128]
  "cluster:" ++ take (sha256 material) 32

def severityFor (signal : String) : String :=
  if signal ∈ ["run_failed", "cost_exceeded"] then "p1" else "p2"

end Signals

section Store

inductive FailureError where
  | value (message : String)
  | missing
  | integrity
  | database
  | request

/-- An entry of `signals_json`. -/
structure SignalRecord where
  signal : String
  severity : String
  source : String
  reason : String
  deriving DecidableEq

/-- The arguments of `record_signal`. -/
structure Recording where
  tenantId : String
  signal : String
  severity : String
  source : String
  runId : Option Uuid
  clusterKey : String
  summaryRedacted : String
  traceRefs : List String := []
  caseId : Option String := none
  evalRunId : Option Uuid := none

def Recording.record (r : Recording) : SignalRecord :=
  ⟨r.signal, r.severity, r.source, take r.summaryRedacted 256⟩

structure FailureCase where
  failureId : Uuid
  tenantId : String
  signal : String
  severity : String
  source : String
  runId : Option Uuid
  evalRunId : Option Uuid
  caseId : Option String
  traceRefs : List String
  signals : List SignalRecord
  status : String := "open"
  clusterKey : String
  summaryRedacted : String
  sourceCount : ℕ := 1

/-- `UNIQUE (tenant_id, run_id, cluster_key) WHERE run_id IS NOT NULL`. -/
abbrev FailureCase.Clash (a b : FailureCase) : Prop :=
  a.failureId = b.failureId ∨
    a.runId.isSome = true ∧ a.tenantId = b.tenantId ∧ a.runId = b.runId ∧ a.clusterKey = b.clusterKey

structure Attribution where
  attributionId : Uuid
  failureId : Uuid
  deterministicCategory : String
  llmCategory : Option String := none
  confidence : Option ℚ := none
  evidenceRefs : List String := []
  modelHash : Option String := none
  promptHash : Option String := none
  reviewStatus : String := "pending"
  rationaleRedacted : Option String := none
  createdAt : ℕ
  reviewedCategory : Option String := none
  reviewedBy : Option String := none
  reviewedAt : Option ℕ := none
  reviewNoteRedacted : Option String := none

abbrev Attribution.Clash (a b : Attribution) : Prop := a.attributionId = b.attributionId

structure FailureStore where
  cases : Table FailureCase FailureCase.Clash := .empty
  attributions : Table Attribution Attribution.Clash := .empty

/-- The row that a recording inserts. -/
def Recording.row (r : Recording) (failureId : Uuid) : FailureCase where
  failureId := failureId
  tenantId := r.tenantId
  signal := r.signal
  severity := r.severity
  source := r.source
  runId := r.runId
  evalRunId := r.evalRunId
  caseId := r.caseId
  traceRefs := r.traceRefs
  signals := [r.record]
  clusterKey := r.clusterKey
  summaryRedacted := r.summaryRedacted

/-- The row that a recording conflicts with. -/
def Recording.matches (r : Recording) (row : FailureCase) : Bool :=
  decide (r.runId.isSome = true ∧ row.tenantId = r.tenantId ∧ row.runId = r.runId ∧ row.clusterKey = r.clusterKey)

/-- `ON CONFLICT ... DO UPDATE`; `jsonb_agg(DISTINCT ...)` as a list without its order. -/
def Recording.merge (r : Recording) (row : FailureCase) : FailureCase :=
  { row with
    sourceCount := max row.sourceCount 1
    signal := r.signal
    severity := r.severity
    source := r.source
    traceRefs := (row.traceRefs ++ r.traceRefs).dedup
    signals := (row.signals ++ [r.record]).dedup }

theorem merge_neutral (r : Recording) : Table.Neutral FailureCase.Clash r.merge :=
  fun _ _ => ⟨id, id⟩

/-- The statement of `record_signal`. -/
def recordSignal (s : FailureStore) (r : Recording) (failureId : Uuid) : Except FailureError Uuid × FailureStore :=
  if 2000 < r.summaryRedacted.length ∨ 64 < r.traceRefs.length then
    (.error (.value "failure evidence exceeds bound"), s)
  else if r.severity ∉ ["p0", "p1", "p2", "p3"] then (.error .integrity, s)
  else
    -- at most one row, by the partial unique index
    match s.cases.rows.find? r.matches with
    | some row => (.ok row.failureId, { s with cases := s.cases.update r.matches r.merge (merge_neutral r) })
    | none =>
      match s.cases.insert? (r.row failureId) with
      | some cases => (.ok failureId, { s with cases := cases })
      | none => (.error .integrity, s)

/-- The case that `get` returns, less its latest attribution, which no caller here reads. -/
def getCase (s : FailureStore) (tenantId : String) (failureId : Uuid) : Option FailureCase :=
  s.cases.rows.find? fun row => row.tenantId = tenantId ∧ row.failureId = failureId

/-- The arguments of `add_attribution`. -/
structure NewAttribution where
  failureId : Uuid
  deterministicCategory : String
  llmCategory : Option String
  confidence : Option ℚ
  evidenceRefs : List String
  modelHash : Option String
  promptHash : Option String
  reviewStatus : String
  rationale : Option String

def NewAttribution.row (a : NewAttribution) (attributionId : Uuid) (now : ℕ) : Attribution where
  attributionId := attributionId
  failureId := a.failureId
  deterministicCategory := a.deterministicCategory
  llmCategory := a.llmCategory
  confidence := a.confidence
  evidenceRefs := a.evidenceRefs
  modelHash := a.modelHash
  promptHash := a.promptHash
  reviewStatus := a.reviewStatus
  rationaleRedacted := a.rationale.bind fun text => if text = "" then none else some (take text 2000)
  createdAt := now

/-- The row of an attribution needs a case, of whatever tenant. -/
def insertAttribution (s : FailureStore) (row : Attribution) : Except FailureError Uuid × FailureStore :=
  if s.cases.rows.any fun case => case.failureId = row.failureId then
    match s.attributions.insert? row with
    | some attributions => (.ok row.attributionId, { s with attributions := attributions })
    | none => (.error .integrity, s)
  else (.error .integrity, s)

def addAttribution (s : FailureStore) (a : NewAttribution) (attributionId : Uuid) (now : ℕ) :
    Except FailureError Uuid × FailureStore :=
  insertAttribution s (a.row attributionId now)

/-- The arguments of `review_attribution`. -/
structure Review where
  tenantId : String
  failureId : Uuid
  outcome : String
  reviewer : String
  reviewedCategory : Option String
  reviewNote : String

/-- What a review writes into an attribution; `note` is the redacted one. -/
def Review.decide (v : Review) (note : String) (now : ℕ) (a : Attribution) : Attribution :=
  { a with
    reviewStatus := v.outcome
    reviewedCategory := v.reviewedCategory
    reviewedBy := some (take v.reviewer 128)
    reviewedAt := some now
    reviewNoteRedacted := some note }

theorem decide_neutral (v : Review) (note : String) (now : ℕ) :
    Table.Neutral Attribution.Clash (v.decide note now) := fun _ _ => ⟨id, id⟩

def Review.concerns (v : Review) (case : FailureCase) : Bool :=
  Decidable.decide (case.tenantId = v.tenantId ∧ case.failureId = v.failureId)

theorem reviewed_neutral : Table.Neutral FailureCase.Clash fun case => { case with status := "reviewed" } :=
  fun _ _ => ⟨id, id⟩

/-- The case of a review, whatever became of its attribution. -/
def FailureStore.reviewed (s : FailureStore) (v : Review) : FailureStore :=
  { s with cases := s.cases.update v.concerns (fun case => { case with status := "reviewed" }) reviewed_neutral }

/-- The latest attribution of a case, of two of one instant the first. -/
def FailureStore.latest (s : FailureStore) (v : Review) : Option Attribution :=
  if s.cases.rows.any v.concerns then
    (s.attributions.rows.filter fun a => a.failureId = v.failureId).maxOn? Attribution.createdAt
  else none

/-- `review_attribution`: without an attribution it writes one, and it writes into the latest otherwise. -/
def reviewAttribution (redact : String → String) (s : FailureStore) (v : Review) (attributionId : Uuid) (now : ℕ) :
    Except FailureError Uuid × FailureStore :=
  if v.outcome ∉ ["verified_success", "verified_failure"] then (.error (.value "invalid_review_outcome"), s)
  else if v.reviewer = "" ∨ strip v.reviewNote = "" then (.error (.value "reviewer_and_note_required"), s)
  else
    match s.latest v with
    | none =>
      let row : Attribution := ⟨attributionId, v.failureId, "unknown", none, none, [], none, none, "pending", none, now,
        none, none, none, none⟩
      match insertAttribution s (v.decide (redact v.reviewNote) now row) with
      | (.ok id, s') => (.ok id, s'.reviewed v)
      | (.error e, _) => (.error e, s)
    | some a =>
      let attributions := s.attributions.update (fun b => b.attributionId = a.attributionId)
        (v.decide (redact v.reviewNote) now) (decide_neutral v _ now)
      (.ok a.attributionId, { s with attributions := attributions }.reviewed v)

end Store

section Service

structure EventFact where
  eventId : Uuid
  type : String

structure AttributionOutput where
  category : AttributionCategory
  confidence : ℚ
  evidenceEventIds : List String
  rationale : String
  bounded : 0 ≤ confidence ∧ confidence ≤ 1

/-- What the attribution model is sent. -/
structure AttributionInput where
  signal : String
  summaryRedacted : String
  deterministicCategory : String
  eventFacts : List EventFact

inductive FailureOp : Type → Type
  | replayEvents (tenantId : String) (runId : Uuid) : FailureOp (List EventFact)
  | recordSignal (r : Recording) : FailureOp Uuid
  | get (tenantId : String) (failureId : Uuid) : FailureOp (Option FailureCase)
  | request (input : AttributionInput) : FailureOp Value
  | addAttribution (a : NewAttribution) : FailureOp Uuid
  | reviewAttribution (v : Review) : FailureOp Uuid

abbrev Act := Prog FailureOp FailureError

structure Settings where
  -- the switch, and the model, its address and its key
  enableFailureAttribution : Bool
  judgeModel : String

-- `redact maximum` is `redact_text` and, at 500, `_redact`; `modelValidate` is that of `AttributionOutput`
variable (upper sha256 : String → String) (redact : ℕ → String → String)
  (modelValidate : Value → Option AttributionOutput) (settings : Settings)

def validateAttribution (raw : Value) (allowedEventIds : List String) : Option AttributionOutput :=
  match modelValidate raw with
  | none => none
  | some output =>
    if ∃ x ∈ output.evidenceEventIds, x ∉ allowedEventIds then none
    else if allowedEventIds ≠ [] ∧ output.evidenceEventIds = [] then none
    else if output.confidence < 7 / 10 then none
    else some { output with rationale := redact 500 output.rationale }

def analyze (signal summaryRedacted deterministicCategory : String) (eventFacts : List EventFact)
    (allowedEventIds : List String) : Act (Option AttributionOutput) := do
  let input := ⟨take signal 64, redact 500 summaryRedacted, take deterministicCategory 64,
    (eventFacts.take 64).map fun fact => ⟨take fact.eventId 64, take fact.type 64⟩⟩
  let answer ← (Prog.perform (.request input)).attempt
  match answer with
  | .ok raw => .ret (validateAttribution redact modelValidate raw allowedEventIds)
  | .error _ => .ret none

/-- `_event_facts`: what cannot be replayed is no evidence. -/
def eventFacts (tenantId : String) (runId : Uuid) : Act (List EventFact) := do
  let answer ← (Prog.perform (.replayEvents tenantId runId)).attempt
  match answer with
  | .ok facts => .ret facts
  | .error _ => .ret []

def modelHash (model : String) : String := "sha256:" ++ take (sha256 ("attribution-model:" ++ model)) 64

/-- The attribution that `_append_attribution` adds: with no output it refers to the events of the case. -/
def automatic (failure : FailureCase) (category rationale : String) (output : Option AttributionOutput) :
    NewAttribution where
  failureId := failure.failureId
  deterministicCategory := category
  llmCategory := output.map fun o => o.category.value
  confidence := output.map AttributionOutput.confidence
  evidenceRefs :=
    match output with
    | some o => o.evidenceEventIds
    | none => failure.traceRefs
  modelHash := if settings.judgeModel = "" then none else output.map fun _ => modelHash sha256 settings.judgeModel
  promptHash := output.map fun _ => "sha256:attribution-facts-only-v1"
  reviewStatus := "pending"
  rationale := some (orElse (output.map AttributionOutput.rationale) rationale)

/-- The output of the model, where there is one to ask and there are events to refer to. -/
def modelOutput (failure : FailureCase) (category : String) (eventFacts : List EventFact)
    (allowedEventIds : List String) (signal : String) : Act (Option AttributionOutput) :=
  if settings.enableFailureAttribution = true ∧ allowedEventIds ≠ [] then
    analyze redact modelValidate signal failure.summaryRedacted category eventFacts allowedEventIds
  else .ret none

def appendAttribution (failure : FailureCase) (category : String) (eventFacts : List EventFact)
    (allowedEventIds : List String) (signal : String) (rationale : Option String) : Act Unit := do
  let output ← modelOutput redact modelValidate settings failure category eventFacts allowedEventIds signal
  let _ ← .perform (.addAttribution (automatic sha256 settings failure category
    (orElse rationale "确定性规则归因；LLM 归因需独立模型并保持待复核。") output))
  return ()

/-- The case that was recorded, as it is read afterwards. -/
def recorded (r : Recording) : Act FailureCase := do
  let failureId ← .perform (.recordSignal r)
  let found ← .perform (.get r.tenantId failureId)
  match found with
  | some failure => .ret failure
  | none => .raise .missing

def runRecording (tenantId : String) (runId : Uuid) (signal source reason : String) (route severity : Option String)
    (facts : List EventFact) : Recording where
  tenantId := tenantId
  signal := signal
  severity := orElse severity (severityFor signal)
  source := source
  runId := some runId
  -- the signals of a run on one route are one case, whatever their reasons
  clusterKey := clusterKey sha256 "run_signal" (some (orElse route "terminal")) none
  summaryRedacted := redact 2000 (signal ++ ": " ++ take reason 256)
  traceRefs := facts.map EventFact.eventId

def recordRunSignal (tenantId : String) (runId : Uuid) (signal source reason : String)
    (route severity : Option String) : Act (Option FailureCase) := do
  let facts ← eventFacts tenantId runId
  let category := deterministicCategory upper reason (facts.map EventFact.type)
  let failure ← recorded (runRecording sha256 redact tenantId runId signal source reason route severity facts)
  appendAttribution sha256 redact modelValidate settings failure category.value facts (facts.map EventFact.eventId)
    signal none
  .perform (.get tenantId failure.failureId)

/-- One call for each observation, and the cases that they return. -/
def collect (record : SignalObservation → Act (Option FailureCase)) :
    List SignalObservation → Act (List FailureCase)
  | [] => .ret []
  | observation :: rest => do
    let found ← record observation
    let others ← collect record rest
    return found.toList ++ others

def recordRunOutcome (tenantId : String) (runId : Uuid) (status : String) (terminalReason route : Option String)
    (evalFailed humanRejected : Bool) : Act (List FailureCase) :=
  collect (fun o => recordRunSignal upper sha256 redact modelValidate settings tenantId runId o.signal.value o.source
    o.reasonCode route (some o.severity)) (signalsForRun upper status terminalReason evalFailed humanRejected)

def evaluationRecording (tenantId : String) (evalRunId : Uuid) (caseId track : String) (o : SignalObservation) :
    Recording where
  tenantId := tenantId
  signal := o.signal.value
  severity := o.severity
  source := o.source
  runId := none
  clusterKey := clusterKey sha256 "evaluation" (some track) (some o.signal.value)
  summaryRedacted := o.signal.value ++ ": " ++ o.reasonCode
  caseId := some caseId
  evalRunId := some evalRunId

def recordEvaluationOutcome (tenantId : String) (evalRunId : Uuid) (caseId track : String) (evalFailed : Bool)
    (costMicrousd costBudgetMicrousd : Option ℤ) (failureReason : String) : Act (List FailureCase) :=
  collect (fun o => do
    let failure ← recorded (evaluationRecording sha256 tenantId evalRunId caseId track o)
    appendAttribution sha256 redact modelValidate settings failure (deterministicCategory upper o.reasonCode []).value
      [] [] o.signal.value (some "评测/预算信号已记录；自动化结果仍待人工复核。")
    .perform (.get tenantId failure.failureId))
    (signalsForEvaluation upper evalFailed costMicrousd costBudgetMicrousd failureReason)

/-- The events of the run of a case, if it has one. -/
def caseFacts (failure : FailureCase) : Act (List EventFact) :=
  match failure.runId with
  | some runId => eventFacts failure.tenantId runId
  | none => .ret []

def reanalyze (failure : FailureCase) : Act (Option FailureCase) := do
  let facts ← caseFacts failure
  let category := deterministicCategory upper failure.signal (facts.map EventFact.type)
  appendAttribution sha256 redact modelValidate settings failure category.value facts (facts.map EventFact.eventId)
    failure.signal (some "重新运行确定性归因；自动化评测没有真人审批，因此仍待复核。")
  .perform (.get failure.tenantId failure.failureId)

/-- The case of an endpoint, which answers 404 without one. -/
def existing (tenantId : String) (failureId : Uuid) : Act FailureCase := do
  let found ← .perform (.get tenantId failureId)
  match found with
  | some failure => .ret failure
  | none => .raise .missing

/-- A use of the failure store: by the worker, the evaluation, or an endpoint. -/
inductive Task where
  | runSignal (tenantId : String) (runId : Uuid) (signal source reason : String) (route severity : Option String)
  | runOutcome (tenantId : String) (runId : Uuid) (status : String) (terminalReason route : Option String)
      (evalFailed humanRejected : Bool)
  | evaluation (tenantId : String) (evalRunId : Uuid) (caseId track : String) (evalFailed : Bool)
      (costMicrousd costBudgetMicrousd : Option ℤ) (failureReason : String)
  | reanalysis (tenantId : String) (failureId : Uuid)
  | review (v : Review)

def Task.program : Task → Act Unit
  | .runSignal tenantId runId signal source reason route severity => do
    let _ ← recordRunSignal upper sha256 redact modelValidate settings tenantId runId signal source reason route severity
    return ()
  | .runOutcome tenantId runId status terminalReason route evalFailed humanRejected => do
    let _ ← recordRunOutcome upper sha256 redact modelValidate settings tenantId runId status terminalReason route
      evalFailed humanRejected
    return ()
  | .evaluation tenantId evalRunId caseId track evalFailed cost budget failureReason => do
    let _ ← recordEvaluationOutcome upper sha256 redact modelValidate settings tenantId evalRunId caseId track
      evalFailed cost budget failureReason
    return ()
  | .reanalysis tenantId failureId => do
    let failure ← existing tenantId failureId
    let _ ← reanalyze upper sha256 redact modelValidate settings failure
    return ()
  | .review v => do
    let _ ← existing v.tenantId v.failureId
    let _ ← .perform (.reviewAttribution v)
    return ()

/-- A transaction may fail before it took effect or after it did. -/
inductive Fault where
  | none
  | before
  | after

def Fault.apply {β : Type} (fault : Fault) (s : FailureStore) (answer : Except FailureError β × FailureStore) :
    Except FailureError β × FailureStore :=
  match fault with
  | .none => answer
  | .before => (.error .database, s)
  | .after => (.error .database, answer.2)

/-- What the world adds to a call: the identifier and the time drawn, the events replayed, the model's body. -/
structure Draw where
  uuid : Uuid
  now : ℕ
  fault : Fault := .none
  events : Except FailureError (List EventFact) := .ok []
  body : Except FailureError Value := .error .request

def respond (draw : Draw) (s : FailureStore) :
    {β : Type} → FailureOp β → Except FailureError β × FailureStore
  | _, .replayEvents .. => (draw.events, s)
  | _, .recordSignal r => draw.fault.apply s (recordSignal s r draw.uuid)
  | _, .get tenantId failureId => draw.fault.apply s (.ok (getCase s tenantId failureId), s)
  | _, .request _ => (draw.body, s)
  | _, .addAttribution a => draw.fault.apply s (addAttribution s a draw.uuid draw.now)
  | _, .reviewAttribution v => draw.fault.apply s (reviewAttribution (redact 2000) s v draw.uuid draw.now)

end Service

section Promises

/-- What a task knows: the events it replayed last, the case it read last with the identifier it asked for, and
what it recorded last. -/
structure Known where
  facts : Option (String × Uuid × List EventFact) := none
  failure : Option (Uuid × FailureCase) := none
  recorded : Option (Recording × Uuid) := none

def Known.after (k : Known) : Call FailureOp FailureError → Known
  | ⟨.replayEvents tenantId runId, .ok facts⟩ => { k with facts := some (tenantId, runId, facts) }
  | ⟨.replayEvents tenantId runId, .error _⟩ => { k with facts := some (tenantId, runId, []) }
  | ⟨.recordSignal r, .ok failureId⟩ => { k with recorded := some (r, failureId) }
  | ⟨.get _ failureId, .ok (some failure)⟩ => { k with failure := some (failureId, failure) }
  | _ => k

/-- The events are those of the run of the case, by the case itself or by what was recorded as it. -/
def Known.Owns (k : Known) (asked : Uuid) (failure : FailureCase) (facts : List EventFact) : Prop :=
  ∃ tenantId runId, k.facts = some (tenantId, runId, facts) ∧
    (failure.tenantId = tenantId ∧ failure.runId = some runId ∨
      ∃ r, k.recorded = some (r, asked) ∧ r.tenantId = tenantId ∧ r.runId = some runId)

/-- The evidence of an automatic attribution. -/
def Known.Supports (k : Known) (asked : Uuid) (failure : FailureCase) (a : NewAttribution) : Prop :=
  a.llmCategory = none ∧ a.evidenceRefs = failure.traceRefs ∨
    (∃ c, a.confidence = some c ∧ 7 / 10 ≤ c ∧ c ≤ 1) ∧ a.evidenceRefs ≠ [] ∧
      ∃ facts, k.Owns asked failure facts ∧ ∀ x ∈ a.evidenceRefs, x ∈ facts.map EventFact.eventId

def Promises (k : Known) : {β : Type} → FailureOp β → Prop
  | _, .recordSignal r =>
    ∀ x ∈ r.traceRefs, ∃ runId facts, r.runId = some runId ∧ k.facts = some (r.tenantId, runId, facts) ∧
      x ∈ facts.map EventFact.eventId
  | _, .addAttribution a => a.reviewStatus = "pending" ∧
    ∃ asked failure, k.failure = some (asked, failure) ∧ a.failureId = failure.failureId ∧
      k.Supports asked failure a
  | _, _ => True

variable {upper sha256 : String → String} {redact : ℕ → String → String}
  {modelValidate : Value → Option AttributionOutput} {settings : Settings}

/-- A task that keeps its promises and, when it returns, leaves what it knows as `R` says. -/
abbrev Keeps {α : Type} (R : α → Known → Prop) (p : Act α) (k : Known) : Prop :=
  Safe (.ghost Known.after) (fun k {_} o => Promises k o) (Returns R) p k

theorem keeps_eventFacts (tenantId : String) (runId : Uuid) (k : Known) :
    Keeps (fun facts k' => k' = { k with facts := some (tenantId, runId, facts) }) (eventFacts tenantId runId) k := by
  unfold Keeps eventFacts
  rw [safe_bind, safe_attempt, safe_perform]
  refine ⟨trivial, ?_⟩
  intro answer k' hk
  cases answer with
  | ok facts => exact hk
  | error e => exact hk

/-- What passes the validation refers to allowed events only, to one of them at least when there are any. -/
theorem validateAttribution_eq_some {raw : Value} {allowed : List String} {o : AttributionOutput}
    (h : validateAttribution redact modelValidate raw allowed = some o) (hallowed : allowed ≠ []) :
    (∀ x ∈ o.evidenceEventIds, x ∈ allowed) ∧ o.evidenceEventIds ≠ [] ∧ 7 / 10 ≤ o.confidence := by
  unfold validateAttribution at h
  split at h
  · cases h
  · rename_i output _
    split at h
    · cases h
    · rename_i hsubset
      split at h
      · cases h
      · rename_i hsome
        split at h
        · cases h
        · rename_i hconfidence
          cases h
          refine ⟨?_, fun hnone => hsome ⟨hallowed, hnone⟩, Rat.not_lt.mp hconfidence⟩
          intro x hx
          by_contra hx'
          exact hsubset ⟨x, hx, hx'⟩

theorem keeps_analyze (signal summary category : String) (facts : List EventFact) (allowed : List String)
    (k : Known) :
    Keeps (fun output k' => k' = k ∧ ∀ o, output = some o →
        ∃ raw, validateAttribution redact modelValidate raw allowed = some o)
      (analyze redact modelValidate signal summary category facts allowed) k := by
  unfold Keeps analyze
  rw [safe_bind, safe_attempt, safe_perform]
  refine ⟨trivial, ?_⟩
  intro answer k' hk
  have hk : k' = k := by cases answer <;> exact hk
  cases answer with
  | ok raw => exact ⟨hk, fun o ho => ⟨raw, ho⟩⟩
  | error e => exact ⟨hk, fun o ho => absurd ho (by simp)⟩

/-- The attribution is automatic, and its evidence is that of the case or events of its run. -/
theorem keeps_appendAttribution {k : Known} {asked : Uuid} {failure : FailureCase} {facts : List EventFact}
    (hk : k.failure = some (asked, failure)) (howns : facts ≠ [] → k.Owns asked failure facts)
    (category signal : String) (rationale : Option String) :
    Keeps (fun _ k' => k' = k) (appendAttribution sha256 redact modelValidate settings failure category facts
      (facts.map EventFact.eventId) signal rationale) k := by
  unfold Keeps appendAttribution
  have hadd : ∀ (output : Option AttributionOutput),
      (∀ o, output = some o → facts ≠ [] ∧
        ∃ raw, validateAttribution redact modelValidate raw (facts.map EventFact.eventId) = some o) →
      ∀ final, Promises k (.addAttribution (automatic sha256 settings failure category final output)) := by
    intro output houtput final
    refine ⟨rfl, asked, failure, hk, rfl, ?_⟩
    -- without an output the evidence is the events of the case, with one it is what the validation let pass
    cases output with
    | none => exact Or.inl ⟨rfl, rfl⟩
    | some o =>
      obtain ⟨hfacts, raw, hvalid⟩ := houtput o rfl
      obtain ⟨hsubset, hsome, hconfidence⟩ := validateAttribution_eq_some hvalid (by simpa using hfacts)
      exact Or.inr ⟨⟨o.confidence, rfl, hconfidence, o.bounded.2⟩, hsome, facts, howns hfacts, hsubset⟩
  apply Safe.seq (R := fun output k' => k' = k ∧ ∀ o, output = some o → facts ≠ [] ∧
    ∃ raw, validateAttribution redact modelValidate raw (facts.map EventFact.eventId) = some o)
  · unfold modelOutput
    rw [safe_ite]
    refine ⟨fun hasked => ?_, fun _ => ⟨rfl, fun o ho => absurd ho (by simp)⟩⟩
    have hfacts : facts ≠ [] := by simpa using hasked.2
    refine Safe.post (keeps_analyze signal failure.summaryRedacted category facts _ k) ?_
    intro r k' hr
    cases r with
    | error e => trivial
    | ok output => exact ⟨hr.1, fun o ho => ⟨hfacts, hr.2 o ho⟩⟩
  · intro output k' houtput
    obtain ⟨rfl, houtput⟩ := houtput
    rw [safe_bind, safe_perform]
    refine ⟨hadd output houtput _, ?_⟩
    intro answer k'' hk''
    cases answer with
    | error e => trivial
    | ok id => exact hk''

theorem keeps_get (tenantId : String) (failureId : Uuid) (k : Known) :
    Keeps (fun _ _ => True) (.perform (.get tenantId failureId) : Act (Option FailureCase)) k := by
  unfold Keeps
  rw [safe_perform]
  refine ⟨trivial, ?_⟩
  intro answer k' _
  cases answer <;> trivial

theorem keeps_recorded {r : Recording} {k : Known} (hr : Promises k (.recordSignal r)) :
    Keeps (fun failure k' => ∃ asked, k' = { k with failure := some (asked, failure), recorded := some (r, asked) })
      (recorded r) k := by
  unfold Keeps recorded
  rw [safe_bind, safe_perform]
  refine ⟨hr, ?_⟩
  intro answer k' hk'
  cases answer with
  | error e => trivial
  | ok failureId =>
    rw [thenSafe_ok, safe_bind, safe_perform]
    refine ⟨trivial, ?_⟩
    intro found k'' hk''
    cases found with
    | error e => trivial
    | ok found =>
      cases found with
      | none => trivial
      | some failure =>
        refine ⟨failureId, ?_⟩
        rw [hk'', hk']
        rfl

theorem keeps_recordRunSignal (tenantId : String) (runId : Uuid) (signal source reason : String)
    (route severity : Option String) (k : Known) :
    Keeps (fun _ _ => True) (recordRunSignal upper sha256 redact modelValidate settings tenantId runId signal source
      reason route severity) k := by
  unfold Keeps recordRunSignal
  apply Safe.seq (keeps_eventFacts tenantId runId k)
  intro facts k' hk'
  have hpromise : Promises k' (.recordSignal
      (runRecording sha256 redact tenantId runId signal source reason route severity facts)) := by
    intro x hx
    exact ⟨runId, facts, rfl, by rw [hk']; rfl, hx⟩
  apply Safe.seq (keeps_recorded hpromise)
  intro failure k'' hk''
  obtain ⟨asked, hk''⟩ := hk''
  have howns : k''.Owns asked failure facts := by
    refine ⟨tenantId, runId, by rw [hk'', hk'], Or.inr ⟨_, by rw [hk''], rfl, rfl⟩⟩
  apply Safe.seq (keeps_appendAttribution (by rw [hk'']) (fun _ => howns) _ _ _)
  intro _ _ _
  exact keeps_get _ _ _

theorem keeps_collect {record : SignalObservation → Act (Option FailureCase)}
    (hrecord : ∀ o k, Keeps (fun _ _ => True) (record o) k) (l : List SignalObservation) (k : Known) :
    Keeps (fun _ _ => True) (collect record l) k := by
  induction l generalizing k with
  | nil => trivial
  | cons o l ih =>
    apply Safe.seq (hrecord o k)
    intro _ k' _
    apply Safe.seq (ih k')
    intro _ _ _
    trivial

theorem keeps_reanalyze {k : Known} {failureId : Uuid} {failure : FailureCase}
    (hk : k.failure = some (failureId, failure)) :
    Keeps (fun _ _ => True) (reanalyze upper sha256 redact modelValidate settings failure) k := by
  unfold Keeps reanalyze
  apply Safe.seq (R := fun facts k' => k'.failure = k.failure ∧ (facts ≠ [] → k'.Owns failureId failure facts))
  · unfold caseFacts
    split
    · rename_i runId hrun
      refine Safe.post (keeps_eventFacts failure.tenantId runId k) ?_
      intro r k' hr
      cases r with
      | error e => trivial
      | ok facts =>
        have hr : k' = { k with facts := some (failure.tenantId, runId, facts) } := hr
        rw [hr]
        exact ⟨rfl, fun _ => ⟨failure.tenantId, runId, rfl, Or.inl ⟨rfl, hrun⟩⟩⟩
    · exact ⟨rfl, fun h => absurd rfl h⟩
  · intro facts k' hk'
    apply Safe.seq (keeps_appendAttribution (hk'.1.trans hk) hk'.2 _ _ _)
    intro _ _ _
    exact keeps_get _ _ _

theorem keeps_existing (tenantId : String) (failureId : Uuid) (k : Known) :
    Keeps (fun failure k' => k'.failure = some (failureId, failure)) (existing tenantId failureId) k := by
  unfold Keeps existing
  rw [safe_bind, safe_perform]
  refine ⟨trivial, ?_⟩
  intro found k' hk'
  cases found with
  | error e => trivial
  | ok found =>
    cases found with
    | none => trivial
    | some failure =>
      rw [hk']
      rfl

/-- Every task keeps its promises. -/
theorem keeps_program (task : Task) :
    Keeps (fun _ _ => True) (task.program upper sha256 redact modelValidate settings) {} := by
  cases task with
  | runSignal tenantId runId signal source reason route severity =>
    apply Safe.seq (keeps_recordRunSignal tenantId runId signal source reason route severity _)
    intro _ _ _
    trivial
  | runOutcome tenantId runId status terminalReason route evalFailed humanRejected =>
    apply Safe.seq (keeps_collect (fun o k => keeps_recordRunSignal _ _ _ _ _ _ _ k) _ _)
    intro _ _ _
    trivial
  | evaluation tenantId evalRunId caseId track evalFailed cost budget failureReason =>
    refine Safe.seq (keeps_collect ?_ _ _) fun _ _ _ => trivial
    intro o k
    have hpromise : Promises k (.recordSignal (evaluationRecording sha256 tenantId evalRunId caseId track o)) := by
      intro x hx
      cases hx
    apply Safe.seq (keeps_recorded hpromise)
    intro failure k' hk'
    obtain ⟨asked, hk'⟩ := hk'
    refine Safe.seq (keeps_appendAttribution (by rw [hk']) ?_ _ _ _) ?_
    · intro hfacts
      exact absurd rfl hfacts
    · intro _ _ _
      exact keeps_get _ _ _
  | reanalysis tenantId failureId =>
    apply Safe.seq (keeps_existing tenantId failureId _)
    intro failure k hk
    apply Safe.seq (keeps_reanalyze hk)
    intro _ _ _
    trivial
  | review v =>
    apply Safe.seq (keeps_existing v.tenantId v.failureId _)
    intro failure k hk
    rw [safe_bind, safe_perform]
    refine ⟨trivial, ?_⟩
    intro answer _ _
    cases answer <;> trivial

end Promises

section Steps

variable {redact : ℕ → String → String} {s s' : FailureStore} {r : Recording}

/-- What a case keeps of itself. -/
structure FailureCase.Grown (row row' : FailureCase) : Prop where
  failureId : row'.failureId = row.failureId
  tenantId : row'.tenantId = row.tenantId
  runId : row'.runId = row.runId
  clusterKey : row'.clusterKey = row.clusterKey
  traceRefs : ∀ x ∈ row.traceRefs, x ∈ row'.traceRefs
  signals : ∀ x ∈ row.signals, x ∈ row'.signals

theorem FailureCase.Grown.refl (row : FailureCase) : row.Grown row :=
  ⟨rfl, rfl, rfl, rfl, fun _ h => h, fun _ h => h⟩

theorem merge_grown (r : Recording) (row : FailureCase) : row.Grown (r.merge row) := by
  refine ⟨rfl, rfl, rfl, rfl, ?_, ?_⟩
  · intro x hx
    exact List.mem_dedup.mpr (List.mem_append_left _ hx)
  · intro x hx
    exact List.mem_dedup.mpr (List.mem_append_left _ hx)

theorem reviewed_grown (row : FailureCase) : row.Grown { row with status := "reviewed" } :=
  ⟨rfl, rfl, rfl, rfl, fun _ h => h, fun _ h => h⟩

/-- The cases of an update, each old or changed. -/
theorem mem_update {p : FailureCase → Bool} {f : FailureCase → FailureCase} {t : Table FailureCase FailureCase.Clash}
    (hf : Table.Neutral FailureCase.Clash f) {row' : FailureCase} (h : row' ∈ (t.update p f hf).rows) :
    row' ∈ t.rows ∨ ∃ row ∈ t.rows, p row = true ∧ row' = f row := by
  obtain ⟨row, hrow, rfl⟩ := List.mem_map.mp h
  unfold Table.changed
  split
  · rename_i hp
    exact Or.inr ⟨row, hrow, hp, rfl⟩
  · exact Or.inl hrow

theorem update_grown {p : FailureCase → Bool} {f : FailureCase → FailureCase} {t : Table FailureCase FailureCase.Clash}
    (hf : Table.Neutral FailureCase.Clash f) (hg : ∀ row : FailureCase, row.Grown (f row)) :
    ∀ row ∈ t.rows, ∃ row' ∈ (t.update p f hf).rows, row.Grown row' := by
  intro row hrow
  refine ⟨Table.changed p f row, List.mem_map_of_mem hrow, ?_⟩
  unfold Table.changed
  split
  · exact hg row
  · exact .refl row

/-- The case that a recording is in. -/
abbrev Recording.In (r : Recording) (row : FailureCase) : Prop :=
  row.tenantId = r.tenantId ∧ row.runId = r.runId ∧ row.clusterKey = r.clusterKey

/-- What the store has of a recording. -/
def FailureStore.Has (s : FailureStore) (r : Recording) (failureId : Uuid) : Prop :=
  ∃ row ∈ s.cases.rows, row.failureId = failureId ∧ r.In row ∧ r.record ∈ row.signals ∧
    ∀ x ∈ r.traceRefs, x ∈ row.traceRefs

/-- The cases before and after a call. -/
structure CaseStep (s : FailureStore) (s' : FailureStore) (new : FailureCase → Prop) : Prop where
  rows : ∀ row' ∈ s'.cases.rows, row' ∈ s.cases.rows ∨ new row'
  grown : ∀ row ∈ s.cases.rows, ∃ row' ∈ s'.cases.rows, row.Grown row'

theorem CaseStep.refl (s : FailureStore) (new : FailureCase → Prop) : CaseStep s s new :=
  ⟨fun _ h => Or.inl h, fun row h => ⟨row, h, .refl row⟩⟩

/-- A recording leaves the case that it merged into, or the one new case. -/
def Recording.Leaves (s : FailureStore) (r : Recording) (row' : FailureCase) : Prop :=
  (∃ row ∈ s.cases.rows, r.In row ∧ row' = r.merge row) ∨ ∃ failureId, row' = r.row failureId

theorem in_of_matches {row : FailureCase} (h : r.matches row = true) : r.In row :=
  (of_decide_eq_true h).2

theorem recordSignal_step (s : FailureStore) (r : Recording) (uuid : Uuid) :
    let answer := recordSignal s r uuid
    answer.2.attributions = s.attributions ∧ CaseStep s answer.2 (r.Leaves s) ∧
      ∀ failureId, answer.1 = .ok failureId → answer.2.Has r failureId := by
  unfold recordSignal
  -- beyond the bound, a severity that the table refuses, a case to merge into, a new case
  split
  · exact ⟨rfl, .refl _ _, fun _ h => absurd h (by simp)⟩
  · split
    · exact ⟨rfl, .refl _ _, fun _ h => absurd h (by simp)⟩
    · split
      · rename_i row hfound
        have hrow := List.mem_of_find?_eq_some hfound
        have hmatch := List.find?_some hfound
        refine ⟨rfl, ⟨?_, update_grown (merge_neutral r) (merge_grown r)⟩, ?_⟩
        · intro row' hrow'
          refine (mem_update (merge_neutral r) hrow').imp_right ?_
          intro hmerged
          obtain ⟨old, hold, hp, heq⟩ := hmerged
          exact Or.inl ⟨old, hold, in_of_matches hp, heq⟩
        · intro failureId hid
          refine ⟨r.merge row, ?_, Except.ok.inj hid, in_of_matches hmatch, ?_, ?_⟩
          · exact List.mem_map.mpr ⟨row, hrow, Table.changed_pos hmatch⟩
          · exact List.mem_dedup.mpr (List.mem_append_right _ (List.mem_singleton_self _))
          · intro x hx
            exact List.mem_dedup.mpr (List.mem_append_right _ hx)
      · split
        · rename_i cases hinsert
          refine ⟨rfl, ⟨?_, ?_⟩, ?_⟩
          · intro row' hrow'
            exact ((Table.mem_insert? hinsert).mp hrow').imp_right fun heq => Or.inr ⟨uuid, heq⟩
          · intro row hrow
            exact ⟨row, (Table.mem_insert? hinsert).mpr (Or.inl hrow), .refl row⟩
          · intro failureId hid
            rw [← Except.ok.inj hid]
            exact ⟨r.row uuid, (Table.mem_insert? hinsert).mpr (Or.inr rfl), rfl, ⟨rfl, rfl, rfl⟩,
              List.mem_singleton_self _, fun _ h => h⟩
        · exact ⟨rfl, .refl _ _, fun _ h => absurd h (by simp)⟩

/-- The row that is inserted is the only new one, and has a case. -/
theorem insertAttribution_step (s : FailureStore) (row : Attribution) :
    let answer := insertAttribution s row
    answer.2.cases = s.cases ∧ ∀ a ∈ answer.2.attributions.rows, a ∈ s.attributions.rows ∨
      a = row ∧ ∃ case ∈ s.cases.rows, case.failureId = row.failureId := by
  unfold insertAttribution
  split
  · rename_i hcase
    obtain ⟨case, hmem, hid⟩ := List.any_eq_true.mp hcase
    split
    · rename_i attributions hinsert
      refine ⟨rfl, ?_⟩
      intro a ha
      exact ((Table.mem_insert? hinsert).mp ha).imp_right fun heq => ⟨heq, case, hmem, of_decide_eq_true hid⟩
    · exact ⟨rfl, fun _ h => Or.inl h⟩
  · exact ⟨rfl, fun _ h => Or.inl h⟩

/-- A review leaves the attribution that it decides: a stored one, or one without evidence. -/
def Review.Leaves (s : FailureStore) (v : Review) (a' : Attribution) : Prop :=
  ∃ a note now, a' = v.decide note now a ∧ a.failureId = v.failureId ∧
    (a ∈ s.attributions.rows ∨ a.evidenceRefs = [] ∧ a.llmCategory = none ∧
      ∃ case ∈ s.cases.rows, case.failureId = v.failureId)

/-- A case that a review concerns, afterwards. -/
def Review.Settles (s : FailureStore) (v : Review) (row' : FailureCase) : Prop :=
  ∃ row ∈ s.cases.rows, v.concerns row = true ∧ row' = { row with status := "reviewed" }

theorem reviewed_step (s : FailureStore) (v : Review) : CaseStep s (s.reviewed v) (v.Settles s) :=
  ⟨fun _ h => mem_update reviewed_neutral h, update_grown reviewed_neutral reviewed_grown⟩

theorem reviewAttribution_step (redact : String → String) (s : FailureStore) (v : Review) (uuid : Uuid) (now : ℕ) :
    let answer := reviewAttribution redact s v uuid now
    CaseStep s answer.2 (v.Settles s) ∧
      ∀ a' ∈ answer.2.attributions.rows, a' ∈ s.attributions.rows ∨ v.Leaves s a' := by
  unfold reviewAttribution
  split
  · exact ⟨.refl _ _, fun _ h => Or.inl h⟩
  · split
    · exact ⟨.refl _ _, fun _ h => Or.inl h⟩
    · split
      · dsimp only
        generalize hrow : (Attribution.mk uuid v.failureId "unknown" none none [] none none "pending" none now
          none none none none) = row
        have hinsert := insertAttribution_step s (v.decide (redact v.reviewNote) now row)
        split
        · rename_i id s' heq
          rw [heq] at hinsert
          obtain ⟨hcases, hattributions⟩ := hinsert
          have hstep := reviewed_step s v
          refine ⟨⟨?_, ?_⟩, ?_⟩
          · intro row' hrow'
            have hrow' : row' ∈ (s'.reviewed v).cases.rows := hrow'
            unfold FailureStore.reviewed at hrow'
            rw [hcases] at hrow'
            exact hstep.rows row' hrow'
          · intro old hold
            obtain ⟨new, hnew, hg⟩ := hstep.grown old hold
            refine ⟨new, ?_, hg⟩
            change new ∈ (s'.cases.update _ _ reviewed_neutral).rows
            rw [hcases]
            exact hnew
          · intro a' ha'
            refine (hattributions a' ha').imp_right ?_
            intro hnew
            refine ⟨row, redact v.reviewNote, now, hnew.1, ?_, Or.inr ⟨?_, ?_, ?_⟩⟩
            · rw [← hrow]
            · rw [← hrow]
            · rw [← hrow]
            · obtain ⟨case, hmem, hid⟩ := hnew.2
              refine ⟨case, hmem, hid.trans ?_⟩
              rw [← hrow]
              rfl
        · exact ⟨.refl _ _, fun _ h => Or.inl h⟩
      · rename_i a hlatest
        have hstep := reviewed_step s v
        refine ⟨⟨hstep.rows, hstep.grown⟩, ?_⟩
        have hmem : a ∈ s.attributions.rows ∧ a.failureId = v.failureId := by
          unfold FailureStore.latest at hlatest
          split at hlatest
          · have hfilter := List.mem_filter.mp (List.maxOn?_mem hlatest)
            exact ⟨hfilter.1, of_decide_eq_true hfilter.2⟩
          · cases hlatest
        intro a' ha'
        obtain ⟨b, hb, rfl⟩ := List.mem_map.mp ha'
        unfold Table.changed
        split
        · rename_i hid
          -- the identifier is the key, so the row that is written is the latest one
          have hsame : b = a :=
            Table.Keyed.eq (fun _ _ h => h) s.attributions.distinct hb hmem.1 (of_decide_eq_true hid)
          exact Or.inr ⟨b, redact v.reviewNote, now, rfl, hsame ▸ hmem.2, Or.inl hb⟩
        · exact Or.inl hb

/-- A fault keeps the store before the transaction or the one after it, and is no answer. -/
theorem Fault.apply_cases {β : Type} (fault : Fault) (s : FailureStore)
    (answer : Except FailureError β × FailureStore) :
    ((fault.apply s answer).2 = s ∧ ∃ e, (fault.apply s answer).1 = .error e) ∨
      (fault.apply s answer).2 = answer.2 ∧ ∀ b, (fault.apply s answer).1 = .ok b → answer.1 = .ok b := by
  cases fault with
  | none => exact Or.inr ⟨rfl, fun _ h => h⟩
  | before => exact Or.inl ⟨rfl, _, rfl⟩
  | after => exact Or.inr ⟨rfl, fun b h => by cases h⟩

/-- What the Skill registry reads of a case. -/
def FailureCase.evidence (row : FailureCase) : Skills.FailureCase :=
  ⟨row.tenantId, row.clusterKey, row.failureId, row.runId, row.caseId⟩

/-- A recording is to the Skill registry what it takes it for: a repeated signal of a run is no new evidence. -/
theorem recordSignal_refines {reg : Skills.Registry} {uuid failureId : Uuid}
    (hreg : reg.failureCases = s.cases.rows.map FailureCase.evidence)
    (hstored : recordSignal s r uuid = (.ok failureId, s')) :
    (reg.recordFailure (r.row uuid).evidence).failureCases = s'.cases.rows.map FailureCase.evidence := by
  have hany : (reg.failureCases.any fun g => decide (g.tenantId = r.tenantId ∧ g.runId = r.runId ∧
      g.clusterKey = r.clusterKey)) = s.cases.rows.any fun row => decide (r.In row) := by
    rw [hreg, List.any_map]
    rfl
  unfold recordSignal at hstored
  unfold Skills.Registry.recordFailure
  split at hstored
  · cases hstored
  · split at hstored
    · cases hstored
    · split at hstored
      · rename_i row hfound
        obtain ⟨_, rfl⟩ := Prod.mk.inj hstored
        have hmatch := List.find?_some hfound
        have hknown : s.cases.rows.any (fun row => decide (r.In row)) = true :=
          List.any_eq_true.mpr ⟨row, List.mem_of_find?_eq_some hfound, decide_eq_true (in_of_matches hmatch)⟩
        rw [if_pos ⟨(of_decide_eq_true hmatch).1, hany.trans hknown⟩, hreg]
        -- merging changes nothing that the registry reads
        change _ = (s.cases.rows.map (Table.changed r.matches r.merge)).map FailureCase.evidence
        rw [List.map_map]
        apply List.map_congr_left
        intro old _
        show old.evidence = (Table.changed r.matches r.merge old).evidence
        unfold Table.changed
        split
        · rfl
        · rfl
      · rename_i hnone
        split at hstored
        · rename_i cases hinsert
          obtain ⟨_, rfl⟩ := Prod.mk.inj hstored
          have hnew : ¬ ((r.row uuid).evidence.runId.isSome = true ∧
              (reg.failureCases.any fun g => decide (g.tenantId = (r.row uuid).evidence.tenantId ∧
                g.runId = (r.row uuid).evidence.runId ∧ g.clusterKey = (r.row uuid).evidence.clusterKey)) = true) := by
            intro hboth
            obtain ⟨row, hrow, hin⟩ := List.any_eq_true.mp (hany.symm.trans hboth.2)
            exact List.find?_eq_none.mp hnone row hrow (decide_eq_true ⟨hboth.1, of_decide_eq_true hin⟩)
          rw [if_neg hnew]
          change reg.failureCases ++ [_] = _
          rw [hreg, (Table.insert?_eq_some.mp hinsert).2, List.map_append]
          rfl
        · cases hstored

end Steps

section Invariant

variable {ι : Type} (h : History ι FailureOp FailureError FailureStore)

/-- A replay of the run answered with the event. -/
def Replayed (tenantId : String) (runId : Uuid) (x : String) : Prop :=
  ∃ i e facts, (i, e) ∈ h ∧ e.toCall = (⟨.replayEvents tenantId runId, .ok facts⟩ : Call FailureOp FailureError) ∧
    x ∈ facts.map EventFact.eventId

/-- A recording that took effect, with the case that it is in. -/
def stored? : Call FailureOp FailureError → Option (Recording × Uuid)
  | ⟨.recordSignal r, .ok failureId⟩ => some (r, failureId)
  | _ => none

/-- The signal was recorded for the case. -/
def Signalled (row : FailureCase) (x : SignalRecord) : Prop :=
  ∃ i e r answer, (i, e) ∈ h ∧ e.toCall = (⟨.recordSignal r, answer⟩ : Call FailureOp FailureError) ∧ r.In row ∧
    r.record = x

/-- Someone reviewed the attribution, and it says who and what. -/
def ReviewedBy (a : Attribution) : Prop :=
  ∃ i e v answer, (i, e) ∈ h ∧ e.toCall = (⟨.reviewAttribution v, answer⟩ : Call FailureOp FailureError) ∧
    v.failureId = a.failureId ∧ a.reviewStatus = v.outcome ∧ a.reviewedBy = some (take v.reviewer 128) ∧
    a.reviewedCategory = v.reviewedCategory

/-- Someone of its tenant reviewed the case. -/
def CaseReviewed (row : FailureCase) : Prop :=
  ∃ i e v answer, (i, e) ∈ h ∧ e.toCall = (⟨.reviewAttribution v, answer⟩ : Call FailureOp FailureError) ∧
    v.tenantId = row.tenantId ∧ v.failureId = row.failureId

/-- An event of the run of a case. -/
def OfRun (row : FailureCase) (x : String) : Prop := ∃ runId, row.runId = some runId ∧ Replayed h row.tenantId runId x

structure SoundCase (row : FailureCase) : Prop where
  traceRefs : ∀ x ∈ row.traceRefs, OfRun h row x
  signals : ∀ x ∈ row.signals, Signalled h row x
  sourceCount : row.sourceCount = 1
  status : row.status = "open" ∨ row.status = "reviewed" ∧ CaseReviewed h row

structure SoundAttribution (s : FailureStore) (a : Attribution) : Prop where
  human : a.reviewStatus = "pending" ∧ a.reviewedBy = none ∧ a.reviewedCategory = none ∨ ReviewedBy h a
  evidence : ∃ row ∈ s.cases.rows, row.failureId = a.failureId ∧ ∀ x ∈ a.evidenceRefs, OfRun h row x
  grounded : a.llmCategory ≠ none → a.evidenceRefs ≠ [] ∧ ∃ c, a.confidence = some c ∧ 7 / 10 ≤ c ∧ c ≤ 1

/-- What a task knows is so. -/
structure SoundTask (s : FailureStore) (k : Known) : Prop where
  facts : ∀ tenantId runId facts, k.facts = some (tenantId, runId, facts) →
    ∀ x ∈ facts.map EventFact.eventId, Replayed h tenantId runId x
  failure : ∀ asked failure, k.failure = some (asked, failure) → failure.failureId = asked ∧
    ∃ row ∈ s.cases.rows, failure.Grown row
  recorded : ∀ r failureId, k.recorded = some (r, failureId) → s.Has r failureId

variable {h} {s s' : FailureStore} {row row' : FailureCase} {a : Attribution} {k : Known} {r : Recording}
  {x : ι × Happened FailureOp FailureError FailureStore}

theorem FailureCase.Grown.trans {row'' : FailureCase} (hg : row.Grown row') (hg' : row'.Grown row'') :
    row.Grown row'' where
  failureId := hg'.failureId.trans hg.failureId
  tenantId := hg'.tenantId.trans hg.tenantId
  runId := hg'.runId.trans hg.runId
  clusterKey := hg'.clusterKey.trans hg.clusterKey
  traceRefs := fun x hx => hg'.traceRefs x (hg.traceRefs x hx)
  signals := fun x hx => hg'.signals x (hg.signals x hx)

theorem Recording.In.grown (hr : r.In row) (hg : row.Grown row') : r.In row' :=
  ⟨hg.tenantId.trans hr.1, hg.runId.trans hr.2.1, hg.clusterKey.trans hr.2.2⟩

theorem Replayed.snoc {tenantId : String} {runId : Uuid} {y : String} (hy : Replayed h tenantId runId y) :
    Replayed (h ++ [x]) tenantId runId y := by
  obtain ⟨i, e, facts, hmem, hrest⟩ := hy
  exact ⟨i, e, facts, List.mem_append_left _ hmem, hrest⟩

theorem OfRun.snoc {y : String} (hy : OfRun h row y) (hg : row.Grown row') : OfRun (h ++ [x]) row' y := by
  obtain ⟨runId, hrun, hreplayed⟩ := hy
  refine ⟨runId, hg.runId.trans hrun, ?_⟩
  rw [hg.tenantId]
  exact hreplayed.snoc

theorem Signalled.snoc {y : SignalRecord} (hy : Signalled h row y) (hg : row.Grown row') :
    Signalled (h ++ [x]) row' y := by
  obtain ⟨i, e, r, answer, hmem, hcall, hin, hrecord⟩ := hy
  exact ⟨i, e, r, answer, List.mem_append_left _ hmem, hcall, hin.grown hg, hrecord⟩

theorem ReviewedBy.snoc (ha : ReviewedBy h a) : ReviewedBy (h ++ [x]) a := by
  obtain ⟨i, e, v, answer, hmem, hrest⟩ := ha
  exact ⟨i, e, v, answer, List.mem_append_left _ hmem, hrest⟩

theorem CaseReviewed.snoc (hr : CaseReviewed h row) (hg : row.Grown row') : CaseReviewed (h ++ [x]) row' := by
  obtain ⟨i, e, v, answer, hmem, hcall, htenant, hid⟩ := hr
  exact ⟨i, e, v, answer, List.mem_append_left _ hmem, hcall, htenant.trans hg.tenantId.symm,
    hid.trans hg.failureId.symm⟩

theorem SoundCase.snoc (hc : SoundCase h row) : SoundCase (h ++ [x]) row where
  traceRefs := fun y hy => (hc.traceRefs y hy).snoc (.refl row)
  signals := fun y hy => (hc.signals y hy).snoc (.refl row)
  sourceCount := hc.sourceCount
  status := hc.status.imp_right fun hr => ⟨hr.1, hr.2.snoc (.refl row)⟩

theorem SoundAttribution.snoc (ha : SoundAttribution h s a)
    (hg : ∀ row ∈ s.cases.rows, ∃ row' ∈ s'.cases.rows, row.Grown row') : SoundAttribution (h ++ [x]) s' a where
  human := ha.human.imp_right ReviewedBy.snoc
  evidence := by
    obtain ⟨row, hrow, hid, hrefs⟩ := ha.evidence
    obtain ⟨row', hrow', hgrown⟩ := hg row hrow
    exact ⟨row', hrow', hgrown.failureId.trans hid, fun y hy => (hrefs y hy).snoc hgrown⟩
  grounded := ha.grounded

theorem FailureStore.Has.grown {failureId : Uuid} (hs : s.Has r failureId)
    (hg : ∀ row ∈ s.cases.rows, ∃ row' ∈ s'.cases.rows, row.Grown row') : s'.Has r failureId := by
  obtain ⟨row, hrow, hid, hin, hrecord, hrefs⟩ := hs
  obtain ⟨row', hrow', hgrown⟩ := hg row hrow
  exact ⟨row', hrow', hgrown.failureId.trans hid, hin.grown hgrown, hgrown.signals _ hrecord,
    fun y hy => hgrown.traceRefs y (hrefs y hy)⟩

theorem SoundTask.snoc (hk : SoundTask h s k)
    (hg : ∀ row ∈ s.cases.rows, ∃ row' ∈ s'.cases.rows, row.Grown row') : SoundTask (h ++ [x]) s' k where
  facts := fun tenantId runId facts hf y hy => (hk.facts tenantId runId facts hf y hy).snoc
  failure := by
    intro asked failure hf
    obtain ⟨hid, row, hrow, hgrown⟩ := hk.failure asked failure hf
    obtain ⟨row', hrow', hgrown'⟩ := hg row hrow
    exact ⟨hid, row', hrow', hgrown.trans hgrown'⟩
  recorded := fun r failureId hr => (hk.recorded r failureId hr).grown hg

theorem SoundTask.same (hk : SoundTask h s k) : SoundTask (h ++ [x]) s k :=
  hk.snoc fun row hrow => ⟨row, hrow, .refl row⟩

/-- The events of a recording are of the run of its case. -/
theorem ofRun_recording (hk : SoundTask h s k) (hp : Promises k (.recordSignal r)) (hin : r.In row) :
    ∀ y ∈ r.traceRefs, OfRun h row y := by
  intro y hy
  obtain ⟨runId, facts, hrun, hfacts, hmem⟩ := hp y hy
  refine ⟨runId, hin.2.1.trans hrun, ?_⟩
  rw [hin.1]
  exact hk.facts _ _ _ hfacts y hmem

theorem soundCase_merge (hc : SoundCase h row) (hrefs : ∀ y ∈ r.traceRefs, OfRun h row y)
    (hsignal : Signalled (h ++ [x]) row r.record) : SoundCase (h ++ [x]) (r.merge row) where
  traceRefs := by
    intro y hy
    rcases List.mem_append.mp (List.mem_dedup.mp hy) with hold | hnew
    · exact (hc.traceRefs y hold).snoc (merge_grown r row)
    · exact (hrefs y hnew).snoc (merge_grown r row)
  signals := by
    intro y hy
    rcases List.mem_append.mp (List.mem_dedup.mp hy) with hold | hnew
    · exact (hc.signals y hold).snoc (merge_grown r row)
    · rw [List.mem_singleton.mp hnew]
      exact hsignal
  sourceCount := by
    show max row.sourceCount 1 = 1
    rw [hc.sourceCount]
    exact max_self 1
  status := hc.status.imp_right fun hr => ⟨hr.1, hr.2.snoc (merge_grown r row)⟩

variable [DecidableEq ι]

structure Sound (h : History ι FailureOp FailureError FailureStore) (s : FailureStore) : Prop where
  cases : ∀ row ∈ s.cases.rows, SoundCase h row
  attributions : ∀ a ∈ s.attributions.rows, SoundAttribution h s a
  tasks : ∀ i, SoundTask h s (view Known.after {} i h)
  kept : ∀ i e r failureId, (i, e) ∈ h →
    stored? e.toCall = some (r, failureId) → s.Has r failureId

/-- A call changes what its own task knows, and keeps what the others know. -/
theorem Sound.extend (hs : Sound h s) {i : ι} {e : Happened FailureOp FailureError FailureStore}
    (hg : ∀ row ∈ s.cases.rows, ∃ row' ∈ s'.cases.rows, row.Grown row')
    (hcases : ∀ row ∈ s'.cases.rows, SoundCase (h ++ [(i, e)]) row)
    (hattributions : ∀ a ∈ s'.attributions.rows, a ∈ s.attributions.rows ∨ SoundAttribution (h ++ [(i, e)]) s' a)
    (hown : SoundTask (h ++ [(i, e)]) s' ((view Known.after {} i h).after e.toCall))
    (hkept : ∀ r failureId, stored? e.toCall = some (r, failureId) → s'.Has r failureId) : Sound (h ++ [(i, e)]) s' where
  cases := hcases
  attributions := by
    intro a ha
    rcases hattributions a ha with hold | hnew
    · exact (hs.attributions a hold).snoc hg
    · exact hnew
  tasks := by
    intro j
    by_cases hj : i = j
    · subst hj
      rw [view_snoc_self]
      exact hown
    · rw [view_snoc_other _ _ hj]
      exact (hs.tasks j).snoc hg
  kept := by
    intro j e' r failureId hmem hcall
    rcases List.mem_append.mp hmem with hpast | hlast
    · exact (hs.kept j e' r failureId hpast hcall).grown hg
    · obtain ⟨_, rfl⟩ := Prod.mk.inj (List.mem_singleton.mp hlast)
      exact hkept r failureId hcall

theorem Sound.empty : Sound ([] : History ι FailureOp FailureError FailureStore) {} where
  cases := by
    intro row hrow
    cases hrow
  attributions := by
    intro a ha
    cases ha
  tasks := by
    intro i
    refine ⟨?_, ?_, ?_⟩
    · intro _ _ _ hf
      cases hf
    · intro _ _ hf
      cases hf
    · intro _ _ hr
      cases hr
  kept := by
    intro i e r failureId hmem
    cases hmem

variable {redact : ℕ → String → String} {i : ι}

/-- A call that leaves the store alone and is no recording. -/
theorem Sound.idle (hs : Sound h s) {e : Happened FailureOp FailureError FailureStore}
    (hown : SoundTask (h ++ [(i, e)]) s ((view Known.after {} i h).after e.toCall))
    (hkept : ∀ r failureId, stored? e.toCall = some (r, failureId) → s.Has r failureId) : Sound (h ++ [(i, e)]) s :=
  hs.extend (fun row hrow => ⟨row, hrow, .refl row⟩) (fun row hrow => (hs.cases row hrow).snoc)
    (fun _ ha => Or.inl ha) hown hkept

theorem Sound.replay (hs : Sound h s) {tenantId : String} {runId : Uuid}
    {answer : Except FailureError (List EventFact)} :
    Sound (h ++ [(i, ⟨⟨.replayEvents tenantId runId, answer⟩, s, s⟩)]) s := by
  refine hs.idle ?_ fun r failureId hcall => by cases hcall
  have hk := (hs.tasks i).same (x := (i, ⟨⟨.replayEvents tenantId runId, answer⟩, s, s⟩))
  cases answer with
  | error e =>
    refine ⟨?_, hk.failure, hk.recorded⟩
    intro tenantId' runId' facts hf y hy
    obtain ⟨_, hrest⟩ := Prod.mk.inj (Option.some.inj hf)
    obtain ⟨_, rfl⟩ := Prod.mk.inj hrest
    cases hy
  | ok facts =>
    refine ⟨?_, hk.failure, hk.recorded⟩
    intro tenantId' runId' facts' hf y hy
    obtain ⟨rfl, hrest⟩ := Prod.mk.inj (Option.some.inj hf)
    obtain ⟨rfl, rfl⟩ := Prod.mk.inj hrest
    exact ⟨i, _, facts, List.mem_append_right _ (List.mem_singleton_self _), rfl, hy⟩

theorem Sound.read (hs : Sound h s) {tenantId : String} {failureId : Uuid}
    {answer : Except FailureError (Option FailureCase)}
    (hanswer : ∀ found, answer = .ok found → found = getCase s tenantId failureId) :
    Sound (h ++ [(i, ⟨⟨.get tenantId failureId, answer⟩, s, s⟩)]) s := by
  refine hs.idle ?_ fun r failureId hcall => by cases hcall
  have hk := (hs.tasks i).same (x := (i, ⟨⟨.get tenantId failureId, answer⟩, s, s⟩))
  cases answer with
  | error e => exact hk
  | ok found =>
    cases found with
    | none => exact hk
    | some failure =>
      refine ⟨hk.facts, ?_, hk.recorded⟩
      intro asked failure' hf
      obtain ⟨rfl, rfl⟩ := Prod.mk.inj (Option.some.inj hf)
      have hfound := (hanswer _ rfl).symm
      unfold getCase at hfound
      have hid := List.find?_some hfound
      simp only [decide_eq_true_eq] at hid
      exact ⟨hid.2, failure, List.mem_of_find?_eq_some hfound, .refl failure⟩

theorem Sound.record (hs : Sound h s) {answer : Except FailureError Uuid}
    (hp : Promises (view Known.after {} i h) (.recordSignal r)) (hsame : s'.attributions = s.attributions)
    (hstep : CaseStep s s' (r.Leaves s)) (hhas : ∀ failureId, answer = .ok failureId → s'.Has r failureId) :
    Sound (h ++ [(i, ⟨⟨.recordSignal r, answer⟩, s, s'⟩)]) s' := by
  have hcall : ∀ row : FailureCase, r.In row →
      Signalled (h ++ [(i, ⟨⟨.recordSignal r, answer⟩, s, s'⟩)]) row r.record := fun row hin =>
    ⟨i, _, r, answer, List.mem_append_right _ (List.mem_singleton_self _), rfl, hin, rfl⟩
  refine hs.extend hstep.grown ?_ (fun a ha => Or.inl (hsame ▸ ha)) ?_ ?_
  · intro row' hrow'
    rcases hstep.rows row' hrow' with hold | ⟨row, hrow, hin, rfl⟩ | ⟨failureId, rfl⟩
    · exact (hs.cases row' hold).snoc
    · exact soundCase_merge (hs.cases row hrow) (ofRun_recording (hs.tasks i) hp hin) (hcall row hin)
    · have hin : r.In (r.row failureId) := ⟨rfl, rfl, rfl⟩
      refine ⟨fun y hy => (ofRun_recording (hs.tasks i) hp hin y hy).snoc (.refl _), ?_, rfl, Or.inl rfl⟩
      intro y hy
      rw [List.mem_singleton.mp hy]
      exact hcall _ hin
  · have hk := (hs.tasks i).snoc (x := (i, ⟨⟨.recordSignal r, answer⟩, s, s'⟩)) hstep.grown
    cases answer with
    | error e => exact hk
    | ok failureId =>
      refine ⟨hk.facts, hk.failure, ?_⟩
      intro r' failureId' hr
      obtain ⟨rfl, rfl⟩ := Prod.mk.inj (Option.some.inj hr)
      exact hhas failureId rfl
  · intro r' failureId hcall
    cases answer with
    | error e => cases hcall
    | ok failureId' =>
      obtain ⟨rfl, rfl⟩ := Prod.mk.inj (Option.some.inj hcall)
      exact hhas failureId' rfl

/-- The evidence of an automatic attribution is of the run of the case that it is added to. -/
theorem evidence_of_supports (hs : Sound h s) {asked : Uuid} {failure : FailureCase} {a : NewAttribution}
    (hk : (view Known.after {} i h).failure = some (asked, failure))
    (hsup : (view Known.after {} i h).Supports asked failure a) :
    ∃ row ∈ s.cases.rows, row.failureId = failure.failureId ∧ ∀ y ∈ a.evidenceRefs, OfRun h row y := by
  -- the case as it was read, and the row that it has become
  obtain ⟨hid, row, hrow, hgrown⟩ := (hs.tasks i).failure asked failure hk
  refine ⟨row, hrow, hgrown.failureId, ?_⟩
  rcases hsup with ⟨_, hrefs⟩ | ⟨_, _, facts, ⟨tenantId, runId, hfacts, howner⟩, hsubset⟩
  · intro y hy
    rw [hrefs] at hy
    exact (hs.cases row hrow).traceRefs y (hgrown.traceRefs y hy)
  · intro y hy
    have hreplayed := (hs.tasks i).facts tenantId runId facts hfacts y (hsubset y hy)
    rcases howner with ⟨htenant, hrun⟩ | ⟨r, hr, htenant, hrun⟩
    · refine ⟨runId, hgrown.runId.trans hrun, ?_⟩
      rw [hgrown.tenantId, htenant]
      exact hreplayed
    · obtain ⟨row', hrow', hid', hin, _⟩ := (hs.tasks i).recorded r asked hr
      -- the case that was read is the one that was recorded
      have hsame : row' = row :=
        Table.Keyed.eq (fun _ _ h => Or.inl h) s.cases.distinct hrow' hrow
          (hid'.trans (hid.symm.trans hgrown.failureId.symm))
      rw [hsame] at hin
      refine ⟨runId, hin.2.1.trans hrun, ?_⟩
      rw [hin.1, htenant]
      exact hreplayed

theorem Sound.attribute (hs : Sound h s) {a : NewAttribution} {answer : Except FailureError Uuid} {row : Attribution}
    (hp : Promises (view Known.after {} i h) (.addAttribution a)) (hcases : s'.cases = s.cases)
    (hrow : ∃ attributionId now, row = a.row attributionId now)
    (hrows : ∀ b ∈ s'.attributions.rows, b ∈ s.attributions.rows ∨ b = row) :
    Sound (h ++ [(i, ⟨⟨.addAttribution a, answer⟩, s, s'⟩)]) s' := by
  have hg : ∀ case ∈ s.cases.rows, ∃ case' ∈ s'.cases.rows, FailureCase.Grown case case' :=
    fun case hcase => ⟨case, hcases ▸ hcase, .refl case⟩
  have hk := (hs.tasks i).snoc (x := (i, ⟨⟨.addAttribution a, answer⟩, s, s'⟩)) hg
  refine hs.extend hg (fun case hcase => (hs.cases case (hcases ▸ hcase)).snoc) ?_ ?_ fun r _ hcall => by cases hcall
  · intro b hb
    refine (hrows b hb).imp_right ?_
    rintro rfl
    obtain ⟨attributionId, now, rfl⟩ := hrow
    obtain ⟨hpending, asked, failure, hfailure, hid, hsup⟩ := hp
    obtain ⟨case, hcase, hcaseId, hrefs⟩ := evidence_of_supports hs hfailure hsup
    refine ⟨Or.inl ⟨hpending, rfl, rfl⟩, ⟨case, hcases ▸ hcase, hcaseId.trans hid.symm, ?_⟩, ?_⟩
    · intro y hy
      exact (hrefs y hy).snoc (.refl case)
    · intro hllm
      rcases hsup with ⟨hnone, _⟩ | ⟨hconfidence, hsome, _⟩
      · exact absurd hnone hllm
      · exact ⟨hsome, hconfidence⟩
  · cases answer <;> exact hk

theorem Sound.decide (hs : Sound h s) {v : Review} {answer : Except FailureError Uuid}
    (hstep : CaseStep s s' (v.Settles s))
    (hrows : ∀ a ∈ s'.attributions.rows, a ∈ s.attributions.rows ∨ v.Leaves s a) :
    Sound (h ++ [(i, ⟨⟨.reviewAttribution v, answer⟩, s, s'⟩)]) s' := by
  have hmem : (i, (⟨⟨.reviewAttribution v, answer⟩, s, s'⟩ : Happened FailureOp FailureError FailureStore)) ∈
      h ++ [(i, ⟨⟨.reviewAttribution v, answer⟩, s, s'⟩)] :=
    List.mem_append_right _ (List.mem_singleton_self _)
  have hk := (hs.tasks i).snoc (x := (i, ⟨⟨.reviewAttribution v, answer⟩, s, s'⟩)) hstep.grown
  refine hs.extend hstep.grown ?_ ?_ ?_ fun r _ hcall => by cases hcall
  · intro row' hrow'
    rcases hstep.rows row' hrow' with hold | ⟨row, hrow, hconcerns, rfl⟩
    · exact (hs.cases row' hold).snoc
    · have hc := (hs.cases row hrow).snoc (x := (i, ⟨⟨.reviewAttribution v, answer⟩, s, s'⟩))
      obtain ⟨htenant, hid⟩ := of_decide_eq_true hconcerns
      exact ⟨hc.traceRefs, hc.signals, hc.sourceCount,
        Or.inr ⟨rfl, i, _, v, answer, hmem, rfl, htenant.symm, hid.symm⟩⟩
  · intro a' ha'
    refine (hrows a' ha').imp_right ?_
    rintro ⟨a, note, now, rfl, hid, hold⟩
    have hhuman : ReviewedBy (h ++ [(i, ⟨⟨.reviewAttribution v, answer⟩, s, s'⟩)]) (v.decide note now a) :=
      ⟨i, _, v, answer, hmem, rfl, hid.symm, rfl, rfl, rfl⟩
    rcases hold with hold | ⟨hrefs, hllm, case, hcase, hcaseId⟩
    · have ha := (hs.attributions a hold).snoc (x := (i, ⟨⟨.reviewAttribution v, answer⟩, s, s'⟩)) hstep.grown
      exact ⟨Or.inr hhuman, ha.evidence, ha.grounded⟩
    · obtain ⟨case', hcase', hgrown⟩ := hstep.grown case hcase
      refine ⟨Or.inr hhuman, ⟨case', hcase', (hgrown.failureId.trans hcaseId).trans hid.symm, ?_⟩, ?_⟩
      · intro y hy
        have hy : y ∈ a.evidenceRefs := hy
        rw [hrefs] at hy
        cases hy
      · intro hsome
        exact absurd hllm hsome
  · cases answer <;> exact hk

/-- Every call keeps the invariant. -/
theorem Sound.step (hs : Sound h s) {β : Type} {o : FailureOp β} {answer : Except FailureError β}
    (hp : Promises (view Known.after {} i h) o) (hm : Machine.of (respond redact) s o answer s') :
    Sound (h ++ [(i, ⟨⟨o, answer⟩, s, s'⟩)]) s' := by
  obtain ⟨draw, hdraw⟩ := hm
  cases o with
  | replayEvents tenantId runId =>
    obtain ⟨rfl, rfl⟩ := Prod.mk.inj hdraw
    exact hs.replay
  | request input =>
    obtain ⟨rfl, rfl⟩ := Prod.mk.inj hdraw
    refine hs.idle ?_ fun r failureId hcall => by cases hcall
    exact (hs.tasks i).same
  | get tenantId failureId =>
    have hcases := draw.fault.apply_cases s (.ok (getCase s tenantId failureId), s)
    have hdraw : draw.fault.apply s (.ok (getCase s tenantId failureId), s) = (answer, s') := hdraw
    rw [hdraw] at hcases
    rcases hcases with ⟨rfl, e, rfl⟩ | ⟨rfl, hanswer⟩
    · exact hs.read fun found hfound => by cases hfound
    · exact hs.read fun found hfound => (Except.ok.inj (hanswer found hfound)).symm
  | recordSignal r =>
    have hcases := draw.fault.apply_cases s (recordSignal s r draw.uuid)
    have hdraw : draw.fault.apply s (recordSignal s r draw.uuid) = (answer, s') := hdraw
    rw [hdraw] at hcases
    obtain ⟨hsame, hstep, hhas⟩ := recordSignal_step s r draw.uuid
    rcases hcases with ⟨rfl, e, rfl⟩ | ⟨rfl, hanswer⟩
    · exact hs.record hp rfl (.refl _ _) fun _ hid => by cases hid
    · exact hs.record hp hsame hstep fun failureId hid => hhas failureId (hanswer failureId hid)
  | addAttribution a =>
    have hcases := draw.fault.apply_cases s (addAttribution s a draw.uuid draw.now)
    have hdraw : draw.fault.apply s (addAttribution s a draw.uuid draw.now) = (answer, s') := hdraw
    rw [hdraw] at hcases
    obtain ⟨hsame, hrows⟩ := insertAttribution_step s (a.row draw.uuid draw.now)
    rcases hcases with ⟨rfl, _⟩ | ⟨rfl, _⟩
    · exact hs.attribute hp rfl ⟨draw.uuid, draw.now, rfl⟩ fun b hb => Or.inl hb
    · exact hs.attribute hp hsame ⟨draw.uuid, draw.now, rfl⟩ fun b hb => (hrows b hb).imp_right And.left
  | reviewAttribution v =>
    have hcases := draw.fault.apply_cases s (reviewAttribution (redact 2000) s v draw.uuid draw.now)
    have hdraw : draw.fault.apply s (reviewAttribution (redact 2000) s v draw.uuid draw.now) = (answer, s') := hdraw
    rw [hdraw] at hcases
    obtain ⟨hstep, hrows⟩ := reviewAttribution_step (redact 2000) s v draw.uuid draw.now
    rcases hcases with ⟨rfl, _⟩ | ⟨rfl, _⟩
    · exact hs.decide (.refl _ _) fun a ha => Or.inl ha
    · exact hs.decide hstep hrows

variable {upper sha256 : String → String} {modelValidate : Value → Option AttributionOutput} {settings : Settings}
  {tasks : ι → Task} {ps : ι → Act Unit}

theorem sound_run (run : Run (.of (respond redact))
    (fun i => (tasks i).program upper sha256 redact modelValidate settings) {} h ps s) : Sound h s :=
  run.invariant Sound (fun i => keeps_program (tasks i)) .empty
    fun _ _ _ _ _ _ _ hs hp hm => hs.step hp hm

/-- In every interleaving of the worker, the evaluation and the endpoints an attribution is pending until a review
of its case decides it, its evidence is of the run of its case, and what a model attributed rests on evidence. -/
theorem attributions_sound (run : Run (.of (respond redact))
    (fun i => (tasks i).program upper sha256 redact modelValidate settings) {} h ps s) :
    ∀ a ∈ s.attributions.rows, SoundAttribution h s a :=
  (sound_run run).attributions

/-- In every such interleaving no signal is lost and none is made up: a case holds what was recorded for it, and is
reviewed only by a review of its tenant. -/
theorem cases_sound (run : Run (.of (respond redact))
    (fun i => (tasks i).program upper sha256 redact modelValidate settings) {} h ps s) :
    (∀ row ∈ s.cases.rows, SoundCase h row) ∧
      ∀ i e r failureId, (i, e) ∈ h → stored? e.toCall = some (r, failureId) → s.Has r failureId :=
  ⟨(sound_run run).cases, (sound_run run).kept⟩

end Invariant

section Demo

def demoTasks (reviews : Bool) : Task :=
  if reviews then .review ⟨"acme", "f-1", "verified_failure", "operator", some "tool_error", "checked"⟩
  else .runSignal "acme" "run-1" "run_failed" "runtime" "TOOL_TIMEOUT" (some "order_status") none

theorem demo_bounded : (0 : ℚ) ≤ 9 / 10 ∧ (9 / 10 : ℚ) ≤ 1 := by
  decide +kernel

-- the model blames the one event of the run
def demoOutput (raw : Value) : Option AttributionOutput :=
  match raw with
  | .obj _ => some ⟨.toolError, 9 / 10, ["ev-1"], "", demo_bounded⟩
  | _ => none

abbrev demoPrograms (reviews : Bool) : Act Unit :=
  (demoTasks reviews).program id id (fun maximum text => take text maximum) demoOutput ⟨true, "judge"⟩

/-- A failure is recorded, attributed and reviewed. -/
def demoRun : List (Bool × Draw) :=
  [(false, { uuid := "", now := 1, events := .ok [⟨"ev-1", "tool_called"⟩] }),
   (false, { uuid := "f-1", now := 2 }), (false, { uuid := "", now := 3 }),
   (false, { uuid := "", now := 4, body := .ok (.obj []) }),
   (false, { uuid := "a-1", now := 5 }), (false, { uuid := "", now := 6 }),
   (true, { uuid := "", now := 7 }), (true, { uuid := "a-2", now := 8 })]

def demoStore : FailureStore :=
  (play (respond fun maximum text => take text maximum) demoRun demoPrograms {}).2.2

instance demoStore_facts : Fact (demoStore.attributions.rows.map (fun a => (a.reviewStatus, a.llmCategory)) =
    [("verified_failure", some "tool_error")] ∧ demoStore.cases.rows.map FailureCase.status = ["reviewed"]) :=
  ⟨by decide +kernel⟩

end Demo

theorem attributions_sound_reviewed : ∃ a ∈ demoStore.attributions.rows, a.llmCategory = some "tool_error" ∧
    a.evidenceRefs ≠ [] := by
  have hrun := play_run (respond fun maximum text => take text maximum) demoRun demoPrograms {}
  have hmem : ("verified_failure", some "tool_error") ∈
      demoStore.attributions.rows.map fun a => (a.reviewStatus, a.llmCategory) := by
    rw [demoStore_facts.out.1]
    exact List.mem_singleton_self _
  obtain ⟨a, ha, heq⟩ := List.mem_map.mp hmem
  have hllm : a.llmCategory = some "tool_error" := (Prod.mk.inj heq).2
  exact ⟨a, ha, hllm, ((attributions_sound hrun a ha).grounded (by simp [hllm])).1⟩

theorem cases_sound_reviewed : ∃ row ∈ demoStore.cases.rows, row.status = "reviewed" ∧ row.sourceCount = 1 := by
  have hrun := play_run (respond fun maximum text => take text maximum) demoRun demoPrograms {}
  have hmem : "reviewed" ∈ demoStore.cases.rows.map FailureCase.status := by
    rw [demoStore_facts.out.2]
    exact List.mem_singleton_self _
  obtain ⟨row, hrow, heq⟩ := List.mem_map.mp hmem
  exact ⟨row, hrow, heq, ((cases_sound hrun).1 row hrow).sourceCount⟩

end CommerceAgent.Failures
