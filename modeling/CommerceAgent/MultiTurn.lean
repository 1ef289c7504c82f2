import CommerceAgent.HarnessSchema
import CommerceAgent.MutationWorkflow
import Mathlib.Data.Finset.Card
import Mathlib.Algebra.Order.Field.Rat

/-! The multi-turn runner: a constrained user simulator and an agent that answer each other, the state of
the intents, and what one run of a scenario reports. -/
namespace CommerceAgent.Harness

open Json Texts

section Schema

inductive IntentPriority where
  | key
  | minor
deriving DecidableEq

inductive IntentStateValue where
  | notRaised
  | raised
  | addressed
  | verified
deriving DecidableEq

inductive UserActionType where
  | initialRequest
  | provideFact
  | askFollowup
  | clarifyIntent
  | resist
  | confirm
  | abandon
  | finish
deriving DecidableEq

structure AgendaItem where
  intent : String
  priority : IntentPriority := .key

/-- A scenario that `ScenarioSpec` accepts, with the fields that a run reads; of the profile this is the
`reveal_on_clarification` of its policy. -/
structure ScenarioSpec where
  scenarioId : String
  intentAgenda : List AgendaItem
  behaviorFacts : Dict := []
  referenceSolution : Dict := []
  maxTurns : ℕ := 8
  revealOnClarification : Option (List String) := none
  initialMessages : List EvalMessage := []
  /-- `model_dump_json` without the reference solution. -/
  modelDumpJson : String
  distinct : (intentAgenda.map (·.intent)).Nodup
  someKey : ∃ item ∈ intentAgenda, item.priority = .key
  bounded : 1 ≤ maxTurns ∧ maxTurns ≤ 32

def ScenarioSpec.keyIntents (scenario : ScenarioSpec) : List String :=
  (scenario.intentAgenda.filter (·.priority = .key)).map (·.intent)

def ScenarioSpec.minorIntents (scenario : ScenarioSpec) : List String :=
  (scenario.intentAgenda.filter (·.priority = .minor)).map (·.intent)

structure UserAction where
  action : UserActionType
  message : String
  targetIntents : List String := []
  revealedFacts : List String := []
  emotion : String := "neutral"
  shouldContinue : Bool := true
  reasonCode : String

structure IntentTransition where
  intent : String
  fromState : IntentStateValue
  toState : IntentStateValue
  turnId : ℕ
  evidence : List String

inductive TraceStatus where
  | complete
  | waitUser
  | waitHuman
  | fail
deriving DecidableEq

structure NormalizedTrace where
  caseId : String
  intent : Option String := none
  nextAction : Option String := none
  args : Dict := []
  evidenceIds : List String := []
  response : String := ""
  status : TraceStatus
  terminationReason : Option String := none

structure RuntimeCaseInput where
  caseId : String
  locale : String
  messages : List EvalMessage

/-- What the agent is shown, which the pattern of `case_id` refuses for some scenario ids. -/
def RuntimeCaseInput.validate (case : RuntimeCaseInput) : Except String RuntimeCaseInput :=
  if matchesCaseId case.caseId then .ok case else .error "case_id"

/-- The states of the intents, in the order of the agenda. -/
abbrev IntentStates : Type := List (String × IntentStateValue)

def IntentStates.get? (states : IntentStates) (intent : String) : Option IntentStateValue :=
  states.lookup intent

structure TurnTrace where
  scenarioId : String
  dialogueId : String
  turnId : ℕ
  userAction : UserAction
  agentTrace : NormalizedTrace
  raisedIntents : List String
  addressedIntents : List String
  intentStates : IntentStates
  transitions : List IntentTransition
  verifierPass : Bool
  versionHash : String

end Schema

section IntentStateMachine

structure IntentStateMachine where
  states : IntentStates
  history : List IntentTransition := []

/-- `IntentStateMachine(intents)`. -/
def IntentStateMachine.init (intents : List String) : Except String IntentStateMachine :=
  if intents = [] ∨ ¬ intents.Nodup then .error "intent agenda must be non-empty and unique"
  else .ok { states := intents.map fun intent => (intent, .notRaised) }

namespace IntentStateMachine

/-- `_require_intent`, and the state that it finds. -/
def require (m : IntentStateMachine) (intent : String) : Except String IntentStateValue :=
  match m.states.get? intent with
  | some state => .ok state
  | none => .error ("intent is outside scenario agenda: " ++ intent)

/-- `_transition`. -/
def transition (m : IntentStateMachine) (intent : String) (fromState toState : IntentStateValue)
    (turnId : ℕ) (evidence : List String) : IntentStateMachine where
  states := m.states.map fun entry => if entry.1 = intent then (intent, toState) else entry
  history := m.history ++ [⟨intent, fromState, toState, turnId, evidence⟩]

def raiseIntent (turnId : ℕ) (evidence : List String) (m : IntentStateMachine) (intent : String) :
    Except String IntentStateMachine := do
  match ← m.require intent with
  | .notRaised => return m.transition intent .notRaised .raised turnId evidence
  | _ => return m

def raiseIntents (m : IntentStateMachine) (intents : List String) (turnId : ℕ)
    (evidence : List String) : Except String IntentStateMachine :=
  intents.foldlM (raiseIntent turnId evidence) m

def addressIntent (turnId : ℕ) (evidence : List String) (m : IntentStateMachine) (intent : String) :
    Except String IntentStateMachine := do
  match ← m.require intent with
  | .notRaised => throw "unraised intent cannot become addressed"
  | .raised => return m.transition intent .raised .addressed turnId evidence
  | _ => return m

def addressIntents (m : IntentStateMachine) (intents : List String) (turnId : ℕ)
    (evidence : List String) : Except String IntentStateMachine :=
  intents.foldlM (addressIntent turnId evidence) m

/-- `all_addressed`; of no intents it is asked about all of them. -/
def allAddressed (m : IntentStateMachine) (intents : List String) : Bool :=
  (if intents.isEmpty then m.states.map Prod.fst else intents).all fun intent =>
    m.states.get? intent = some .addressed || m.states.get? intent = some .verified

end IntentStateMachine

end IntentStateMachine

section UserSimulator

variable (π : Platform)

/-- The texts that one entry of the reference solution hides. -/
def hiddenText (entry : String × Value) : List String :=
  if entry.1 ∈ ["gold_response", "expected_answer", "forbidden_claims"] then
    match entry.2 with
    | .arr items => (items.map π.str).filter fun text => 4 ≤ text.length
    | .str text => if 4 ≤ text.length then [text] else []
    | _ => []
  else []

def hiddenEvaluationText (scenario : ScenarioSpec) : List String :=
  scenario.referenceSolution.flatMap (hiddenText π)

def validateUserAction (action : UserAction) (scenario : ScenarioSpec) : Except String Unit := do
  if ¬ action.targetIntents ⊆ scenario.intentAgenda.map (·.intent) then
    throw "user_action_intent_outside_agenda"
  if ¬ action.revealedFacts ⊆
      scenario.behaviorFacts.map Prod.fst ++ scenario.revealOnClarification.getD [] then
    throw "user_action_fact_outside_behavior_facts"
  if action.action ∈ [.initialRequest, .provideFact, .askFollowup, .clarifyIntent] ∧
      action.shouldContinue = false then
    throw "non_terminal_action_must_continue"
  if action.action ∈ [.abandon, .finish] ∧ action.shouldContinue = true then
    throw "terminal_action_must_stop"
  if (hiddenEvaluationText π scenario).any fun value => value ≠ "" && contains action.message value then
    throw "user_action_leaks_hidden_solution"

end UserSimulator

section Verifier

inductive ReportStatus where
  | completed
  | abandoned
  | incomplete
deriving DecidableEq

structure FeedbackSignal where
  category : String
  code : String
  severity : String
  turnIds : List ℕ
  evidence : List String

/-- A report; the three rates are not rounded. -/
structure MultiTurnReport where
  scenarioId : String
  dialogueId : String
  status : ReportStatus
  terminationReason : String
  turns : List TurnTrace
  intentCoverage : ℚ
  agendaProgress : ℚ
  exposedIntentAccuracy : Option ℚ
  taskSuccess : Option Bool
  evaluationNoise : Bool
  feedback : List FeedbackSignal
  simulator : Option Dict

/-- `MultiTurnVerifier.addressed_intents`. -/
def addressedIntents (action : UserAction) (trace : NormalizedTrace) : List String :=
  if action.action ∈ [.abandon, .finish] then []
  else if trace.status ≠ .complete ∨ strip trace.response = "" then []
  else if trace.nextAction.any (· ∈ ["ask_user", "ask_for_slots", "handoff", "wait_human", "fail"]) then []
  else action.targetIntents.filter fun intent =>
    trace.intent = some intent || trace.nextAction.any (· ∈ ["safe_deescalation", "refuse"])

def signal (category code severity : String) (turns : List TurnTrace) : FeedbackSignal where
  category := category
  code := code
  severity := severity
  turnIds := turns.map (·.turnId)
  evidence := turns.flatMap fun turn => turn.agentTrace.evidenceIds ++ ["response:turn_" ++ turn.turnId.repr]

def turnFeedback (turn : TurnTrace) : List FeedbackSignal :=
  if turn.agentTrace.status = .fail then [signal "agent_error" "runtime_failure" "critical" [turn]]
  else if turn.userAction.action ∈ [.askFollowup, .provideFact] ∧ turn.addressedIntents = [] then
    [signal "agent_error" "intent_not_addressed" "warning" [turn]]
  else if turn.agentTrace.nextAction.any (· ∈ ["handoff", "wait_human"]) then
    [signal "capability_limit" "human_handoff" "warning" [turn]]
  else []

def feedback (turns : List TurnTrace) (noise : Bool) (terminationReason : String) : List FeedbackSignal :=
  (if noise then [signal "evaluation_noise" "simulator_intent_not_raised" "warning" turns] else []) ++
    turns.flatMap turnFeedback ++
    if terminationReason = "max_turns_reached" then
      [signal "agent_error" "max_turns_reached" "warning" turns]
    else []

/-- `MultiTurnVerifier.verify`. -/
def verify (scenario : ScenarioSpec) (dialogueId : String) (turns : List TurnTrace)
    (terminationReason : String) (status : ReportStatus) (simulator : Option Dict) : MultiTurnReport :=
  let raised := (turns.flatMap (·.raisedIntents)).toFinset
  let addressed := (turns.flatMap (·.addressedIntents)).toFinset
  let key := scenario.keyIntents.toFinset
  let noise : Bool := !decide (key ⊆ raised)
  let signals := feedback turns noise terminationReason
  { scenarioId := scenario.scenarioId
    dialogueId := dialogueId
    status := status
    terminationReason := terminationReason
    turns := turns
    intentCoverage := if key = ∅ then 1 else (raised ∩ key).card / key.card
    agendaProgress := if raised = ∅ then 0 else (addressed ∩ raised).card / raised.card
    exposedIntentAccuracy := if raised = ∅ then none else some ((addressed ∩ raised).card / raised.card)
    -- A dialogue that was broken off neither succeeds nor fails.
    taskSuccess := if status = .incomplete then none
      else some (status = .completed && !noise && decide (key ⊆ addressed) &&
        !(turns.any fun turn => turn.agentTrace.status = .fail) &&
        !(signals.any fun signal => signal.category = "agent_error"))
    evaluationNoise := noise
    feedback := signals
    simulator := simulator }

end Verifier

section Runner

structure MultiTurnConfig where
  maxTurns : ℕ := 8
  maxRepeatedAction : ℕ := 2
  scenarioTimeoutSeconds : ℚ := 300
  bounded : 1 ≤ maxTurns ∧ maxTurns ≤ 32 := by decide
  positive : 1 ≤ maxRepeatedAction := by decide

inductive SimulatorReply where
  | action (action : UserAction)
  | simulatorError (reason : String)
  | raised (error : String)

inductive AgentReply where
  | trace (trace : NormalizedTrace)
  | timeout
  | raised

/-- What a run is surrounded by: whether it is cancelled before and within each turn, the seconds since it
started, the user simulator, and the agent. -/
structure Surroundings where
  cancelled : ℕ → Bool
  cancelledInTurn : ℕ → Bool
  elapsed : ℕ → ℚ
  simulator : ℕ → List UserAction → String → List String → SimulatorReply
  simulatorMetadata : Option Dict
  agent : RuntimeCaseInput → ℕ → AgentReply

/-- The simulator's actions pass `validate_user_action`. -/
def Surroundings.Validated (π : Platform) (env : Surroundings) (scenario : ScenarioSpec) : Prop :=
  ∀ turnId history response pending action,
    env.simulator turnId history response pending = .action action →
      validateUserAction π action scenario = .ok ()

structure Dialogue where
  actions : List UserAction := []
  turns : List TurnTrace := []
  messages : List EvalMessage
  state : IntentStateMachine

/-- How a dialogue ends: with a reason and a status, or by an exception. -/
structure Ending where
  dialogue : Dialogue
  result : Except String (String × ReportStatus)

inductive Round where
  | next (d : Dialogue)
  | done (ending : Ending)

def Round.stop (d : Dialogue) (termination : String) (status : ReportStatus) : Round :=
  .done ⟨d, .ok (termination, status)⟩

def Round.raised (d : Dialogue) (error : String) : Round := .done ⟨d, .error error⟩

/-- `_repeat_count`. -/
def repeatCount (actions : List UserAction) (action : UserAction) : ℕ :=
  (actions.reverse.takeWhile fun previous =>
    previous.action = action.action && previous.message = action.message).length

def traceEvidence (trace : NormalizedTrace) (turnId : ℕ) : List String :=
  trace.evidenceIds ++ ["response:turn_" ++ turnId.repr]

def failedTrace (caseId reason : String) : NormalizedTrace where
  caseId := caseId
  nextAction := some reason
  response := ""
  status := .fail
  args := [("failure_reason", .str reason)]
  terminationReason := some reason

/-- The messages with the user's, unless it is already the last one. -/
def hear (messages : List EvalMessage) (message : String) : List EvalMessage :=
  if messages.getLast?.any fun last => last.role = "user" && last.content = message then messages
  else messages ++ [⟨"user", message⟩]

variable (π : Platform) (config : MultiTurnConfig) (env : Surroundings) (scenario : ScenarioSpec)

/-- `_version_hash`. -/
def versionHash : String := "sha256:" ++ π.sha256 scenario.modelDumpJson

def dialogueId : String := π.uuid5 ("commerce-agent:dialogue:" ++ scenario.scenarioId)

/-- `_invoke_agent`. -/
def invokeAgent (messages : List EvalMessage) (turnId : ℕ) : Except String NormalizedTrace := do
  if env.cancelledInTurn turnId then return failedTrace scenario.scenarioId "cancelled"
  let case ← RuntimeCaseInput.validate ⟨scenario.scenarioId, "zh-CN", messages⟩
  match env.agent case turnId with
  -- Whatever case the trace of the agent names, it is recorded under the scenario.
  | .trace trace => return { trace with caseId := scenario.scenarioId }
  | .timeout => return failedTrace scenario.scenarioId "agent_turn_timeout"
  | .raised => return failedTrace scenario.scenarioId "agent_turn_failed"

/-- The end of an iteration, after its turn was recorded. -/
def conclude (d : Dialogue) (action : UserAction) (trace : NormalizedTrace) : Round :=
  if trace.status = .fail then
    .stop d (if trace.nextAction.getD "" = "" then "agent_turn_failed" else trace.nextAction.getD "")
      .incomplete
  else
    -- A blank response is no message, and one that is too long for a message is an exception.
    match if strip trace.response = "" then .ok d.messages
      else (EvalMessage.validate ⟨"assistant", trace.response⟩).map (d.messages ++ [·]) with
    | .error error => .raised d error
    | .ok messages =>
      let d := { d with messages := messages }
      if action.action = .abandon then .stop d "user_abandoned" .abandoned
      else if d.state.allAddressed scenario.keyIntents then
        .stop d "all_key_intents_addressed" .completed
      else .next d

/-- The iteration from the agent's turn on; `raised` is the state with the intents of the action raised. -/
def answer (turnId : ℕ) (d : Dialogue) (action : UserAction) (raised : IntentStateMachine) : Round :=
  let messages := hear d.messages action.message
  match invokeAgent env scenario messages turnId with
  | .error error => .raised d error
  | .ok trace =>
    let addressed := addressedIntents action trace
    match raised.addressIntents addressed turnId (traceEvidence trace turnId) with
    -- The turn that raised the error is not recorded.
    | .error _ => .stop d "agent_intent_contract_error" .incomplete
    | .ok state =>
      let turn : TurnTrace := {
        scenarioId := scenario.scenarioId
        dialogueId := dialogueId π scenario
        turnId := turnId
        userAction := action
        agentTrace := trace
        raisedIntents := action.targetIntents
        addressedIntents := addressed
        intentStates := state.states
        -- `history[before:]`, where `before` is the length before the intents were raised.
        transitions := state.history.drop d.state.history.length
        verifierPass := !addressed.isEmpty || action.targetIntents.isEmpty
        versionHash := versionHash π scenario }
      conclude scenario { d with turns := d.turns ++ [turn], messages := messages, state := state }
        action trace

/-- One iteration of the loop. -/
def round (turnId : ℕ) (d : Dialogue) : Round :=
  if env.cancelled turnId then .stop d "cancelled" .incomplete
  else if config.scenarioTimeoutSeconds ≤ env.elapsed turnId then .stop d "scenario_timeout" .incomplete
  else
    let pending := scenario.keyIntents.filter fun intent => !d.state.allAddressed [intent]
    match env.simulator turnId d.actions (d.turns.getLast?.elim "" (·.agentTrace.response)) pending with
    | .simulatorError reason => .stop d reason .incomplete
    | .raised error => .raised d error
    | .action action =>
      -- The action counts as a repetition of itself.
      let d := { d with actions := d.actions ++ [action] }
      if config.maxRepeatedAction ≤ repeatCount d.actions action then
        .stop d "simulator_no_progress" .incomplete
      else
        match d.state.raiseIntents action.targetIntents turnId ["user:turn_" ++ turnId.repr] with
        | .error _ => .stop d "simulator_intent_contract_error" .incomplete
        | .ok raised => answer π env scenario turnId d action raised

/-- The loop over the turns that are left. -/
def play : List ℕ → Dialogue → Ending
  | [], d => ⟨d, .ok ("max_turns_reached", .incomplete)⟩
  | turnId :: rest, d =>
    match round π config env scenario turnId d with
    | .next d => play rest d
    | .done ending => ending

/-- `MultiTurnRunner.run` up to the verifier. -/
def playScenario : Except String Ending := do
  let state ← IntentStateMachine.init (scenario.keyIntents ++ scenario.minorIntents)
  return play π config env scenario (List.range' 1 (min config.maxTurns scenario.maxTurns))
    { messages := scenario.initialMessages, state := state }

/-- `MultiTurnRunner.run`. -/
def run : Except String MultiTurnReport := do
  let ending ← playScenario π config env scenario
  let (terminationReason, status) ← ending.result
  return verify scenario (dialogueId π scenario) ending.dialogue.turns terminationReason status
    env.simulatorMetadata

end Runner

section Transitions

/-- The steps of an intent that a dialogue can take. -/
def IntentStateValue.next : IntentStateValue → Option IntentStateValue
  | .notRaised => some .raised
  | .raised => some .addressed
  | _ => none

/-- The transitions lead from one state to the other, step by step. -/
def Follows : IntentStateValue → List IntentTransition → IntentStateValue → Prop
  | s, [], t => s = t
  | s, transition :: l, t =>
    transition.fromState = s ∧ s.next = some transition.toState ∧ Follows transition.toState l t

theorem Follows.snoc {s t u : IntentStateValue} {l : List IntentTransition} {transition : IntentTransition}
    (h : Follows s l t) (hfrom : transition.fromState = t) (hto : transition.toState = u)
    (hnext : t.next = some u) : Follows s (l ++ [transition]) u := by
  induction l generalizing s with
  | nil =>
    obtain rfl : s = t := h
    exact ⟨hfrom, hto ▸ hnext, hto⟩
  | cons first l ih => exact ⟨h.1, h.2.1, ih h.2.2⟩

theorem Follows.ne_verified {s t : IntentStateValue} {l : List IntentTransition} (h : Follows s l t)
    (hs : s ≠ .verified) : t ≠ .verified := by
  induction l generalizing s with
  | nil => exact (show s = t from h) ▸ hs
  | cons transition l ih =>
    apply ih h.2.2
    intro hverified
    have hnext := h.2.1
    rw [hverified] at hnext
    cases s <;> cases hnext

/-- The state of an intent; one that is not in the agenda has not been raised. -/
def IntentStates.of (states : IntentStates) (intent : String) : IntentStateValue :=
  (states.get? intent).getD .notRaised

def transitionsOf (intent : String) (history : List IntentTransition) : List IntentTransition :=
  history.filter fun transition => transition.intent = intent

/-- The history leads every intent to its state. -/
def Leads (history : List IntentTransition) (states : IntentStates) : Prop :=
  ∀ intent, Follows .notRaised (transitionsOf intent history) (states.of intent)

theorem IntentStates.get?_cons (key : String) (state : IntentStateValue) (states : IntentStates)
    (intent : String) : IntentStates.get? ((key, state) :: states) intent =
      if intent = key then some state else states.get? intent := by
  unfold IntentStates.get?
  rw [List.lookup_cons]
  by_cases h : intent = key
  · rw [if_pos h, beq_iff_eq.mpr h]
  · rw [if_neg h, beq_eq_false_iff_ne.mpr h]

/-- The history of the machine leads to its states, and the histories after it extend it. -/
structure IntentStateMachine.Extends (m m' : IntentStateMachine) : Prop where
  leads : Leads m.history m.states → Leads m'.history m'.states
  grows : m.history <+: m'.history

namespace IntentStateMachine

variable {m m' m'' : IntentStateMachine} {intent : String} {turnId : ℕ} {evidence : List String}

theorem Extends.refl : Extends m m := ⟨id, List.prefix_rfl⟩

theorem Extends.trans (h : Extends m m') (h' : Extends m' m'') : Extends m m'' :=
  ⟨fun hm => h'.leads (h.leads hm), h.grows.trans h'.grows⟩

theorem get?_transition (fromState toState : IntentStateValue) (other : String) :
    (m.transition intent fromState toState turnId evidence).states.get? other =
      if other = intent then (m.states.get? other).map fun _ => toState else m.states.get? other := by
  obtain ⟨states, history⟩ := m
  unfold transition
  dsimp only
  induction states with
  | nil => split <;> rfl
  | cons entry states ih =>
    obtain ⟨key, state⟩ := entry
    rw [List.map_cons, IntentStates.get?_cons]
    by_cases hkey : key = intent
    · rw [if_pos hkey, IntentStates.get?_cons, ih, hkey]
      by_cases hother : other = intent
      · simp [hother]
      · simp [hother]
    · rw [if_neg hkey, IntentStates.get?_cons, ih]
      by_cases hother : other = key
      · simp [hother, hkey]
      · simp [hother]

/-- A step from the state that the intent is in. -/
theorem extends_transition {fromState toState : IntentStateValue}
    (hstate : m.states.get? intent = some fromState) (hnext : fromState.next = some toState) :
    Extends m (m.transition intent fromState toState turnId evidence) where
  grows := List.prefix_append _ _
  leads := by
    intro hleads other
    have hother := hleads other
    unfold IntentStates.of at hother ⊢
    rw [get?_transition]
    unfold transition transitionsOf at *
    dsimp only
    rw [List.filter_append]
    -- The path of the intent gets one step longer, and the paths of the others stay.
    by_cases hsame : other = intent
    · subst hsame
      rw [if_pos rfl, hstate]
      rw [hstate] at hother
      simp only [List.filter_cons, decide_true, if_true, List.filter_nil]
      exact hother.snoc rfl rfl hnext
    · rw [if_neg hsame, List.filter_cons, if_neg (by simpa using Ne.symm hsame), List.filter_nil,
        List.append_nil]
      exact hother

theorem extends_raiseIntent (h : raiseIntent turnId evidence m intent = .ok m') : Extends m m' := by
  unfold raiseIntent require at h
  cases hstate : m.states.get? intent with
  | none =>
    rw [hstate] at h
    cases h
  | some state =>
    rw [hstate] at h
    cases state with
    | notRaised =>
      obtain rfl := Except.ok.inj h
      exact extends_transition hstate rfl
    | raised | addressed | verified =>
      obtain rfl := Except.ok.inj h
      exact .refl

theorem extends_addressIntent (h : addressIntent turnId evidence m intent = .ok m') : Extends m m' := by
  unfold addressIntent require at h
  cases hstate : m.states.get? intent with
  | none =>
    rw [hstate] at h
    cases h
  | some state =>
    rw [hstate] at h
    cases state with
    | notRaised => cases h
    | raised =>
      obtain rfl := Except.ok.inj h
      exact extends_transition hstate rfl
    | addressed | verified =>
      obtain rfl := Except.ok.inj h
      exact .refl

theorem extends_foldlM {f : IntentStateMachine → String → Except String IntentStateMachine}
    (hf : ∀ m intent m', f m intent = .ok m' → Extends m m') (intents : List String)
    (h : intents.foldlM f m = .ok m') : Extends m m' := by
  induction intents generalizing m with
  | nil =>
    obtain rfl := Except.ok.inj h
    exact .refl
  | cons intent intents ih =>
    rw [List.foldlM_cons] at h
    obtain ⟨next, hnext, h⟩ := Except.bind_eq_ok.mp h
    exact (hf m intent next hnext).trans (ih h)

theorem extends_raiseIntents {intents : List String} (h : m.raiseIntents intents turnId evidence = .ok m') :
    Extends m m' :=
  extends_foldlM (fun _ _ _ => extends_raiseIntent) intents h

theorem extends_addressIntents {intents : List String}
    (h : m.addressIntents intents turnId evidence = .ok m') : Extends m m' :=
  extends_foldlM (fun _ _ _ => extends_addressIntent) intents h

theorem leads_init {intents : List String} (h : init intents = .ok m) : Leads m.history m.states := by
  unfold init at h
  split at h
  · cases h
  · obtain rfl := Except.ok.inj h
    intro intent
    -- No intent has been raised, whether it is in the agenda or not.
    have hof : ∀ l : List String, IntentStates.of (l.map fun intent => (intent, .notRaised)) intent =
        .notRaised := by
      intro l
      unfold IntentStates.of IntentStates.get?
      induction l with
      | nil => rfl
      | cons key l ih =>
        rw [List.map_cons, List.lookup_cons]
        cases intent == key with
        | true => rfl
        | false => exact ih
    exact (hof intents).symm

end IntentStateMachine

end Transitions

section Turns

variable {π : Platform} {config : MultiTurnConfig} {env : Surroundings} {scenario : ScenarioSpec}
  {turnId : ℕ} {d d' : Dialogue} {ending : Ending}

/-- The turns tell the whole history, and the last one shows where it led. -/
structure Dialogue.Told (d : Dialogue) : Prop where
  transitions : d.turns.flatMap (·.transitions) = d.state.history
  states : ∀ turn ∈ d.turns.getLast?, turn.intentStates = d.state.states
  leads : Leads d.state.history d.state.states

/-- What one iteration does to the recorded turns. -/
structure Dialogue.Grows (d d' : Dialogue) (turnId : ℕ) : Prop where
  actions : d'.actions.length ≤ d.actions.length + 1
  turns : d'.turns = d.turns ∨ ∃ turn, turn.turnId = turnId ∧ d'.turns = d.turns ++ [turn]
  told : d.Told → d'.Told

/-- The turn ends the dialogue, whatever else happens. -/
def TurnTrace.Ends (scenario : ScenarioSpec) (maxTurns : ℕ) (turn : TurnTrace) : Prop :=
  turn.userAction.action = .abandon ∨ turn.agentTrace.status = .fail ∨
    (∀ intent ∈ scenario.keyIntents, turn.intentStates.get? intent = some .addressed) ∨
    turn.turnId = maxTurns

/-- What an iteration does if another one follows it. -/
structure Dialogue.Continues (scenario : ScenarioSpec) (d d' : Dialogue) (turnId : ℕ) : Prop
    extends d.Grows d' turnId where
  open_ : ∃ turn, turn.turnId = turnId ∧ d'.turns = d.turns ++ [turn] ∧ turn.userAction.action ≠ .abandon ∧
    turn.agentTrace.status ≠ .fail ∧
    ∃ intent ∈ scenario.keyIntents, turn.intentStates.get? intent ≠ some .addressed

/-- What an iteration does if it is the last one. -/
structure Dialogue.Finishes (scenario : ScenarioSpec) (d : Dialogue) (turnId : ℕ) (ending : Ending) : Prop
    extends d.Grows ending.dialogue turnId where
  completed : ∀ reason, ending.result = .ok (reason, .completed) →
    ending.dialogue.turns ≠ [] ∧ ending.dialogue.state.allAddressed scenario.keyIntents = true

/-- The end of an iteration leaves the turns and the states as they are. -/
theorem conclude_cases (scenario : ScenarioSpec) (d : Dialogue) (action : UserAction) (trace : NormalizedTrace) :
    (∃ d', conclude scenario d action trace = .next d' ∧ d'.actions = d.actions ∧ d'.turns = d.turns ∧
      d'.state = d.state ∧ trace.status ≠ .fail ∧ action.action ≠ .abandon ∧
      d.state.allAddressed scenario.keyIntents = false) ∨
    ∃ ending, conclude scenario d action trace = .done ending ∧ ending.dialogue.actions = d.actions ∧
      ending.dialogue.turns = d.turns ∧ ending.dialogue.state = d.state ∧
      ∀ reason, ending.result = .ok (reason, .completed) → d.state.allAddressed scenario.keyIntents = true := by
  unfold conclude Round.stop Round.raised
  split
  · exact .inr ⟨_, rfl, rfl, rfl, rfl, fun reason h => by cases h⟩
  · rename_i hfail
    split
    · exact .inr ⟨_, rfl, rfl, rfl, rfl, fun reason h => by cases h⟩
    · dsimp only
      split
      · exact .inr ⟨_, rfl, rfl, rfl, rfl, fun reason h => by cases h⟩
      · rename_i habandon
        split
        · rename_i haddressed
          exact .inr ⟨_, rfl, rfl, rfl, rfl, fun reason _ => haddressed⟩
        · rename_i hopen
          exact .inl ⟨_, rfl, rfl, rfl, rfl, hfail, habandon, by simpa using hopen⟩

theorem Dialogue.Grows.unchanged (hactions : d'.actions.length ≤ d.actions.length + 1)
    (hturns : d'.turns = d.turns) (hstate : d'.state = d.state) : d.Grows d' turnId where
  actions := hactions
  turns := .inl hturns
  told h := ⟨by rw [hturns, hstate]; exact h.transitions, by rw [hturns, hstate]; exact h.states,
    by rw [hstate]; exact h.leads⟩

/-- A turn that tells what its intents went through. -/
theorem Dialogue.Grows.turn {turn : TurnTrace} (hactions : d'.actions.length ≤ d.actions.length + 1)
    (hid : turn.turnId = turnId) (hturns : d'.turns = d.turns ++ [turn])
    (hextends : d.state.Extends d'.state) (hstates : turn.intentStates = d'.state.states)
    (htransitions : turn.transitions = d'.state.history.drop d.state.history.length) :
    d.Grows d' turnId where
  actions := hactions
  turns := .inr ⟨turn, hid, hturns⟩
  told h := by
    obtain ⟨new, hnew⟩ := hextends.grows
    refine ⟨?_, ?_, hextends.leads h.leads⟩
    -- The turn tells exactly what the history has grown by.
    · rw [hturns, List.flatMap_append, h.transitions, List.flatMap_singleton, htransitions, ← hnew,
        List.drop_left]
    · rw [hturns, List.getLast?_append]
      intro last hlast
      obtain rfl : turn = last := by simpa using hlast
      exact hstates

/-- What one iteration does, by whether another one follows. -/
def Round.Fits (scenario : ScenarioSpec) (d : Dialogue) (turnId : ℕ) : Round → Prop
  | .next d' => d.Continues scenario d' turnId
  | .done ending => d.Finishes scenario turnId ending

theorem Round.fits_unchanged {d d' : Dialogue} {result : Except String (String × ReportStatus)}
    (hactions : d'.actions.length ≤ d.actions.length + 1) (hturns : d'.turns = d.turns)
    (hstate : d'.state = d.state) (hresult : ∀ reason, result ≠ .ok (reason, .completed)) :
    Round.Fits scenario d turnId (.done ⟨d', result⟩) :=
  { Dialogue.Grows.unchanged hactions hturns hstate with
    completed := fun reason h => absurd h (hresult reason) }

theorem keyIntents_ne_nil (scenario : ScenarioSpec) : scenario.keyIntents ≠ [] := by
  obtain ⟨item, hitem, hkey⟩ := scenario.someKey
  apply List.ne_nil_of_mem
  exact List.mem_map_of_mem (List.mem_filter.mpr ⟨hitem, by simp [hkey]⟩)

theorem exists_of_not_allAddressed {m : IntentStateMachine} {intents : List String} (hne : intents ≠ [])
    (h : m.allAddressed intents = false) : ∃ intent ∈ intents, m.states.get? intent ≠ some .addressed := by
  unfold IntentStateMachine.allAddressed at h
  rw [if_neg (by simpa using hne)] at h
  obtain ⟨intent, hintent, hstate⟩ := List.all_eq_false.mp h
  refine ⟨intent, hintent, fun haddressed => ?_⟩
  simp [haddressed] at hstate

theorem fits_answer {action : UserAction} {raised : IntentStateMachine} {before : Dialogue}
    (hactions : d.actions.length ≤ before.actions.length + 1) (hturns : d.turns = before.turns)
    (hstate : d.state = before.state) (hraised : before.state.Extends raised) :
    (answer π env scenario turnId d action raised).Fits scenario before turnId := by
  unfold answer Round.stop Round.raised
  dsimp only
  split
  · exact Round.fits_unchanged hactions hturns hstate (fun reason h => by cases h)
  -- The agent has answered: without an intent error the turn is recorded, however the iteration ends.
  rename_i trace _
  split
  · exact Round.fits_unchanged hactions hturns hstate (fun reason h => by cases h)
  rename_i state haddress
  have hextends := hraised.trans (IntentStateMachine.extends_addressIntents haddress)
  obtain ⟨d', hnext, hacts, hturns', hstate', hfail, habandon, hopen⟩ |
    ⟨ending, hdone, hacts, hturns', hstate', hcompleted⟩ := conclude_cases scenario _ action trace
  · rw [hnext]
    -- The loop goes on, so a key intent is open, and the turn shows the state it is in.
    obtain ⟨intent, hintent, hunaddressed⟩ := exists_of_not_allAddressed (keyIntents_ne_nil scenario) hopen
    rw [hturns] at hturns'
    exact { Dialogue.Grows.turn (hacts ▸ hactions) rfl hturns' (hstate' ▸ hextends) (hstate' ▸ rfl)
      (by rw [hstate', hstate]) with
      open_ := ⟨_, rfl, hturns', habandon, hfail, intent, hintent, hunaddressed⟩ }
  · rw [hdone]
    rw [hturns] at hturns'
    exact { Dialogue.Grows.turn (hacts ▸ hactions) rfl hturns' (hstate' ▸ hextends) (hstate' ▸ rfl)
      (by rw [hstate', hstate]) with
      completed := fun reason h => ⟨by simp [hturns'], hstate' ▸ hcompleted reason h⟩ }

theorem fits_round (π : Platform) (config : MultiTurnConfig) (env : Surroundings) (scenario : ScenarioSpec)
    (turnId : ℕ) (d : Dialogue) : (round π config env scenario turnId d).Fits scenario d turnId := by
  unfold round Round.stop Round.raised
  have hle : d.actions.length ≤ d.actions.length + 1 := Nat.le_succ _
  split
  · exact Round.fits_unchanged hle rfl rfl (fun reason h => by cases h)
  · split
    · exact Round.fits_unchanged hle rfl rfl (fun reason h => by cases h)
    · dsimp only
      split
      · exact Round.fits_unchanged hle rfl rfl (fun reason h => by cases h)
      · exact Round.fits_unchanged hle rfl rfl (fun reason h => by cases h)
      · rename_i action _
        have hone : (d.actions ++ [action]).length ≤ d.actions.length + 1 := by simp
        split
        · exact Round.fits_unchanged hone rfl rfl (fun reason h => by cases h)
        · split
          · exact Round.fits_unchanged hone rfl rfl (fun reason h => by cases h)
          · rename_i hraised
            exact fits_answer hone rfl rfl (IntentStateMachine.extends_raiseIntents hraised)

/-- What `n` iterations do from a dialogue on. -/
structure Dialogue.Played (scenario : ScenarioSpec) (d : Dialogue) (n : ℕ) (ending : Ending) : Prop where
  actions : ending.dialogue.actions.length ≤ d.actions.length + n
  turns : d.turns <+: ending.dialogue.turns
  length : ending.dialogue.turns.length ≤ d.turns.length + n
  told : d.Told → ending.dialogue.Told
  completed : ∀ reason, ending.result = .ok (reason, .completed) →
    ending.dialogue.turns ≠ [] ∧ ending.dialogue.state.allAddressed scenario.keyIntents = true

theorem Dialogue.Grows.turns_prefix (h : d.Grows d' turnId) : d.turns <+: d'.turns := by
  obtain hsame | ⟨turn, _, hturn⟩ := h.turns
  · rw [hsame]
  · rw [hturn]
    exact List.prefix_append _ _

theorem Dialogue.Grows.turns_length (h : d.Grows d' turnId) : d'.turns.length ≤ d.turns.length + 1 := by
  obtain hsame | ⟨turn, _, hturn⟩ := h.turns
  · rw [hsame]
    exact Nat.le_succ _
  · rw [hturn, List.length_append, List.length_singleton]

theorem play_played (π : Platform) (config : MultiTurnConfig) (env : Surroundings) (scenario : ScenarioSpec)
    (turnIds : List ℕ) (d : Dialogue) :
    d.Played scenario turnIds.length (play π config env scenario turnIds d) := by
  -- Over the turns that are left, from whatever dialogue the ones before have led to.
  induction turnIds generalizing d with
  | nil => exact ⟨Nat.le_refl _, List.prefix_rfl, Nat.le_refl _, id, fun reason h => by cases h⟩
  | cons turnId rest ih =>
    have hfits := fits_round π config env scenario turnId d
    unfold play
    rw [List.length_cons]
    cases hround : round π config env scenario turnId d with
    | next d' =>
      rw [hround] at hfits
      dsimp only
      have hlater := ih d'
      have hactions := hfits.actions
      have hlength := hfits.turns_length
      have hall := hlater.actions
      have hturns := hlater.length
      exact ⟨by omega, hfits.turns_prefix.trans hlater.turns, by omega,
        fun h => hlater.told (hfits.told h), hlater.completed⟩
    | done ending =>
      rw [hround] at hfits
      have hactions := hfits.actions
      have hlength := hfits.turns_length
      exact ⟨by dsimp only; omega, hfits.turns_prefix, by dsimp only; omega, hfits.told, hfits.completed⟩

/-- No turn follows one whose user action was terminal. -/
def StopsAtTerminal (turns : List TurnTrace) : Prop :=
  ∀ before turn after, turns = before ++ turn :: after → turn.userAction.shouldContinue = false → after = []

theorem stopsAtTerminal_snoc {turns : List TurnTrace} {turn : TurnTrace}
    (h : ∀ turn ∈ turns, turn.userAction.shouldContinue = true) : StopsAtTerminal (turns ++ [turn]) := by
  intro before last after hsplit hlast
  obtain rfl | ⟨after', final, rfl⟩ := List.eq_nil_or_concat after
  · rfl
  · have hassoc : before ++ last :: (after' ++ [final]) = (before ++ last :: after') ++ [final] := by
      rw [List.append_assoc, List.cons_append]
    rw [List.concat_eq_append] at hsplit
    have hinit : turns = before ++ last :: after' := List.append_inj_left' (hsplit.trans hassoc) rfl
    have hmem : last ∈ turns := by
      rw [hinit]
      exact List.mem_append_right _ List.mem_cons_self
    rw [h last hmem] at hlast
    cases hlast

/-- The turns that are left are played with the terminal ones last. -/
theorem play_stops {n : ℕ} (turnIds : List ℕ) (hids : ∀ turnId ∈ turnIds, turnId ≤ n)
    (horder : turnIds.Pairwise (· < ·)) (hstops : StopsAtTerminal d.turns)
    (hlast : ∀ turn ∈ d.turns, turn.userAction.shouldContinue = false → turnIds = [])
    (hends : ∀ turn ∈ (play π config env scenario turnIds d).dialogue.turns,
      turn.userAction.shouldContinue = false → turn.Ends scenario n) :
    StopsAtTerminal (play π config env scenario turnIds d).dialogue.turns := by
  induction turnIds generalizing d with
  | nil => exact hstops
  | cons turnId rest ih =>
    have hcontinue : ∀ turn ∈ d.turns, turn.userAction.shouldContinue = true := by
      intro turn hturn
      by_contra hterminal
      exact absurd (hlast turn hturn (by simpa using hterminal)) (List.cons_ne_nil _ _)
    have hfits := fits_round π config env scenario turnId d
    unfold play at hends ⊢
    cases hround : round π config env scenario turnId d with
    | next d' =>
      rw [hround] at hfits hends
      dsimp only at hends ⊢
      -- A turn that another one follows is none of those that end a dialogue, unless the loop is over.
      obtain ⟨turn, hid, hturns, habandon, hfail, hopen⟩ := hfits.open_
      apply ih (fun id hid => hids id (List.mem_cons_of_mem _ hid)) horder.of_cons
        (hturns ▸ stopsAtTerminal_snoc hcontinue) _ hends
      intro other hother hterminal
      rw [hturns] at hother
      obtain hother | hother := List.mem_append.mp hother
      · rw [hcontinue other hother] at hterminal
        cases hterminal
      · obtain rfl := List.mem_singleton.mp hother
        have hkept := (play_played π config env scenario rest d').turns.subset
          (show other ∈ d'.turns by simp [hturns])
        rcases hends other hkept hterminal with h | h | h | h
        · exact absurd h habandon
        · exact absurd h hfail
        · obtain ⟨intent, hintent, hunaddressed⟩ := hopen
          exact absurd (h intent hintent) hunaddressed
        · -- It was the last turn that the loop allows.
          apply List.eq_nil_iff_forall_not_mem.mpr
          intro later hlater
          have hless := List.rel_of_pairwise_cons horder hlater
          have hmost := hids later (List.mem_cons_of_mem _ hlater)
          omega
    | done ending =>
      rw [hround] at hfits
      dsimp only
      obtain hsame | ⟨turn, _, hturn⟩ := hfits.turns
      · exact hsame ▸ hstops
      · exact hturn ▸ stopsAtTerminal_snoc hcontinue

end Turns

/-- No intent is verified by a dialogue, so that the addressed ones are in that state. -/
theorem addressed_of_leads {m : IntentStateMachine} {intents : List String} {intent : String}
    (hleads : Leads m.history m.states) (h : m.allAddressed intents = true) (hintent : intent ∈ intents) :
    m.states.get? intent = some .addressed := by
  unfold IntentStateMachine.allAddressed at h
  rw [if_neg (by simpa using List.ne_nil_of_mem hintent)] at h
  have hstate := List.all_eq_true.mp h intent hintent
  have hverified := (hleads intent).ne_verified (by decide)
  unfold IntentStates.of at hverified
  cases hget : m.states.get? intent with
  | none => simp [hget] at hstate
  | some state =>
    rw [hget] at hverified
    cases state with
    | addressed => rfl
    | notRaised | raised => simp [hget] at hstate
    | verified => exact absurd rfl hverified

section Contract

variable (π : Platform) (config : MultiTurnConfig) (env : Surroundings) (scenario : ScenarioSpec)

/-- The recorded transitions lead every intent along its path to the state that the last turn shows. -/
def TellsStates (turns : List TurnTrace) : Prop :=
  ∀ last ∈ turns.getLast?, Leads (turns.flatMap (·.transitions)) last.intentStates

end Contract

section Demo

def demoScenario : ScenarioSpec where
  scenarioId := "order_status"
  intentAgenda := [{ intent := "查询物流状态" }]
  maxTurns := 4
  modelDumpJson := ""
  distinct := by decide
  someKey := ⟨_, List.mem_singleton_self _, rfl⟩
  bounded := by decide

/-- A simulator that gives its first action in the first turn, and asks on in the others. -/
def demoSurroundings (first : UserActionType) : Surroundings where
  cancelled := fun _ => false
  cancelledInTurn := fun _ => false
  elapsed := fun turnId => turnId
  simulator := fun turnId _ _ _ =>
    if turnId = 1 then .action { action := first, message := "先这样吧", shouldContinue := false, reasonCode := "done" }
    else .action { action := .askFollowup, message := "再问一句", reasonCode := "more" }
  simulatorMetadata := none
  agent := fun case _ => .trace { caseId := case.caseId, nextAction := "respond", response := "好的。", status := .complete }

theorem demo_validated : (demoSurroundings .finish).Validated demoPlatform demoScenario ∧
    (demoSurroundings .abandon).Validated demoPlatform demoScenario := by
  have hactions : ∀ first ∈ [UserActionType.finish, .abandon],
      validateUserAction demoPlatform ⟨first, "先这样吧", [], [], "neutral", false, "done"⟩ demoScenario = .ok () ∧
      validateUserAction demoPlatform ⟨.askFollowup, "再问一句", [], [], "neutral", true, "more"⟩ demoScenario =
        .ok () := by
    intro first hfirst
    rcases List.mem_pair.mp hfirst with rfl | rfl
    · exact ⟨rfl, rfl⟩
    · exact ⟨rfl, rfl⟩
  have hvalidated : ∀ first ∈ [UserActionType.finish, .abandon],
      (demoSurroundings first).Validated demoPlatform demoScenario := by
    intro first hfirst turnId history response pending action haction
    unfold demoSurroundings at haction
    dsimp only at haction
    split at haction
    · obtain rfl := SimulatorReply.action.inj haction
      exact (hactions first hfirst).1
    · obtain rfl := SimulatorReply.action.inj haction
      exact (hactions first hfirst).2
  exact ⟨hvalidated _ (by decide), hvalidated _ (by decide)⟩

/-- What the turns of a run of the scenario were, each with whether its action was to go on. -/
def demoTurns (first : UserActionType) : Option (List (UserActionType × Bool)) :=
  (playScenario demoPlatform {} (demoSurroundings first) demoScenario).toOption.map fun ending =>
    ending.dialogue.turns.map fun turn => (turn.userAction.action, turn.userAction.shouldContinue)

theorem demoTurns_eq : demoTurns .abandon = some [(.abandon, false)] ∧
    demoTurns .finish = some [(.finish, false), (.askFollowup, true)] := by
  decide +kernel

theorem demoTurns_played {first : UserActionType} {turns : List (UserActionType × Bool)}
    (h : demoTurns first = some turns) :
    ∃ ending, playScenario demoPlatform {} (demoSurroundings first) demoScenario = .ok ending ∧
      ending.dialogue.turns.map (fun turn => (turn.userAction.action, turn.userAction.shouldContinue)) = turns := by
  unfold demoTurns at h
  cases hplay : playScenario demoPlatform {} (demoSurroundings first) demoScenario with
  | error e =>
    rw [hplay] at h
    cases h
  | ok ending =>
    rw [hplay] at h
    exact ⟨ending, rfl, Option.some.inj h⟩

end Demo

end CommerceAgent.Harness
