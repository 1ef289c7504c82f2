import CommerceAgent.HumanGate
import CommerceAgent.Histories

/-! Which Skill strategies reach the prompts of a run, while the Skills, the kill switch and the
match modes change between its messages. -/
namespace CommerceAgent.Skills

open Json Tables Histories

structure SkillSettings where
  enableExperienceSkills : Bool
  enableSkillShadow : Bool
  enableSkillCanary : Bool

def SkillSettings.matchMode (settings : SkillSettings) : String :=
  -- With both flags set the shadow wins.
  if settings.enableSkillShadow then "shadow"
  else if settings.enableSkillCanary then "canary"
  else "active"

/-- The kill switch of the tenant, the settings, and the state that the run's checkpoint carries;
`matchingEnabled` is `none` without a row. -/
structure SkillWorld where
  registry : Registry
  matchingEnabled : Option Bool := none
  settings : SkillSettings
  state : Dict := []

/-- `matching_enabled`: a missing row means enabled. -/
def SkillWorld.enabled (w : SkillWorld) : Bool := w.matchingEnabled.getD true

/-- A message of the run, and which of the statements that its dispatch makes go through. -/
structure DispatchedMessage where
  route : String
  content : String
  /-- The latest user message as it is stored. -/
  requestText : String
  /-- The route leads to the readonly loop, which builds the prompts. -/
  readonlyLoop : Bool
  /-- The state is checkpointed. -/
  checkpointed : Bool
  controlRead : Bool := true
  registryRead : Bool := true
  messagesListed : Bool := true
  registryReadAgain : Bool := true
  matchObserved : Bool := true
  matchRecorded : Bool := true
  matchObservedAgain : Bool := true
  matchRecordedAgain : Bool := true
  /-- The times of the two sweeps of `candidates_for_match`, each with that of its query. -/
  sweep : ℕ
  query : ℕ
  sweepAgain : ℕ
  queryAgain : ℕ

section Dispatch

variable (casefold : String → String) (tenantId : String)

/-- The registry after the sweep of `candidates_for_match`. -/
def sweptRegistry (reg : Registry) (now : ℕ) : Registry :=
  (reg.expireDue (some tenantId) now).toOption.getD reg

/-- What `candidates_for_match` returns, nothing when it raises. -/
def offersFor (reg : Registry) (mode : String) (now later : ℕ) : List (Candidate × Version) :=
  (reg.candidatesForMatch tenantId mode 100 now later).toOption.getD []

/-- `select_skill_from_registry`: a registry that cannot be read is a miss. -/
def selectFromRegistry (reg : Registry) (textValue route mode : String) (read : Bool)
    (now later : ℕ) : Option SkillMatch :=
  if read then
    (selectSkill casefold textValue tenantId (some route) mode (3 / 4) later
      (offersFor tenantId reg mode now later)).toOption.join
  else none

/-- The match of `_execute_message_run`, which reads the kill switch. -/
def executorMatch (w : SkillWorld) (m : DispatchedMessage) : Option SkillMatch :=
  if w.settings.enableExperienceSkills && (m.controlRead && w.enabled) then
    selectFromRegistry casefold tenantId w.registry m.content m.route w.settings.matchMode
      m.registryRead m.sweep m.query
  else none

/-- The registry as the readonly loop finds it. -/
def registryAgain (w : SkillWorld) (m : DispatchedMessage) : Registry :=
  if w.settings.enableExperienceSkills && (m.controlRead && w.enabled) && m.registryRead then
    sweptRegistry tenantId w.registry m.sweep
  else w.registry

/-- The keys that a match sets. -/
def matchedState (state : Dict) (found : SkillMatch) : Dict :=
  state.update [("skill_id", .str found.skillId), ("skill_version_id", .str found.skillVersionId),
    ("skill_match_mode", .str found.mode)]

/-- The state with which the routed run goes on. -/
def routedState (w : SkillWorld) (m : DispatchedMessage) : Dict :=
  match executorMatch casefold tenantId w m with
  | some found => (matchedState w.state found).set "skill_strategy" (.obj found.strategyView)
  | none => w.state

/-- The strategy that a state carries together with the id of its Skill. -/
def carried (state : Dict) : Option Dict :=
  match state.get? "skill_id", state.get? "skill_strategy" with
  | some (.str _), some (.obj strategy) => some strategy
  | _, _ => none

/-- `context.state.get("skill_id") is None`. -/
def unmatched (state : Dict) : Bool :=
  match state.get? "skill_id" with
  | none | some .null => true
  | _ => false

/-- The match of `execute_readonly_run`, for a state without a Skill. -/
def runtimeMatch (w : SkillWorld) (m : DispatchedMessage) : Option SkillMatch :=
  if w.settings.enableExperienceSkills && (m.readonlyLoop && m.messagesListed) &&
      unmatched (routedState casefold tenantId w m) then
    selectFromRegistry casefold tenantId (registryAgain tenantId w m) m.requestText m.route
      w.settings.matchMode m.registryReadAgain m.sweepAgain m.queryAgain
  else none

/-- What the dispatch of a message does with Skills: the strategy of the prompts and the version
it was matched with, the matches that are recorded, and the state and registry it leaves. -/
structure Dispatched where
  strategy : Option Dict
  matchesRecorded : List SkillMatch
  state : Dict
  registry : Registry

/-- The Skill part of `_execute_message_run` and of `execute_readonly_run`. -/
def dispatch (w : SkillWorld) (m : DispatchedMessage) : Dispatched :=
  let first := executorMatch casefold tenantId w m
  let state := routedState casefold tenantId w m
  let again := runtimeMatch casefold tenantId w m
  let shadow := decide (w.settings.matchMode = "shadow")
  { strategy :=
      if w.settings.enableExperienceSkills && (m.readonlyLoop && m.messagesListed) then
        match again with
        | some found =>
          -- An exception after the match leaves the prompt without a strategy.
          if !shadow && (m.matchObservedAgain && m.matchRecordedAgain) then some found.strategyView
          else none
        | none => if shadow then none else carried state
      else none
    matchesRecorded :=
      (first.filter fun _ => m.matchObserved && m.matchRecorded).toList ++
        (again.filter fun _ => m.matchObservedAgain && m.matchRecordedAgain).toList
    state := again.elim state (matchedState state)
    registry :=
      if w.settings.enableExperienceSkills && (m.readonlyLoop && m.messagesListed) &&
          unmatched state && m.registryReadAgain then
        sweptRegistry tenantId (registryAgain tenantId w m) m.sweepAgain
      else registryAgain tenantId w m }

/-- What happens to a run and around it. -/
inductive SkillEvent where
  | skill (operation : Step)
  | control (enabled : Bool)
  | settings (settings : SkillSettings)
  | message (message : DispatchedMessage)

variable (δ : Definitions)

def SkillWorld.after (w : SkillWorld) : SkillEvent → SkillWorld
  | .skill operation => { w with registry := w.registry.after δ operation }
  -- The switch is a row of its own: no Skill and no checkpoint is touched.
  | .control enabled => { w with matchingEnabled := some enabled }
  | .settings settings => { w with settings }
  | .message m =>
    let dispatched := dispatch casefold tenantId w m
    { w with
      registry := dispatched.registry
      state := if m.checkpointed then dispatched.state else w.state }

/-- The versions that `candidates_for_match` returns while a message is dispatched. -/
def offered (w : SkillWorld) (m : DispatchedMessage) : List (Candidate × Version) :=
  offersFor tenantId w.registry w.settings.matchMode m.sweep m.query ++
    offersFor tenantId (registryAgain tenantId w m) w.settings.matchMode m.sweepAgain m.queryAgain

/-- The strategy is the one of an offered version. -/
def IsOffered (w : SkillWorld) (m : DispatchedMessage) (strategy : Dict) : Prop :=
  ∃ row ∈ offered tenantId w m, strategyView row.1.strategy = strategy

/-- A strategy in the prompts is allowed now, and nothing is recorded while matching is off. -/
structure GatedAtUse (w : SkillWorld) (m : DispatchedMessage) : Prop where
  prompt : ∀ strategy, (dispatch casefold tenantId w m).strategy = some strategy →
    w.enabled = true ∧ IsOffered tenantId w m strategy
  recorded : w.enabled = false → (dispatch casefold tenantId w m).matchesRecorded = []

/-- What keeps the gate where a message does not match a Skill of its own: a strategy that is
carried from an earlier message is still offered, and no Skill matches while the switch is off. -/
structure KeepsGate (w : SkillWorld) (m : DispatchedMessage) : Prop where
  carried : ∀ strategy, carried w.state = some strategy → w.settings.matchMode ≠ "shadow" →
    w.enabled = true ∧ IsOffered tenantId w m strategy
  switch : w.enabled = false → unmatched w.state = true → m.matchObservedAgain = true →
    m.matchRecordedAgain = true → selectFromRegistry casefold tenantId w.registry m.requestText
      m.route w.settings.matchMode m.registryReadAgain m.sweepAgain m.queryAgain = none

/-- The message reaches the readonly loop with Skills on, and no match of its own. -/
def Unguarded (w : SkillWorld) (m : DispatchedMessage) : Prop :=
  w.settings.enableExperienceSkills = true ∧ m.readonlyLoop = true ∧ m.messagesListed = true ∧
    executorMatch casefold tenantId w m = none

section Selected

variable {casefold tenantId}

/-- What is selected has the strategy of a row that is offered. -/
theorem selectSkill_strategy {textValue mode : String} {route : Option String} {minimumScore : ℚ}
    {now : ℕ} {candidates : List (Candidate × Version)} {found : SkillMatch}
    (h : selectSkill casefold textValue tenantId route mode minimumScore now candidates =
      .ok (some found)) :
    ∃ row ∈ candidates, strategyView row.1.strategy = found.strategyView := by
  unfold selectSkill at h
  split at h
  · cases h
  -- The head of the sorted options comes from a row, and an option keeps the strategy of its row.
  obtain ⟨item, hitem, rfl⟩ := Option.map_eq_some_iff.mp (Except.ok.inj h)
  have hoption := (List.mem_insertionSort _).mp (List.mem_of_mem_head? hitem)
  obtain ⟨row, hrow, hmakes⟩ := List.mem_filterMap.mp hoption
  refine ⟨row, hrow, ?_⟩
  unfold option at hmakes
  dsimp only at hmakes
  split at hmakes
  · cases hmakes
  split at hmakes
  · cases hmakes
  split at hmakes
  · cases hmakes
  split at hmakes
  · cases hmakes
  split at hmakes
  · cases hmakes
  split at hmakes
  · cases hmakes
  · obtain rfl := Option.some.inj hmakes
    rfl

theorem selectFromRegistry_offered {reg : Registry} {textValue route mode : String} {read : Bool}
    {now later : ℕ} {found : SkillMatch}
    (h : selectFromRegistry casefold tenantId reg textValue route mode read now later =
      some found) :
    ∃ row ∈ offersFor tenantId reg mode now later,
      strategyView row.1.strategy = found.strategyView := by
  unfold selectFromRegistry at h
  split at h
  · cases hselect : selectSkill casefold textValue tenantId (some route) mode (3 / 4) later
        (offersFor tenantId reg mode now later) with
    | error e =>
      rw [hselect] at h
      cases h
    | ok found' =>
      rw [hselect] at h
      obtain rfl : found' = some found := h
      exact selectSkill_strategy hselect
  · cases h

end Selected

section Steps

variable {casefold tenantId} {w : SkillWorld} {m : DispatchedMessage}

/-- The executor matches nothing while matching is off. -/
theorem executorMatch_disabled (h : w.enabled = false) :
    executorMatch casefold tenantId w m = none := by
  rw [executorMatch, h, Bool.and_false, Bool.and_false]
  rfl

theorem executorMatch_enabled {found : SkillMatch}
    (h : executorMatch casefold tenantId w m = some found) : w.enabled = true ∧
      IsOffered tenantId w m found.strategyView := by
  unfold executorMatch at h
  split at h
  · rename_i hguard
    rw [Bool.and_eq_true, Bool.and_eq_true] at hguard
    obtain ⟨row, hrow, hstrategy⟩ := selectFromRegistry_offered h
    exact ⟨hguard.2.2, row, List.mem_append_left _ hrow, hstrategy⟩
  · cases h

theorem runtimeMatch_offered {found : SkillMatch}
    (h : runtimeMatch casefold tenantId w m = some found) :
    IsOffered tenantId w m found.strategyView := by
  unfold runtimeMatch at h
  split at h
  · obtain ⟨row, hrow, hstrategy⟩ := selectFromRegistry_offered h
    exact ⟨row, List.mem_append_right _ hrow, hstrategy⟩
  · cases h

/-- After a match of its own a message carries the new strategy. -/
theorem carried_matchedState (state : Dict) (found : SkillMatch) :
    carried ((matchedState state found).set "skill_strategy" (.obj found.strategyView)) =
        some found.strategyView ∧
      unmatched ((matchedState state found).set "skill_strategy" (.obj found.strategyView)) =
        false := by
  have hid : ((matchedState state found).set "skill_strategy" (.obj found.strategyView)).get?
      "skill_id" = some (.str found.skillId) := by
    rw [Dict.get?_set_of_ne _ _ (by decide), matchedState]
    simp
  have hstrategy : ((matchedState state found).set "skill_strategy"
      (.obj found.strategyView)).get? "skill_strategy" = some (.obj found.strategyView) :=
    Dict.get?_set_self _ _ _
  constructor
  · rw [carried, hid, hstrategy]
  · rw [unmatched, hid]

/-- A state without a Skill carries no strategy. -/
theorem carried_of_unmatched {state : Dict} (h : unmatched state = true) :
    carried state = none := by
  unfold unmatched at h
  unfold carried
  split at h
  · rename_i hnone
    rw [hnone]
  · rename_i hnull
    rw [hnull]
  · cases h

/-- In the readonly loop with Skills on. -/
theorem strategy_of_loop (hskills : w.settings.enableExperienceSkills = true)
    (hloop : m.readonlyLoop = true) (hlisted : m.messagesListed = true) :
    (dispatch casefold tenantId w m).strategy =
      match runtimeMatch casefold tenantId w m with
      | some found =>
        if !decide (w.settings.matchMode = "shadow") &&
          (m.matchObservedAgain && m.matchRecordedAgain) then some found.strategyView else none
      | none => if w.settings.matchMode = "shadow" then none
        else carried (routedState casefold tenantId w m) := by
  simp only [dispatch, hskills, hloop, hlisted, Bool.and_self, if_true, decide_eq_true_eq]

/-- Outside of the loop, or with Skills off, there is no strategy, and no second match. -/
theorem idle_of_not_loop (h : ¬ (w.settings.enableExperienceSkills = true ∧
    m.readonlyLoop = true ∧ m.messagesListed = true)) :
    (dispatch casefold tenantId w m).strategy = none ∧
      runtimeMatch casefold tenantId w m = none := by
  have hguard : (w.settings.enableExperienceSkills &&
      (m.readonlyLoop && m.messagesListed)) = false := by
    rw [Bool.eq_false_iff]
    intro htrue
    rw [Bool.and_eq_true, Bool.and_eq_true] at htrue
    exact h htrue
  constructor
  · simp only [dispatch, hguard, Bool.false_eq_true, if_false]
  · rw [runtimeMatch, hguard]
    rfl

theorem matchesRecorded_disabled (h : w.enabled = false) :
    (dispatch casefold tenantId w m).matchesRecorded =
      ((runtimeMatch casefold tenantId w m).filter fun _ =>
        m.matchObservedAgain && m.matchRecordedAgain).toList := by
  rw [dispatch, executorMatch_disabled h]
  rfl

/-- A message that matches a Skill of its own replaces what is carried. -/
theorem gated_of_match {found : SkillMatch}
    (h : executorMatch casefold tenantId w m = some found) :
    GatedAtUse casefold tenantId w m := by
  obtain ⟨henabled, hoffered⟩ := executorMatch_enabled h
  refine ⟨fun strategy hstrategy => ?_, fun hdisabled => absurd (henabled.symm.trans hdisabled)
    (by decide)⟩
  by_cases hloop : w.settings.enableExperienceSkills = true ∧ m.readonlyLoop = true ∧
      m.messagesListed = true
  · -- The new id keeps the loop from matching again.
    obtain ⟨hcarried, hmatched⟩ := carried_matchedState w.state found
    have hstate : routedState casefold tenantId w m =
        (matchedState w.state found).set "skill_strategy" (.obj found.strategyView) := by
      rw [routedState, h]
    have hnone : runtimeMatch casefold tenantId w m = none := by
      rw [runtimeMatch, hstate, hmatched, Bool.and_false]
      rfl
    rw [strategy_of_loop hloop.1 hloop.2.1 hloop.2.2, hnone, hstate, hcarried] at hstrategy
    dsimp only at hstrategy
    split at hstrategy
    · cases hstrategy
    · obtain rfl := Option.some.inj hstrategy
      exact ⟨henabled, hoffered⟩
  · rw [(idle_of_not_loop hloop).1] at hstrategy
    cases hstrategy

theorem gated_of_idle (h : ¬ (w.settings.enableExperienceSkills = true ∧
    m.readonlyLoop = true ∧ m.messagesListed = true)) : GatedAtUse casefold tenantId w m := by
  obtain ⟨hstrategy, hmatch⟩ := @idle_of_not_loop casefold tenantId w m h
  refine ⟨fun strategy hsome => ?_, fun hdisabled => ?_⟩
  · rw [hstrategy] at hsome
    cases hsome
  · rw [matchesRecorded_disabled hdisabled, hmatch]
    rfl

/-- Without a match of its own the loop finds the state and the registry as they were, unless the
executor has swept the registry. -/
theorem runtimeMatch_unguarded (h : Unguarded casefold tenantId w m) :
    routedState casefold tenantId w m = w.state ∧
      runtimeMatch casefold tenantId w m = if unmatched w.state = true then
        selectFromRegistry casefold tenantId (registryAgain tenantId w m) m.requestText m.route
          w.settings.matchMode m.registryReadAgain m.sweepAgain m.queryAgain
      else none := by
  obtain ⟨hskills, hloop, hlisted, hnone⟩ := h
  have hstate : routedState casefold tenantId w m = w.state := by rw [routedState, hnone]
  refine ⟨hstate, ?_⟩
  rw [runtimeMatch, hskills, hloop, hlisted, hstate]
  rfl

theorem registryAgain_disabled (h : w.enabled = false) :
    registryAgain tenantId w m = w.registry := by
  rw [registryAgain, h, Bool.and_false, Bool.and_false]
  rfl

/-- The gate of one message that finds no match of its own. -/
theorem gated_unguarded_iff (h : Unguarded casefold tenantId w m) :
    GatedAtUse casefold tenantId w m ↔ KeepsGate casefold tenantId w m := by
  obtain ⟨hstate, hmatch⟩ := runtimeMatch_unguarded h
  have hstrategy := @strategy_of_loop casefold tenantId w m h.1 h.2.1 h.2.2.1
  constructor
  · -- What is carried shows in the prompts, and a second match among the recorded ones.
    intro hgated
    refine ⟨fun strategy hcarried hmode => ?_, fun hdisabled hunmatched hobserved hrecorded => ?_⟩
    · apply hgated.prompt
      -- With an id in the state the loop does not match again, and shows what is carried.
      have hnot : ¬ unmatched w.state = true := fun hunmatched => by
        rw [carried_of_unmatched hunmatched] at hcarried
        cases hcarried
      rw [hstrategy, hmatch, if_neg hnot, hstate]
      dsimp only
      rw [if_neg hmode, hcarried]
    · have hempty := hgated.recorded hdisabled
      rw [matchesRecorded_disabled hdisabled, hmatch, if_pos hunmatched, hobserved, hrecorded,
        registryAgain_disabled hdisabled] at hempty
      cases hselect : selectFromRegistry casefold tenantId w.registry m.requestText m.route
          w.settings.matchMode m.registryReadAgain m.sweepAgain m.queryAgain with
      | none => rfl
      | some found =>
        rw [hselect] at hempty
        cases hempty
  · -- A match of the loop is offered by its own query, so only the switch can forbid it.
    intro hkeeps
    refine ⟨fun strategy hsome => ?_, fun hdisabled => ?_⟩
    · rw [hstrategy] at hsome
      cases hagain : runtimeMatch casefold tenantId w m with
      | none =>
        rw [hagain, hstate] at hsome
        dsimp only at hsome
        split at hsome
        · cases hsome
        · rename_i hmode
          exact hkeeps.carried strategy hsome hmode
      | some found =>
        rw [hagain] at hsome
        dsimp only at hsome
        split at hsome
        · rename_i hwritten
          obtain rfl := Option.some.inj hsome
          refine ⟨?_, runtimeMatch_offered hagain⟩
          rw [Bool.and_eq_true, Bool.and_eq_true] at hwritten
          -- The loop has not read the switch: if it is off, nothing may have matched.
          by_contra hdisabled
          rw [Bool.not_eq_true] at hdisabled
          rw [hmatch] at hagain
          split at hagain
          · rename_i hunmatched
            rw [registryAgain_disabled hdisabled,
              hkeeps.switch hdisabled hunmatched hwritten.2.1 hwritten.2.2] at hagain
            cases hagain
          · cases hagain
        · cases hsome
    · rw [matchesRecorded_disabled hdisabled, hmatch]
      split
      · rename_i hunmatched
        rw [registryAgain_disabled hdisabled]
        cases hobserved : m.matchObservedAgain && m.matchRecordedAgain with
        | false => simp
        | true =>
          rw [Bool.and_eq_true] at hobserved
          rw [hkeeps.switch hdisabled hunmatched hobserved.1 hobserved.2]
          rfl
      · rfl

/-- One message is gated if and only if it does not reach the loop unguarded, or the carried
strategy and the kill switch allow what the loop does. -/
theorem gatedAtUse_iff : GatedAtUse casefold tenantId w m ↔
    (Unguarded casefold tenantId w m → KeepsGate casefold tenantId w m) := by
  by_cases hunguarded : Unguarded casefold tenantId w m
  · rw [gated_unguarded_iff hunguarded]
    exact ⟨fun h _ => h, fun h => h hunguarded⟩
  · refine ⟨fun _ h => absurd h hunguarded, fun _ => ?_⟩
    cases hmatch : executorMatch casefold tenantId w m with
    | some found => exact gated_of_match hmatch
    | none => exact gated_of_idle fun ⟨hskills, hloop, hlisted⟩ =>
        hunguarded ⟨hskills, hloop, hlisted, hmatch⟩

end Steps

end Dispatch

section Demo

/-- A message about a late order that the readonly loop answers. -/
def demoMessage (content : String) (now : ℕ) : DispatchedMessage where
  route := "order_status"
  content := content
  requestText := content
  readonlyLoop := true
  checkpointed := true
  sweep := now
  query := now
  sweepAgain := now
  queryAgain := now

def demoSkillWorld : SkillWorld where
  registry := {}
  settings := ⟨true, false, false⟩

/-- The Skill is deployed, and the kill switch is thrown. -/
def demoSwitchedOff : List SkillEvent := demoServed.map .skill ++ [.control false]

/-- The Skill is deployed, matched by a message, and rolled back. -/
def demoRolledBack : List SkillEvent :=
  demoServed.map .skill ++ [.message (demoMessage "late" 10),
    .skill ⟨.rollback "acme" "skill" "harmful", 11⟩]

def demoAfter (h : List SkillEvent) : SkillWorld :=
  run (SkillWorld.after id "acme" demoDefinitions) demoSkillWorld h

end Demo

end CommerceAgent.Skills
