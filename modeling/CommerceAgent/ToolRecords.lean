import CommerceAgent.AgentLoop
import CommerceAgent.Interleaving

/-! Which tool calls leave a record: the observation of an executed tool is checkpointed by a step of
a readonly run, and lost by a step of a workflow run. -/
namespace CommerceAgent.Agent

open Json Programs

/-- The clocks, the thread that runs an adapter and the checkpoint store do not raise. -/
def AgentOp.Answered : {α : Type} → AgentOp α → Except Failure α → Prop
  | _, .now, r => ∃ a, r = .ok a
  | _, .clock, r => ∃ a, r = .ok a
  | _, .adapter _ _, r => ∃ a, r = .ok a
  | _, .checkpoint _ _ _ _ _, r => ∃ a, r = .ok a
  | _, _, _ => True

def Dependable (c : Call AgentOp Failure) : Prop := c.op.Answered c.answer

def AgentOp.IsAdapter {α : Type} : AgentOp α → Prop
  | .adapter _ _ => True
  | _ => False

def AgentOp.IsCheckpoint {α : Type} : AgentOp α → Prop
  | .checkpoint _ _ _ _ _ => True
  | _ => False

instance {α : Type} (o : AgentOp α) : Decidable o.IsAdapter := by
  cases o <;> first | exact isTrue trivial | exact isFalse id

instance {α : Type} (o : AgentOp α) : Decidable o.IsCheckpoint := by
  cases o <;> first | exact isTrue trivial | exact isFalse id

/-- The checkpoint of what a tool has answered, with its events. -/
def AgentOp.Records {α : Type} : AgentOp α → Prop
  | .checkpoint _ _ _ state events =>
    ∃ (execution : ToolExecution) (base : Dict), state = execution.observe base ∧ events = execution.events
  | _ => False

theorem observe_last (execution : ToolExecution) (base : Dict) :
    ∃ state value, execution.observe base = Dict.set state "last_observation" value := by
  cases herror : execution.error <;> cases hdata : execution.data <;>
    simp only [ToolExecution.observe, herror, hdata] <;> exact ⟨_, _, rfl⟩

theorem AgentOp.Records.observed {context : RunContext} {status : RunStatus} {nextStep : String}
    {state : Dict} {events : List DomainEvent}
    (h : (AgentOp.checkpoint context status nextStep state events).Records) :
    (∃ event ∈ events, event.eventType = .toolObserved) ∧ (state.get? "last_observation").isSome := by
  obtain ⟨execution, base, rfl, rfl⟩ := h
  constructor
  · refine ⟨_, List.mem_append_right _ List.mem_cons_self, rfl⟩
  · obtain ⟨state, value, hstate⟩ := observe_last execution base
    simp [hstate]

section Records

/-- The calls that a step has made so far. -/
abbrev Calls : Type 1 := List (Call AgentOp Failure)

/-- The machine on which everything but the clocks and the threads may raise. -/
def dependably : Machine AgentOp Failure Calls := (Machine.ghost log).restrict Dependable

def Untouched (t : Calls) : Prop := ∀ c ∈ t, ¬ c.op.IsAdapter ∧ ¬ c.op.IsCheckpoint

def Unrecorded (t : Calls) : Prop := ∀ c ∈ t, ¬ c.op.IsCheckpoint

theorem Untouched.snoc {t : Calls} (h : Untouched t) {α : Type} {o : AgentOp α} (hadapter : ¬ o.IsAdapter)
    (hcheckpoint : ¬ o.IsCheckpoint) (r : Except Failure α) : Untouched (log t ⟨o, r⟩) := by
  intro c hc
  rcases List.mem_append.mp hc with hc | hc
  · exact h c hc
  · obtain rfl := List.mem_singleton.mp hc
    exact ⟨hadapter, hcheckpoint⟩

theorem Untouched.unrecorded {t : Calls} (h : Untouched t) : Unrecorded t := fun c hc => (h c hc).2

/-- Programs that touch neither an adapter nor the store. -/
theorem safe_untouched {α : Type} {p : Act α} {P : {β : Type} → AgentOp β → Prop} (hp : Uses P p)
    (hP : ∀ {β : Type} (o : AgentOp β), P o → ¬ o.IsAdapter ∧ ¬ o.IsCheckpoint) {t : Calls} (ht : Untouched t) :
    Safe dependably (fun _ {_} _ => True) (fun _ t => Untouched t) p t := by
  refine (hp.keeps (J := Untouched) ?_ ht).mono (fun _ _ _ _ => trivial) fun _ _ h => h
  rintro t β o r t' ht ho ⟨rfl, _⟩
  exact ht.snoc (hP o ho).1 (hP o ho).2 r

/-- The attempts of a tool end with an execution: nothing that they call raises. -/
theorem safe_attemptTool (spec : ToolSpec) (arguments : Dict) (deadlineAt n attempts : ℕ)
    (last : ToolResult) {t : Calls} (ht : Unrecorded t) :
    Safe dependably (fun _ {_} _ => True) (fun r t => Unrecorded t ∧ ∀ e, r ≠ .error e)
      (attemptTool spec arguments deadlineAt n attempts last) t := by
  have hcall : ∀ {α β : Type} {o : AgentOp α} {f : α → Act β} {Q : Except Failure β → Calls → Prop} {t : Calls},
      (∀ r, Dependable ⟨o, r⟩ → ∃ a, r = .ok a) → ¬ o.IsCheckpoint → Unrecorded t →
      (∀ a t', Unrecorded t' → Safe dependably (fun _ {_} _ => True) Q (f a) t') →
      Safe dependably (fun _ {_} _ => True) Q (do let a ← Prog.perform o; f a) t := by
    intro α β o f Q t hdep hcheckpoint ht hf
    refine (safe_bind _ _ _).mpr ((safe_perform _ _).mpr ⟨trivial, ?_⟩)
    rintro r _ ⟨rfl, hr⟩
    obtain ⟨a, rfl⟩ := hdep r hr
    refine hf a _ ?_
    intro c hc
    rcases List.mem_append.mp hc with hc | hc
    · exact ht c hc
    · obtain rfl := List.mem_singleton.mp hc
      exact hcheckpoint
  have hret : ∀ {execution : ToolExecution} {t : Calls}, Unrecorded t →
      Safe dependably (fun _ {_} _ => True) (fun r t => Unrecorded t ∧ ∀ e, r ≠ .error e)
        (pure execution) t := fun ht => ⟨ht, fun _ h => by simp at h⟩
  induction n generalizing attempts last t with
  | zero => exact hret ht
  | succ n ih =>
    unfold attemptTool
    refine hcall (fun _ h => h) id ht fun now t ht => ?_
    refine (safe_ite _ _ _ _).mpr ⟨fun _ => hret ht, fun _ => ?_⟩
    refine hcall (fun _ h => h) id ht fun started t ht => ?_
    refine hcall (fun _ h => h) id ht fun now t ht => ?_
    have hafter : ∀ (result : ToolResult) (t : Calls), Unrecorded t →
        Safe dependably (fun _ {_} _ => True) (fun r t => Unrecorded t ∧ ∀ e, r ≠ .error e)
          (attemptAfter spec arguments deadlineAt n attempts started result) t := by
      intro result t ht
      refine hcall (fun _ h => h) id ht fun ended t ht => ?_
      split
      · exact hret ht
      · exact ih _ _ ht
    by_cases htime : min spec.timeoutMs (deadlineAt - now) = 0
    · simp only [htime, if_true]
      exact hafter _ t ht
    · simp only [htime, if_false]
      refine hcall (fun _ h => h) id ht fun answer t ht => ?_
      cases answer with
      | other => exact hret ht
      | _ => exact hafter _ t ht

theorem safe_executeTool (spec : ToolSpec) (context : ToolContext) (arguments : Dict) (deadlineAt : ℕ)
    {t : Calls} (ht : Untouched t) :
    Safe dependably (fun _ {_} _ => True) (fun r t => Unrecorded t ∧ ∀ e, r = .error e → Untouched t)
      (executeTool spec context arguments deadlineAt) t := by
  have hret : ∀ {execution : ToolExecution} {t : Calls}, Untouched t →
      Safe dependably (fun _ {_} _ => True) (fun r t => Unrecorded t ∧ ∀ e, r = .error e → Untouched t)
        (pure execution) t := fun ht => ⟨ht.unrecorded, fun _ h => by simp at h⟩
  have hcheck : ∀ {α β : Type} {p : Act α} {f : α → Act β} {Q : Except Failure β → Calls → Prop} {t : Calls},
      Uses (fun {_} o => ¬ o.IsAdapter ∧ ¬ o.IsCheckpoint) p → Untouched t →
      (∀ e t, Untouched t → Q (.error e) t) →
      (∀ a t', Untouched t' → Safe dependably (fun _ {_} _ => True) Q (f a) t') →
      Safe dependably (fun _ {_} _ => True) Q (p >>= f) t := by
    intro α β p f Q t hp ht he hf
    refine (safe_bind _ _ _).mpr ((safe_untouched hp (fun _ h => h) ht).post ?_)
    rintro (e | a) t' ht'
    · exact he e t' ht'
    · exact hf a t' ht'
  have herror : ∀ (e : Failure) (t : Calls), Untouched t →
      Unrecorded t ∧ ∀ e', (.error e : Except Failure ToolExecution) = .error e' → Untouched t :=
    fun _ _ ht => ⟨ht.unrecorded, fun _ _ => ht⟩
  unfold executeTool
  refine (safe_ite _ _ _ _).mpr ⟨fun _ => hret ht, fun _ => ?_⟩
  refine (safe_ite _ _ _ _).mpr ⟨fun _ => hret ht, fun _ => ?_⟩
  refine (safe_ite _ _ _ _).mpr ⟨fun _ => hret ht, fun _ => ?_⟩
  refine hcheck (.perform ⟨id, id⟩) ht herror fun now t ht => ?_
  refine (safe_ite _ _ _ _).mpr ⟨fun _ => hret ht, fun _ => ?_⟩
  refine (safe_ite _ _ _ _).mpr ⟨fun _ => hret ht, fun _ => ?_⟩
  refine hcheck ?_ ht herror fun authorized t ht => ?_
  · unfold ownsResource
    split
    · exact .pure _
    · split
      · exact .pure _
      · exact .pure _
      · exact .handle (.perform ⟨id, id⟩) fun _ => .pure _
  refine (safe_ite _ _ _ _).mpr ⟨fun _ => hret ht, fun _ => ?_⟩
  refine hcheck ?_ ht herror fun allowed t ht => ?_
  · exact .handle (.perform ⟨id, id⟩) fun _ => .ite (.pure _) (.raise _)
  refine (safe_ite _ _ _ _).mpr ⟨fun _ => hret ht, fun _ => ?_⟩
  refine (safe_attemptTool _ _ _ _ _ _ ht.unrecorded).post ?_
  exact fun r t ⟨hun, hno⟩ => ⟨hun, fun e he => absurd he (hno e)⟩

/-- What a step leaves to the pipeline: nothing touched, or an execution that is yet to be recorded. -/
structure Left (r : Except Failure StepResult) (t : Calls) : Prop where
  unrecorded : Unrecorded t
  raised : ∀ e, r = .error e → Untouched t
  stages : ∀ result, r = .ok result → stagesInOrder result.stages
  executed : ∀ result, r = .ok result → Untouched t ∨
    result.status = .continue ∧ result.reason = none ∧ result.execution.isSome

theorem Left.error {t : Calls} (h : Untouched t) (e : Failure) : Left (.error e) t where
  unrecorded := h.unrecorded
  raised := fun _ _ => h
  stages := fun _ h => absurd h (by simp)
  executed := fun _ h => absurd h (by simp)

theorem Left.plain {t : Calls} {result : StepResult} (h : Untouched t) (hplain : result.Plain) :
    Left (.ok result) t where
  unrecorded := h.unrecorded
  raised := fun _ _ => h
  stages := by
    intro result' hresult
    obtain rfl := Except.ok.inj hresult
    exact hplain.stages
  executed := fun _ _ => .inl h

theorem idly_untouched : Idly dependably (fun _ {_} _ => True) Untouched := by
  intro t ht α o ho
  refine ⟨trivial, ?_⟩
  rintro r t' ⟨rfl, _⟩
  cases o <;> first | exact ht.snoc id id r | exact False.elim ho

theorem safe_decide {model : ModelGateway} {prompt : PromptView} {t : Calls} (ht : Untouched t) :
    Safe dependably (fun _ {_} _ => True) (fun _ t => Untouched t) (model.decide prompt) t := by
  refine safe_untouched (model.provider prompt) ?_ ht
  intro β o ho
  cases o <;> first | exact ⟨id, id⟩ | exact False.elim ho

def recordRule (agent : Composition) (context : RunContext) (prompt : PromptView)
    (toolContext : ToolContext) (tokenBudget : Option ℕ) :
    StepRule dependably (fun _ {_} _ => True) Left agent context prompt toolContext tokenBudget where
  asking := Untouched
  answered := fun _ => Untouched
  ending := Untouched
  idle_asking := idly_untouched
  idle_answered := fun _ => idly_untouched
  idle_ending := idly_untouched
  ends_asking := fun _ h => h
  ends_answered := fun _ _ h => h
  error := fun e _ h => .error h e
  plain := fun _ _ h hplain => .plain h hplain
  decide := fun _ _ h => (safe_decide h).post fun _ _ h => ⟨h, fun _ _ => h⟩
  retry := fun _ _ h => safe_decide h
  tool := by
    intro usage decision spec t _ ht _ _
    refine (safe_executeTool spec toolContext decision.args agent.deadlineAt ht).post ?_
    rintro (e | execution) t' ⟨hun, herror⟩
    · exact .plain (herror e rfl) (.callFailed decision)
    · refine ⟨hun, fun _ h => absurd h (by simp), ?_, ?_⟩
      · intro result hresult
        obtain rfl := Except.ok.inj hresult
        rfl
      · intro result hresult
        obtain rfl := Except.ok.inj hresult
        exact .inr ⟨rfl, rfl, rfl⟩

/-- If a tool was reached, its observation is recorded exactly in a readonly run. -/
def Recorded (context : RunContext) (t : Calls) : Prop :=
  (∃ c ∈ t, c.op.IsAdapter) → ((∃ c ∈ t, c.op.Records) ↔ context.status = .runningReadonly)

theorem Untouched.recorded {t : Calls} (h : Untouched t) (context : RunContext) : Recorded context t :=
  fun ⟨c, hc, hadapter⟩ => absurd hadapter (h c hc).1

theorem Recorded.untouched_checkpoint {t : Calls} (h : Untouched t) (context : RunContext)
    {c : Call AgentOp Failure} (hc : ¬ c.op.IsAdapter) : Recorded context (log t c) := by
  rintro ⟨c', hc', hadapter⟩
  rcases List.mem_append.mp hc' with hc' | hc'
  · exact absurd hadapter (h c' hc').1
  · obtain rfl := List.mem_singleton.mp hc'
    exact absurd hadapter hc

theorem Unrecorded.not_records {t : Calls} (h : Unrecorded t) : ¬ ∃ c ∈ t, c.op.Records := by
  rintro ⟨⟨o, r⟩, hc, hrecords⟩
  have hnot := h _ hc
  cases o <;> first | exact hnot trivial | exact False.elim hrecords

theorem running_of_valid {agent : Composition} {context : RunContext} {prompt : PromptView}
    {boundary : DecisionBoundary} {toolContext : ToolContext}
    (h : validateStepInputs agent context prompt boundary toolContext = .ok ()) :
    context.status = .runningReadonly ∨ context.status = .runningWorkflow := by
  unfold validateStepInputs at h
  split at h
  · exact absurd h (by simp)
  · rename_i hstatus
    simpa only [not_not, List.mem_cons, List.not_mem_nil, or_false] using hstatus

/-- The check of the transition comes after the tool: it stops a workflow run. -/
theorem safe_advance_recorded (agent : Composition) (context : RunContext) (toolContext : ToolContext)
    (tokenBudget : Option ℕ) :
    Safe dependably (fun _ {_} _ => True) (fun _ t => Recorded context t)
      (advance agent context toolContext tokenBudget) [] := by
  have hnil : Untouched [] := fun _ h => absurd h (by simp)
  unfold advance
  refine (safe_bind _ _ _).mpr ((safe_perform _ _).mpr ⟨trivial, ?_⟩)
  rintro (e | prompt) _ ⟨rfl, _⟩
  · exact (hnil.snoc id id _).recorded context
  have ht := hnil.snoc (o := .buildPrompt context) id id (.ok prompt)
  refine (safe_bind _ _ _).mpr ((safe_ofExcept _ _).mpr ?_)
  cases hvalid : validateStepInputs agent context prompt (agent.boundary.withEvidence context.state) toolContext with
  | error e => exact ht.recorded context
  | ok =>
  refine (safe_bind _ _ _).mpr ?_
  refine ((recordRule agent context prompt toolContext tokenBudget).safe_executeStep ht).post ?_
  rintro (e | result) t hleft
  · exact (hleft.raised e rfl).recorded context
  have hstages := hleft.stages result rfl
  rcases hleft.executed result rfl with ht | ⟨hstatus, hreason, hexecution⟩
  · refine (safe_bind _ _ _).mpr (safe_checkTransition (fun _ => ht.recorded context) fun _ => ?_)
    refine (safe_ite _ _ _ _).mpr ⟨fun h => absurd hstages h, fun _ => ?_⟩
    refine (safe_bind _ _ _).mpr ((safe_perform _ _).mpr ⟨trivial, ?_⟩)
    rintro (e | version) _ ⟨rfl, _⟩ <;> exact .untouched_checkpoint ht context id
  have htarget : targetStatus context.status (result.loopResult agent) = context.status := by
    simp [targetStatus, StepResult.loopResult, hstatus, hreason]
  simp only [thenSafe_ok, htarget]
  rcases running_of_valid hvalid with hrun | hrun
  · have hcheck : checkTransition context.status context.status = pure () := by
      rw [hrun]
      rfl
    rw [hcheck]
    refine (safe_ite _ _ _ _).mpr ⟨fun h => absurd hstages h, fun _ => ?_⟩
    refine (safe_bind _ _ _).mpr ((safe_perform _ _).mpr ⟨trivial, ?_⟩)
    obtain ⟨execution, hexecution⟩ := Option.isSome_iff_exists.mp hexecution
    rintro (e | version) _ ⟨rfl, hanswer⟩
    · obtain ⟨_, h⟩ := hanswer
      exact absurd h (by simp)
    · refine fun _ => ⟨fun _ => hrun, fun _ => ?_⟩
      refine ⟨_, List.mem_append_right _ (List.mem_singleton.mpr rfl), execution, ?_⟩
      have hstate : ∃ base, reduceState context (result.loopResult agent) = execution.observe base := by
        simp only [reduceState, StepResult.loopResult, hexecution]
        exact ⟨_, rfl⟩
      obtain ⟨base, hstate⟩ := hstate
      exact ⟨base, hstate, by simp only [eventsFor, StepResult.loopResult, hexecution]⟩
  · have hcheck : checkTransition context.status context.status =
        .raise (.stateTransition context.status context.status) := by
      rw [hrun]
      rfl
    rw [hcheck]
    refine fun _ => ⟨fun h => absurd h hleft.unrecorded.not_records, fun h => ?_⟩
    rw [hrun] at h
    exact absurd h (by decide)

theorem foldl_log {σ : Type} (t : List (Happened AgentOp Failure σ)) (calls : Calls) :
    t.foldl (fun g e => log g e.toCall) calls = calls ++ t.map Happened.toCall := by
  induction t generalizing calls with
  | nil => simp
  | cons e t ih =>
    rw [List.foldl_cons, ih, log, List.append_assoc]
    rfl

/-- A complete execution of `advance` in which the clocks, the adapter threads and the checkpoint store do
not raise, and which reached the adapter of a tool: what the tool answered is checkpointed with its event
if and only if the status of the context is `RUNNING_READONLY`. -/
theorem tool_recorded_iff (agent : Composition) (context : RunContext) (toolContext : ToolContext)
    (tokenBudget : Option ℕ) {σ : Type} {M : Machine AgentOp Failure σ} {s s' : σ}
    {t : List (Happened AgentOp Failure σ)} {q : Act (RunContext × StepResult)}
    (he : Exec M (advance agent context toolContext tokenBudget) s t q s') (hq : q.outcome?.isSome)
    (hdependable : ∀ e ∈ t, Dependable e.toCall) (hadapter : ∃ e ∈ t, e.op.IsAdapter) :
    (∃ e ∈ t, e.op.Records) ↔ context.status = .runningReadonly := by
  have hend := (safe_advance_recorded agent context toolContext tokenBudget).ghost_exec he hdependable
  rw [foldl_log, List.nil_append] at hend
  have hrecorded : Recorded context (t.map Happened.toCall) := by
    cases q with
    | ret a => exact hend
    | raise e => exact hend
    | call o k => exact absurd hq (by simp [Prog.outcome?])
  simpa [Recorded] using hrecorded (by simpa using hadapter)

theorem demo_dependable {α : Type} (response : ProviderResponse) (p : Act α) :
    ∀ e ∈ (demoDrive response p).1, Dependable e.toCall := by
  intro e he
  obtain ⟨_, h⟩ := (drive_exec _ _ _ _).answered e he
  obtain ⟨⟨o, r⟩, _, _⟩ := e
  obtain rfl : demoAnswers response o = r := (Prod.mk.inj h).1
  cases o <;> first | exact trivial | exact ⟨_, rfl⟩

theorem tool_recorded_demo : ((∃ e ∈ (demoDrive demoCall
      (advance demoAgent (demoContext .runningReadonly) demoToolContext none)).1, e.op.Records) ↔
    (demoContext .runningReadonly).status = .runningReadonly) := by
  have hadapter : ∃ e ∈ (demoDrive demoCall
      (advance demoAgent (demoContext .runningReadonly) demoToolContext none)).1, e.op.IsAdapter := by
    decide +kernel
  have hended : (demoDrive demoCall
      (advance demoAgent (demoContext .runningReadonly) demoToolContext none)).2.1.outcome?.isSome := by
    decide +kernel
  exact tool_recorded_iff demoAgent (demoContext .runningReadonly) demoToolContext none
    (drive_exec _ _ _ _) hended (demo_dependable _ _) hadapter

/-- A step of a workflow run: its inputs are valid and its tool answers, and then the transition from
`RUNNING_WORKFLOW` to itself is refused before anything is checkpointed. -/
theorem workflow_tool_lost :
    validateStepInputs demoAgent (demoContext .runningWorkflow) demoPrompt
      (demoAgent.boundary.withEvidence []) demoToolContext matches .ok () ∧
    (∃ e ∈ (demoDrive demoCall
      (advance demoAgent (demoContext .runningWorkflow) demoToolContext none)).1, e.op.IsAdapter) ∧
    (∀ e ∈ (demoDrive demoCall
      (advance demoAgent (demoContext .runningWorkflow) demoToolContext none)).1, Dependable e.toCall) ∧
    (∀ e ∈ (demoDrive demoCall
      (advance demoAgent (demoContext .runningWorkflow) demoToolContext none)).1, ¬ e.op.IsCheckpoint) ∧
    (demoDrive demoCall (advance demoAgent (demoContext .runningWorkflow) demoToolContext
      none)).2.1.outcome?.any (· matches .error (.stateTransition .runningWorkflow .runningWorkflow)) := by
  refine ⟨by decide +kernel, by decide +kernel, demo_dependable _ _, by decide +kernel, by decide +kernel⟩

end Records

end CommerceAgent.Agent
