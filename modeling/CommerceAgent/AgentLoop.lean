import CommerceAgent.AgentStep

/-! The bounds of the readonly loop: how many steps and tools a run takes, and what it is charged
for. -/
namespace CommerceAgent.Agent

open Json Programs

/-- The calls of one tool execution: its checks, and the adapter of the tool with its arguments. -/
def AgentOp.OfTool (name : String) (arguments : Dict) {α : Type} : AgentOp α → Prop
  | .now => True
  | .clock => True
  | .authorize _ _ => True
  | .evaluatePolicy _ => True
  | .adapter name' arguments' => name' = name ∧ arguments' = arguments
  | _ => False

section Calls

theorem uses_attemptTool (spec : ToolSpec) (arguments : Dict) (deadlineAt n attempts : ℕ)
    (last : ToolResult) :
    Uses (AgentOp.OfTool spec.name arguments) (attemptTool spec arguments deadlineAt n attempts last) := by
  induction n generalizing attempts last with
  | zero => exact .pure _
  | succ n ih =>
    unfold attemptTool
    refine .bind (.perform trivial) fun now => .ite (.pure _) (.bind (.perform trivial) fun started => ?_)
    refine .bind (.perform trivial) fun now => ?_
    have hafter : ∀ result, Uses (AgentOp.OfTool spec.name arguments)
        (attemptAfter spec arguments deadlineAt n attempts started result) := by
      intro result
      refine .bind (.perform trivial) fun ended => ?_
      split
      · exact .pure _
      · exact ih _ _
    by_cases htime : min spec.timeoutMs (deadlineAt - now) = 0
    · simp only [htime, if_true]
      exact hafter _
    · simp only [htime, if_false]
      refine .bind (.perform ⟨rfl, rfl⟩) fun answer => ?_
      cases answer with
      | other => exact .pure _
      | _ => exact hafter _

theorem uses_executeTool (spec : ToolSpec) (context : ToolContext) (arguments : Dict) (deadlineAt : ℕ) :
    Uses (AgentOp.OfTool spec.name arguments) (executeTool spec context arguments deadlineAt) := by
  unfold executeTool
  refine .ite (.pure _) (.ite (.pure _) (.ite (.pure _) (.bind (.perform trivial) fun now => ?_)))
  refine .ite (.pure _) (.ite (.pure _) (.bind ?_ fun authorized => .ite (.pure _) (.bind ?_ fun allowed =>
    .ite (.pure _) (uses_attemptTool _ _ _ _ _ _))))
  · unfold ownsResource
    split
    · exact .pure _
    · split
      · exact .pure _
      · exact .pure _
      · exact .handle (.perform trivial) fun _ => .pure _
  · exact .handle (.perform trivial) fun _ => .ite (.pure _) (.raise _)

/-- The calls of a step that are neither the model's nor a tool's. -/
def AgentOp.Idle {α : Type} : AgentOp α → Prop
  | .cancelled => True
  | .now => True
  | .recordInvocation _ => True
  | .appendTrace _ => True
  | _ => False

end Calls

section Rule

/-- The reasons that a step gives for its result. -/
def REASONS : List String :=
  ["cancelled", "max_steps_exceeded", "token_budget_exhausted", "deadline_exceeded",
    "model_audit_failed", "model_unavailable", "trace_persistence_failed",
    "readonly_write_tool_forbidden", "decision_rejected", "tool_execution_failed",
    "unsupported_decision"]

/-- A result after which the loop does not go on, and without an observation. -/
structure StepResult.Plain (result : StepResult) : Prop where
  reason : ∀ reason ∈ result.reason, reason ∈ REASONS
  stages : stagesInOrder result.stages
  status : result.status ≠ .continue
  execution : result.execution = none

theorem StepResult.Plain.stopped {reason : String} {stages : List StageRecord} (hreason : reason ∈ REASONS)
    (hstages : stagesInOrder stages) : (StepResult.stopped reason stages).Plain :=
  ⟨by simpa [StepResult.stopped] using hreason, hstages, by simp [StepResult.stopped], rfl⟩

theorem StepResult.Plain.rejected (decision : Decision) : (StepResult.rejected decision).Plain :=
  ⟨by simp [StepResult.rejected, REASONS], rfl, by simp [StepResult.rejected], rfl⟩

theorem StepResult.Plain.callFailed (decision : Decision) : (StepResult.callFailed decision).Plain :=
  ⟨by simp [StepResult.callFailed, REASONS], rfl, by simp [StepResult.callFailed], rfl⟩

theorem StepResult.Plain.concluded (decision : Decision) (usage : Option ℕ) : (conclude decision usage).Plain := by
  refine ⟨?_, rfl, ?_, rfl⟩
  · cases htype : decision.type <;> simp [conclude, htype, REASONS]
  · cases htype : decision.type <;> simp [conclude, htype]

theorem validate_callTool {decision : Decision} {boundary : DecisionBoundary} {spec : ToolSpec}
    (htype : decision.type = .callTool) (h : validate decision boundary (some spec) = .ok ()) :
    decision.tool = some spec.name := by
  simp only [validate, htype, if_true] at h
  split at h
  · exact absurd h (by simp)
  split at h
  · exact absurd h (by simp)
  split at h
  · exact absurd h (by simp)
  split at h
  · exact absurd h (by simp)
  split at h
  · exact absurd h (by simp)
  split at h
  · exact absurd h (by simp)
  · rename_i hname
    exact not_not.mp hname

universe v

variable {σ : Type v} {M : Machine AgentOp Failure σ} {G : σ → {β : Type} → AgentOp β → Prop}
  {Q : Except Failure StepResult → σ → Prop} {agent : Composition}

/-- What the idle calls of a step keep. -/
def Idly (M : Machine AgentOp Failure σ) (G : σ → {β : Type} → AgentOp β → Prop) (J : σ → Prop) : Prop :=
  ∀ s, J s → ∀ {α : Type} (o : AgentOp α), o.Idle → G s o ∧ ∀ r s', M s o r s' → J s'

/-- The state of a step before the answer of the model, after one with its usage, and when nothing
but the result is left, with what is owed for each of these. -/
structure StepRule (M : Machine AgentOp Failure σ) (G : σ → {β : Type} → AgentOp β → Prop)
    (Q : Except Failure StepResult → σ → Prop) (agent : Composition) (context : RunContext)
    (prompt : PromptView) (toolContext : ToolContext) (tokenBudget : Option ℕ) where
  asking : σ → Prop
  answered : Option ℕ → σ → Prop
  ending : σ → Prop
  idle_asking : Idly M G asking
  idle_answered : ∀ usage, Idly M G (answered usage)
  idle_ending : Idly M G ending
  ends_asking : ∀ s, asking s → ending s
  ends_answered : ∀ usage s, answered usage s → ending s
  error : ∀ e s, ending s → Q (.error e) s
  plain : ∀ result s, ending s → result.Plain → Q (.ok result) s
  decide : tokenBudget ≠ some 0 → ∀ s, asking s →
    Safe M G (fun r s' => ending s' ∧ ∀ a, r = .ok a → answered a.usageTokens s')
      (agent.model.decide prompt) s
  retry : ∀ usage s, answered usage s → Safe M G (fun _ s' => ending s') (agent.model.decide prompt) s
  tool : ∀ usage (decision : Decision) (spec : ToolSpec) s, ¬ 6 ≤ context.stepCount → answered usage s →
    decision.type = .callTool → decision.tool = some spec.name →
    Safe M G (fun r s' => Q (.ok (match r with
        | .error _ => .callFailed decision
        | .ok execution => .called decision usage execution)) s')
      (executeTool spec toolContext decision.args agent.deadlineAt) s

namespace StepRule

variable {context : RunContext} {prompt : PromptView} {toolContext : ToolContext}
  {boundary : DecisionBoundary} {tokenBudget : Option ℕ}
  (rule : StepRule M G Q agent context prompt toolContext tokenBudget) {s : σ}

include rule

/-- An idle call, then what follows for each answer. -/
theorem safe_idle {J : σ → Prop} (hJ : Idly M G J) (hend : ∀ s, J s → rule.ending s) {α : Type}
    {o : AgentOp α} {f : α → Act StepResult} (ho : o.Idle) (hs : J s)
    (hf : ∀ a s', J s' → Safe M G Q (f a) s') : Safe M G Q (do let a ← Prog.perform o; f a) s := by
  obtain ⟨hG, hstep⟩ := hJ s hs o ho
  refine (safe_bind _ _ _).mpr ((safe_perform _ _).mpr ⟨hG, ?_⟩)
  rintro (e | a) s' hm
  · exact rule.error e s' (hend s' (hstep _ s' hm))
  · exact hf a s' (hstep _ s' hm)

omit rule in
/-- An idle call whose exceptions are caught. -/
theorem safe_caught {J : σ → Prop} (hJ : Idly M G J) {α : Type} {o : AgentOp α}
    {f : Except Failure α → Act StepResult} (ho : o.Idle) (hs : J s)
    (hf : ∀ r s', J s' → Safe M G Q (f r) s') :
    Safe M G Q (do let r ← (Prog.perform o).attempt; f r) s := by
  obtain ⟨hG, hstep⟩ := hJ s hs o ho
  refine (safe_bind _ _ _).mpr ((safe_attempt _ _).mpr ((safe_perform _ _).mpr ⟨hG, ?_⟩))
  exact fun r s' hm => hf r s' (hstep r s' hm)

theorem safe_callTool {decision : Decision} {usage : Option ℕ} (hlimit : ¬ 6 ≤ context.stepCount)
    (htype : decision.type = .callTool) (hs : rule.answered usage s) :
    Safe M G Q (callTool agent decision usage boundary toolContext) s := by
  have hend := rule.ends_answered usage s hs
  unfold callTool
  split
  · exact rule.plain _ s hend (.rejected decision)
  rename_i spec _
  by_cases hrisk : spec.risk ≠ .readOnly
  · rw [if_pos hrisk]
    exact rule.plain _ s hend ⟨by simp [REASONS], rfl, by simp, rfl⟩
  rw [if_neg hrisk]
  split
  · exact rule.plain _ s hend (.rejected decision)
  rename_i hvalid
  have htool := rule.tool usage decision spec s hlimit hs htype (validate_callTool htype hvalid)
  refine (safe_bind _ _ _).mpr ((safe_attempt _ _).mpr (htool.post ?_))
  rintro (e | execution) s' hQ <;> exact hQ

theorem safe_retryDecision {decision : Decision} {usage : Option ℕ} (hs : rule.answered usage s) :
    Safe M G Q (retryDecision agent prompt decision boundary) s := by
  refine (safe_bind _ _ _).mpr ((safe_attempt _ _).mpr ((rule.retry usage s hs).post ?_))
  rintro (e | retried) s' hend
  · cases e with
    | modelGateway => exact rule.plain _ s' hend (.rejected decision)
    | _ => exact rule.error _ s' hend
  · refine safe_caught rule.idle_ending trivial hend fun recorded s'' hend => ?_
    cases recorded with
    | error e => exact rule.plain _ s'' hend (.stopped (by decide) rfl)
    | ok =>
      simp only
      split
      · exact rule.plain _ s'' hend (.rejected decision)
      · exact rule.plain _ s'' hend (StepResult.Plain.concluded _ _)

theorem safe_actOn {answer : ModelDecision} (hlimit : ¬ 6 ≤ context.stepCount)
    (hs : rule.answered answer.usageTokens s) :
    Safe M G Q (actOn agent prompt context boundary toolContext answer) s := by
  have hidle := rule.idle_answered answer.usageTokens
  have hends := rule.ends_answered answer.usageTokens
  refine rule.safe_idle hidle hends trivial hs fun cancelled s hs => ?_
  refine (safe_ite _ _ _ _).mpr ⟨fun _ => ?_, fun _ => ?_⟩
  · exact rule.plain _ s (hends s hs) (.stopped (by decide) rfl)
  refine safe_caught hidle trivial hs fun traced s hs => ?_
  cases traced with
  | error e => exact rule.plain _ s (hends s hs) (.stopped (by decide) rfl)
  | ok =>
    simp only
    split
    · rename_i htype
      exact rule.safe_callTool hlimit htype hs
    split
    · exact rule.plain _ s (hends s hs) (StepResult.Plain.concluded _ _)
    split
    · exact rule.safe_retryDecision hs
    · exact rule.plain _ s (hends s hs) (.rejected _)

/-- A step from its first call to its result. -/
theorem safe_executeStep (hs : rule.asking s) :
    Safe M G Q (executeStep agent context prompt boundary toolContext tokenBudget) s := by
  have hends := rule.ends_asking
  refine rule.safe_idle rule.idle_asking hends trivial hs fun cancelled s hs => ?_
  have hstop : ∀ {reason}, reason ∈ REASONS →
      Safe M G Q (pure (StepResult.stopped reason skippedStep)) s := fun hreason =>
    rule.plain _ s (hends s hs) (.stopped hreason rfl)
  refine (safe_ite _ _ _ _).mpr ⟨fun _ => hstop (by decide), fun _ => ?_⟩
  refine (safe_ite _ _ _ _).mpr ⟨fun _ => hstop (by decide), fun hlimit => ?_⟩
  refine (safe_ite _ _ _ _).mpr ⟨fun _ => hstop (by decide), fun hbudget => ?_⟩
  refine rule.safe_idle rule.idle_asking hends trivial hs fun now s hs => ?_
  refine (safe_ite _ _ _ _).mpr ⟨fun _ => ?_, fun _ => ?_⟩
  · exact rule.plain _ s (hends s hs) (.stopped (by decide) rfl)
  refine (safe_bind _ _ _).mpr ((safe_attempt _ _).mpr ((rule.decide hbudget s hs).post ?_))
  rintro (e | answer) s ⟨hend, hanswer⟩
  · cases e with
    | modelGateway =>
      refine safe_caught rule.idle_ending trivial hend fun recorded s hend => ?_
      cases recorded <;> exact rule.plain _ s hend (.stopped (by decide) rfl)
    | _ => exact rule.error _ s hend
  · have hs := hanswer answer rfl
    refine safe_caught (rule.idle_answered _) trivial hs fun recorded s hs => ?_
    cases recorded with
    | error e => exact rule.plain _ s (rule.ends_answered _ s hs) (.stopped (by decide) rfl)
    | ok => exact rule.safe_actOn hlimit hs

end StepRule

end Rule

section Steps

/-- The steps of a run, the latest one first, each with the tool calls that reached an adapter, and
the number of its handoffs. -/
structure Ledger where
  steps : List (List (String × Dict)) := []
  handoffs : ℕ := 0

/-- The events of a handoff of the loop. -/
def isHandoff : List DomainEvent → Bool
  | [⟨.failed, [("reason", .str reason)]⟩] => reason = "readonly_loop_no_progress"
  | _ => false

def Ledger.after (g : Ledger) : {α : Type} → AgentOp α → Ledger
  | _, .buildPrompt _ => { g with steps := [] :: g.steps }
  | _, .adapter name arguments =>
    match g.steps with
    | [] => g
    | calls :: steps => { g with steps := ((name, arguments) :: calls) :: steps }
  | _, .checkpoint _ _ _ _ events => if isHandoff events then { g with handoffs := g.handoffs + 1 } else g
  | _, _ => g

def book (g : Ledger) (c : Call AgentOp Failure) : Ledger := g.after c.op

/-- The calls that neither begin a step nor reach a tool or the checkpoint store. -/
def AgentOp.Quiet {α : Type} : AgentOp α → Prop
  | .buildPrompt _ => False
  | .adapter _ _ => False
  | .checkpoint _ _ _ _ _ => False
  | _ => True

theorem AgentOp.Provider.quiet {α : Type} {o : AgentOp α} (h : o.Provider) : o.Quiet := by
  cases o <;> first | exact trivial | exact False.elim h

theorem Ledger.after_quiet {α : Type} {o : AgentOp α} (h : o.Quiet) (g : Ledger) : g.after o = g := by
  cases o <;> first | rfl | exact False.elim h

/-- A ledger within the step that `g` began: one tool at most, and none at the step limit. -/
def Ledger.Within (g : Ledger) (limit : Prop) (g' : Ledger) : Prop :=
  g'.handoffs = g.handoffs ∧ ∃ calls, g'.steps = calls :: g.steps.tail ∧
    (∃ c, ∀ x ∈ calls, x = c) ∧ (limit → calls = [])

/-- A result of a step: it says why it failed, and if a tool was called the loop goes on with the
decision to call it or the step has failed. -/
structure StepResult.Sound (limit : Prop) (result : StepResult) (g : Ledger) : Prop where
  reason : ∀ reason ∈ result.reason, reason ∈ REASONS
  stages : stagesInOrder result.stages
  proceeds : result.status = .continue → ¬ limit ∧ result.reason = none
  calls : ∀ calls ∈ g.steps.head?, ∀ x ∈ calls, result.status = .fail ∨
    ∃ decision, result.decision = some decision ∧ decision.type = .callTool ∧
      decision.tool = some x.1 ∧ decision.args = x.2

variable {agent : Composition} {g₀ : Ledger}

/-- What has happened in the step that `g₀` began: a call of the tool, or nothing. -/
theorem Ledger.Within.of_tool {limit : Prop} {name : String} {arguments : Dict} {g : Ledger}
    (hlimit : ¬ limit) (hhandoffs : g.handoffs = g₀.handoffs) {calls : List (String × Dict)}
    (hsteps : g.steps = calls :: g₀.steps.tail) (hcalls : ∀ x ∈ calls, x = (name, arguments)) :
    g₀.Within limit g :=
  ⟨hhandoffs, calls, hsteps, ⟨_, hcalls⟩, fun h => absurd h hlimit⟩

theorem Ledger.Within.refl {limit : Prop} (hbegin : g₀.steps.head? = some []) : g₀.Within limit g₀ := by
  refine ⟨rfl, [], ?_, ⟨("", []), by simp⟩, fun _ => rfl⟩
  obtain ⟨steps, hsteps⟩ := List.head?_eq_some_iff.mp hbegin
  rw [hsteps]
  rfl

theorem AgentOp.Idle.quiet {α : Type} {o : AgentOp α} (h : o.Idle) : o.Quiet := by
  cases o <;> first | exact trivial | exact False.elim h

theorem StepResult.Plain.sound {limit : Prop} {result : StepResult} {g : Ledger} (h : result.Plain)
    (hg : g.steps.head? = some []) : result.Sound limit g where
  reason := h.reason
  stages := h.stages
  proceeds hstatus := absurd hstatus h.status
  calls calls hcalls := by
    rw [hg] at hcalls
    obtain rfl := Option.some.inj hcalls
    simp

/-- The calls of one tool execution, in the ledger. -/
theorem safe_tool (hbegin : g₀.steps.head? = some []) {context : RunContext} {toolContext : ToolContext}
    {usage : Option ℕ} {decision : Decision} {spec : ToolSpec} (hlimit : ¬ 6 ≤ context.stepCount)
    (htype : decision.type = .callTool) (hname : decision.tool = some spec.name) :
    Safe (.ghost book) (fun g {_} _ => g₀.Within (6 ≤ context.stepCount) g)
      (fun r g => g₀.Within (6 ≤ context.stepCount) g ∧ ∀ result, (.ok (match r with
          | .error _ => StepResult.callFailed decision
          | .ok execution => .called decision usage execution) : Except Failure StepResult) = .ok result →
        result.Sound (6 ≤ context.stepCount) g)
      (executeTool spec toolContext decision.args agent.deadlineAt) g₀ := by
  obtain ⟨steps, hsteps⟩ := List.head?_eq_some_iff.mp hbegin
  -- Retries call the same tool with the same arguments, and all are booked under the open step.
  let J : Ledger → Prop := fun g => g.handoffs = g₀.handoffs ∧ ∃ calls,
    g.steps = calls :: g₀.steps.tail ∧ ∀ x ∈ calls, x = (spec.name, decision.args)
  have hkeeps := (uses_executeTool spec toolContext decision.args agent.deadlineAt).keeps
    (M := .ghost book) (J := J)
    (by
      rintro g β o r g' ⟨hh, calls, hcalls, hall⟩ ho rfl
      cases o with
      | adapter name arguments =>
        obtain ⟨rfl, rfl⟩ := ho
        refine ⟨?_, (spec.name, decision.args) :: calls, ?_, ?_⟩
        · simp [book, Ledger.after, hcalls, hh]
        · simp [book, Ledger.after, hcalls]
        · exact List.forall_mem_cons.mpr ⟨rfl, hall⟩
      | buildPrompt => exact False.elim ho
      | checkpoint => exact False.elim ho
      | _ => exact ⟨hh, calls, hcalls, hall⟩)
    ⟨rfl, [], by rw [hsteps]; rfl, by simp⟩
  refine hkeeps.mono ?_ ?_
  · rintro g β o ⟨hh, calls, hcalls, hall⟩
    exact .of_tool hlimit hh hcalls hall
  · rintro r g ⟨hh, calls, hcalls, hall⟩
    refine ⟨.of_tool hlimit hh hcalls hall, ?_⟩
    intro result hresult
    obtain rfl := Except.ok.inj hresult
    have hhead : ∀ calls' ∈ g.steps.head?, ∀ x ∈ calls', x = (spec.name, decision.args) := by
      intro calls' hcalls'
      rw [hcalls] at hcalls'
      obtain rfl := Option.some.inj hcalls'
      exact hall
    cases r with
    | error e =>
      have hplain := StepResult.Plain.callFailed decision
      exact ⟨hplain.reason, hplain.stages, fun h => absurd h hplain.status, fun _ _ _ _ => .inl rfl⟩
    | ok execution =>
      refine ⟨by simp [StepResult.called], rfl, fun _ => ⟨hlimit, rfl⟩, ?_⟩
      intro calls' hmem x hx
      obtain rfl := hhead calls' hmem x hx
      exact .inr ⟨decision, rfl, htype, hname, rfl⟩

/-- A step between its beginning in `g₀` and its end, as the ledger sees it. -/
def stepRule (hbegin : g₀.steps.head? = some []) (agent : Composition) (context : RunContext)
    (prompt : PromptView) (toolContext : ToolContext) (tokenBudget : Option ℕ) :
    StepRule (.ghost book) (fun g {_} _ => g₀.Within (6 ≤ context.stepCount) g)
      (fun r g => g₀.Within (6 ≤ context.stepCount) g ∧
        ∀ result, r = .ok result → result.Sound (6 ≤ context.stepCount) g)
      agent context prompt toolContext tokenBudget :=
  have hidle : Idly (.ghost book) (fun g {_} _ => g₀.Within (6 ≤ context.stepCount) g) (· = g₀) := by
    rintro g rfl β o ho
    refine ⟨.refl hbegin, ?_⟩
    rintro r g' rfl
    exact Ledger.after_quiet ho.quiet g
  have hmodel : ∀ g, g = g₀ → Safe (.ghost book) (fun g {_} _ => g₀.Within (6 ≤ context.stepCount) g)
      (fun _ g => g = g₀) (agent.model.decide prompt) g := by
    rintro g rfl
    have hkeeps := (agent.model.provider prompt).keeps (M := .ghost book) (J := (· = g))
      (by
        rintro g' β o r g'' rfl ho rfl
        exact Ledger.after_quiet ho.quiet g') rfl
    refine hkeeps.mono ?_ fun _ _ h => h
    rintro g' β o rfl
    exact .refl hbegin
  { asking := (· = g₀)
    answered := fun _ => (· = g₀)
    ending := (· = g₀)
    idle_asking := hidle
    idle_answered := fun _ => hidle
    idle_ending := hidle
    ends_asking := fun _ h => h
    ends_answered := fun _ _ h => h
    error := by
      rintro e g rfl
      exact ⟨.refl hbegin, fun _ h => absurd h (by simp)⟩
    plain := by
      rintro result g rfl hplain
      refine ⟨.refl hbegin, ?_⟩
      intro result' hresult
      obtain rfl := Except.ok.inj hresult
      exact hplain.sound hbegin
    decide := fun _ g hg => (hmodel g hg).post fun _ _ h => ⟨h, fun _ _ => h⟩
    retry := fun _ g hg => hmodel g hg
    tool := by
      rintro usage decision spec g hlimit rfl htype hname
      exact safe_tool hbegin hlimit htype hname }

end Steps

section Loop

variable {agent : Composition} {g : Ledger} {k : ℕ}

/-- Two steps in which the same tool was called with the same arguments. -/
def Repeats (agent : Composition) (calls calls' : List (String × Dict)) : Prop :=
  ∃ x ∈ calls, ∃ y ∈ calls',
    agent.signature .callTool (some x.1) x.2 = agent.signature .callTool (some y.1) y.2

/-- No step repeats the one before it. -/
def Apart (agent : Composition) : List (List (String × Dict)) → Prop
  | calls :: calls' :: steps => ¬ Repeats agent calls calls' ∧ Apart agent (calls' :: steps)
  | _ => True

/-- No three consecutive steps repeat one call. -/
def NoThird (agent : Composition) : List (List (String × Dict)) → Prop
  | calls :: calls' :: calls'' :: steps =>
    ¬ (Repeats agent calls calls' ∧ Repeats agent calls' calls'') ∧ NoThird agent (calls' :: calls'' :: steps)
  | _ => True

/-- What a run that began after `k` steps may have done. -/
structure Ledger.Bounded (agent : Composition) (k : ℕ) (g : Ledger) : Prop where
  steps : g.steps.length ≤ 7 - k
  tools : (g.steps.countP fun calls => !calls.isEmpty) ≤ 6 - k
  handoffs : g.handoffs ≤ 1
  single : ∀ calls ∈ g.steps, ∃ c, ∀ x ∈ calls, x = c
  third : NoThird agent g.steps

/-- A running context with the steps that led to it. -/
structure Ledger.Running (agent : Composition) (k : ℕ) (context : RunContext) (previous : Option String)
    (g : Ledger) : Prop where
  count : k + g.steps.length = context.stepCount
  limit : context.stepCount ≤ 6
  handoffs : g.handoffs = 0
  single : ∀ calls ∈ g.steps, ∃ c, ∀ x ∈ calls, x = c
  apart : Apart agent g.steps
  previous : ∀ calls ∈ g.steps.head?, ∀ x ∈ calls,
    previous = some (agent.signature .callTool (some x.1) x.2)

theorem Apart.noThird {steps : List (List (String × Dict))} (h : Apart agent steps)
    (calls : List (String × Dict)) : NoThird agent (calls :: steps) := by
  induction steps generalizing calls with
  | nil => trivial
  | cons calls' steps ih =>
    cases steps with
    | nil => trivial
    | cons calls'' steps => exact ⟨fun hrepeat => h.1 hrepeat.2, ih h.2 calls'⟩

theorem Apart.noThird_self {steps : List (List (String × Dict))} (h : Apart agent steps) :
    NoThird agent steps := by
  cases steps with
  | nil => trivial
  | cons calls steps =>
    cases steps with
    | nil => trivial
    | cons calls' steps =>
      have hrest : Apart agent (calls' :: steps) := h.2
      exact hrest.noThird calls

theorem Ledger.Running.bounded {context : RunContext} {previous : Option String}
    (h : g.Running agent k context previous) : g.Bounded agent k where
  steps := by
    have hcount := h.count
    have hlimit := h.limit
    omega
  tools := by
    have hcount := h.count
    have hlimit := h.limit
    have hle := List.countP_le_length (p := fun calls : List (String × Dict) => !calls.isEmpty) (l := g.steps)
    omega
  handoffs := by rw [h.handoffs]; exact Nat.zero_le _
  single := h.single
  third := h.apart.noThird_self

theorem Ledger.Running.within {context : RunContext} {previous : Option String} {g' : Ledger}
    (h : g.Running agent k context previous)
    (hg : Ledger.Within { g with steps := [] :: g.steps } (6 ≤ context.stepCount) g') :
    g'.Bounded agent k := by
  obtain ⟨hhandoffs, calls, hsteps, hsingle, hlimit⟩ := hg
  have hcount := h.count
  have hbound := h.limit
  have hle := List.countP_le_length (p := fun calls : List (String × Dict) => !calls.isEmpty) (l := g.steps)
  have hsteps : g'.steps = calls :: g.steps := hsteps
  have hhandoffs : g'.handoffs = g.handoffs := hhandoffs
  refine ⟨?_, ?_, ?_, ?_, ?_⟩
  · rw [hsteps, List.length_cons]
    omega
  · rw [hsteps, List.countP_cons]
    by_cases hfull : 6 ≤ context.stepCount
    · simp only [hlimit hfull, List.isEmpty_nil, Bool.not_true, Bool.false_eq_true, if_false]
      omega
    · split <;> omega
  · rw [hhandoffs, h.handoffs]
    exact Nat.zero_le _
  · rw [hsteps]
    exact List.forall_mem_cons.mpr ⟨hsingle, h.single⟩
  · rw [hsteps]
    exact h.apart.noThird calls

theorem targetStatus_running {result : LoopResult}
    (h : targetStatus .runningReadonly result = .runningReadonly) : result.status = .continue := by
  unfold targetStatus at h
  split at h
  · simp at h
  · cases hstatus : result.status with
    | «continue» => rfl
    | fail =>
      simp only [hstatus] at h
      split at h <;> simp at h
    | _ => simp [hstatus] at h

/-- A step is never taken for a handoff of the loop. -/
theorem isHandoff_eventsFor {result : LoopResult} (h : ∀ reason ∈ result.reason, reason ∈ REASONS) :
    isHandoff (eventsFor result) = false := by
  unfold eventsFor
  cases hexecution : result.execution with
  | some execution =>
    simp only [ToolExecution.events]
    split <;> rfl
  | none =>
    cases hstatus : result.status with
    | fail =>
      simp only [isHandoff, decide_eq_false_iff_not]
      cases hreason : result.reason with
      | none => simp
      | some reason =>
        have hmem := h reason hreason
        simp only [Option.filter]
        split
        · intro heq
          have heq : reason = "readonly_loop_no_progress" := heq
          subst heq
          revert hmem
          decide
        · simp
    | _ => rfl

/-- The context after a step whose call does not repeat the one before. -/
theorem Ledger.Running.next {context current : RunContext} {previous : Option String}
    {result : StepResult} {g' : Ledger} (h : g.Running agent k context previous)
    (hg : Ledger.Within { g with steps := [] :: g.steps } (6 ≤ context.stepCount) g')
    (hresult : result.Sound (6 ≤ context.stepCount) g') (hcontinue : result.status = .continue)
    (hcount : current.stepCount = context.stepCount + 1)
    (hnew : ¬ ((result.signature? agent).isSome ∧ result.signature? agent = previous)) :
    g'.Running agent k current (result.signature? agent) := by
  obtain ⟨hhandoffs, calls, hsteps, hsingle, _⟩ := hg
  have hsteps : g'.steps = calls :: g.steps := hsteps
  have hlast : ∀ x ∈ calls,
      result.signature? agent = some (agent.signature .callTool (some x.1) x.2) := by
    intro x hx
    rcases hresult.calls calls (by rw [hsteps]; rfl) x hx with hfail | ⟨decision, hd, htype, htool, hargs⟩
    · rw [hcontinue] at hfail
      exact absurd hfail (by simp)
    · simp [StepResult.signature?, hcontinue, hd, Decision.signature, htype, htool, hargs]
  have hbelow := (hresult.proceeds hcontinue).1
  have hkcount := h.count
  refine ⟨?_, by omega, hhandoffs.trans h.handoffs, ?_, ?_, ?_⟩
  · rw [hsteps, List.length_cons]
    omega
  · rw [hsteps]
    exact List.forall_mem_cons.mpr ⟨hsingle, h.single⟩
  · rw [hsteps]
    cases hpast : g.steps with
    | nil => trivial
    | cons calls' steps =>
      have hapart := h.apart
      rw [hpast] at hapart
      refine ⟨?_, hapart⟩
      rintro ⟨x, hx, y, hy, hxy⟩
      have hprevious := h.previous calls' (by rw [hpast]; rfl) y hy
      exact hnew ⟨by simp [hlast x hx], by rw [hlast x hx, hprevious, hxy]⟩
  · intro calls' hcalls' x hx
    rw [hsteps] at hcalls'
    obtain rfl := Option.some.inj hcalls'
    exact hlast x hx

/-- What a pass through `advance` leads to: bounds, and a running context unless it repeats. -/
def Advanced (agent : Composition) (k : ℕ) (context : RunContext) (previous : Option String)
    (r : Except Failure (RunContext × StepResult)) (g : Ledger) : Prop :=
  g.Bounded agent k ∧ ∀ current result, r = .ok (current, result) → g.handoffs = 0 ∧
    current.stepCount = context.stepCount + 1 ∧ (current.status = .runningReadonly →
      ¬ ((result.signature? agent).isSome ∧ result.signature? agent = previous) →
      g.Running agent k current (result.signature? agent))

theorem safe_checkTransition {σ : Type*} {M : Machine AgentOp Failure σ}
    {G : σ → {β : Type} → AgentOp β → Prop} {Q : Except Failure Unit → σ → Prop} {s : σ}
    {current target : RunStatus} (herror : ∀ e, Q (.error e) s)
    (hok : requireTransition current target = .ok () → Q (.ok ()) s) :
    Safe M G Q (checkTransition current target) s := by
  unfold checkTransition
  cases h : requireTransition current target with
  | error e => exact herror _
  | ok => exact hok h

theorem safe_advance {context : RunContext} {toolContext : ToolContext} {tokenBudget : Option ℕ} {previous : Option String}
    (hstatus : context.status = .runningReadonly) (hg : g.Running agent k context previous) :
    Safe (.ghost book) (fun g {_} _ => g.Bounded agent k) (Advanced agent k context previous)
      (advance agent context toolContext tokenBudget) g := by
  have hfailed : ∀ {e g'}, g'.Bounded agent k → Advanced agent k context previous (.error e) g' :=
    fun h => ⟨h, fun _ _ h => absurd h (by simp)⟩
  have hbegun : Ledger.Bounded agent k { g with steps := [] :: g.steps } :=
    hg.within ⟨rfl, [], rfl, ⟨("", []), by simp⟩, fun _ => rfl⟩
  unfold advance
  refine (safe_bind _ _ _).mpr ((safe_perform _ _).mpr ⟨hg.bounded, ?_⟩)
  rintro (e | prompt) _ rfl
  · exact hfailed hbegun
  refine (safe_bind _ _ _).mpr ((safe_ofExcept _ _).mpr ?_)
  cases validateStepInputs agent context prompt (agent.boundary.withEvidence context.state) toolContext with
  | error e => exact hfailed hbegun
  | ok =>
  refine (safe_bind _ _ _).mpr ?_
  let rule := @stepRule { g with steps := [] :: g.steps } rfl agent context prompt toolContext
    tokenBudget
  have hstep : Safe _ _ _ (executeStep agent context prompt
      (agent.boundary.withEvidence context.state) toolContext tokenBudget)
      { g with steps := [] :: g.steps } := rule.safe_executeStep rfl
  refine hstep.mono (by intro g' β o hwithin; exact hg.within hwithin) ?_
  rintro (e | result) g' ⟨hwithin, hsound⟩
  · exact hfailed (hg.within hwithin)
  have hsound := hsound result rfl
  have hquiet : isHandoff (eventsFor (result.loopResult agent)) = false := isHandoff_eventsFor hsound.reason
  refine (safe_bind _ _ _).mpr (safe_checkTransition (fun e => hfailed (hg.within hwithin)) fun _ => ?_)
  refine (safe_ite _ _ _ _).mpr ⟨fun h => absurd hsound.stages h, fun _ => ?_⟩
  refine (safe_bind _ _ _).mpr ((safe_perform _ _).mpr ⟨hg.within hwithin, ?_⟩)
  intro r g'' hafter
  obtain rfl : g'' = g' := by simpa [Machine.ghost, book, Ledger.after, hquiet] using hafter
  cases r with
  | error e => exact hfailed (hg.within hwithin)
  | ok version =>
    refine ⟨hg.within hwithin, ?_⟩
    intro current result' hr
    obtain ⟨rfl, rfl⟩ := Prod.mk.inj (Except.ok.inj hr)
    refine ⟨hwithin.1.trans hg.handoffs, rfl, ?_⟩
    intro hrunning hnew
    have hcontinue : result.status = .continue := by
      have htarget : targetStatus context.status (result.loopResult agent) = .runningReadonly := hrunning
      rw [hstatus] at htarget
      exact targetStatus_running htarget
    exact hg.next hwithin hsound hcontinue rfl hnew

theorem chargedTokens_cases (agent : Composition) (result : StepResult) :
    (∃ usage, chargedTokens agent result = pure usage) ∨ ∃ e, chargedTokens agent result = .raise e := by
  unfold chargedTokens
  split
  · exact .inl ⟨_, rfl⟩
  · split
    · exact .inr ⟨_, rfl⟩
    · exact .inl ⟨_, rfl⟩

/-- By induction on the iterations left. -/
theorem safe_run (n : ℕ) {context : RunContext} {tokenBudget : Option ℕ} {previous : Option String} {steps : List StepResult}
    (hg : context.status = .runningReadonly → g.Running agent k context previous)
    (hbounded : g.Bounded agent k) :
    Safe (.ghost book) (fun g {_} _ => g.Bounded agent k)
      (fun r g => g.Bounded agent k ∧ ∀ result, r = .ok result →
        (7 - context.stepCount ≤ n → context.stepCount ≤ 6 → result.isSome) ∧
        ∀ final ∈ result, final.context.status ≠ .runningReadonly)
      (run agent n context tokenBudget previous steps) g := by
  -- Each iteration raises the step count by one, so that seven are enough.
  induction n generalizing g context tokenBudget previous steps with
  | zero =>
    refine ⟨hbounded, ?_⟩
    intro result hr
    obtain rfl := Except.ok.inj hr
    exact ⟨fun h h' => by omega, by simp⟩
  | succ n ih =>
    have hdone : ∀ {final : AgentRunResult} {g' : Ledger}, g'.Bounded agent k →
        final.context.status ≠ .runningReadonly →
        Safe (.ghost book) (fun g {_} _ => g.Bounded agent k)
          (fun r g => g.Bounded agent k ∧ ∀ result, r = .ok result →
            (7 - context.stepCount ≤ n + 1 → context.stepCount ≤ 6 → result.isSome) ∧
            ∀ final ∈ result, final.context.status ≠ .runningReadonly)
          (pure (some final)) g' := by
      intro final g' hg' hfinal
      refine ⟨hg', ?_⟩
      intro result hr
      obtain rfl := Except.ok.inj hr
      refine ⟨fun _ _ => rfl, ?_⟩
      intro final' hfinal'
      obtain rfl := Option.some.inj hfinal'
      exact hfinal
    unfold run
    refine (safe_ite _ _ _ _).mpr ⟨fun h => hdone hbounded h, fun hrunning => ?_⟩
    have hrunning := not_not.mp hrunning
    have hg := hg hrunning
    refine (safe_bind _ _ _).mpr ((safe_perform _ _).mpr ⟨hbounded, ?_⟩)
    rintro (e | toolContext) _ rfl
    · exact ⟨hbounded, fun _ h => absurd h (by simp)⟩
    refine (safe_bind _ _ _).mpr ((safe_advance hrunning hg).post ?_)
    rintro (e | ⟨current, result⟩) g' ⟨hbounded', hok⟩
    · exact ⟨hbounded', fun _ h => absurd h (by simp)⟩
    obtain ⟨hhandoffs, hcount, hnext⟩ := hok current result rfl
    have hrest : ∀ remaining : Option ℕ, Safe (.ghost book) (fun g {_} _ => g.Bounded agent k)
        (fun r g => g.Bounded agent k ∧ ∀ result, r = .ok result →
          (7 - context.stepCount ≤ n + 1 → context.stepCount ≤ 6 → result.isSome) ∧
          ∀ final ∈ result, final.context.status ≠ .runningReadonly)
        (runAfter agent n previous steps current result remaining) g' := by
      intro remaining
      refine (safe_ite _ _ _ _).mpr ⟨fun h => hdone hbounded' h, fun hstill => ?_⟩
      have hstill := not_not.mp hstill
      refine (safe_ite _ _ _ _).mpr ⟨fun _ => ?_, fun hnew => ?_⟩
      -- The decision repeats the one before: the run is handed over, once.
      · refine (safe_bind _ _ _).mpr ((safe_bind _ _ _).mpr (safe_checkTransition ?_ fun _ => ?_))
        · exact fun e => ⟨hbounded', fun _ h => absurd h (by simp)⟩
        have hfinal : Ledger.Bounded agent k { g' with handoffs := g'.handoffs + 1 } :=
          ⟨hbounded'.steps, hbounded'.tools, by simp [hhandoffs], hbounded'.single, hbounded'.third⟩
        refine (safe_bind _ _ _).mpr ((safe_perform _ _).mpr ⟨hbounded', ?_⟩)
        rintro (e | version) _ rfl
        · exact ⟨hfinal, fun _ h => absurd h (by simp)⟩
        · exact hdone hfinal (by simp [RunContext.copy])
      · have hafter := hnext hstill hnew
        refine (ih (fun _ => hafter) hbounded').post ?_
        rintro r g'' ⟨hb, hr⟩
        refine ⟨hb, ?_⟩
        intro final hfinal
        obtain ⟨hsome, hended⟩ := hr final hfinal
        exact ⟨fun h h' => hsome (by omega) hafter.limit, hended⟩
    cases tokenBudget with
    | none => exact hrest none
    | some budget =>
      change Safe _ _ _ (chargedTokens agent result >>= fun usage => _) g'
      rcases chargedTokens_cases agent result with ⟨usage, hcharged⟩ | ⟨e, hcharged⟩
      · rw [hcharged]
        exact hrest _
      · rw [hcharged]
        exact ⟨hbounded', fun _ h => absurd h (by simp)⟩

/-- What the calls of an execution add up to. -/
def ledger {σ : Type} (t : List (Happened AgentOp Failure σ)) : Ledger :=
  t.foldl (fun g e => book g e.toCall) {}

/-- The readonly loop from a context with `k ≤ 6` steps behind it, whatever the model, the
tools, the budget and everything else answer. Wherever an execution has got to, there were at most
`7 - k` steps and one handoff, at most `6 - k` steps reached a tool, each step called one tool, and
no three consecutive ones the same with the same arguments. After `7 - k` iterations the loop has
ended, in a context that is not running. -/
theorem loop_bounded {agent : Composition} {context : RunContext} (hk : context.stepCount ≤ 6)
    (tokenBudget : Option ℕ) (n : ℕ) {σ : Type} {M : Machine AgentOp Failure σ} {s s' : σ}
    {t : List (Happened AgentOp Failure σ)} {q : Act (Option AgentRunResult)}
    (he : Exec M (run agent n context tokenBudget none []) s t q s') :
    (ledger t).Bounded agent context.stepCount ∧ ∀ result, q = .ret result →
      (7 - context.stepCount ≤ n → result.isSome) ∧
      ∀ final ∈ result, final.context.status ≠ .runningReadonly := by
  have hstart : ∀ previous, Ledger.Running agent context.stepCount context previous {} := fun previous =>
    ⟨rfl, hk, rfl, by simp, trivial, by simp⟩
  have hsafe := @safe_run agent {} context.stepCount n context tokenBudget none []
    (fun _ => hstart none) (hstart none).bounded
  have hend := (hsafe.restrict fun _ => True).ghost_exec he fun _ _ => trivial
  change Safe _ _ _ q (ledger t) at hend
  refine ⟨?_, ?_⟩
  · exact (hend.mono (fun _ _ _ h => h) fun _ _ h => h.1).everywhere
  · intro result hresult
    subst hresult
    obtain ⟨hsome, hended⟩ := hend.2 result rfl
    exact ⟨fun h => hsome h hk, hended⟩

end Loop

section Demo

def demoTool : ToolSpec where
  name := "list_my_orders"
  version := "1"
  inputSchema := []
  outputSchema := []
  risk := .readOnly
  requiredScopes := []
  timeoutMs := 1000
  maxAttempts := 2
  modelVisible := true

def demoBoundary : DecisionBoundary where
  route := "order_status"
  allowedTypes := [.callTool, .respond]
  allowedTools := ["list_my_orders"]
  trustedEvidenceIds := []

def demoAgent : Composition where
  model := OpenAICompatibleGateway 100
  tools := [demoTool]
  boundary := demoBoundary
  deadlineAt := 1000
  signature := fun _ tool _ => tool.getD ""

def demoContext (status : RunStatus) : RunContext where
  runId := "run-1"
  conversationId := "conversation-1"
  tenantId := "demo-shop"
  actorId := "demo-user-001"
  executionMode := some .readonlyLoop
  workflowId := some "order_status"
  workflowVersion := some "1"
  status := status

def demoPrompt : PromptView where
  workflowId := some "order_status"
  workflowVersion := some "1"
  currentStep := "retrieve"
  allowedDecisions := [.callTool, .respond]
  allowedTools := ["list_my_orders"]
  remainingSteps := 0

/-- A provider that calls the tool again and again, and a store that takes everything. -/
def demoAnswers (response : ProviderResponse) : {β : Type} → AgentOp β → Except Failure β
  | _, .cancelled => .ok false
  | _, .now => .ok 0
  | _, .toolContext context =>
    .ok { runId := context.runId, conversationId := context.conversationId,
          tenantId := context.tenantId, actorId := context.actorId, scopes := [] }
  | _, .buildPrompt _ => .ok demoPrompt
  | _, .post _ _ => .ok response
  | _, .recordInvocation _ => .ok ()
  | _, .appendTrace _ => .ok ()
  | _, .authorize _ _ => .ok true
  | _, .evaluatePolicy _ => .ok true
  | _, .clock => .ok 0
  | _, .adapter _ _ =>
    .ok (.returned { toolName := "list_my_orders", toolVersion := "1", data := some [("orders", .arr [])] })
  | _, .checkpoint context _ _ _ _ => .ok (context.checkpointVersion + 1)

def demoCall : ProviderResponse where
  usage := some 40
  decision := some { type := .callTool, route := "order_status", tool := some "list_my_orders" }

/-- The execution of a program under such answers. -/
def demoDrive {α : Type} (response : ProviderResponse) (p : Act α) :
    List (Happened AgentOp Failure Unit) × Act α × Unit :=
  drive (fun _ s {_} o => (demoAnswers response o, s)) (List.replicate 100 ()) p ()

def demoToolContext : ToolContext where
  runId := "run-1"
  conversationId := "conversation-1"
  tenantId := "demo-shop"
  actorId := "demo-user-001"
  scopes := []

theorem loop_bounded_demo : (ledger (demoDrive demoCall
    (run demoAgent 7 (demoContext .runningReadonly) (some 300) none [])).1).Bounded demoAgent 0 :=
  (@loop_bounded demoAgent (demoContext .runningReadonly) (by decide) (some 300) 7 _ _ _ _ _ _
    (drive_exec _ _ _ _)).1

end Demo

end CommerceAgent.Agent
